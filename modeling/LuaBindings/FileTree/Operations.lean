import LuaBindings.FileTree.Resolve
/-!
# File operations

The requests of a file system, met by a file tree. A request that fails leaves what it had already
done: making directories may have made some of those above, and removing one may have emptied it.
-/

namespace LuaBindings.FileTree

/-- Whether a path leads to a file. -/
def isFile (tree : FileTree) (path : Path) : Bool :=
  match tree.locate path with
  | .error _ => false
  | .ok location => !decide (tree.IsDirectory location)

/-- Whether a path leads to anything. -/
def holds (tree : FileTree) (path : Path) : Bool := (tree.locate path).isOk

/-- The text of the file that a path leads to. -/
def readText (tree : FileTree) (path : Path) : Except FileFault String := do
  let location ← tree.locate path
  match tree.get? location with
  | some (.file content) =>
    match String.fromUTF8? content with
    | some text => return text
    | none => throw .notText
  | _ => throw .isDirectory

/-- The tree with an entry in a slot of one of its directories that holds no directory yet. -/
def put (tree : FileTree) (directory : Location) (name : String) (entry : Entry)
    (parent : tree.IsDirectory directory) (free : ¬tree.IsDirectory (directory ++ [name])) :
    FileTree :=
  tree.insert (directory ++ [name]) entry (by simp) (by simpa using parent) free

/-- The tree with a file in a directory, in place of one that is there. -/
def putFile (tree : FileTree) (directory : Location) (name : String) (content : ByteArray) :
    Except FileFault FileTree :=
  if maxNameSize < name.utf8ByteSize then .error .nameTooLong
  else if parent : tree.IsDirectory directory then
    if free : tree.IsDirectory (directory ++ [name]) then .error .isDirectory
    else .ok (tree.put directory name (.file content) parent free)
  else .error .notDirectory

/-- The tree with a new directory in a directory. -/
def putDirectory (tree : FileTree) (directory : Location) (name : String) :
    Except FileFault FileTree :=
  if maxNameSize < name.utf8ByteSize then .error .nameTooLong
  else if parent : tree.IsDirectory directory then
    if free : tree.IsDirectory (directory ++ [name]) then .error .alreadyExists
    else if tree.get? (directory ++ [name]) ≠ none then .error .alreadyExists
    else .ok (tree.put directory name .directory parent free)
  else .error .notDirectory

/-- The tree with the file that a path names, made or replaced. -/
def writeBytes (tree : FileTree) (path : Path) (content : ByteArray) :
    Except FileFault FileTree := do
  let slot ← tree.slot path
  match slot.last with
  | .name name =>
    if slot.closed then throw .isDirectory
    tree.putFile slot.directory name content
  | _ => throw .isDirectory

/-- The tree with the directory that a path names, in one that is there already. -/
def createDirectory (tree : FileTree) (path : Path) : Except FileFault FileTree := do
  let slot ← tree.slot path
  match slot.last with
  | .name name => tree.putDirectory slot.directory name
  | _ => throw .alreadyExists

/-- Make the first of some paths a directory, where each path lies above the one before it and may
have to be made first. -/
def createNested (tree : FileTree) : List Path → Except FileFault Unit × FileTree
  | [] => (.error (.other "failed to create whole tree"), tree)
  | path :: above =>
    if path.text = "" then (.ok (), tree)
    else
      match tree.createDirectory path with
      | .ok made => (.ok (), made)
      | .error .notFound =>
        match createNested tree above with
        | (.error fault, made) => (.error fault, made)
        | (.ok (), made) =>
          match made.createDirectory path with
          | .ok made => (.ok (), made)
          | .error fault =>
            (if made.leadsToDirectory path then .ok () else .error fault, made)
      | .error fault => (if tree.leadsToDirectory path then .ok () else .error fault, tree)

/-- Make the directory that a path names, and those above it, where they are missing. -/
def createDirectories (tree : FileTree) (path : Path) : Except FileFault Unit × FileTree :=
  tree.createNested path.ancestors

/-- Remove the emptied directory that a path names. A path that went through the directory's own
contents leads nowhere any more, and then the directory stays. -/
def removeEmptied (tree : FileTree) (path : Path) : Except FileFault Unit × FileTree :=
  match tree.slot path with
  | .error .notFound => (.ok (), tree)
  | .error fault => (.error fault, tree)
  | .ok slot =>
    match slot.last with
    | .name name => (.ok (), tree.erase (slot.directory ++ [name]))
    | .same => (.error .invalidArgument, tree)
    | .above => (.error .notEmpty, tree)
    | .none => (.error .busy, tree)

/-- Remove the directory that a path names with all that lies in it. -/
def removeDirectory (tree : FileTree) (path : Path) : Except FileFault Unit × FileTree :=
  match tree.locate path with
  | .error fault => (.error fault, tree)
  | .ok location =>
    if tree.IsDirectory location then (tree.clear location).removeEmptied path
    else (.error .notDirectory, tree)

/-- A change that takes effect only where it succeeds. -/
def attempt (change : FileTree → Except FileFault FileTree) : StateM FileTree (Except FileFault Unit) :=
  fun tree =>
    match change tree with
    | .ok changed => (.ok (), changed)
    | .error fault => (.error fault, tree)

instance : FileSystem (StateM FileTree) where
  isFile path := fun tree => (tree.isFile path, tree)
  holds path := fun tree => (tree.holds path, tree)
  readText path := fun tree => (tree.readText path, tree)
  createDirectories path := fun tree => tree.createDirectories path
  writeText path content := attempt (·.writeBytes path content.toUTF8)
  removeDirectory path := fun tree => tree.removeDirectory path

end LuaBindings.FileTree
