import LuaBindings.FileSystem
import LuaBindings.FileTree.Basic
/-!
# Resolving paths

Where a path leads in a file tree. Its parts are followed from the root on: each must be found in a
directory, and `..` leads to the directory above. A file that is to be made or removed is named by
the last part of its path, which is looked at and not followed.
-/

namespace LuaBindings.FileTree

/-- The longest name that a directory can hold, in bytes. -/
def maxNameSize : Nat := 255

/-- The longest path that the system takes, in bytes. -/
def maxPathSize : Nat := 4095

/-- Where some parts lead from a location. -/
def follow (tree : FileTree) (here : Location) : List String → Except FileFault Location
  | [] => .ok here
  | part :: parts =>
    if ¬tree.IsDirectory here then .error .notDirectory
    else if part = "" ∨ part = "." then follow tree here parts
    else if part = ".." then follow tree here.dropLast parts
    else if maxNameSize < part.utf8ByteSize then .error .nameTooLong
    else if tree.get? (here ++ [part]) = none then .error .notFound
    else follow tree (here ++ [part]) parts

/-- The parts of a path, if the system takes its text for one. -/
def partsOf (path : Path) : Except FileFault (List String) :=
  if path.text.toList.contains '\x00' then .error .nulInName
  else if path.text = "" then .error .notFound
  else if maxPathSize < path.text.utf8ByteSize then .error .nameTooLong
  else .ok (path.parts.map String.ofList)

/-- The location that a path leads to, where something must be. -/
def locate (tree : FileTree) (path : Path) : Except FileFault Location := do
  tree.follow [] (← partsOf path)

/-- The last part of a path, empty parts apart. -/
inductive LastPart where
  /-- There is none: the path is that of the root. -/
  | none
  /-- The directory itself. -/
  | same
  /-- The directory above. -/
  | above
  | name (name : String)
  deriving DecidableEq, Repr

/-- The last part of a path in the directory that the others lead to. -/
structure Slot where
  directory : Location
  last : LastPart
  /-- Whether separators end the path. -/
  closed : Bool

/-- What a last part is. -/
def LastPart.of (part : String) : LastPart :=
  if part = "." then .same else if part = ".." then .above else .name part

/-- The last part of a path, with the directory that the other parts lead to. -/
def slot (tree : FileTree) (path : Path) : Except FileFault Slot := do
  let parts ← partsOf path
  let backward := parts.reverse.dropWhile (· = "")
  match backward with
  | [] => return ⟨[], .none, true⟩
  | last :: before =>
    let directory ← tree.follow [] before.reverse
    if ¬tree.IsDirectory directory then throw .notDirectory
    return ⟨directory, .of last, backward.length < parts.length⟩

/-- Whether a path leads to a directory. -/
def leadsToDirectory (tree : FileTree) (path : Path) : Bool :=
  match tree.locate path with
  | .error _ => false
  | .ok location => decide (tree.IsDirectory location)

end LuaBindings.FileTree
