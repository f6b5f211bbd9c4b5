/-!
# Paths

A path is its text. Joining and dropping parts work on the text alone: nothing is looked up, and
`..` is a part like any other. Empty parts and `.` name nothing, so they are dropped together with
the part before them; only a `.` that a relative path starts with is a part of its own.
-/

namespace LuaBindings

/-- The name of a file or directory, as it was spelled. -/
structure Path where
  text : String
  deriving DecidableEq, Repr

namespace Path

/-- A character that parts are divided by. -/
def separator : Char := '/'

/-- Whether the path does not depend on a working directory. -/
def isAbsolute (path : Path) : Bool := path.text.toList.head? = some separator

/-- The path that `part` names from `path`: itself if it is absolute, or else the texts of both with
a separator between them where there is none. -/
def join (path part : Path) : Path :=
  if part.isAbsolute then part
  else
    match path.text.toList.getLast? with
    | none => part
    | some last =>
      if last = separator then ⟨path.text ++ part.text⟩ else ⟨path.text ++ "/" ++ part.text⟩

/-- The text divided at its separators, empty parts included. -/
def divide : List Char → List (List Char)
  | [] => [[]]
  | c :: rest =>
    if c = separator then [] :: divide rest
    else
      match divide rest with
      | [] => [[c]]
      | part :: parts => (c :: part) :: parts

/-- Whether a part names nothing of its own. -/
def isVoid (part : List Char) : Bool := part.isEmpty || part = ['.']

/-- The parts of the path, empty ones included. -/
def parts (path : Path) : List (List Char) := divide path.text.toList

/-- The prefixes that are left when the last part that names something is dropped, again and again,
until none is there; on parts in reverse order. -/
def dropParts : List (List Char) → List (List (List Char))
  | [] => []
  | part :: rest => if isVoid part then dropParts rest else rest.dropWhile isVoid :: dropParts rest

/-- The text of parts in reverse order. -/
def assemble (parts : List (List Char)) : List Char :=
  [separator].intercalate parts.reverse

/-- The paths above, from the nearest on. -/
def parents (path : Path) : List Path :=
  match path.text.toList with
  | [] => []
  | c :: rest =>
    if c = separator then
      (dropParts (divide rest).reverse).map fun parts => ⟨String.ofList (c :: assemble parts)⟩
    else
      match divide (c :: rest) with
      | [] => []
      | first :: others =>
        (dropParts others.reverse).map (fun parts => ⟨String.ofList (assemble (parts ++ [first]))⟩) ++
          [⟨""⟩]

/-- The path itself and those above it. -/
def ancestors (path : Path) : List Path := path :: path.parents

/-- The path one part up, if there is a part to drop. -/
def parent? (path : Path) : Option Path := path.parents.head?

instance : ToString Path := ⟨Path.text⟩

end Path

end LuaBindings
