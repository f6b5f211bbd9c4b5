import LuaBindings.Toml.Reader
/-!
# TOML documents

A document is a sequence of lines. A header closes the section before it and opens its own; the
pairs of a section are gathered in a table that takes its place in the document when the section is
closed.
-/

namespace LuaBindings.Toml

/-- A document of which some lines have been read. -/
structure Draft where
  /-- The tables of the sections closed so far. -/
  root : Entries
  /-- The pairs of the open section. -/
  current : Entries
  /-- Where the open section belongs; nowhere else than at the root before the first header. -/
  place : Option (List String × String)
  /-- Whether the open section is one of several under the same key. -/
  isElement : Bool

namespace Draft

/-- A document without lines. -/
def empty : Draft := ⟨[], [], none, false⟩

/-- An entry for a key, in place of the old one or else at the end. -/
def put (key : String) (value : Value) (entries : Entries) : Entries :=
  if (entries.lookup key).isSome then replace key value entries else entries ++ [(key, value)]

/-- The document with the open section in its place. -/
def close (draft : Draft) : Except Fault Entries :=
  match draft.place with
  | none => .ok draft.current
  | some (path, key) => do
    let settle (_ : TableForm) (entries : Entries) : Except Fault (Unit × Entries) :=
      if draft.isElement then
        match entries.lookup key with
        | none => .ok ((), entries ++ [(key, .tables [draft.current])])
        | some (.tables elements) =>
          .ok ((), replace key (.tables (elements ++ [draft.current])) entries)
        | some _ => .error (.duplicateKey key)
      else .ok ((), put key (.table .header draft.current) entries)
    let ((), root) ← change false settle .header path draft.root
    return root

/-- Open the table that a header names. It may be there already if no more than headers of tables
inside it have made it. -/
def openTable (draft : Draft) (path : List String) (key : String) : Except Fault Draft := do
  let root ← draft.close
  let occupy (_ : TableForm) (entries : Entries) : Except Fault (Entries × Entries) :=
    match entries.lookup key with
    | none => .ok ([], entries)
    | some (.table .implied inner) => .ok (inner, entries)
    | some _ => .error (.duplicateKey key)
  let (current, root) ← change false occupy .header path root
  return ⟨root, current, some (path, key), false⟩

/-- Open a further element of the array of tables that a header names. -/
def openElement (draft : Draft) (path : List String) (key : String) : Except Fault Draft := do
  let root ← draft.close
  let occupy (_ : TableForm) (entries : Entries) : Except Fault (Unit × Entries) :=
    match entries.lookup key with
    | none | some (.tables _) => .ok ((), entries)
    | some _ => .error (.duplicateKey key)
  let ((), root) ← change false occupy .header path root
  return ⟨root, [], some (path, key), true⟩

/-- Add a pair to the open section. -/
def add (draft : Draft) (path : List String) (key : String) (value : Value) :
    Except Fault Draft := do
  return { draft with current := ← assign path key value draft.current }

end Draft

/-- A line of a document. -/
inductive Line where
  | blank
  | table (path : List String) (key : String)
  | element (path : List String) (key : String)
  | pair (path : List String) (key : String) (value : Value)

/-- The document with one line more. -/
def Draft.step (draft : Draft) : Line → Except Fault Draft
  | .blank => .ok draft
  | .table path key => draft.openTable path key
  | .element path key => draft.openElement path key
  | .pair path key value => draft.add path key value

/-- One line, without its end. -/
def readLine (s : List Char) : Except Fault (Line × List Char) :=
  match s with
  | '[' :: '[' :: r => do
    let ((path, key), r) ← pathReader.read r
    match r with
    | ']' :: ']' :: r => return (.element path key, r)
    | _ => throw .malformed
  | '[' :: r => do
    let ((path, key), r) ← pathReader.read r
    match r with
    | ']' :: r => return (.table path key, r)
    | _ => throw .malformed
  | s => do
    let ((path, key, value), r) ← (pairReader (valueReader maxDepth)).read s
    return (.pair path key value, r)

/-- One line of a text that is not at its end, to the start of the next. A comment or nothing at all
may stand for the line. -/
def lineReader : Reader Fault Line :=
  .ofStep (fun s =>
    let s := skipBlanks s
    match s with
    | [] => .ok (.blank, [])
    | c :: _ =>
      if c = '#' || (newline? s).isSome then do return (.blank, ← endLine s)
      else do
        let (line, r) ← readLine s
        return (line, ← endLine r))
    .malformed

/-- The document with the lines of a text added. -/
def readAll (draft : Draft) (s : List Char) : Except Fault Draft :=
  if s = [] then .ok draft
  else
    match _line : lineReader.read s with
    | .error e => .error e
    | .ok (line, r) =>
      match draft.step line with
      | .error e => .error e
      | .ok draft => readAll draft r
  termination_by s.length
  decreasing_by exact lineReader.shrinks _line

/-- The text without the mark of its byte order. -/
def dropMark (s : List Char) : List Char :=
  match s with
  | '\uFEFF' :: r => r
  | s => s

/-- The root table of a document. -/
def parse (text : String) : Except Fault Entries := do
  (← readAll Draft.empty (dropMark text.toList)).close

end LuaBindings.Toml
