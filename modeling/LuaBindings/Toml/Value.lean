/-!
# TOML values

A table keeps track of how it came to be, since that decides what may still be added to it: a table
that was only passed through on the way to another may be opened later by a header, one made by a
dotted key may be extended by dotted keys, and one written as a value is closed.
-/

namespace LuaBindings.Toml

/-- Why a text is not a TOML document. -/
inductive Fault where
  /-- It does not follow the grammar. -/
  | malformed
  /-- Values are nested, or a key is divided, beyond what is read. -/
  | tooDeep
  /-- A number is beyond its range. -/
  | outOfRange
  /-- A key is given a second value, or a closed table is added to. -/
  | duplicateKey (key : String)
  /-- A key that has a value of its own is used as a table. -/
  | notTable (key : String)
  deriving DecidableEq, Repr

/-- How a table came to be. -/
inductive TableForm where
  /-- By a header of its own, or as the whole document. -/
  | header
  /-- By the header of a table inside it. -/
  | implied
  /-- By a dotted key. -/
  | dotted
  /-- As a value between braces. -/
  | inline
  deriving DecidableEq, Repr

/-- A value of a key. Floats and moments are kept as they are written. -/
inductive Value where
  | text (value : String)
  | boolean (value : Bool)
  | integer (value : Int)
  | float (written : String)
  /-- A date, a time, or both. -/
  | moment (written : String)
  | array (items : List Value)
  | table (form : TableForm) (entries : List (String × Value))
  /-- The elements of an array of tables, each with its own header. -/
  | tables (elements : List (List (String × Value)))

/-- The keys of a table with their values, in the order of the document. -/
abbrev Entries := List (String × Value)

/-- Entries with another value for a key that is there. -/
def replace (key : String) (value : Value) (entries : Entries) : Entries :=
  entries.map fun entry => if entry.1 = key then (key, value) else entry

/-- Apply a change to the table that a path of keys leads to. Tables missing on the way are made;
the path of a dotted key enters only tables that no header has opened. An array of tables stands
for its last element. The change is told how the table came to be. -/
def change {α : Type} (byDottedKey : Bool)
    (f : TableForm → Entries → Except Fault (α × Entries)) (form : TableForm) :
    List String → Entries → Except Fault (α × Entries)
  | [], entries => f form entries
  | key :: path, entries =>
    match entries.lookup key with
    | none => do
      let made : TableForm := if byDottedKey then .dotted else .implied
      let (a, inner) ← change byDottedKey f made path []
      return (a, entries ++ [(key, .table made inner)])
    | some (.table form inner) =>
      if form = .inline then .error (.notTable key)
      else if byDottedKey && form = .header then .error (.duplicateKey key)
      else do
        let (a, inner) ← change byDottedKey f form path inner
        return (a, replace key (.table form inner) entries)
    | some (.tables elements) =>
      match elements.getLast? with
      | none => .error (.notTable key)
      | some last => do
        let (a, last) ← change byDottedKey f .header path last
        return (a, replace key (.tables (elements.dropLast ++ [last])) entries)
    | some _ => .error (.notTable key)

/-- Give a dotted key its value. All of its path must be of its own making, down to the table that
holds the value, and the value must be the first. -/
def assign (path : List String) (key : String) (value : Value) (entries : Entries) :
    Except Fault Entries := do
  let put (form : TableForm) (entries : Entries) : Except Fault (Unit × Entries) :=
    if !path.isEmpty && form ≠ .dotted then .error (.duplicateKey key)
    else if (entries.lookup key).isSome then .error (.duplicateKey key)
    else .ok ((), entries ++ [(key, value)])
  let ((), entries) ← change true put .header path entries
  return entries

end LuaBindings.Toml
