import LuaBindings.Binding.Render
/-!
# Catalog reports

What is shown of a catalog: an overview with the size of each namespace and the natives to fix up,
or the declarations of one namespace. The overview is a table whose first column is as wide as its
largest name. Texts are laid out by a formatter that takes its widths in 16 bits, and there is no
overview where a name asks for more.
-/

namespace LuaBindings.Catalog

/-- A width that no text is laid out in. -/
structure Overwide where
  width : Nat
  deriving DecidableEq, Repr

/-- The width as the formatter takes it. -/
def layoutWidth (width : Nat) : Except Overwide UInt16 :=
  if width < UInt16.size then .ok (.ofNat width) else .error ⟨width⟩

/-- So many blanks. -/
def blanks (count : Nat) : String := String.ofList (List.replicate count ' ')

/-- A text with blanks behind it, `width` characters in all unless it is longer. -/
def padRight (width : UInt16) (s : String) : String := s ++ blanks (width.toNat - s.length)

/-- A text with blanks before it, `width` characters in all unless it is longer. -/
def padLeft (width : UInt16) (s : String) : String := blanks (width.toNat - s.length) ++ s

/-- The width of the column of names: the size in bytes of the largest. -/
def nameWidth (catalog : Catalog) : Nat :=
  (catalog.namespaces.map fun ns => ns.name.utf8ByteSize).foldl max 0

/-- The row of a namespace in the overview. -/
def overviewRow (width : Nat) (ns : Namespace) : Except Overwide String := do
  return "  " ++ padRight (← layoutWidth width) ns.name ++ "  " ++ toString ns.functions.length

/-- The line of a native to fix up. -/
def fixupRow (entry : Namespace × NativeFunction) : String :=
  "  " ++ entry.1.name ++ "." ++ entry.2.name ++ " (" ++ toString entry.2.sequenceId.toNat ++ ")"

/-- The natives to fix up, with their namespaces. -/
def fixups (catalog : Catalog) : List (Namespace × NativeFunction) :=
  catalog.functions.filter fun entry => Binding.needsFixup entry.2

/-- Totals, the size of each namespace, and the natives to fix up. -/
def overview (catalog : Catalog) : Except Overwide (List String) := do
  let sizes ← catalog.namespaces.mapM (overviewRow catalog.nameWidth)
  let matched := catalog.fixups.map fixupRow
  return ["  Namespaces: " ++ toString catalog.namespaces.length,
      "  Functions:  " ++ toString catalog.functionCount,
      "",
      "--- Namespaces ---"] ++
    sizes ++
    ["", "--- Vector fix-up ---"] ++
    if matched.isEmpty then ["  none matched"] else matched

/-- The line of a native in the listing of its namespace. -/
def listingRow (f : NativeFunction) : String :=
  "  " ++ padLeft 5 (toString f.sequenceId.toNat) ++ "  " ++ Binding.signature f

/-- The declarations of the namespace of that name, if there is one. -/
def listing? (catalog : Catalog) (name : String) : Option (List String) :=
  (catalog.namespace? name).map fun ns =>
    ("--- " ++ ns.name ++ " (" ++ toString ns.functions.length ++ " functions) ---") ::
      ns.functions.map listingRow

end LuaBindings.Catalog
