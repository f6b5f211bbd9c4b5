import LuaBindings.Catalog.Report
import Mathlib.Data.List.MinMax
/-!
# The overview of a catalog

The column of names is as wide as the largest name has bytes. There is an overview exactly where
this width is one that the formatter takes, and then it is what is told here line by line.
-/

namespace LuaBindings.Catalog

variable {catalog : Catalog} {ns : Namespace} {width : Nat}

/-! ## The width of the names -/

/-- Every character takes at least one byte. -/
theorem length_le_utf8ByteSize (s : String) : s.length ≤ s.utf8ByteSize := by
  induction s using String.push_induction with
  | empty => exact Nat.le_refl 0
  | push s c ih =>
      have byte := c.utf8Size_pos
      rw [String.length_push, String.utf8ByteSize_push]
      omega

theorem nameWidth_eq (catalog : Catalog) : catalog.nameWidth =
    (catalog.namespaces.map fun ns => ns.name.utf8ByteSize).max?.getD 0 := by
  rw [nameWidth, List.foldl_max, Nat.zero_max]

theorem utf8ByteSize_le_nameWidth (member : ns ∈ catalog.namespaces) :
    ns.name.utf8ByteSize ≤ catalog.nameWidth := by
  rw [nameWidth_eq]
  exact List.le_max?_getD_of_mem (List.mem_map_of_mem member)

/-- The width is that of a name, if there is one. -/
theorem exists_nameWidth_eq (filled : catalog.namespaces ≠ []) :
    ∃ ns ∈ catalog.namespaces, ns.name.utf8ByteSize = catalog.nameWidth := by
  have sizes : (catalog.namespaces.map fun ns => ns.name.utf8ByteSize) ≠ [] :=
    mt List.map_eq_nil_iff.mp filled
  have largest := List.max?_eq_some_max sizes
  rw [nameWidth_eq, largest, Option.getD_some]
  exact List.mem_map.mp (List.max?_mem largest)

/-- No name has more bytes than a text may be wide. -/
def Narrow (catalog : Catalog) : Prop := ∀ ns ∈ catalog.namespaces, ns.name.utf8ByteSize ≤ 65535

theorem narrow_iff : catalog.Narrow ↔ catalog.nameWidth < UInt16.size := by
  constructor
  · intro narrow
    by_cases filled : catalog.namespaces = []
    · rw [nameWidth, filled]
      decide
    · obtain ⟨ns, member, size⟩ := exists_nameWidth_eq filled
      rw [← size]
      exact Nat.lt_succ_of_le (narrow ns member)
  · intro fits ns member
    exact Nat.le_of_lt_succ (Nat.lt_of_le_of_lt (utf8ByteSize_le_nameWidth member) fits)

/-- Beyond this some name is too large. -/
theorem not_narrow_iff :
    ¬catalog.Narrow ↔ ∃ ns ∈ catalog.namespaces, 65535 < ns.name.utf8ByteSize := by
  simp [Narrow]

/-! ## Lines -/

/-- The row of a namespace in a table with a column of names that is `width` characters wide. -/
def sizeText (width : Nat) (ns : Namespace) : String :=
  "  " ++ (ns.name ++ blanks (width - ns.name.length)) ++ "  " ++ toString ns.functions.length

theorem overviewRow_of_lt (fits : width < UInt16.size) :
    overviewRow width ns = .ok (sizeText width ns) := by
  rw [overviewRow, layoutWidth, if_pos fits]
  show Except.ok ("  " ++ padRight (.ofNat width) ns.name ++ "  " ++ _) = _
  rw [padRight, UInt16.toNat_ofNat_of_lt' fits]
  rfl

theorem overviewRow_of_not_lt (fits : ¬width < UInt16.size) :
    overviewRow width ns = .error ⟨width⟩ := by
  rw [overviewRow, layoutWidth, if_neg fits]
  rfl

/-- The lines above the title of the natives to fix up. -/
def totalLines (catalog : Catalog) : List String :=
  ["  Namespaces: " ++ toString catalog.namespaces.length,
    "  Functions:  " ++ toString catalog.functionCount,
    "",
    "--- Namespaces ---"] ++
  catalog.namespaces.map (sizeText catalog.nameWidth) ++ [""]

/-- All lines. -/
def overviewLines (catalog : Catalog) : List String :=
  catalog.totalLines ++ "--- Vector fix-up ---" ::
    if catalog.fixups.isEmpty then ["  none matched"] else catalog.fixups.map fixupRow

theorem overview_of_narrow (narrow : catalog.Narrow) :
    catalog.overview = .ok catalog.overviewLines := by
  have rows : catalog.namespaces.mapM (overviewRow catalog.nameWidth) =
      .ok (catalog.namespaces.map (sizeText catalog.nameWidth)) := by
    have row : overviewRow catalog.nameWidth = fun ns => pure (sizeText catalog.nameWidth ns) :=
      funext fun _ => overviewRow_of_lt (narrow_iff.mp narrow)
    rw [row, List.mapM_pure]
    rfl
  rw [overview, rows, overviewLines, totalLines, List.append_assoc _ [""], ← List.isEmpty_map]
  simp only [List.append_assoc]
  rfl

/-- Where a name is too large, laying out the first row already comes to nothing. -/
theorem overview_of_wide (wide : ¬catalog.Narrow) :
    catalog.overview = .error ⟨catalog.nameWidth⟩ := by
  obtain ⟨large, member, -⟩ := not_narrow_iff.mp wide
  obtain ⟨first, others, namespaces⟩ := List.exists_cons_of_ne_nil (List.ne_nil_of_mem member)
  have row : overviewRow catalog.nameWidth first = .error ⟨catalog.nameWidth⟩ :=
    overviewRow_of_not_lt (mt narrow_iff.mpr wide)
  rw [overview, namespaces, List.mapM_cons, row]
  rfl

theorem overview_eq_ok_iff {lines : List String} :
    catalog.overview = .ok lines ↔ catalog.Narrow ∧ lines = catalog.overviewLines := by
  by_cases narrow : catalog.Narrow
  · rw [overview_of_narrow narrow, Except.ok.injEq]
    exact ⟨fun same => ⟨narrow, same.symm⟩, fun told => told.2.symm⟩
  · rw [overview_of_wide narrow]
    exact ⟨nofun, fun told => absurd told.1 narrow⟩

end LuaBindings.Catalog
