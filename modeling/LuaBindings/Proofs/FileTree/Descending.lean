import LuaBindings.Proofs.FileTree.Following
/-!
# Paths that never lead up

A path without a part that leads up leads to the location that it spells out, or nowhere, and to a
directory that is there it does lead. Paths above such a path spell out locations above its own.
-/

namespace LuaBindings.FileTree

variable {tree grown : FileTree} {here there : Location} {path : Path}

/-! ## Parts -/

/-- Names that a directory can hold. -/
def Short (names : List String) : Prop := ∀ name ∈ names, name.utf8ByteSize ≤ maxNameSize

theorem isVoid_iff {part : List Char} :
    Path.isVoid part = true ↔ String.ofList part = "" ∨ String.ofList part = "." := by
  rw [Path.isVoid, Bool.or_eq_true, List.isEmpty_iff, decide_eq_true_eq, ← String.toList_inj,
    ← String.toList_inj, String.toList_ofList]
  rfl

theorem ofList_ne_above {part : List Char} (h : ['.', '.'] ≠ part) : String.ofList part ≠ ".." := by
  intro spelled
  apply h
  rw [← String.toList_ofList (l := part), spelled]
  rfl

theorem map_named_cons_of_not_void {part : List Char} (notVoid : ¬Path.isVoid part = true)
    (rest : List (List Char)) : (Path.named (part :: rest)).map String.ofList =
      String.ofList part :: (Path.named rest).map String.ofList := by
  rw [Path.named_cons_of_not_void notVoid, List.map_cons]

/-- Parts that never lead up lead to the location that they name. -/
theorem follow_named {parts : List (List Char)} (descending : ['.', '.'] ∉ parts)
    (h : tree.follow here (parts.map String.ofList) = .ok there) :
    there = here ++ (Path.named parts).map String.ofList ∧
      Short ((Path.named parts).map String.ofList) := by
  induction parts generalizing here with
  | nil =>
      cases h
      exact ⟨(List.append_nil _).symm, List.forall_mem_nil _⟩
  | cons part rest ih =>
      rw [List.mem_cons, not_or] at descending
      obtain ⟨next, -, step, later⟩ := follow_cons_eq_ok_iff.mp h
      obtain ⟨reached, short⟩ := ih descending.2 later
      have notAbove := ofList_ne_above descending.1
      -- `Step` is indexed by the name, so the name must be a variable for the cases.
      generalize spelled : String.ofList part = name at step notAbove
      cases step with
      | same void =>
          rw [Path.named_cons_of_void (isVoid_iff.mpr (spelled ▸ void))]
          exact ⟨reached, short⟩
      | above => exact absurd rfl notAbove
      | entry nonempty notSame _ fits =>
          have notVoid : ¬Path.isVoid part = true := by
            rw [isVoid_iff, spelled, not_or]
            exact ⟨nonempty, notSame⟩
          rw [map_named_cons_of_not_void notVoid, spelled, reached, List.append_assoc]
          exact ⟨rfl, List.forall_mem_cons.mpr ⟨fits, short⟩⟩

/-- They do lead there if that is a directory. -/
theorem follow_directory {parts : List (List Char)} (descending : ['.', '.'] ∉ parts)
    (short : Short ((Path.named parts).map String.ofList))
    (isDirectory : tree.IsDirectory (here ++ (Path.named parts).map String.ofList)) :
    tree.follow here (parts.map String.ofList) =
      .ok (here ++ (Path.named parts).map String.ofList) := by
  induction parts generalizing here with
  | nil =>
      show Except.ok here = Except.ok (here ++ [])
      rw [List.append_nil]
  | cons part rest ih =>
      rw [List.mem_cons, not_or] at descending
      have house : tree.IsDirectory here := isDirectory.above (List.prefix_append _ _)
      by_cases void : Path.isVoid part = true
      · rw [Path.named_cons_of_void void] at short isDirectory ⊢
        exact follow_cons_eq_ok_iff.mpr
          ⟨here, house, .same (isVoid_iff.mp void), ih descending.2 short isDirectory⟩
      · rw [map_named_cons_of_not_void void] at short isDirectory ⊢
        rw [List.append_cons] at isDirectory ⊢
        obtain ⟨fits, others⟩ := List.forall_mem_cons.mp short
        obtain ⟨nonempty, notSame⟩ := not_or.mp (mt isVoid_iff.mpr void)
        have entered : tree.IsDirectory (here ++ [String.ofList part]) :=
          isDirectory.above (List.prefix_append _ _)
        exact follow_cons_eq_ok_iff.mpr ⟨here ++ [String.ofList part], house,
          .entry nonempty notSame (ofList_ne_above descending.1) fits
            (entered.get?_ne_none (by simp)),
          ih descending.2 others isDirectory⟩

/-! ## Whole paths -/

theorem walk_eq_place (descending : ['.', '.'] ∉ path.parts) (h : tree.walk path = .ok here) :
    here = path.place :=
  (follow_named descending h).1

theorem walk_short (descending : ['.', '.'] ∉ path.parts) (h : tree.walk path = .ok here) :
    Short path.place :=
  (follow_named descending h).2

theorem walk_directory (descending : ['.', '.'] ∉ path.parts) (short : Short path.place)
    (isDirectory : tree.IsDirectory path.place) : tree.walk path = .ok path.place :=
  follow_directory descending short isDirectory

/-- The paths above a path lead to locations above its own. -/
theorem walk_parents {higher : Path} (descending : ['.', '.'] ∉ path.parts)
    (parent : higher ∈ path.parents) (h : tree.walk path = .ok here)
    (hhigher : grown.walk higher = .ok there) : there <+: here := by
  rw [walk_eq_place descending h,
    walk_eq_place (Path.descending_parents parent descending) hhigher]
  exact Path.place_parents parent

end LuaBindings.FileTree
