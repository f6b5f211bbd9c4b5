import LuaBindings.Proofs.FileTree.Slots
/-!
# Removing directories

Removing a directory takes away what lies at or below the location that its path leads to, and
nothing else. The directory itself may stay where the path ends by leading nowhere else or up; a
path that spells its location out takes away all of it.
-/

namespace LuaBindings.FileTree

variable {tree : FileTree} {path : Path} {here l : Location}

/-! ## What is taken away -/

theorem clear_grows (tree : FileTree) (here : Location) : Grows (tree.clear here) tree where
  directories l held := by
    rw [get?_clear] at held
    split at held
    · cases held
    · exact held
  entries l held := by
    rw [get?_clear] at held
    split at held
    · exact absurd rfl held
    · exact held

/-- Removing an emptied directory takes away what its path names in its slot, or nothing. -/
theorem removeEmptied_cases (tree : FileTree) (path : Path) :
    (tree.removeEmptied path).2 = tree ∨
      ∃ s name, tree.slot path = .ok s ∧ s.last = .name name ∧
        (tree.removeEmptied path).2 = tree.erase (s.directory ++ [name]) := by
  rw [removeEmptied]
  cases found : tree.slot path with
  | error fault =>
      cases fault with
      | _ => exact .inl rfl
  | ok s =>
      cases last : s.last with
      | name name => exact .inr ⟨s, name, rfl, last, by simp only [last]⟩
      | _ => exact .inl (by simp only [last])

theorem removeDirectory_of_not_directory (nowhere : ¬tree.leadsToDirectory path = true) :
    (tree.removeDirectory path).2 = tree := by
  rw [removeDirectory]
  cases located : tree.locate path with
  | error fault => rfl
  | ok l =>
      have notDirectory : ¬tree.IsDirectory l := fun isDirectory =>
        nowhere (leadsToDirectory_iff.mpr ⟨l, located, isDirectory⟩)
      simp only [if_neg notDirectory]

theorem removeDirectory_of_directory (located : tree.locate path = .ok here)
    (isDirectory : tree.IsDirectory here) :
    tree.removeDirectory path = (tree.clear here).removeEmptied path := by
  rw [removeDirectory, located]
  exact if_pos isDirectory

/-- Only what is there is removed. -/
theorem holds_of_removeDirectory {left : FileTree}
    (removed : tree.removeDirectory path = (.ok (), left)) : tree.holds path = true := by
  rw [removeDirectory] at removed
  rw [holds]
  cases located : tree.locate path with
  | error fault =>
      rw [located] at removed
      cases removed
  | ok l => rfl

/-- Every place is as it was, or it is empty and lies at or below where the path led. -/
theorem removeDirectory_takes (tree : FileTree) (path : Path) (l : Location) :
    (tree.removeDirectory path).2.get? l = tree.get? l ∨
      (tree.removeDirectory path).2.get? l = none ∧
        ∃ here, tree.locate path = .ok here ∧ here <+: l := by
  by_cases leads : tree.leadsToDirectory path = true
  · obtain ⟨here, located, isDirectory⟩ := leadsToDirectory_iff.mp leads
    have cleared : (tree.clear here).get? l = tree.get? l ∨
        (tree.clear here).get? l = none ∧ here <+: l := by
      rw [get?_clear]
      split
      · rename_i below
        rw [Bool.and_eq_true, List.isPrefixOf_iff_prefix] at below
        exact .inr ⟨rfl, below.1⟩
      · exact .inl rfl
    rw [removeDirectory_of_directory located isDirectory]
    rcases removeEmptied_cases (tree.clear here) path with same | ⟨s, name, found, last, left⟩
    · rw [same]
      exact cleared.imp_right fun taken => ⟨taken.1, here, located, taken.2⟩
    · have place := slot_name_walk (clear_grows tree here) found last
        (locate_eq_ok_iff.mp located).2
      rw [left, ← place, get?_erase]
      split
      · rename_i below
        exact .inr ⟨rfl, here, located, List.isPrefixOf_iff_prefix.mp below⟩
      · exact cleared.imp_right fun taken => ⟨taken.1, here, located, taken.2⟩
  · rw [removeDirectory_of_not_directory leads]
    exact .inl rfl

/-- Whether a path leads to a directory that a place lies in or is. -/
def LeadsAbove (tree : FileTree) (path : Path) (l : Location) : Prop :=
  ∃ here, tree.locate path = .ok here ∧ tree.IsDirectory here ∧ here <+: l

/-- Files below the directory are taken away. -/
theorem removeDirectory_file {content : ByteArray} (leads : tree.LeadsAbove path l)
    (held : tree.get? l = some (.file content)) : (tree.removeDirectory path).2.get? l = none := by
  obtain ⟨here, located, isDirectory, below⟩ := leads
  have other : l ≠ here := by
    rintro rfl
    rw [isDirectory_iff, held] at isDirectory
    rcases isDirectory with rfl | listed
    · rw [get?_root] at held
      cases held
    · cases listed
  have cleared : (tree.clear here).get? l = none := by
    rw [get?_clear, if_pos (by simp [List.isPrefixOf_iff_prefix, below, other])]
  rw [removeDirectory_of_directory located isDirectory]
  rcases removeEmptied_cases (tree.clear here) path with same | ⟨s, name, -, -, left⟩
  · rw [same, cleared]
  · rw [left, get?_erase, cleared, ite_self]

/-- What does not lie at or below it stays. -/
theorem removeDirectory_outside (outside : ¬tree.LeadsAbove path l) :
    (tree.removeDirectory path).2.get? l = tree.get? l := by
  by_cases leads : tree.leadsToDirectory path = true
  · obtain ⟨here, located, isDirectory⟩ := leadsToDirectory_iff.mp leads
    rcases removeDirectory_takes tree path l with same | ⟨-, found, locates, below⟩
    · exact same
    · have unique : found = here := Except.ok.inj (locates.symm.trans located)
      exact absurd ⟨here, located, isDirectory, unique ▸ below⟩ outside
  · rw [removeDirectory_of_not_directory leads]

/-! ## Paths that spell out their location -/

/-- The last part of such a path names an entry. -/
theorem slot_direct (direct : path.Direct) {s : Slot} (found : tree.slot path = .ok s) :
    ∃ name, s.last = .name name := by
  obtain ⟨-, slotted⟩ := slot_eq_ok_iff.mp found
  have absent : ∀ letters : List Char, letters ∉ path.parts →
      String.ofList letters ∉ path.parts.map String.ofList := by
    intro letters notMem member
    obtain ⟨part, held, same⟩ := List.mem_map.mp member
    rw [String.ofList_inj.mp same] at held
    exact notMem held
  cases slotted with
  | root voids =>
      refine absurd ?_ direct.below
      rw [Path.place, Path.named, List.map_eq_nil_iff, List.filter_eq_nil_iff]
      intro part member
      have void : Path.isVoid part = true :=
        isVoid_iff.mpr (.inl (voids _ (List.mem_map.mpr ⟨part, member, rfl⟩)))
      simp [void]
  | @entry before voids last directory split nonempty empties leads isDirectory =>
      have member : last ∈ path.parts.map String.ofList := by
        rw [split]
        exact List.mem_append_right before List.mem_cons_self
      refine ⟨last, lastPart_eq_name_iff.mpr ⟨rfl, ?_, ?_⟩⟩
      · rintro rfl
        exact absent ['.'] direct.noSame member
      · rintro rfl
        exact absent ['.', '.'] direct.noAbove member

theorem locate_direct (direct : path.Direct) (located : tree.locate path = .ok here) :
    here = path.place :=
  walk_eq_place direct.noAbove (locate_eq_ok_iff.mp located).2

/-- They take away the directory with all that lies in it. -/
theorem removeDirectory_direct (direct : path.Direct) (leads : tree.leadsToDirectory path = true)
    (l : Location) :
    (tree.removeDirectory path).2.get? l = if path.place.isPrefixOf l then none else tree.get? l := by
  obtain ⟨here, located, isDirectory⟩ := leadsToDirectory_iff.mp leads
  rw [removeDirectory_of_directory located isDirectory]
  obtain ⟨accepted, walked⟩ := locate_eq_ok_iff.mp located
  have place := locate_direct direct located
  subst place
  -- The directory is still there when it has been emptied, and its path still leads to it.
  have emptied : (tree.clear path.place).IsDirectory path.place := by
    refine .inr ?_
    show (tree.clear path.place).get? path.place = _
    rw [get?_clear, if_neg (by simp)]
    exact isDirectory.resolve_left direct.below
  have leadsStill := walk_directory direct.noAbove (walk_short direct.noAbove walked) emptied
  obtain ⟨s, found⟩ := slot_of_walk accepted leadsStill
  obtain ⟨name, last⟩ := slot_direct direct found
  have same := slot_name_walk (.refl _) found last leadsStill
  have left : ((tree.clear path.place).removeEmptied path).2 =
      (tree.clear path.place).erase path.place := by
    rw [removeEmptied, found]
    simp only [last]
    rw [← same]
  rw [left, get?_erase, get?_clear]
  by_cases below : path.place.isPrefixOf l = true
  · rw [if_pos below, if_pos below]
  · rw [if_neg below, if_neg below, if_neg (by simp [below])]

end LuaBindings.FileTree
