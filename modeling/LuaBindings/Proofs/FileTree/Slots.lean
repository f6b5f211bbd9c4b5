import LuaBindings.Proofs.FileTree.Descending
import Mathlib.Data.List.TakeWhile
/-!
# Slots

A file that is to be made or removed is named by the last part of its path that is not empty, in the
directory that the parts before it lead to. Every path that leads somewhere has such a slot.
-/

namespace LuaBindings.FileTree

variable {tree : FileTree} {path : Path} {name : String}

/-! ## The last part -/

/-- Parts are all empty, or the last one that is not stands before empty ones. -/
theorem parts_cases (parts : List String) :
    (∀ part ∈ parts, part = "") ∨
      ∃ before last voids, parts = before ++ last :: voids ∧ last ≠ "" ∧
        ∀ part ∈ voids, part = "" := by
  induction parts using List.reverseRecOn with
  | nil => exact .inl (List.forall_mem_nil _)
  | append_singleton others part ih =>
      by_cases empty : part = ""
      · rcases ih with voids | ⟨before, last, voids, split, nonempty, empties⟩
        · exact .inl (List.forall_mem_append.mpr ⟨voids, List.forall_mem_singleton.mpr empty⟩)
        · refine .inr ⟨before, last, voids ++ [part], ?_, nonempty,
            List.forall_mem_append.mpr ⟨empties, List.forall_mem_singleton.mpr empty⟩⟩
          rw [split, List.append_assoc, List.cons_append]
      · exact .inr ⟨others, part, [], rfl, empty, List.forall_mem_nil _⟩

theorem dropWhile_reverse_voids {parts : List String} (voids : ∀ part ∈ parts, part = "") :
    parts.reverse.dropWhile (· = "") = [] := by
  rw [List.dropWhile_eq_nil_iff]
  intro part member
  rw [voids part (List.mem_reverse.mp member)]
  rfl

theorem dropWhile_reverse {before voids : List String} {last : String} (nonempty : last ≠ "")
    (empties : ∀ part ∈ voids, part = "") :
    (before ++ last :: voids).reverse.dropWhile (· = "") = last :: before.reverse := by
  rw [List.reverse_append, List.reverse_cons, List.append_assoc, List.dropWhile_append_of_pos]
  · exact List.dropWhile_cons_of_neg (by simp [nonempty])
  · intro part member
    rw [empties part (List.mem_reverse.mp member)]
    rfl

/-! ## Slots of paths -/

/-- The slot that some parts lead to. -/
inductive Slotted (tree : FileTree) (parts : List String) : Slot → Prop
  /-- Nothing is named. -/
  | root (voids : ∀ part ∈ parts, part = "") : Slotted tree parts ⟨[], .none, true⟩
  /-- The parts before the last one that is not empty lead to a directory. -/
  | entry {before voids : List String} {last : String} {directory : Location}
      (split : parts = before ++ last :: voids) (nonempty : last ≠ "")
      (empties : ∀ part ∈ voids, part = "") (leads : tree.follow [] before = .ok directory)
      (isDirectory : tree.IsDirectory directory) :
      Slotted tree parts ⟨directory, .of last, decide (voids ≠ [])⟩

theorem slot_eq_ok_iff {s : Slot} :
    tree.slot path = .ok s ↔ Accepted path ∧ Slotted tree (path.parts.map String.ofList) s := by
  have closed : ∀ (before voids : List String) (last : String),
      decide ((last :: before.reverse).length < (before ++ last :: voids).length) =
        decide (voids ≠ []) := by
    intro before voids last
    rw [decide_eq_decide, ← List.length_pos_iff, List.length_cons, List.length_reverse,
      List.length_append, List.length_cons]
    omega
  rw [slot, bind_eq_ok]
  constructor
  · rintro ⟨parts, taken, h⟩
    obtain ⟨accepted, spelled⟩ := partsOf_eq_ok_iff.mp taken
    rw [← spelled]
    refine ⟨accepted, ?_⟩
    rcases parts_cases parts with voids | ⟨before, last, voids, rfl, nonempty, empties⟩
    · have none := dropWhile_reverse_voids voids
      simp only [none] at h
      cases h
      exact .root voids
    · simp only [dropWhile_reverse nonempty empties, List.reverse_reverse, bind_eq_ok] at h
      obtain ⟨directory, leads, h⟩ := h
      split at h
      · cases h
      · rename_i isDirectory
        cases h
        rw [closed]
        exact .entry rfl nonempty empties leads (not_not.mp isDirectory)
  · rintro ⟨accepted, slotted⟩
    refine ⟨_, partsOf_eq_ok_iff.mpr ⟨accepted, rfl⟩, ?_⟩
    generalize path.parts.map String.ofList = parts at slotted
    cases slotted with
    | root voids =>
        have none := dropWhile_reverse_voids voids
        simp only [none]
        rfl
    | @entry before voids last directory split nonempty empties leads isDirectory =>
        subst split
        simp only [dropWhile_reverse nonempty empties, List.reverse_reverse, bind_eq_ok]
        refine ⟨directory, leads, ?_⟩
        rw [if_neg (not_not.mpr isDirectory), closed]
        rfl

/-- A path that leads somewhere has a slot. -/
theorem slot_of_walk {l : Location} (accepted : Accepted path) (h : tree.walk path = .ok l) :
    ∃ s, tree.slot path = .ok s := by
  rw [walk] at h
  rcases parts_cases (path.parts.map String.ofList) with
    voids | ⟨before, last, voids, split, nonempty, empties⟩
  · exact ⟨_, slot_eq_ok_iff.mpr ⟨accepted, .root voids⟩⟩
  · rw [split, follow_append_eq_ok_iff] at h
    obtain ⟨directory, leads, later⟩ := h
    obtain ⟨next, isDirectory, -, -⟩ := follow_cons_eq_ok_iff.mp later
    exact ⟨_, slot_eq_ok_iff.mpr ⟨accepted, .entry split nonempty empties leads isDirectory⟩⟩

theorem LastPart.of_plain (plain : Path.PlainName name) : LastPart.of name = .name name := by
  rw [LastPart.of, if_neg plain.notSame, if_neg plain.notAbove]

/-- The directory of a joined name is the one that the path leads to. -/
theorem slot_join_eq_ok_iff (plain : Path.PlainName name) {s : Slot} :
    tree.slot (path.join ⟨name⟩) = .ok s ↔
      Accepted (path.join ⟨name⟩) ∧ tree.walk path = .ok s.directory ∧
        tree.IsDirectory s.directory ∧ s.last = .name name ∧ s.closed = false := by
  obtain ⟨first, joined, walked⟩ := parts_join_follow plain path
  rw [slot_eq_ok_iff, joined, and_congr_right_iff]
  intro accepted
  constructor
  · rintro (voids | ⟨split, nonempty, empties, leads, isDirectory⟩)
    · exact absurd (voids name (by simp)) plain.nonempty
    · rename_i before voids last directory
      -- The name itself is the last part that is not empty.
      rcases List.eq_nil_or_concat voids with rfl | ⟨others, part, rfl⟩
      · obtain ⟨rfl, same⟩ := List.append_inj' split rfl
        cases same
        exact ⟨(walked isDirectory).mp leads, isDirectory, LastPart.of_plain plain, rfl⟩
      · rw [List.concat_eq_append, ← List.cons_append, ← List.append_assoc] at split
        obtain ⟨-, same⟩ := List.append_inj' split rfl
        cases same
        exact absurd (empties name (by simp)) plain.nonempty
  · obtain ⟨directory, last, closed⟩ := s
    rintro ⟨leads, isDirectory, rfl, rfl⟩
    rw [← LastPart.of_plain plain]
    exact .entry rfl plain.nonempty (List.forall_mem_nil _) ((walked isDirectory).mpr leads)
      isDirectory

theorem lastPart_eq_name_iff {part : String} :
    LastPart.of part = .name name ↔ part = name ∧ part ≠ "." ∧ part ≠ ".." := by
  rw [LastPart.of]
  constructor
  · intro h
    split at h
    · cases h
    · split at h
      · cases h
      · rename_i notSame notAbove
        cases h
        exact ⟨rfl, notSame, notAbove⟩
  · rintro ⟨rfl, notSame, notAbove⟩
    rw [if_neg notSame, if_neg notAbove]

/-- The last part of a path that names something, and the directory that the parts before it lead
to. -/
theorem slot_name {s : Slot} (h : tree.slot path = .ok s) (named : s.last = .name name) :
    ∃ before voids, path.parts.map String.ofList = before ++ name :: voids ∧
      (∀ part ∈ voids, part = "") ∧ name ≠ "" ∧ name ≠ "." ∧ name ≠ ".." ∧
      tree.follow [] before = .ok s.directory ∧ tree.IsDirectory s.directory := by
  obtain ⟨-, slotted⟩ := slot_eq_ok_iff.mp h
  cases slotted with
  | root voids => cases named
  | entry split nonempty empties leads isDirectory =>
      obtain ⟨rfl, notSame, notAbove⟩ := lastPart_eq_name_iff.mp named
      exact ⟨_, _, split, empties, nonempty, notSame, notAbove, leads, isDirectory⟩

/-- The last part of a path leads to the entry of that name, also when the slot was told from what
is left of the tree. -/
theorem slot_name_walk {larger : FileTree} {s : Slot} {l : Location} (grows : Grows tree larger)
    (h : tree.slot path = .ok s) (named : s.last = .name name) (leads : larger.walk path = .ok l) :
    l = s.directory ++ [name] := by
  obtain ⟨before, voids, split, empties, nonempty, notSame, notAbove, reached, -⟩ :=
    slot_name h named
  rw [walk, split, follow_append_eq_ok_iff] at leads
  obtain ⟨directory, found, later⟩ := leads
  have same : directory = s.directory := Except.ok.inj (found.symm.trans (grows.follow reached))
  obtain ⟨next, -, step, rest⟩ := follow_cons_eq_ok_iff.mp later
  rw [follow_voids empties rest, ← same]
  cases step with
  | same void => exact absurd void (not_or.mpr ⟨nonempty, notSame⟩)
  | above => exact absurd rfl notAbove
  | entry => rfl

end LuaBindings.FileTree
