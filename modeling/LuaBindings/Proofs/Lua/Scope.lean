import LuaBindings.Lua.Identifier
import Mathlib.Data.List.Nodup
/-!
# Parameters in scope

Inside of a Lua function a name denotes the last of the parameters of that name; any before it is
out of reach. Escaped names are no reserved words, but two names may be escaped to the same one: a
reserved word, and that word with the underscore already behind it.
-/

namespace LuaBindings.Lua

/-! ## What a name denotes -/

/-- The parameter that a name denotes inside of a function. -/
def denoted? : List String → String → Option Nat
  | [], _ => none
  | parameter :: others, name =>
    match denoted? others name with
    | some later => some (later + 1)
    | none => if parameter = name then some 0 else none

theorem denoted?_eq_none_iff {parameters : List String} {name : String} :
    denoted? parameters name = none ↔ name ∉ parameters := by
  induction parameters with
  | nil => exact ⟨fun _ => List.not_mem_nil, fun _ => rfl⟩
  | cons parameter others ih =>
      rw [denoted?, List.mem_cons, not_or, ← ih]
      cases denoted? others name with
      | some later =>
          constructor
          · intro h
            cases h
          · rintro ⟨-, h⟩
            cases h
      | none =>
          by_cases same : parameter = name
          · rw [if_pos same]
            constructor
            · intro h
              cases h
            · rintro ⟨different, -⟩
              exact absurd same.symm different
          · rw [if_neg same]
            exact ⟨fun _ => ⟨Ne.symm same, rfl⟩, fun _ => rfl⟩

/-- A name denotes the last parameter of that name. -/
theorem denoted?_eq_some_iff {parameters : List String} {name : String} {i : Nat} :
    denoted? parameters name = some i ↔
      parameters[i]? = some name ∧ ∀ later, i < later → parameters[later]? ≠ some name := by
  induction parameters generalizing i with
  | nil => simp [denoted?]
  | cons parameter others ih =>
      rw [denoted?]
      cases found : denoted? others name with
      | some k =>
          obtain ⟨held, last⟩ := ih.mp found
          constructor
          · intro h
            cases h
            refine ⟨held, ?_⟩
            intro later after
            cases later with
            | zero => omega
            | succ later => exact last later (by omega)
          · rintro ⟨here, none⟩
            cases i with
            | zero => exact absurd held (none (k + 1) (Nat.succ_pos k))
            | succ i =>
                have again := ih.mpr ⟨here, fun later after => none (later + 1) (by omega)⟩
                rw [found] at again
                cases again
                rfl
      | none =>
          have absent := denoted?_eq_none_iff.mp found
          -- Only the first parameter can be the one.
          have notLater : ∀ j, (parameter :: others)[j + 1]? ≠ some name :=
            fun j held => absent (List.mem_of_getElem? (l := others) held)
          by_cases same : parameter = name
          · rw [if_pos same]
            constructor
            · intro h
              cases h
              refine ⟨congrArg some same, ?_⟩
              intro later after
              cases later with
              | zero => omega
              | succ later => exact notLater later
            · rintro ⟨here, -⟩
              cases i with
              | zero => rfl
              | succ i => exact absurd here (notLater i)
          · rw [if_neg same]
            constructor
            · intro h
              cases h
            · rintro ⟨here, -⟩
              cases i with
              | zero => exact absurd (Option.some.inj here) same
              | succ i => exact absurd here (notLater i)

/-! ## Escaped names -/

/-- With an underscore behind it no word is reserved. -/
theorem isReserved_underscored (name : String) : isReserved (name ++ "_") = false := by
  have words : ∀ word ∈ reservedWords, word.toList.getLast? ≠ some '_' := by decide
  unfold isReserved
  rw [List.contains_eq_mem, decide_eq_false_iff_not]
  intro member
  refine words _ member ?_
  rw [String.toList_append]
  exact List.getLast?_concat

/-- No reserved word is left as a name. -/
theorem isReserved_escapeReserved (name : String) : isReserved (escapeReserved name) = false := by
  unfold escapeReserved
  by_cases reserved : isReserved name = true
  · rw [if_pos reserved]
    exact isReserved_underscored name
  · rw [if_neg reserved]
    exact Bool.eq_false_iff.mpr reserved

/-- One of two names is a reserved word, and the other is that word with an underscore. -/
def Clash (a b : String) : Prop :=
  (isReserved a = true ∧ b = a ++ "_") ∨ (isReserved b = true ∧ a = b ++ "_")

instance (a b : String) : Decidable (Clash a b) := inferInstanceAs (Decidable (_ ∨ _))

theorem Clash.symm {a b : String} (clash : Clash a b) : Clash b a := Or.symm clash

theorem ne_underscored (name : String) : name ≠ name ++ "_" := by
  intro same
  have longer := congrArg String.length same
  rw [String.length_append] at longer
  have one : "_".length = 1 := by decide
  omega

/-- Names that clash are not the same. -/
theorem Clash.ne {a b : String} (clash : Clash a b) : a ≠ b := by
  rintro rfl
  rcases clash with ⟨-, same⟩ | ⟨-, same⟩
  · exact ne_underscored a same
  · exact ne_underscored a same

theorem append_underscore_inj {a b : String} (same : a ++ "_" = b ++ "_") : a = b := by
  have lists := congrArg String.toList same
  rw [String.toList_append, String.toList_append] at lists
  exact String.toList_inj.mp (List.append_cancel_right lists)

/-- A name clashes with one other at most. -/
theorem Clash.unique {a b c : String} (hb : Clash a b) (hc : Clash a c) : b = c := by
  rcases hb with ⟨reserved, rfl⟩ | ⟨-, rfl⟩
  · rcases hc with ⟨-, rfl⟩ | ⟨-, rfl⟩
    · rfl
    · rw [isReserved_underscored] at reserved
      cases reserved
  · rcases hc with ⟨reserved, -⟩ | ⟨-, same⟩
    · rw [isReserved_underscored] at reserved
      cases reserved
    · exact append_underscore_inj same

/-- Two names are escaped to the same one exactly if they are the same or clash. -/
theorem escapeReserved_eq_iff {a b : String} :
    escapeReserved a = escapeReserved b ↔ a = b ∨ Clash a b := by
  unfold escapeReserved Clash
  by_cases ha : isReserved a = true
  · rw [if_pos ha]
    by_cases hb : isReserved b = true
    · rw [if_pos hb]
      constructor
      · exact fun same => .inl (append_underscore_inj same)
      · rintro (rfl | ⟨-, rfl⟩ | ⟨-, rfl⟩)
        · rfl
        · rw [isReserved_underscored] at hb
          cases hb
        · rw [isReserved_underscored] at ha
          cases ha
    · rw [if_neg hb]
      constructor
      · exact fun same => .inr (.inl ⟨ha, same.symm⟩)
      · rintro (rfl | ⟨-, rfl⟩ | ⟨reserved, -⟩)
        · exact absurd ha hb
        · rfl
        · exact absurd reserved hb
  · rw [if_neg ha]
    by_cases hb : isReserved b = true
    · rw [if_pos hb]
      constructor
      · exact fun same => .inr (.inr ⟨hb, same⟩)
      · rintro (rfl | ⟨reserved, -⟩ | ⟨-, rfl⟩)
        · exact absurd hb ha
        · exact absurd reserved ha
        · rfl
    · rw [if_neg hb]
      constructor
      · exact fun same => .inl same
      · rintro (rfl | ⟨reserved, -⟩ | ⟨reserved, -⟩)
        · rfl
        · exact absurd reserved ha
        · exact absurd reserved hb

/-! ## Escaped parameters -/

/-- Escaped names of distinct parameters are distinct exactly if no two of them clash. -/
theorem nodup_escapeReserved_iff {names : List String} (distinct : names.Nodup) :
    (names.map escapeReserved).Nodup ↔ ∀ a ∈ names, ∀ b ∈ names, ¬Clash a b := by
  constructor
  · intro escaped a ha b hb clash
    exact clash.ne (List.inj_on_of_nodup_map escaped ha hb
      (escapeReserved_eq_iff.mpr (.inr clash)))
  · intro without
    refine distinct.map_on ?_
    intro a ha b hb same
    exact (escapeReserved_eq_iff.mp same).resolve_right (without a ha b hb)

/-- Where no later parameter clashes with one, its escaped name denotes it. -/
theorem denoted?_own {names : List String} (distinct : names.Nodup) {i : Nat} {a : String}
    (held : names[i]? = some a) (without : ∀ j b, i < j → names[j]? = some b → ¬Clash a b) :
    denoted? (names.map escapeReserved) (escapeReserved a) = some i := by
  rw [denoted?_eq_some_iff, List.getElem?_map, held]
  refine ⟨rfl, ?_⟩
  intro later after found
  rw [List.getElem?_map, Option.map_eq_some_iff] at found
  obtain ⟨b, there, same⟩ := found
  rcases escapeReserved_eq_iff.mp same.symm with rfl | clash
  · have together := (List.getElem?_inj (List.getElem?_eq_some_iff.mp held).1 distinct).mp
      (held.trans there.symm)
    omega
  · exact without later b after there clash

/-- Where a later one does, its escaped name denotes that later one. -/
theorem denoted?_clash {names : List String} (distinct : names.Nodup) {i j : Nat} {a b : String}
    (held : names[i]? = some a) (later : i < j) (there : names[j]? = some b) (clash : Clash a b) :
    denoted? (names.map escapeReserved) (escapeReserved a) = some j := by
  rw [escapeReserved_eq_iff.mpr (.inr clash)]
  refine denoted?_own distinct there ?_
  intro k c after found other
  -- What clashes with the later one is the first, which does not stand behind it.
  obtain rfl : a = c := clash.symm.unique other
  have together := (List.getElem?_inj (List.getElem?_eq_some_iff.mp held).1 distinct).mp
    (held.trans found.symm)
  omega

end LuaBindings.Lua
