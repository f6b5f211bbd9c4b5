import LuaBindings.Binding.Render
import Mathlib.Logic.ExistsUnique
import Mathlib.Logic.Relation
/-!
# Types of one constant

Which types of the catalog the runtime knows by the same key. Stars never count: all that they tell
is how an argument is handed on. Among ASCII types a capital is as good as a small letter, a C
string is a string, and no others are taken for one another.
-/

namespace LuaBindings.Binding

/-! ## Stars -/

/-- The other text has one star more. -/
inductive Starred : List Char → List Char → Prop
  | star (before behind : List Char) : Starred (before ++ behind) (before ++ '*' :: behind)

/-- Texts that come from one another by stars put in and taken out. -/
def StarsApart : List Char → List Char → Prop := Relation.EqvGen Starred

/-- How an argument of a type is handed on. -/
def passing (type : String) : String := if '*' ∈ type.toList then "ref" else "arg"

/-- A star that is put in is dropped again. -/
theorem Starred.filter_eq {s t : List Char} (h : Starred s t) :
    s.filter (· ≠ '*') = t.filter (· ≠ '*') := by
  obtain ⟨before, behind⟩ := h
  rw [List.filter_append, List.filter_append, List.filter_cons_of_neg (by simp)]

/-- However many are put in and taken out, the same is left when all are dropped. -/
theorem StarsApart.filter_eq {s t : List Char} (h : StarsApart s t) :
    s.filter (· ≠ '*') = t.filter (· ≠ '*') := by
  induction h with
  | rel _ _ starred => exact starred.filter_eq
  | refl _ => rfl
  | symm _ _ _ ih => exact ih.symm
  | trans _ _ _ _ _ first second => exact first.trans second

theorem StarsApart.cons {s t : List Char} (c : Char) (h : StarsApart s t) :
    StarsApart (c :: s) (c :: t) := by
  induction h with
  | rel _ _ starred =>
      obtain ⟨before, behind⟩ := starred
      exact .rel _ _ (.star (c :: before) behind)
  | refl s => exact .refl (c :: s)
  | symm _ _ _ ih => exact .symm _ _ ih
  | trans _ _ _ _ _ first second => exact .trans _ _ _ first second

/-- All stars of a text can be taken out. -/
theorem starsApart_filter (s : List Char) : StarsApart s (s.filter (· ≠ '*')) := by
  induction s with
  | nil => exact .refl []
  | cons c rest ih =>
      by_cases star : c = '*'
      · rw [star, List.filter_cons_of_neg (by simp)]
        have less : StarsApart ('*' :: rest) rest := .symm _ _ (.rel _ _ (.star [] rest))
        exact .trans _ _ _ less ih
      · rw [List.filter_cons_of_pos (by simpa using star)]
        exact ih.cons c

/-- What stands for a type once its stars are taken out: `string` if exactly `const char` is left,
or else what is left. -/
inductive Spelled (type : String) : List Char → Prop
  | cString (h : StarsApart type.toList "const char".toList) : Spelled type "string".toList
  | other {bare : List Char} (h : StarsApart type.toList bare) (noStar : '*' ∉ bare)
      (notString : bare ≠ "const char".toList) : Spelled type bare

theorem filter_of_notMem {s : List Char} (noStar : '*' ∉ s) : s.filter (· ≠ '*') = s := by
  rw [List.filter_eq_self]
  intro c member
  refine decide_eq_true ?_
  rintro rfl
  exact noStar member

theorem spelled_iff {type : String} {s : List Char} : Spelled type s ↔ s = baseType type := by
  have bare := starsApart_filter type.toList
  unfold baseType
  constructor
  · intro spelled
    cases spelled with
    | cString h => rw [h.filter_eq, filter_of_notMem (by decide), if_pos rfl]
    | other h noStar notString => rw [h.filter_eq, filter_of_notMem noStar, if_neg notString]
  · rintro rfl
    dsimp only
    split
    · rename_i cString
      exact .cString (cString ▸ bare)
    · rename_i notString
      exact .other bare (by simp) notString

/-! ## Letters -/

/-- A text of ASCII characters. -/
def IsAscii (s : List Char) : Prop := ∀ c ∈ s, c.toNat < 128

instance (s : List Char) : Decidable (IsAscii s) := List.decidableBAll _ s

/-- Texts that are equal up to the case of ASCII letters. -/
def SameLetters (s t : List Char) : Prop := s.map Char.toLower = t.map Char.toLower

/-- What holds of the first 128 code points holds of every ASCII character. -/
theorem forall_ascii {P : Char → Prop} (h : ∀ n < 128, P (Char.ofNat n)) {c : Char}
    (ascii : c.toNat < 128) : P c := by
  rw [← Char.ofNat_toNat c]
  exact h c.toNat ascii

theorem small_ascii {c : Char} (ascii : c.toNat < 128) : Text.small c = [c.toLower] :=
  forall_ascii (P := fun c => Text.small c = [c.toLower]) (by decide +kernel) ascii

theorem capital_ascii {c : Char} (ascii : c.toNat < 128) : Text.capital c = [c.toUpper] :=
  forall_ascii (P := fun c => Text.capital c = [c.toUpper]) (by decide +kernel) ascii

theorem toLower_toUpper {c : Char} (ascii : c.toNat < 128) : c.toUpper.toLower = c.toLower :=
  forall_ascii (P := fun c => c.toUpper.toLower = c.toLower) (by decide +kernel) ascii

theorem toUpper_toLower {c : Char} (ascii : c.toNat < 128) : c.toLower.toUpper = c.toUpper :=
  forall_ascii (P := fun c => c.toLower.toUpper = c.toUpper) (by decide +kernel) ascii

theorem flatMap_small {s : List Char} (ascii : IsAscii s) :
    s.flatMap Text.small = s.map Char.toLower := by
  induction s with
  | nil => rfl
  | cons c rest ih =>
      obtain ⟨first, others⟩ := List.forall_mem_cons.mp ascii
      rw [List.flatMap_cons, small_ascii first, ih others]
      rfl

theorem capitalize_ascii {c : Char} {rest : List Char} (ascii : IsAscii (c :: rest)) :
    capitalize (c :: rest) = c.toUpper :: rest.map Char.toLower := by
  obtain ⟨first, others⟩ := List.forall_mem_cons.mp ascii
  rw [capitalize, capital_ascii first, flatMap_small others, List.singleton_append]

/-- A capital at the front and small letters behind it hide no more than the case of the letters. -/
theorem capitalize_eq_iff {s t : List Char} (hs : IsAscii s) (ht : IsAscii t) :
    capitalize s = capitalize t ↔ SameLetters s t := by
  cases s with
  | nil =>
      cases t with
      | nil => exact ⟨fun _ => rfl, fun _ => rfl⟩
      | cons d more =>
          rw [capitalize_ascii ht]
          exact ⟨nofun, nofun⟩
  | cons c rest =>
      cases t with
      | nil =>
          rw [capitalize_ascii hs]
          exact ⟨nofun, nofun⟩
      | cons d more =>
          have first : c.toUpper = d.toUpper ↔ c.toLower = d.toLower := by
            have hc := hs c List.mem_cons_self
            have hd := ht d List.mem_cons_self
            constructor
            · intro same
              rw [← toLower_toUpper hc, same, toLower_toUpper hd]
            · intro same
              rw [← toUpper_toLower hc, same, toUpper_toLower hd]
          rw [capitalize_ascii hs, capitalize_ascii ht, SameLetters, List.map_cons, List.map_cons,
            List.cons.injEq, List.cons.injEq, first]

theorem Spelled.ascii {type : String} {s : List Char} (spelled : Spelled type s)
    (ascii : IsAscii type.toList) : IsAscii s := by
  rw [spelled_iff.mp spelled, baseType]
  split
  · show IsAscii "string".toList
    decide
  · intro c member
    exact ascii c (List.mem_filter.mp member).1

/-! ## Constants -/

theorem typeConstant_inj {a b : String} :
    typeConstant a = typeConstant b ↔ capitalize (baseType a) = capitalize (baseType b) := by
  rw [typeConstant, typeConstant, String.append_right_inj, String.ofList_inj]

theorem StarsApart.typeConstant_eq {a b : String} (h : StarsApart a.toList b.toList) :
    typeConstant a = typeConstant b := by
  rw [typeConstant_inj, baseType, baseType, h.filter_eq]

theorem argumentLine_eq (p : Parameter) : argumentLine p =
    "    " ++ passing p.type ++ "(" ++ typeConstant p.type ++ ", " ++ Lua.escapeReserved p.name ++
      ")" := by
  have pointer : p.isPointer = true ↔ '*' ∈ p.type.toList := List.contains_iff_mem
  simp only [argumentLine, passing, pointer]

/-- Stars put in or taken out leave the constant of a type as it is, and of the line of an argument
they change no more than how it is handed on. Two ASCII types have one constant exactly when what
stands for them is equal up to the case of letters. So no other spelling of `const char` is a C
string. -/
theorem typeConstant_shared (a b : String) :
    (StarsApart a.toList b.toList → typeConstant a = typeConstant b ∧ ∀ name,
      argumentLine ⟨a, name⟩ = "    " ++ passing a ++ "(" ++ typeConstant a ++ ", " ++
        Lua.escapeReserved name ++ ")" ∧
      argumentLine ⟨b, name⟩ = "    " ++ passing b ++ "(" ++ typeConstant a ++ ", " ++
        Lua.escapeReserved name ++ ")") ∧
    (∃! s, Spelled a s) ∧
    (IsAscii a.toList → IsAscii b.toList → ∀ s t, Spelled a s → Spelled b t →
      (typeConstant a = typeConstant b ↔ SameLetters s t)) ∧
    typeConstant "CONST CHAR" ≠ typeConstant "const char" := by
  refine ⟨?_, ?_, ?_, ?_⟩
  · intro apart
    have same := apart.typeConstant_eq
    refine ⟨same, ?_⟩
    intro name
    refine ⟨argumentLine_eq ⟨a, name⟩, ?_⟩
    rw [same]
    exact argumentLine_eq ⟨b, name⟩
  · refine ⟨baseType a, spelled_iff.mpr rfl, ?_⟩
    intro s spelled
    exact spelled_iff.mp spelled
  · intro asciiA asciiB s t spelledA spelledB
    rw [typeConstant_inj, ← spelled_iff.mp spelledA, ← spelled_iff.mp spelledB]
    exact capitalize_eq_iff (spelledA.ascii asciiA) (spelledB.ascii asciiB)
  · intro same
    have capitals : capitalize "CONST CHAR".toList = capitalize "string".toList :=
      typeConstant_inj.mp same
    rw [capitalize_eq_iff (by decide) (by decide)] at capitals
    cases capitals

/-- A C string behind more pointers, another spelling of a string, and another spelling of the words
of a C string. -/
theorem typeConstant_shared_starred :
    StarsApart "const char**".toList "const char".toList ∧
      typeConstant "const char**" = typeConstant "const char" ∧
      typeConstant "const char**" = typeConstant "STRing*" ∧
      typeConstant "const char**" ≠ typeConstant "Const char**" := by
  have apart : StarsApart "const char**".toList "const char".toList :=
    starsApart_filter "const char**".toList
  have string : Spelled "const char**" "string".toList := .cString apart
  have other : Spelled "STRing*" "STRing".toList :=
    .other (starsApart_filter "STRing*".toList) (by decide) (by decide)
  have capital : Spelled "Const char**" "Const char".toList :=
    .other (starsApart_filter "Const char**".toList) (by decide) (by decide)
  obtain ⟨stars, -, -, -⟩ := typeConstant_shared "const char**" "const char"
  obtain ⟨-, -, alike, -⟩ := typeConstant_shared "const char**" "STRing*"
  obtain ⟨-, -, unlike, -⟩ := typeConstant_shared "const char**" "Const char**"
  refine ⟨apart, (stars apart).1, ?_, ?_⟩
  · exact (alike (by decide) (by decide) _ _ string other).mpr rfl
  · intro same
    have letters := (unlike (by decide) (by decide) _ _ string capital).mp same
    cases letters

end LuaBindings.Binding
