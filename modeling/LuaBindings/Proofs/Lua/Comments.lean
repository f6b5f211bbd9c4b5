import Mathlib.Data.List.Infix
/-!
# Lua comments

The text that is left of a Lua chunk without its comments. Two dashes and two opening brackets start
a long comment, which ends with the first two closing brackets; any other two dashes start a
comment that ends with its line. The line break itself stays.
-/

namespace LuaBindings.Lua

/-- Where in a chunk the next character stands. -/
inductive Region where
  | code
  /-- In a comment that ends with its line. -/
  | shortComment
  /-- In a comment that ends with two closing brackets. -/
  | longComment
  deriving DecidableEq, Repr

/-- Whether the character ends a line. -/
def isLineBreak (c : Char) : Bool := c = '\n' || c = '\r'

/-- What is left of a text without its comments, given where it starts. -/
def uncomment : Region → List Char → List Char
  | _, [] => []
  | .code, '-' :: '-' :: '[' :: '[' :: rest => uncomment .longComment rest
  | .code, '-' :: '-' :: rest => uncomment .shortComment rest
  | .code, c :: rest => c :: uncomment .code rest
  | .shortComment, c :: rest =>
      if isLineBreak c then c :: uncomment .code rest else uncomment .shortComment rest
  | .longComment, ']' :: ']' :: rest => uncomment .code rest
  | .longComment, _ :: rest => uncomment .longComment rest

/-! ## One character -/

theorem uncomment_code_cons {c : Char} (h : c ≠ '-') (rest : List Char) :
    uncomment .code (c :: rest) = c :: uncomment .code rest := by
  rw [uncomment]
  · rintro _ rfl
    exact absurd rfl h
  · rintro _ rfl
    exact absurd rfl h

theorem uncomment_short_start {c : Char} (h : c ≠ '[') (rest : List Char) :
    uncomment .code ('-' :: '-' :: c :: rest) = uncomment .shortComment (c :: rest) := by
  rw [uncomment]
  rintro _ same
  exact absurd (List.cons.inj same).1 h

theorem uncomment_long_cons {c : Char} {rest : List Char}
    (h : c ≠ ']' ∨ rest.head? ≠ some ']') :
    uncomment .longComment (c :: rest) = uncomment .longComment rest := by
  rw [uncomment]
  rintro _ rfl rfl
  rcases h with h | h
  · exact h rfl
  · exact h rfl

/-! ## Whole parts -/

/-- A text without dashes is left as it is. -/
theorem uncomment_append {s : List Char} (h : '-' ∉ s) (rest : List Char) :
    uncomment .code (s ++ rest) = s ++ uncomment .code rest := by
  induction s with
  | nil => rfl
  | cons c s ih =>
      rw [List.mem_cons, not_or] at h
      rw [List.cons_append, uncomment_code_cons (Ne.symm h.1), ih h.2]
      rfl

theorem uncomment_short_append {s : List Char} (h : ∀ c ∈ s, isLineBreak c = false)
    (rest : List Char) : uncomment .shortComment (s ++ rest) = uncomment .shortComment rest := by
  induction s with
  | nil => rfl
  | cons c s ih =>
      rw [List.forall_mem_cons] at h
      rw [List.cons_append, uncomment, h.1, if_neg Bool.false_ne_true, ih h.2]

/-- Two dashes and a line that does not go on with a bracket leave nothing but the end of the
line. -/
theorem uncomment_shortComment {c : Char} {s : List Char} (notBracket : c ≠ '[')
    (h : ∀ d ∈ c :: s, isLineBreak d = false) (rest : List Char) :
    uncomment .code ('-' :: '-' :: c :: (s ++ '\n' :: rest)) = '\n' :: uncomment .code rest := by
  rw [uncomment_short_start notBracket, ← List.cons_append, uncomment_short_append h, uncomment]
  rfl

/-- Nothing is left of a long comment as far as no two closing brackets are met. What comes next
must not be a bracket, or it could close the comment together with the last one. -/
theorem uncomment_long_append {s : List Char} (h : ¬ [']', ']'] <:+: s) {c : Char}
    (notBracket : c ≠ ']') (rest : List Char) :
    uncomment .longComment (s ++ c :: rest) = uncomment .longComment (c :: rest) := by
  induction s with
  | nil => rfl
  | cons d s ih =>
      have later : ¬ [']', ']'] <:+: s := by
        intro closes
        exact h (closes.trans (List.suffix_cons d s).isInfix)
      -- A bracket is followed by another one neither inside the text nor across its end.
      have stays : d ≠ ']' ∨ (s ++ c :: rest).head? ≠ some ']' := by
        by_contra both
        rw [not_or, not_not, not_not] at both
        obtain ⟨rfl, next⟩ := both
        cases s with
        | nil => exact notBracket (Option.some.inj next)
        | cons e s =>
            cases Option.some.inj next
            exact h ⟨[], s, rfl⟩
      rw [List.cons_append, uncomment_long_cons stays, ih later]

/-- Nothing is left of a long comment with a line to itself at either end. -/
theorem uncomment_longComment {s : List Char} (h : ¬ [']', ']'] <:+: s) (rest : List Char) :
    uncomment .code ("--[[\n".toList ++ s ++ "\n--]]".toList ++ rest) = uncomment .code rest := by
  have opened : uncomment .code ("--[[\n".toList ++ s ++ "\n--]]".toList ++ rest) =
      uncomment .longComment ('\n' :: (s ++ '\n' :: ('-' :: '-' :: ']' :: ']' :: rest))) := by
    simp [uncomment]
  have closed : uncomment .longComment ('\n' :: '-' :: '-' :: ']' :: ']' :: rest) =
      uncomment .code rest := by
    simp [uncomment]
  rw [opened, uncomment_long_cons (.inl (by decide)), uncomment_long_append h (by decide), closed]

/-! ## Text by text -/

/-- Where the character behind a text stands, given where the text starts. -/
def regionAfter : Region → List Char → Region
  | region, [] => region
  | .code, '-' :: '-' :: '[' :: '[' :: rest => regionAfter .longComment rest
  | .code, '-' :: '-' :: rest => regionAfter .shortComment rest
  | .code, _ :: rest => regionAfter .code rest
  | .shortComment, c :: rest =>
      if isLineBreak c then regionAfter .code rest else regionAfter .shortComment rest
  | .longComment, ']' :: ']' :: rest => regionAfter .code rest
  | .longComment, _ :: rest => regionAfter .longComment rest

/-- A sign that a text starts with ends before any character that is no part of it. -/
theorem prefix_of_prefix_append {sign s rest : List Char} {c : Char} (h : c ∉ sign)
    (starts : sign <+: s ++ c :: rest) : sign <+: s := by
  rcases List.prefix_or_prefix_of_prefix starts (List.prefix_append s (c :: rest)) with
    within | ⟨more, rfl⟩
  · exact within
  · cases more with
    | nil => simp
    | cons d more =>
        obtain ⟨behind, whole⟩ := starts
        rw [List.append_assoc, List.cons_append] at whole
        cases (List.cons.inj (List.append_cancel_left whole)).1
        exact absurd (by simp) h

/-- Before a character that is part of no sign, a text is gone through by itself, and so is what
comes from there on. -/
theorem uncomment_split {c : Char} (h : c ≠ '-' ∧ c ≠ '[' ∧ c ≠ ']') (region : Region)
    (s rest : List Char) :
    uncomment region (s ++ c :: rest) =
        uncomment region s ++ uncomment (regionAfter region s) (c :: rest) ∧
      regionAfter region (s ++ c :: rest) = regionAfter (regionAfter region s) (c :: rest) := by
  have apart : ∀ {sign s : List Char}, c ∉ sign → ¬ sign <+: s → ¬ sign <+: s ++ c :: rest :=
    fun other absent starts => absent (prefix_of_prefix_append other starts)
  -- One case for each way to go on; where it hangs on what follows, `apart` tells that the
  -- character behind the text makes no difference.
  induction region, s using regionAfter.induct with
  | case1 region =>
      cases region with
      | code => exact ⟨rfl, rfl⟩
      | shortComment => exact ⟨rfl, rfl⟩
      | longComment => exact ⟨rfl, rfl⟩
  | case2 s ih => simpa [regionAfter, uncomment] using ih
  | case3 s notLong ih =>
      have one : ¬ ['[', '['] <+: s := by
        rintro ⟨more, rfl⟩
        exact notLong more rfl
      have both := apart (by simp [h]) one
      have still : ∀ more, s ++ c :: rest = '[' :: '[' :: more → False :=
        fun more whole => both ⟨more, whole.symm⟩
      rw [List.cons_append, List.cons_append, uncomment, uncomment, regionAfter, regionAfter]
      · exact ih
      all_goals assumption
  | case4 d s notLong notShort ih =>
      have one : ¬ ['-', '-'] <+: d :: s := by
        rintro ⟨more, whole⟩
        cases whole
        exact notShort more rfl rfl
      have both := apart (by simp [h]) one
      have short : ∀ more, d = '-' → s ++ c :: rest = '-' :: more → False := by
        rintro more rfl whole
        exact both ⟨more, congrArg ('-' :: ·) whole.symm⟩
      have long : ∀ more, d = '-' → s ++ c :: rest = '-' :: '[' :: '[' :: more → False :=
        fun more dash whole => short ('[' :: '[' :: more) dash whole
      rw [List.cons_append, uncomment, uncomment, regionAfter, regionAfter]
      · exact ⟨congrArg (d :: ·) ih.1, ih.2⟩
      all_goals assumption
  | case5 d s breaks ih => simpa [regionAfter, uncomment, breaks] using ih
  | case6 d s inside ih => simpa [regionAfter, uncomment, inside] using ih
  | case7 s ih => simpa [regionAfter, uncomment] using ih
  | case8 d s notClosed ih =>
      have one : ¬ [']', ']'] <+: d :: s := by
        rintro ⟨more, whole⟩
        cases whole
        exact notClosed more rfl rfl
      have both := apart (by simp [h]) one
      have still : ∀ more, d = ']' → s ++ c :: rest = ']' :: more → False := by
        rintro more rfl whole
        exact both ⟨more, congrArg (']' :: ·) whole.symm⟩
      rw [List.cons_append, uncomment, uncomment, regionAfter, regionAfter]
      · exact ih
      all_goals assumption

/-- A line that leaves no long comment open behind it. -/
def Settled (line : List Char) : Prop := regionAfter .code line ≠ .longComment

instance (line : List Char) : Decidable (Settled line) := inferInstanceAs (Decidable (¬ _))

/-- What stands behind such a line is code. -/
theorem uncomment_settled {line : List Char} (h : Settled line) (rest : List Char) :
    uncomment .code (line ++ '\n' :: rest) =
      uncomment .code line ++ '\n' :: uncomment .code rest := by
  rw [(uncomment_split (by decide) .code line rest).1]
  unfold Settled at h
  cases region : regionAfter .code line with
  | code => rw [uncomment_code_cons (by decide)]
  | shortComment => rfl
  | longComment => exact absurd region h

theorem regionAfter_code_append {s : List Char} (h : '-' ∉ s) (rest : List Char) :
    regionAfter .code (s ++ rest) = regionAfter .code rest := by
  induction s with
  | nil => rfl
  | cons c s ih =>
      rw [List.mem_cons, not_or] at h
      rw [List.cons_append, regionAfter]
      · exact ih h.2
      · rintro _ rfl
        exact absurd rfl h.1
      · rintro _ rfl
        exact absurd rfl h.1

theorem regionAfter_short {s : List Char} (h : ∀ c ∈ s, isLineBreak c = false) :
    regionAfter .shortComment s = .shortComment := by
  induction s with
  | nil => rfl
  | cons c s ih =>
      rw [List.forall_mem_cons] at h
      rw [regionAfter, h.1, if_neg Bool.false_ne_true, ih h.2]

/-- A line stays settled when more of it follows that holds neither dashes nor line breaks. -/
theorem Settled.append {s t : List Char} {c : Char} (h : Settled s)
    (plain : c ≠ '-' ∧ c ≠ '[' ∧ c ≠ ']') (quiet : ∀ d ∈ c :: t, d ≠ '-' ∧ isLineBreak d = false) :
    Settled (s ++ c :: t) := by
  have noDash : '-' ∉ c :: t := fun member => (quiet '-' member).1 rfl
  unfold Settled at h ⊢
  rw [(uncomment_split plain .code s t).2]
  cases region : regionAfter .code s with
  | code =>
      rw [← List.append_nil (c :: t), regionAfter_code_append noDash]
      decide
  | shortComment =>
      rw [regionAfter_short fun d member => (quiet d member).2]
      decide
  | longComment => exact absurd region h

end LuaBindings.Lua
