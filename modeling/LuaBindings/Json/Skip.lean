import LuaBindings.Json.Mismatch
/-!
# Values of no interest

The value of an unknown field is passed over, whatever its depth: the brackets that are open stand
on a list, so no nesting is too deep. Only the grammar is checked. A string may hold a unit of a
surrogate pair alone, and a number may be of any size.
-/

namespace LuaBindings.Json

open Text (isDigit)

/-! ## Scalars -/

/-- The text behind a string, from behind its opening quote. -/
def skipString (s : List Char) : Except Failure (List Char) :=
  match s with
  | [] => .error (.before .endInString [])
  | c :: r =>
    if c = '"' then .ok r
    else if c = '\\' then
      match r with
      | [] => .error (.before .endInString [])
      | e :: r' =>
        if e = 'u' then
          match _taken : readUnit r' with
          | .error e => .error e
          | .ok (_, r'') => skipString r''
        else if (shortEscape? e).isSome then skipString r'
        else .error (.onNext .invalidEscape (e :: r'))
    else if c.toNat < 0x20 then .error (.before .controlCharacter (c :: r))
    else skipString r
  termination_by s.length
  decreasing_by
    · have := readUnit_shrinks _taken
      simp only [List.length_cons]
      omega
    all_goals simp only [List.length_cons]; omega

theorem skipString_shrinks {s r : List Char} (h : skipString s = .ok r) :
    r.length < s.length := by
  fun_induction skipString s with
  | case1 => simp at h
  | case2 tail =>
    simp only [Except.ok.injEq] at h
    simp [h]
  | case3 => simp at h
  | case4 => simp at h
  | case5 tail _ after taken _ ih =>
    have taken := readUnit_shrinks taken
    have rest := ih h
    simp only [List.length_cons]
    omega
  | case6 _ e tail _ _ ih =>
    have rest := ih h
    simp only [List.length_cons]
    omega
  | case7 => simp at h
  | case8 => simp at h
  | case9 c tail _ _ _ ih =>
    have rest := ih h
    simp only [List.length_cons]
    omega

/-- The text behind some digits. -/
def skipDigits (s : List Char) : List Char := s.dropWhile isDigit

/-- The text behind a sign, if one stands at its front. -/
def skipSign (s : List Char) : List Char :=
  match s with
  | '+' :: r | '-' :: r => r
  | s => s

/-- The text behind an exponent, from behind its `e`. -/
def skipPower (s : List Char) : Except Failure (List Char) :=
  match skipSign s with
  | [] => .error (.before .invalidNumber [])
  | c :: r => if isDigit c then .ok (skipDigits r) else .error (.onNext .invalidNumber (c :: r))

/-- The text behind an exponent, if one follows. -/
def skipTail (s : List Char) : Except Failure (List Char) :=
  match s with
  | 'e' :: r | 'E' :: r => skipPower r
  | s => .ok s

/-- The text behind a fraction, from behind its point. -/
def skipFraction (s : List Char) : Except Failure (List Char) :=
  match s with
  | [] => .error (.before .invalidNumber [])
  | c :: r => if isDigit c then skipTail (skipDigits r) else .error (.onNext .invalidNumber s)

/-- The text behind a fraction and an exponent, as far as they follow. -/
def skipAfterWhole (s : List Char) : Except Failure (List Char) :=
  match s with
  | '.' :: r => skipFraction r
  | s => skipTail s

/-- The text behind a number, from its first digit on. -/
def skipUnsigned (s : List Char) : Except Failure (List Char) :=
  match s with
  | [] => .error (.before .invalidNumber [])
  | c :: r =>
    if c = '0' then
      match r with
      | [] => .ok []
      | d :: _ => if isDigit d then .error (.onNext .invalidNumber r) else skipAfterWhole r
    else if isDigit c then skipAfterWhole (skipDigits r)
    else .error (.onNext .invalidNumber s)

theorem length_skipDigits_le (s : List Char) : (skipDigits s).length ≤ s.length :=
  length_dropWhile_le isDigit s

theorem length_skipSign_le (s : List Char) : (skipSign s).length ≤ s.length := by
  unfold skipSign
  split <;> simp

theorem skipPower_shrinks {s r : List Char} (h : skipPower s = .ok r) : r.length < s.length := by
  have sign := length_skipSign_le s
  unfold skipPower at h
  split at h
  · simp at h
  · rename_i c tail found
    split at h
    · simp only [Except.ok.injEq] at h
      have digits := length_skipDigits_le tail
      rw [found, List.length_cons] at sign
      rw [h] at digits
      omega
    · simp at h

theorem skipTail_length_le {s r : List Char} (h : skipTail s = .ok r) : r.length ≤ s.length := by
  unfold skipTail at h
  split at h
  · have := skipPower_shrinks h
    simp only [List.length_cons]
    omega
  · have := skipPower_shrinks h
    simp only [List.length_cons]
    omega
  · simp only [Except.ok.injEq] at h
    exact h ▸ Nat.le_refl _

theorem skipFraction_shrinks {s r : List Char} (h : skipFraction s = .ok r) :
    r.length < s.length := by
  unfold skipFraction at h
  split at h
  · simp at h
  · rename_i c tail
    split at h
    · have := skipTail_length_le h
      have := length_skipDigits_le tail
      simp only [List.length_cons]
      omega
    · simp at h

theorem skipAfterWhole_length_le {s r : List Char} (h : skipAfterWhole s = .ok r) :
    r.length ≤ s.length := by
  unfold skipAfterWhole at h
  split at h
  · have := skipFraction_shrinks h
    simp only [List.length_cons]
    omega
  · exact skipTail_length_le h

theorem skipUnsigned_shrinks {s r : List Char} (h : skipUnsigned s = .ok r) :
    r.length < s.length := by
  unfold skipUnsigned at h
  split at h
  · simp at h
  · rename_i c tail
    split at h
    · split at h
      · simp only [Except.ok.injEq] at h
        simp [← h]
      · split at h
        · simp at h
        · have := skipAfterWhole_length_le h
          simp only [List.length_cons] at this ⊢
          omega
    · split at h
      · have := skipAfterWhole_length_le h
        have := length_skipDigits_le tail
        simp only [List.length_cons]
        omega
      · simp at h

/-! ## Brackets -/

/-- The two kinds of container. -/
inductive Bracket where
  | list
  | object
  deriving DecidableEq, Repr

/-- The character that closes a container. -/
def Bracket.close : Bracket → Char
  | .list => ']'
  | .object => '}'

/-- The fault of a text that ends inside a container. -/
def Bracket.cutOff : Bracket → Cause
  | .list => .endInList
  | .object => .endInObject

/-- The fault of a value followed by neither a comma nor the end of its container. -/
def Bracket.notEnded : Bracket → Cause
  | .list => .expectedListEnd
  | .object => .expectedObjectEnd

/-- The text behind a scalar, given its first character and the text behind that. -/
def skipScalar (c : Char) (r : List Char) : Except Failure (List Char) :=
  if c = 'n' then readLiteral ['u', 'l', 'l'] r
  else if c = 't' then readLiteral ['r', 'u', 'e'] r
  else if c = 'f' then readLiteral ['a', 'l', 's', 'e'] r
  else if c = '-' then skipUnsigned r
  else if isDigit c then skipUnsigned (c :: r)
  else if c = '"' then skipString r
  else .error (.onNext .expectedValue (c :: r))

theorem skipScalar_shrinks {c : Char} {r r' : List Char} (h : skipScalar c r = .ok r') :
    r'.length < (c :: r).length := by
  have short : r'.length ≤ r.length → r'.length < (c :: r).length := by
    simp only [List.length_cons]
    omega
  unfold skipScalar at h
  split at h
  · exact short (readLiteral_length_le h)
  · split at h
    · exact short (readLiteral_length_le h)
    · split at h
      · exact short (readLiteral_length_le h)
      · split at h
        · exact short (Nat.le_of_lt (skipUnsigned_shrinks h))
        · split at h
          · exact skipUnsigned_shrinks h
          · split at h
            · exact short (Nat.le_of_lt (skipString_shrinks h))
            · simp at h

/-- The first token of a value, from the token on: the container it opens, or nothing for a scalar,
which is passed over whole. -/
def skipToken (s : List Char) : Except Failure (Option Bracket × List Char) :=
  match s with
  | [] => .error (.before .endInValue [])
  | c :: r =>
    if c = '[' then .ok (some .list, r)
    else if c = '{' then .ok (some .object, r)
    else
      match skipScalar c r with
      | .error e => .error e
      | .ok r => .ok (none, r)

theorem skipToken_shrinks {s r : List Char} {opened : Option Bracket}
    (h : skipToken s = .ok (opened, r)) : r.length < s.length := by
  unfold skipToken at h
  split at h
  · simp at h
  · rename_i c tail
    split at h
    · simp only [Except.ok.injEq, Prod.mk.injEq] at h
      simp [← h.2]
    · split at h
      · simp only [Except.ok.injEq, Prod.mk.injEq] at h
        simp [← h.2]
      · cases hs : skipScalar c tail with
        | error e => simp [hs] at h
        | ok after =>
          simp only [hs, Except.ok.injEq, Prod.mk.injEq] at h
          exact h.2 ▸ skipScalar_shrinks hs

/-- The text behind the colon that follows a key. -/
def skipColon (s : List Char) : Except Failure (List Char) :=
  match skipBlanks s with
  | [] => .error (.before .endInObject [])
  | c :: r => if c = ':' then .ok r else .error (.onNext .expectedColon (c :: r))

theorem skipColon_shrinks {s r : List Char} (h : skipColon s = .ok r) : r.length < s.length := by
  unfold skipColon at h
  have blanks := length_skipBlanks_le s
  split at h
  · simp at h
  · rename_i c tail found
    split at h
    · simp only [Except.ok.injEq] at h
      rw [found, List.length_cons, h] at blanks
      omega
    · simp at h

/-- The text behind a key and its colon. -/
def skipKey (s : List Char) : Except Failure (List Char) :=
  match skipBlanks s with
  | [] => .error (.before .endInObject [])
  | c :: r =>
    if c = '"' then
      match skipString r with
      | .error e => .error e
      | .ok r => skipColon r
    else .error (.onNext .keyNotString (c :: r))

/-- The text where the next value of a container starts: behind its key, where it has one. -/
def skipToValue : Bracket → List Char → Except Failure (List Char)
  | .list, s => .ok s
  | .object, s => skipKey s

theorem skipToValue_length_le {b : Bracket} {s r : List Char} (h : skipToValue b s = .ok r) :
    r.length ≤ s.length := by
  cases b with
  | list =>
    simp only [skipToValue, Except.ok.injEq] at h
    exact h ▸ Nat.le_refl _
  | object =>
    simp only [skipToValue, skipKey] at h
    have blanks := length_skipBlanks_le s
    split at h
    · simp at h
    · rename_i c tail found
      rw [found, List.length_cons] at blanks
      split at h
      · cases hs : skipString tail with
        | error e => simp [hs] at h
        | ok after =>
          simp only [hs] at h
          have := skipString_shrinks hs
          have := skipColon_shrinks h
          omega
      · simp at h

/-- What the text is due to hold next. -/
inductive Due where
  /-- A value. -/
  | value
  /-- Whatever follows a value: a comma or the end of the innermost container. -/
  | separator
  deriving DecidableEq, Repr

/-- The text behind a value and behind all containers open around it, innermost first. -/
def skipNested (due : Due) (around : List Bracket) (s : List Char) :
    Except Failure (List Char) :=
  match due with
  | .value =>
    match _token : skipToken (skipBlanks s) with
    | .error e => .error e
    | .ok (none, r) => skipNested .separator around r
    | .ok (some b, r) =>
      match _inner : skipBlanks r with
      | [] => .error (.before b.cutOff [])
      | c :: r' =>
        if c = b.close then skipNested .separator around r'
        else
          match _next : skipToValue b (c :: r') with
          | .error e => .error e
          | .ok r'' => skipNested .value (b :: around) r''
  | .separator =>
    match around with
    | [] => .ok s
    | b :: outer =>
      match _inner : skipBlanks s with
      | [] => .error (.before b.cutOff [])
      | c :: r =>
        if c = ',' then
          match _next : skipToValue b r with
          | .error e => .error e
          | .ok r' => skipNested .value (b :: outer) r'
        else if c = b.close then skipNested .separator outer r
        else .error (.onNext b.notEnded (c :: r))
  termination_by s.length
  decreasing_by
    · have := skipToken_shrinks _token
      have := length_skipBlanks_le s
      omega
    · have := skipToken_shrinks _token
      have := length_skipBlanks_le s
      have inner := length_skipBlanks_le r
      rw [_inner, List.length_cons] at inner
      omega
    · have := skipToken_shrinks _token
      have := length_skipBlanks_le s
      have inner := length_skipBlanks_le r
      have := skipToValue_length_le _next
      rw [_inner] at inner
      omega
    · have inner := length_skipBlanks_le s
      have := skipToValue_length_le _next
      rw [_inner, List.length_cons] at inner
      omega
    · have inner := length_skipBlanks_le s
      rw [_inner, List.length_cons] at inner
      omega

theorem skipNested_length_le {due : Due} {around : List Bracket} {s r : List Char}
    (h : skipNested due around s = .ok r) : r.length ≤ s.length := by
  fun_induction skipNested due around s with
  | case1 => simp at h
  | case2 around s after token ih =>
    have := skipToken_shrinks token
    have := length_skipBlanks_le s
    have := ih h
    omega
  | case3 => simp at h
  | case4 around s b opened token tail inner ih =>
    have := skipToken_shrinks token
    have := length_skipBlanks_le s
    have blanks := length_skipBlanks_le opened
    rw [inner, List.length_cons] at blanks
    have := ih h
    omega
  | case5 => simp at h
  | case6 around s b opened token c tail inner _ start next ih =>
    have := skipToken_shrinks token
    have := length_skipBlanks_le s
    have blanks := length_skipBlanks_le opened
    have := skipToValue_length_le next
    rw [inner] at blanks
    have := ih h
    omega
  | case7 =>
    simp only [Except.ok.injEq] at h
    exact h ▸ Nat.le_refl _
  | case8 => simp at h
  | case9 => simp at h
  | case10 s b outer tail start next inner ih =>
    have blanks := length_skipBlanks_le s
    have := skipToValue_length_le next
    rw [inner, List.length_cons] at blanks
    have := ih h
    omega
  | case11 s b outer tail inner _ ih =>
    have blanks := length_skipBlanks_le s
    rw [inner, List.length_cons] at blanks
    have := ih h
    omega
  | case12 => simp at h

/-- The text behind the value that the text starts with. -/
def skipValue (s : List Char) : Except Failure (List Char) := skipNested .value [] s

end LuaBindings.Json
