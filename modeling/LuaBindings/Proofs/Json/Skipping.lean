import LuaBindings.Json.Skip
import LuaBindings.Proofs.Json.Grammar
/-!
# Skipping well-formed values

The value of an unknown field is passed over exactly, whatever it is and however deep it goes: the
brackets that were open before it are open behind it, and the text left is what followed the value.
-/

namespace LuaBindings.Json

open Text (isDigit digitIn?)

/-! ## Strings -/

theorem HexDigit.digitIn? {value : Nat} {c : Char} (h : HexDigit value c) :
    digitIn? 16 c = some value := by
  have lower : ∀ v < 16, "0123456789abcdef".toList[v]?.map (Text.digitIn? 16) = some (some v) := by
    decide
  have upper : ∀ v < 16, "0123456789ABCDEF".toList[v]?.map (Text.digitIn? 16) = some (some v) := by
    decide
  rcases h with h | h
  · have found := lower value (List.getElem?_eq_some_iff.mp h).1
    rw [h] at found
    exact Option.some.inj found
  · have found := upper value (List.getElem?_eq_some_iff.mp h).1
    rw [h] at found
    exact Option.some.inj found

theorem readUnit_append {unit : Nat} {digits : List Char} (h : UnitText unit digits)
    (rest : List Char) : readUnit (digits ++ rest) = .ok (unit, rest) := by
  obtain ⟨h₁, h₂, h₃, h₄⟩ := h
  simp [readUnit, Text.number?, h₁.digitIn?, h₂.digitIn?, h₃.digitIn?, h₄.digitIn?, Nat.mul_comm]

theorem ShortEscape.shortEscape? {letter c : Char} (h : ShortEscape letter c) :
    shortEscape? letter = some c := by
  cases h <;> rfl

theorem ShortEscape.ne_u {letter c : Char} (h : ShortEscape letter c) : letter ≠ 'u' := by
  cases h <;> decide

theorem skipString_quote (rest : List Char) : skipString ('"' :: rest) = .ok rest := by
  rw [skipString.eq_def]
  rfl

theorem skipString_piece {piece : List Char} (h : StringPiece piece) (s : List Char) :
    skipString (piece ++ s) = skipString s := by
  cases h with
  | @plain c notQuote notBackslash notControl =>
      rw [List.singleton_append, skipString.eq_def]
      simp [notQuote, notBackslash, Nat.not_lt.mpr notControl]
  | @short letter c escape =>
      rw [List.cons_append, List.singleton_append, skipString.eq_def]
      simp [escape.ne_u, escape.shortEscape?]
  | @coded unit digits h =>
      rw [List.cons_append, List.cons_append, skipString.eq_def]
      simp only [Char.reduceEq, if_false, if_true]
      split
      · rename_i failed
        rw [readUnit_append h] at failed
        exact absurd failed (by simp)
      · rename_i taken
        rw [readUnit_append h] at taken
        simp only [Except.ok.injEq, Prod.mk.injEq] at taken
        rw [taken.2]

theorem skipString_append {pieces : List (List Char)} (h : ∀ piece ∈ pieces, StringPiece piece)
    (rest : List Char) : skipString (pieces.flatten ++ '"' :: rest) = .ok rest := by
  induction pieces with
  | nil => exact skipString_quote rest
  | cons piece others ih =>
      rw [List.flatten_cons, List.append_assoc, skipString_piece (h piece (by simp))]
      exact ih fun other member => h other (List.mem_cons_of_mem piece member)

/-! ## Numbers -/

/-- A text that does not go on with a digit. -/
def NoDigit (s : List Char) : Prop := ∀ c ∈ s.head?, isDigit c = false

theorem skipDigits_append {s rest : List Char} (digits : ∀ d ∈ s, isDigit d = true)
    (ended : NoDigit rest) : skipDigits (s ++ rest) = rest := by
  induction s with
  | nil =>
      cases rest with
      | nil => rfl
      | cons c tail => exact List.dropWhile_cons_of_neg (by simp [ended c (by simp)])
  | cons d tail ih =>
      rw [List.cons_append, skipDigits, List.dropWhile_cons_of_pos (digits d (by simp))]
      exact ih fun e he => digits e (List.mem_cons_of_mem d he)

/-- What ends a value goes on with none of the characters that a number may hold. -/
theorem Delimited.head {c : Char} {s : List Char} (h : Delimited (c :: s)) :
    isDigit c = false ∧ c ≠ '.' ∧ c ≠ 'e' ∧ c ≠ 'E' := by
  have cases : isBlank c = true ∨ c = ',' ∨ c = ']' ∨ c = '}' := h c (by simp)
  rw [isBlank_iff] at cases
  rcases cases with (rfl | rfl | rfl | rfl) | rfl | rfl | rfl <;> decide

theorem Delimited.noDigit {s : List Char} (h : Delimited s) : NoDigit s := by
  cases s with
  | nil => simp [NoDigit]
  | cons c tail => simpa [NoDigit] using h.head.1

theorem skipTail_append {exponent rest : List Char} (h : ExponentText exponent)
    (delimited : Delimited rest) : skipTail (exponent ++ rest) = .ok rest := by
  cases h with
  | none =>
      cases rest with
      | nil => rfl
      | cons c tail =>
          obtain ⟨-, -, small, capital⟩ := delimited.head
          rw [List.nil_append, skipTail]
          · intro tail' same
            exact small (List.cons.inj same).1
          · intro tail' same
            exact capital (List.cons.inj same).1
  | @digits mark c sign s marked signed first others =>
      have skipped : skipPower (sign ++ c :: (s ++ rest)) = .ok rest := by
        have notSign : c ≠ '+' ∧ c ≠ '-' := by
          constructor <;> (rintro rfl; exact absurd first (by decide))
        have behindSign : skipSign (sign ++ c :: (s ++ rest)) = c :: (s ++ rest) := by
          rcases signed with rfl | rfl | rfl
          · rw [List.nil_append, skipSign]
            · intro r same
              exact notSign.1 (List.cons.inj same).1
            · intro r same
              exact notSign.2 (List.cons.inj same).1
          · rfl
          · rfl
        rw [skipPower, behindSign]
        simp only [first, if_true]
        rw [skipDigits_append others delimited.noDigit]
      rcases marked with rfl | rfl <;> simpa [skipTail] using skipped

theorem exponent_noDigit {exponent rest : List Char} (h : ExponentText exponent)
    (delimited : Delimited rest) : NoDigit (exponent ++ rest) := by
  cases h with
  | none => exact delimited.noDigit
  | digits marked => rcases marked with rfl | rfl <;> simp [NoDigit] <;> decide

theorem skipAfterWhole_append {fraction exponent rest : List Char} (hf : FractionText fraction)
    (he : ExponentText exponent) (delimited : Delimited rest) :
    skipAfterWhole (fraction ++ (exponent ++ rest)) = .ok rest := by
  cases hf with
  | none =>
      rw [List.nil_append, skipAfterWhole]
      · exact skipTail_append he delimited
      · intro r same
        cases he with
        | none =>
            rw [List.nil_append] at same
            subst same
            exact delimited.head.2.1 rfl
        | digits marked => rcases marked with rfl | rfl <;> simp at same
  | @digits c s first others =>
      simp only [List.cons_append, skipAfterWhole, skipFraction, first, if_true]
      rw [skipDigits_append others (exponent_noDigit he delimited)]
      exact skipTail_append he delimited

theorem fraction_noDigit {fraction exponent rest : List Char} (hf : FractionText fraction)
    (he : ExponentText exponent) (delimited : Delimited rest) :
    NoDigit (fraction ++ (exponent ++ rest)) := by
  cases hf with
  | none => simpa using exponent_noDigit he delimited
  | digits => simp [NoDigit]; decide

theorem skipUnsigned_append {whole fraction exponent rest : List Char} (hw : WholeText whole)
    (hf : FractionText fraction) (he : ExponentText exponent) (delimited : Delimited rest) :
    skipUnsigned (whole ++ (fraction ++ (exponent ++ rest))) = .ok rest := by
  have skipped := skipAfterWhole_append hf he delimited
  have ended := fraction_noDigit hf he delimited
  cases hw with
  | zero =>
      rw [List.singleton_append, skipUnsigned.eq_def]
      cases behind : fraction ++ (exponent ++ rest) with
      | nil =>
          simp only [List.append_eq_nil_iff] at behind
          rw [behind.2.2]
          rfl
      | cons d tail =>
          rw [behind] at skipped ended
          simpa [ended d (by simp)] using skipped
  | @digits c s first nonzero others =>
      rw [List.cons_append, skipUnsigned.eq_def]
      simp only [nonzero, if_false, first, if_true]
      rw [skipDigits_append others ended]
      exact skipped

/-! ## Tokens -/

theorem digit_ne {c : Char} (h : isDigit c = true) :
    isBlank c = false ∧ c ≠ ',' ∧ c ≠ ']' ∧ c ≠ '}' ∧ c ≠ '[' ∧ c ≠ '{' ∧ c ≠ 'n' ∧ c ≠ 't' ∧
      c ≠ 'f' ∧ c ≠ '-' := by
  refine ⟨?_, ?_, ?_, ?_, ?_, ?_, ?_, ?_, ?_, ?_⟩
  · cases blank : isBlank c with
    | false => rfl
    | true =>
        rw [isBlank_iff] at blank
        rcases blank with rfl | rfl | rfl | rfl <;> exact absurd h (by decide)
  all_goals rintro rfl; exact absurd h (by decide)

theorem WholeText.head {s : List Char} (h : WholeText s) :
    ∃ c tail, s = c :: tail ∧ isDigit c = true := by
  cases h with
  | zero => exact ⟨'0', [], rfl, rfl⟩
  | @digits c tail first => exact ⟨c, tail, rfl, first⟩

theorem skipToken_number {s rest : List Char} (h : NumberText s) (delimited : Delimited rest) :
    skipToken (s ++ rest) = .ok (none, rest) := by
  obtain @⟨sign, whole, fraction, exponent, signed, hw, hf, he⟩ := h
  have skipped := skipUnsigned_append hw hf he delimited
  rcases signed with rfl | rfl
  · obtain ⟨c, tail, rfl, digit⟩ := hw.head
    obtain ⟨-, -, -, -, h₁, h₂, h₃, h₄, h₅, h₆⟩ := digit_ne digit
    simp only [List.nil_append, List.cons_append, List.append_assoc] at skipped ⊢
    simp [skipToken, skipScalar, h₁, h₂, h₃, h₄, h₅, h₆, digit, skipped]
  · simp only [List.cons_append, List.nil_append, List.append_assoc] at skipped ⊢
    simp [skipToken, skipScalar, skipped]

theorem skipToken_string {s : List Char} (h : StringToken s) (rest : List Char) :
    skipToken (s ++ rest) = .ok (none, rest) := by
  obtain ⟨pieces⟩ := h
  have skipped := skipString_append pieces rest
  have notDigit : isDigit '"' = false := rfl
  simp [skipToken, skipScalar, skipped, notDigit]

theorem NumberText.startsToken {s : List Char} (h : NumberText s) : StartsToken s := by
  obtain @⟨sign, whole, fraction, exponent, signed, hw, hf, he⟩ := h
  rcases signed with rfl | rfl
  · obtain ⟨c, tail, rfl, digit⟩ := hw.head
    obtain ⟨blank, comma, bracket, brace, -⟩ := digit_ne digit
    exact .intro blank comma bracket brace
  · exact .of_head (by decide) _

theorem StringToken.startsToken {s : List Char} (h : StringToken s) : StartsToken s := by
  cases h
  exact .of_head (by decide) _

theorem Bracketed.startsToken {opening closing : Char} {parts : List (List Char)} {s : List Char}
    (h : Bracketed opening closing parts s) (isOpening : opening = '[' ∨ opening = '{') :
    StartsToken s := by
  have starts : ∀ tail, StartsToken (opening :: tail) := by
    intro tail
    rcases isOpening with rfl | rfl
    · exact .of_head (by decide) tail
    · exact .of_head (by decide) tail
  cases h with
  | empty => exact starts _
  | parts => exact starts _

theorem WellFormed.startsToken {s : List Char} (h : WellFormed s) : StartsToken s := by
  cases h with
  | null | true | false => exact .of_head (by decide) _
  | number h => exact h.startsToken
  | string h => exact h.startsToken
  | array _ text => exact Bracketed.startsToken text (.inl rfl)
  | object _ _ _ text => exact text.startsToken (.inr rfl)

/-! ## Containers -/

theorem Bracket.close_ne_comma (b : Bracket) : b.close ≠ ',' := by
  cases b <;> decide

theorem skipNested_scalar {around : List Bracket} {s r : List Char}
    (token : skipToken (skipBlanks s) = .ok (none, r)) :
    skipNested .value around s = skipNested .separator around r := by
  rw [skipNested]
  split
  · rename_i failed
    rw [token] at failed
    cases failed
  · rename_i taken
    rw [token] at taken
    cases taken
    rfl
  · rename_i opened
    rw [token] at opened
    cases opened

theorem skipNested_empty (around : List Bracket) {b : Bracket} {s r r' : List Char}
    (token : skipToken (skipBlanks s) = .ok (some b, r)) (closed : skipBlanks r = b.close :: r') :
    skipNested .value around s = skipNested .separator around r' := by
  rw [skipNested]
  split
  · rename_i failed
    rw [token] at failed
    cases failed
  · rename_i scalar
    rw [token] at scalar
    cases scalar
  · rename_i opened
    rw [token] at opened
    cases opened
    split
    · rename_i ended
      rw [closed] at ended
      cases ended
    · rename_i found
      rw [closed] at found
      cases found
      rw [if_pos rfl]

theorem skipNested_open (around : List Bracket) {b : Bracket} {s r r' r'' : List Char} {c : Char}
    (token : skipToken (skipBlanks s) = .ok (some b, r)) (inner : skipBlanks r = c :: r')
    (notClosed : c ≠ b.close) (next : skipToValue b (c :: r') = .ok r'') :
    skipNested .value around s = skipNested .value (b :: around) r'' := by
  conv_lhs => rw [skipNested]
  split
  · rename_i failed
    rw [token] at failed
    cases failed
  · rename_i scalar
    rw [token] at scalar
    cases scalar
  · rename_i opened
    rw [token] at opened
    cases opened
    split
    · rename_i ended
      rw [inner] at ended
      cases ended
    · rename_i found
      rw [inner] at found
      cases found
      rw [if_neg notClosed]
      split
      · rename_i failed
        rw [next] at failed
        cases failed
      · rename_i taken
        rw [next] at taken
        cases taken
        rfl

theorem skipNested_comma {around : List Bracket} {b : Bracket} {s r r' : List Char}
    (comma : skipBlanks s = ',' :: r) (next : skipToValue b r = .ok r') :
    skipNested .separator (b :: around) s = skipNested .value (b :: around) r' := by
  conv_lhs => rw [skipNested]
  split
  · rename_i ended
    rw [comma] at ended
    exact absurd ended (by simp)
  · rename_i c tail found
    rw [comma] at found
    obtain ⟨rfl, rfl⟩ := List.cons.inj found
    rw [if_pos rfl]
    split
    · rename_i failed
      rw [next] at failed
      exact absurd failed (by simp)
    · rename_i taken
      rw [next] at taken
      rw [Except.ok.inj taken]

theorem skipNested_close {around : List Bracket} {b : Bracket} {s r : List Char}
    (closed : skipBlanks s = b.close :: r) :
    skipNested .separator (b :: around) s = skipNested .separator around r := by
  conv_lhs => rw [skipNested]
  split
  · rename_i ended
    rw [closed] at ended
    exact absurd ended (by simp)
  · rename_i c tail found
    rw [closed] at found
    obtain ⟨rfl, rfl⟩ := List.cons.inj found
    rw [if_neg b.close_ne_comma, if_pos rfl]

/-- The text of a part of a container is passed over, whatever is open around it. -/
structure SkipsPart (b : Bracket) (part : List Char) : Prop where
  starts : StartsToken part
  skips : ∀ {before rest : List Char} (around : List Bracket), Blank before → Delimited rest →
    ∃ r, skipToValue b (before ++ part ++ rest) = .ok r ∧
      skipNested .value (b :: around) r = skipNested .separator (b :: around) rest

/-- A comma or the closing bracket, with blanks before it, delimits. -/
theorem delimited_punctuation {blanks : List Char} {c : Char} (blank : Blank blanks)
    (h : c = ',' ∨ c = ']' ∨ c = '}') (rest : List Char) : Delimited (blanks ++ c :: rest) :=
  .blank_append blank (.cons (.inr h) rest)

theorem Bracket.close_delimits (b : Bracket) :
    b.close = ',' ∨ b.close = ']' ∨ b.close = '}' := by
  cases b <;> simp [Bracket.close]

/-- From the place where a part is due to the closing bracket. -/
theorem skipNested_listed {b : Bracket} {parts : List (List Char)} {s : List Char}
    (listed : Listed parts s) (skips : ∀ part ∈ parts, SkipsPart b part)
    (around : List Bracket) (rest : List Char) :
    ∃ r, skipToValue b (s ++ b.close :: rest) = .ok r ∧
      skipNested .value (b :: around) r = skipNested .separator around rest := by
  have notBlank : isBlank b.close = false := by cases b <;> decide
  induction listed with
  | @one before part after hb ha =>
      obtain ⟨r, taken, skipped⟩ := (skips part (by simp)).skips around hb
        (delimited_punctuation ha b.close_delimits rest)
      refine ⟨r, by simpa using taken, ?_⟩
      rw [skipped, skipNested_close]
      rw [skipBlanks_append ha, skipBlanks_cons notBlank]
  | @more before part after s parts hb ha others ih =>
      obtain ⟨r, taken, skipped⟩ := (skips part (by simp)).skips around hb
        (delimited_punctuation ha (.inl rfl) (s ++ b.close :: rest))
      obtain ⟨r', taken', skipped'⟩ :=
        ih fun other member => skips other (List.mem_cons_of_mem part member)
      refine ⟨r, by simpa using taken, ?_⟩
      rw [skipped, skipNested_comma _ taken', skipped']
      rw [skipBlanks_append ha, skipBlanks_cons rfl]

/-- A container is passed over once each of its parts is. -/
theorem skipNested_bracketed {b : Bracket} {opening : Char} {parts : List (List Char)}
    {before s rest : List Char} (bracketed : Bracketed opening b.close parts s)
    (opens : ∀ tail, skipToken (opening :: tail) = .ok (some b, tail))
    (notBlank : isBlank opening = false) (skips : ∀ part ∈ parts, SkipsPart b part)
    (blank : Blank before) (around : List Bracket) :
    skipNested .value around (before ++ s ++ rest) = skipNested .separator around rest := by
  have token : ∀ tail, skipToken (skipBlanks (before ++ opening :: tail)) = .ok (some b, tail) := by
    intro tail
    rw [skipBlanks_append blank, skipBlanks_cons notBlank]
    exact opens tail
  cases bracketed with
  | @empty blanks h =>
      have closed : skipBlanks (blanks ++ b.close :: rest) = b.close :: rest := by
        rw [skipBlanks_append h, skipBlanks_cons (by cases b <;> decide)]
      simpa using skipNested_empty around (token _) closed
  | @parts parts s listed =>
      -- The first part starts behind the blanks, and does not look like the closing bracket.
      obtain ⟨blanks, trimmed, hb, rfl, listed, starts⟩ :=
        listed.trim fun part member => (skips part member).starts
      obtain ⟨r, taken, skipped⟩ := skipNested_listed listed skips around rest
      obtain @⟨c, tail, notBlank, notComma, notBracket, notBrace⟩ := starts
      have inner : skipBlanks (blanks ++ (c :: tail ++ b.close :: rest)) =
          c :: (tail ++ b.close :: rest) := by
        rw [skipBlanks_append hb, List.cons_append, skipBlanks_cons notBlank]
      have notClosed : c ≠ b.close := by cases b <;> assumption
      have opened := skipNested_open around (token _) inner notClosed taken
      rw [skipped] at opened
      simpa using opened

theorem skipsPart_value {v : List Char} (starts : StartsToken v)
    (skips : ∀ {before rest : List Char} (around : List Bracket), Blank before → Delimited rest →
      skipNested .value around (before ++ v ++ rest) = skipNested .separator around rest) :
    SkipsPart .list v where
  starts := starts
  skips around blank delimited := ⟨_, rfl, skips (.list :: around) blank delimited⟩

theorem skipColon_append {blanks : List Char} (h : Blank blanks) (s : List Char) :
    skipColon (blanks ++ ':' :: s) = .ok s := by
  rw [skipColon, skipBlanks_append h, skipBlanks_cons rfl]
  rfl

theorem skipsPart_member {key v part : List Char} (member : MemberText key v part)
    (isKey : StringToken key)
    (skips : ∀ {before rest : List Char} (around : List Bracket), Blank before → Delimited rest →
      skipNested .value around (before ++ v ++ rest) = skipNested .separator around rest) :
    SkipsPart .object part := by
  obtain @⟨blanks, after, hb, ha⟩ := member
  obtain @⟨pieces, spelled⟩ := isKey
  constructor
  · exact .of_head (by decide) _
  · intro before rest around blank delimited
    -- Behind the key and the colon the value is due, with the object open around it.
    refine ⟨after ++ v ++ rest, ?_, skips (.object :: around) ha delimited⟩
    have behindKey := skipString_append spelled (blanks ++ ':' :: (after ++ v ++ rest))
    have behindColon := skipColon_append hb (after ++ v ++ rest)
    simp only [List.append_assoc, List.cons_append, List.nil_append] at behindKey behindColon ⊢
    simp [skipToValue, skipKey, skipBlanks_append blank, skipBlanks_cons, isBlank, behindKey,
      behindColon]

/-- A value of any kind and any depth is passed over, whatever is open around it. -/
theorem skipNested_wellFormed {v : List Char} (h : WellFormed v) {before rest : List Char}
    (around : List Bracket) (blank : Blank before) (delimited : Delimited rest) :
    skipNested .value around (before ++ v ++ rest) = skipNested .separator around rest := by
  -- Over the grammar: a token is skipped at once, a container once each of its parts is.
  induction h generalizing before rest around with
  | null | true | false =>
      rw [List.append_assoc]
      refine skipNested_scalar ?_
      rw [skipBlanks_append blank]
      simp [skipBlanks, isBlank, skipToken, skipScalar, readLiteral]
  | number h =>
      refine skipNested_scalar ?_
      rw [h.startsToken.skipBlanks_append blank]
      exact skipToken_number h delimited
  | string h =>
      refine skipNested_scalar ?_
      rw [h.startsToken.skipBlanks_append blank]
      exact skipToken_string h rest
  | array values text ih =>
      exact skipNested_bracketed (b := .list) text (fun _ => rfl) rfl
        (fun item member => skipsPart_value (values item member).startsToken (ih item member))
        blank around
  | @object members parts s keys values spelled text ih =>
      have skips : ∀ part ∈ parts, SkipsPart .object part := by
        intro part member
        obtain ⟨i, hi, rfl⟩ := List.getElem_of_mem member
        have bound : i < members.length := by
          rw [spelled.length_eq]
          exact hi
        have inMembers := List.getElem_mem bound
        exact skipsPart_member (spelled.get bound hi) (keys _ inMembers) (ih _ inMembers)
      exact skipNested_bracketed (b := .object) text (fun _ => rfl) rfl skips blank around

/-- A value behind blanks is passed over. -/
theorem skipValue_wellFormed {v before rest : List Char} (h : WellFormed v) (blank : Blank before)
    (delimited : Delimited rest) : skipValue (before ++ v ++ rest) = .ok rest := by
  rw [skipValue, skipNested_wellFormed h [] blank delimited]
  rw [skipNested]

end LuaBindings.Json
