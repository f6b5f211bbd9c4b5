import LuaBindings.Proofs.Json.Reading
/-!
# Strings that were read

A string that can be read ends where the grammar ends it, and the text before its closing quote
spells what was read: readers take no escape for another one. So a token spells one string at most,
and whether a key goes by some name can be told from its text.
-/

namespace LuaBindings.Json

/-! ## Escapes -/

/-- A character between two others stands by its distance from the first. -/
theorem eq_ofNat_of_between {low high c : Char} (h : (low ≤ c && c ≤ high) = true) :
    c.toNat - low.toNat ≤ high.toNat - low.toNat ∧
      c = Char.ofNat (low.toNat + (c.toNat - low.toNat)) := by
  rw [Bool.and_eq_true, decide_eq_true_eq, decide_eq_true_eq] at h
  have above : low.toNat ≤ c.toNat := h.1
  have below : c.toNat ≤ high.toNat := h.2
  refine ⟨by omega, ?_⟩
  rw [Nat.add_sub_cancel' above, Char.ofNat_toNat]

theorem HexDigit.of_digitIn {value : Nat} {c : Char} (h : Text.digitIn? 16 c = some value) :
    HexDigit value c := by
  have decimal : ∀ v ≤ 9, HexDigit v (Char.ofNat ('0'.toNat + v)) := by decide
  have lower : ∀ v ≤ 5, HexDigit (v + 10) (Char.ofNat ('a'.toNat + v)) := by decide
  have upper : ∀ v ≤ 5, HexDigit (v + 10) (Char.ofNat ('A'.toNat + v)) := by decide
  have digit := (Option.filter_eq_some_iff.mp h).1
  unfold Text.hexDigit? at digit
  split at digit
  · rename_i between
    obtain ⟨few, same⟩ := eq_ofNat_of_between between
    cases digit
    have found := decimal _ few
    rwa [← same] at found
  · split at digit
    · rename_i between
      obtain ⟨few, same⟩ := eq_ofNat_of_between between
      cases digit
      have found := lower _ few
      rwa [← same] at found
    · split at digit
      · rename_i between
        obtain ⟨few, same⟩ := eq_ofNat_of_between between
        cases digit
        have found := upper _ few
        rwa [← same] at found
      · cases digit

/-- An escape by code that was read starts with four digits. -/
theorem unitText_of_readUnit {s r : List Char} {unit : Nat} (h : readUnit s = .ok (unit, r)) :
    ∃ digits, UnitText unit digits ∧ s = digits ++ r := by
  unfold readUnit at h
  split at h
  · rename_i a b c d tail
    split at h
    · rename_i value number
      cases h
      simp only [Text.number?, List.foldlM_cons, List.foldlM_nil, Option.bind_eq_bind,
        Option.bind_eq_some_iff, Option.map_eq_some_iff, Option.pure_def, Option.some.injEq] at number
      obtain ⟨_, ⟨v₁, h₁, rfl⟩, _, ⟨v₂, h₂, rfl⟩, _, ⟨v₃, h₃, rfl⟩, _, ⟨v₄, h₄, rfl⟩, rfl⟩ := number
      refine ⟨[a, b, c, d], ?_, rfl⟩
      have digits : UnitText (((v₁ * 16 + v₂) * 16 + v₃) * 16 + v₄) [a, b, c, d] :=
        .digits (.of_digitIn h₁) (.of_digitIn h₂) (.of_digitIn h₃) (.of_digitIn h₄)
      convert digits using 1
      omega
    · cases h
  · split at h <;> cases h

theorem ShortEscape.of_letter {letter c : Char} (h : Json.shortEscape? letter = some c) :
    ShortEscape letter c := by
  unfold Json.shortEscape? at h
  split at h <;> cases h <;> constructor

theorem toNat_ofNat {n : Nat} (h : n < 0xD800 ∨ 0xDFFF < n ∧ n < 0x110000) :
    (Char.ofNat n).toNat = n := by
  rw [Char.ofNat, dif_pos (show n.isValidChar from h)]
  rfl

theorem UnitText.lt {unit : Nat} {digits : List Char} (h : UnitText unit digits) :
    unit < 0x10000 := by
  have few : ∀ {value : Nat} {c : Char}, HexDigit value c → value < 16 := by
    rintro value c (found | found)
    · exact (List.getElem?_eq_some_iff.mp found).1
    · exact (List.getElem?_eq_some_iff.mp found).1
  obtain ⟨h₁, h₂, h₃, h₄⟩ := h
  have := few h₁
  have := few h₂
  have := few h₃
  have := few h₄
  omega

/-- Two units of a pair are those of the character that they stand for. -/
theorem units_pairedChar {lead trail : Nat} (leads : isLeadUnit lead = true)
    (trails : isTrailUnit trail = true) :
    0x10000 ≤ (pairedChar lead trail).toNat ∧ leadUnit (pairedChar lead trail) = lead ∧
      trailUnit (pairedChar lead trail) = trail := by
  rw [isLeadUnit_iff] at leads
  rw [isTrailUnit_iff] at trails
  have whole : (pairedChar lead trail).toNat =
      0x10000 + (lead - 0xD800) * 0x400 + (trail - 0xDC00) := toNat_ofNat (by omega)
  rw [leadUnit, trailUnit, whole]
  omega

/-- The second unit of a pair that was read completes a character. -/
theorem charText_of_readTrail {lead : Nat} {digits s r : List Char} {c : Char}
    (leads : isLeadUnit lead = true) (isUnit : UnitText lead digits)
    (h : readTrail lead s = .ok (c, r)) :
    ∃ piece, CharText c ('\\' :: 'u' :: (digits ++ piece)) ∧ s = piece ++ r := by
  unfold readTrail at h
  split at h
  any_goals cases h
  split at h
  · cases h
  · rename_i trail after read
    obtain ⟨digits', isUnit', rfl⟩ := unitText_of_readUnit read
    split at h
    · rename_i trails
      obtain ⟨rfl, rfl⟩ := Prod.mk.inj (Except.ok.inj h)
      obtain ⟨beyond, same, same'⟩ := units_pairedChar leads trails
      rw [← same] at isUnit
      rw [← same'] at isUnit'
      exact ⟨'\\' :: 'u' :: digits', .paired beyond isUnit isUnit', rfl⟩
    · cases h

/-- One unit that was read is a character, or the first of a pair. -/
theorem charText_of_readCoded {s r : List Char} {c : Char} (h : readCoded s = .ok (c, r)) :
    ∃ piece, CharText c ('\\' :: 'u' :: piece) ∧ s = piece ++ r := by
  unfold readCoded at h
  split at h
  · cases h
  · rename_i unit after read
    obtain ⟨digits, isUnit, rfl⟩ := unitText_of_readUnit read
    split at h
    · cases h
    · rename_i notTrail
      split at h
      · rename_i leads
        obtain ⟨piece, spells, rfl⟩ := charText_of_readTrail leads isUnit h
        exact ⟨digits ++ piece, spells, by simp⟩
      · rename_i notLead
        obtain ⟨rfl, rfl⟩ := Prod.mk.inj (Except.ok.inj h)
        rw [isTrailUnit_iff] at notTrail
        rw [isLeadUnit_iff] at notLead
        have few := isUnit.lt
        have same : (Char.ofNat unit).toNat = unit := toNat_ofNat (by omega)
        exact ⟨digits, .coded (same.symm ▸ isUnit), rfl⟩

/-- An escape that was read spells the character. -/
theorem charText_of_readEscape {s r : List Char} {c : Char} (h : readEscape s = .ok (c, r)) :
    ∃ piece, CharText c ('\\' :: piece) ∧ s = piece ++ r := by
  unfold readEscape at h
  split at h
  · cases h
  · rename_i letter tail
    split at h
    · rename_i isU
      subst isU
      obtain ⟨piece, spells, rfl⟩ := charText_of_readCoded h
      exact ⟨'u' :: piece, spells, rfl⟩
    · split at h
      · rename_i e short
        cases h
        exact ⟨[letter], .short (.of_letter short), rfl⟩
      · cases h

/-! ## Whole strings -/

/-- A string that was read is spelled by the text before its closing quote. -/
theorem charTexts_of_readString {seen s r : List Char} {t : String}
    (h : readString seen s = .ok (t, r)) :
    ∃ chars pieces, List.Forall₂ CharText chars pieces ∧ t = String.ofList (seen.reverse ++ chars) ∧
      s = pieces.flatten ++ '"' :: r := by
  fun_induction readString seen s with
  | case1 => cases h
  | case2 seen tail =>
      cases h
      exact ⟨[], [], .nil, by simp, rfl⟩
  | case3 => cases h
  | case4 seen tail e after taken _ ih =>
      obtain ⟨chars, pieces, spelled, rfl, rfl⟩ := ih h
      obtain ⟨piece, isChar, rfl⟩ := charText_of_readEscape taken
      exact ⟨e :: chars, _ :: pieces, .cons isChar spelled, by simp, by simp⟩
  | case5 => cases h
  | case6 seen c tail notQuote notBackslash notControl ih =>
      obtain ⟨chars, pieces, spelled, rfl, rfl⟩ := ih h
      have isChar : CharText c [c] := .plain notQuote notBackslash (Nat.not_lt.mp notControl)
      exact ⟨c :: chars, _ :: pieces, .cons isChar spelled, by simp, by simp⟩

/-- The spelling of a character consists of parts that stand for themselves: a pair has two. -/
theorem CharText.parts {c : Char} {piece : List Char} (h : CharText c piece) :
    ∃ parts : List (List Char),
      (∀ part ∈ parts, StringPiece part) ∧ parts.flatten = piece := by
  cases h with
  | plain notQuote notBackslash notControl =>
      exact ⟨[_], List.forall_mem_singleton.mpr (.plain notQuote notBackslash notControl), by simp⟩
  | short escape => exact ⟨[_], List.forall_mem_singleton.mpr (.short escape), by simp⟩
  | coded unit => exact ⟨[_], List.forall_mem_singleton.mpr (.coded unit), by simp⟩
  | paired _ leads trails =>
      exact ⟨[_, _], List.forall_mem_cons.mpr
        ⟨.coded leads, List.forall_mem_singleton.mpr (.coded trails)⟩, by simp⟩

/-- So does the spelling of a string. -/
theorem charTexts_parts {chars : List Char} {pieces : List (List Char)}
    (spelled : List.Forall₂ CharText chars pieces) :
    ∃ parts : List (List Char),
      (∀ part ∈ parts, StringPiece part) ∧ parts.flatten = pieces.flatten := by
  induction spelled with
  | nil => exact ⟨[], List.forall_mem_nil _, rfl⟩
  | cons isChar _ ih =>
      obtain ⟨parts, areParts, same⟩ := isChar.parts
      obtain ⟨others, areOthers, same'⟩ := ih
      refine ⟨parts ++ others, List.forall_mem_append.mpr ⟨areParts, areOthers⟩, ?_⟩
      rw [List.flatten_append, List.flatten_cons, same, same']

/-- A spelling of a string is a string by its grammar. -/
theorem StringText.token {t : String} {s : List Char} (h : StringText t s) : StringToken s := by
  obtain ⟨spelled⟩ := h
  obtain ⟨parts, areParts, same⟩ := charTexts_parts spelled
  rw [← same]
  exact .intro areParts

/-- A string that can be read is passed over to where it ends. -/
theorem skipString_of_readString {seen s r : List Char} {t : String}
    (h : readString seen s = .ok (t, r)) : skipString s = .ok r := by
  obtain ⟨_, _, spelled, -, rfl⟩ := charTexts_of_readString h
  obtain ⟨parts, areParts, same⟩ := charTexts_parts spelled
  rw [← same]
  exact skipString_append areParts r

/-- A string token that is read is read whole, and spells what is read. -/
theorem StringToken.of_readString {token : List Char} (h : StringToken token) :
    ∃ tail, token = '"' :: tail ∧ ∀ {rest r : List Char} {t : String},
      readString [] (tail ++ rest) = .ok (t, r) → r = rest ∧ StringText t token := by
  obtain @⟨pieces, arePieces⟩ := h
  refine ⟨_, rfl, ?_⟩
  intro rest r t read
  rw [List.append_assoc, List.singleton_append] at read
  have same : r = rest :=
    Except.ok.inj ((skipString_of_readString read).symm.trans (skipString_append arePieces rest))
  obtain ⟨chars, spelling, spelled, rfl, split⟩ := charTexts_of_readString read
  rw [same] at split
  rw [List.append_cancel_right split]
  refine ⟨same, .intro ?_⟩
  simpa using spelled

/-- A token spells one string. -/
theorem StringText.unique {a b : String} {token : List Char} (ha : StringText a token)
    (hb : StringText b token) : a = b := by
  obtain ⟨tail, rfl, read⟩ := ha.readString []
  obtain ⟨tail', same, read'⟩ := hb.readString []
  cases same
  cases read.symm.trans read'
  rfl

/-! ## Spelled members -/

/-- The members of an object as they stand in its text, for those that they spell. -/
def MemberTokens (members : List (String × List Char))
    (tokens : List (List Char × List Char)) : Prop :=
  List.Forall₂ (fun m token => StringText m.1 token.1 ∧ token.2 = m.2) members tokens

/-- An object with given keys is an object by its grammar. -/
theorem ObjectText.objectOf {members : List (String × List Char)} {s : List Char}
    (h : ObjectText members s) (values : ∀ m ∈ members, WellFormed m.2) :
    ∃ tokens, MemberTokens members tokens ∧ ObjectOf tokens s := by
  obtain @⟨parts, _, spelled, bracketed⟩ := h
  suffices split : ∃ tokens : List (List Char × List Char), MemberTokens members tokens ∧
      (∀ token ∈ tokens, StringToken token.1) ∧ (∀ token ∈ tokens, WellFormed token.2) ∧
      List.Forall₂ (fun token part => MemberText token.1 token.2 part) tokens parts by
    obtain ⟨tokens, same, keys, others, texts⟩ := split
    exact ⟨tokens, same, keys, others, parts, texts, bracketed⟩
  clear bracketed
  induction spelled with
  | nil => exact ⟨[], .nil, List.forall_mem_nil _, List.forall_mem_nil _, .nil⟩
  | @cons m part members parts isMember _ ih =>
      rw [List.forall_mem_cons] at values
      obtain ⟨key, spells, member⟩ := isMember
      obtain ⟨tokens, later, keys, others, texts⟩ := ih values.2
      exact ⟨(key, m.2) :: tokens, .cons ⟨spells, rfl⟩ later,
        List.forall_mem_cons.mpr ⟨spells.token, keys⟩,
        List.forall_mem_cons.mpr ⟨values.1, others⟩, .cons member texts⟩

end LuaBindings.Json
