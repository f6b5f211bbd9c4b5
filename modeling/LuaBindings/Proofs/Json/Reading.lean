import LuaBindings.Proofs.Json.Containers
/-!
# Reading well-formed values

A reader accepts every spelling of its values: behind any blanks, and before anything that ends a
value. Each reader of the library has its rule here, from the text of a value to the value; the
rules of containers take the rules of their parts.
-/

namespace LuaBindings.Json

variable {α β σ τ : Type}

/-- A text that a reader takes for a value. -/
structure Reads (p : Reader Failure α) (v : List Char) (a : α) : Prop where
  starts : StartsToken v
  reads : ∀ {before rest : List Char}, Blank before → Delimited rest →
    p.read (before ++ v ++ rest) = .ok (a, rest)

theorem Reads.map {p : Reader Failure α} {v : List Char} {a : α} (h : Reads p v a) (f : α → β) :
    Reads (p.map f) v (f a) where
  starts := h.starts
  reads blank delimited := by
    rw [Reader.read_map, h.reads blank delimited]
    rfl

/-! ## Strings -/

theorem toNat_range (c : Char) :
    c.toNat < 0xD800 ∨ 0xDFFF < c.toNat ∧ c.toNat < 0x110000 := c.valid

theorem isLeadUnit_iff {unit : Nat} : isLeadUnit unit = true ↔ 0xD800 ≤ unit ∧ unit ≤ 0xDBFF := by
  simp [isLeadUnit]

theorem isTrailUnit_iff {unit : Nat} :
    isTrailUnit unit = true ↔ 0xDC00 ≤ unit ∧ unit ≤ 0xDFFF := by
  simp [isTrailUnit]

/-- The first unit of a pair is not mistaken for a second one, and the second one is. -/
theorem pair_units {c : Char} (beyond : 0x10000 ≤ c.toNat) :
    isTrailUnit (leadUnit c) = false ∧ isLeadUnit (leadUnit c) = true ∧
      isTrailUnit (trailUnit c) = true := by
  have range := toNat_range c
  rw [← Bool.not_eq_true, isTrailUnit_iff, isLeadUnit_iff, isTrailUnit_iff, leadUnit, trailUnit]
  omega

theorem pairedChar_units {c : Char} (beyond : 0x10000 ≤ c.toNat) :
    pairedChar (leadUnit c) (trailUnit c) = c := by
  have whole : 0x10000 + (leadUnit c - 0xD800) * 0x400 + (trailUnit c - 0xDC00) = c.toNat := by
    simp only [leadUnit, trailUnit]
    omega
  rw [pairedChar, whole, Char.ofNat_toNat]

theorem readCoded_append {c : Char} {digits : List Char} (unit : UnitText c.toNat digits)
    (rest : List Char) : readCoded (digits ++ rest) = .ok (c, rest) := by
  have alone : isTrailUnit c.toNat = false ∧ isLeadUnit c.toNat = false := by
    have range := toNat_range c
    rw [← Bool.not_eq_true, ← Bool.not_eq_true, isTrailUnit_iff, isLeadUnit_iff]
    omega
  rw [readCoded, readUnit_append unit]
  simp [alone.1, alone.2]

theorem readCoded_pair {c : Char} {lead trail : List Char} (beyond : 0x10000 ≤ c.toNat)
    (leads : UnitText (leadUnit c) lead) (trails : UnitText (trailUnit c) trail)
    (rest : List Char) :
    readCoded (lead ++ '\\' :: 'u' :: (trail ++ rest)) = .ok (c, rest) := by
  obtain ⟨notTrail, isLead, isTrail⟩ := pair_units beyond
  rw [readCoded, readUnit_append leads]
  simp [notTrail, isLead, readTrail, readUnit_append trails, isTrail, pairedChar_units beyond]

theorem readString_escape {seen s r : List Char} {c : Char} (h : readEscape s = .ok (c, r)) :
    readString seen ('\\' :: s) = readString (c :: seen) r := by
  rw [readString.eq_def]
  simp only [Char.reduceEq, if_false, if_true]
  split
  · rename_i failed
    rw [h] at failed
    exact absurd failed (by simp)
  · rename_i taken
    rw [h] at taken
    obtain ⟨rfl, rfl⟩ := Prod.mk.inj (Except.ok.inj taken)
    rfl

theorem readString_char {c : Char} {piece : List Char} (h : CharText c piece)
    (seen s : List Char) : readString seen (piece ++ s) = readString (c :: seen) s := by
  cases h with
  | plain notQuote notBackslash notControl =>
      rw [List.singleton_append, readString.eq_def]
      simp [notQuote, notBackslash, Nat.not_lt.mpr notControl]
  | short escape =>
      refine readString_escape ?_
      simp [readEscape, escape.ne_u, escape.shortEscape?]
  | coded unit =>
      refine readString_escape ?_
      simp [readEscape, readCoded_append unit]
  | paired beyond leads trails =>
      refine readString_escape ?_
      simp [readEscape, readCoded_pair beyond leads trails]

theorem readString_append {chars : List Char} {pieces : List (List Char)}
    (spelled : List.Forall₂ CharText chars pieces) (seen rest : List Char) :
    readString seen (pieces.flatten ++ '"' :: rest) =
      .ok (String.ofList (seen.reverse ++ chars), rest) := by
  induction spelled generalizing seen with
  | nil =>
      rw [List.flatten_nil, List.nil_append, readString.eq_def, List.append_nil]
      rfl
  | cons head others ih =>
      rw [List.flatten_cons, List.append_assoc, readString_char head, ih]
      simp

/-- A string from behind its opening quote. -/
theorem StringText.readString {t : String} {s : List Char} (h : StringText t s)
    (rest : List Char) :
    ∃ tail, s = '"' :: tail ∧ readString [] (tail ++ rest) = .ok (t, rest) := by
  obtain @⟨pieces, spelled⟩ := h
  refine ⟨pieces.flatten ++ ['"'], rfl, ?_⟩
  rw [List.append_assoc, List.singleton_append, readString_append spelled]
  simp

theorem StringText.startsToken {t : String} {s : List Char} (h : StringText t s) :
    StartsToken s := by
  cases h
  exact .of_head (by decide) _

theorem reads_string {t : String} {s : List Char} (h : StringText t s) : Reads string s t where
  starts := h.startsToken
  reads {before rest} blank _ := by
    obtain ⟨tail, rfl, read⟩ := h.readString rest
    rw [string]
    simp only [h.startsToken.skipBlanks_append blank, List.cons_append]
    exact read

theorem reads_null : Reads optionalString ['n', 'u', 'l', 'l'] none where
  starts := .of_head (by decide) _
  reads {before rest} blank _ := by
    have start : skipBlanks (before ++ ['n', 'u', 'l', 'l'] ++ rest) =
        'n' :: 'u' :: 'l' :: 'l' :: rest := by
      rw [List.append_assoc, skipBlanks_append blank]
      exact skipBlanks_cons rfl _
    rw [optionalString]
    simp only [start]
    rfl

theorem reads_some {t : String} {s : List Char} (h : StringText t s) :
    Reads optionalString s (some t) where
  starts := h.startsToken
  reads {before rest} blank delimited := by
    have read : string.read ([] ++ s ++ rest) = .ok (t, rest) :=
      (reads_string h).reads .nil delimited
    obtain ⟨tail, rfl, -⟩ := h.readString rest
    rw [List.nil_append, List.cons_append] at read
    rw [optionalString]
    simp only [h.startsToken.skipBlanks_append blank, List.cons_append]
    split
    · rename_i isNull
      exact absurd (List.cons.inj isNull).1 (by decide)
    · rw [read]

/-! ## Sequences -/

/-- From the place where an element is due to the text behind the closing bracket. -/
theorem readElements_pending {item : Reader Failure α} {parts : List (List Char)} {all : List α}
    (reads : List.Forall₂ (Reads item) parts all) {first : Bool} {seen : List α}
    {u rest : List Char} (pending : Pending ']' rest first parts u) :
    readElements item first seen u = .ok (seen.reverse ++ all, rest) := by
  induction reads generalizing first seen u with
  | nil => rw [readElements_end (nextElement_none pending), List.append_nil]
  | @cons part a parts all read _ ih =>
      obtain ⟨later, next, others⟩ := nextElement_some pending read.starts
      have taken : item.read (part ++ later) = .ok (a, later) :=
        read.reads .nil (others.delimited (.inl rfl))
      rw [readElements_more next taken, ih others]
      simp

theorem reads_sequence {item : Reader Failure α} {parts : List (List Char)} {s : List Char}
    (text : ArrayText parts s) {all : List α} (reads : List.Forall₂ (Reads item) parts all) :
    Reads (sequence item) s all where
  starts := Bracketed.startsToken text (.inl rfl)
  reads {before rest} blank _ := by
    have start : skipBlanks (before ++ s ++ rest) = s ++ rest :=
      (Bracketed.startsToken text (.inl rfl)).skipBlanks_append blank rest
    obtain ⟨tail, rfl, pending⟩ := Bracketed.pending text
    rw [List.cons_append] at start
    rw [sequence]
    simp only [start]
    exact readElements_pending reads (pending rest)

/-! ## Members -/

/-- A member that takes one draft to the next: its key, and the text of its value. -/
structure ReadsMember (member : String → σ → Reader Failure σ) (key : String) (v : List Char)
    (draft draft' : σ) : Prop where
  starts : StartsToken v
  reads : ∀ {before after rest : List Char}, Blank before → Blank after → Delimited rest →
    (member key draft).read (before ++ ':' :: (after ++ v ++ rest)) = .ok (draft', rest)

/-- The members of an object, one after another. -/
inductive ReadsMembers (member : String → σ → Reader Failure σ) :
    List (String × List Char) → σ → σ → Prop
  | nil (draft : σ) : ReadsMembers member [] draft draft
  | cons {key : String} {v : List Char} {others : List (String × List Char)}
      {draft draft' final : σ} (head : ReadsMember member key v draft draft')
      (tail : ReadsMembers member others draft' final) :
      ReadsMembers member ((key, v) :: others) draft final

/-- How the part of a member starts, and what is left behind its key. -/
theorem readKey_member {key : String} {text v part : List Char} (h : StringText key text)
    (member : MemberText text v part) (rest : List Char) :
    ∃ blanks after, Blank blanks ∧ Blank after ∧
      readKey (part ++ rest) = .ok (some key, blanks ++ ':' :: (after ++ v ++ rest)) := by
  obtain @⟨blanks, after, hb, ha⟩ := member
  obtain ⟨tail, rfl, read⟩ := h.readString (blanks ++ ':' :: (after ++ v ++ rest))
  refine ⟨blanks, after, hb, ha, ?_⟩
  simp only [List.append_assoc, List.cons_append] at read ⊢
  rw [readKey, read]

theorem member_startsToken {key : String} {text v part : List Char} (h : StringText key text)
    (member : MemberText text v part) : StartsToken part := by
  obtain ⟨hb, ha⟩ := member
  exact h.startsToken.append _

/-- The parts of an object are its members. -/
abbrev SpelledMembers (members : List (String × List Char)) (parts : List (List Char)) : Prop :=
  List.Forall₂ (fun member part => ∃ key, StringText member.1 key ∧ MemberText key member.2 part)
    members parts

/-- From the place where a key is due to the text behind the closing bracket. -/
theorem readMembers_pending {member : String → σ → Reader Failure σ} {parts : List (List Char)}
    {members : List (String × List Char)} (spelled : SpelledMembers members parts)
    {draft final : σ} (reads : ReadsMembers member members draft final) {first : Bool}
    {u rest : List Char} (pending : Pending '}' rest first parts u) :
    readMembers member first draft u = .ok (final, rest) := by
  induction spelled generalizing draft first u with
  | nil =>
      cases reads
      exact readMembers_end (readNextKey_none pending)
  | cons head _ ih =>
      obtain _ | ⟨read, later⟩ := reads
      obtain ⟨text, isKey, isMember⟩ := head
      obtain ⟨behind, next, others⟩ := readNextKey_some pending (member_startsToken isKey isMember)
      obtain ⟨blanks, after, hb, ha, key⟩ := readKey_member isKey isMember behind
      rw [key] at next
      rw [readMembers_more next (read.reads hb ha (others.delimited (.inr rfl))), ih later others]

theorem ObjectText.startsToken {members : List (String × List Char)} {s : List Char}
    (h : ObjectText members s) : StartsToken s := by
  obtain ⟨_, bracketed⟩ := h
  exact bracketed.startsToken (.inr rfl)

/-- An object from behind its opening bracket. -/
theorem ObjectText.readMembers {members : List (String × List Char)} {s : List Char}
    (h : ObjectText members s) {member : String → σ → Reader Failure σ} {draft final : σ}
    (reads : ReadsMembers member members draft final) (rest : List Char) :
    ∃ tail, s = '{' :: tail ∧ readMembers member true draft (tail ++ rest) = .ok (final, rest) := by
  obtain ⟨spelled, bracketed⟩ := h
  obtain ⟨tail, rfl, pending⟩ := bracketed.pending
  exact ⟨tail, rfl, readMembers_pending spelled reads (pending rest)⟩

/-! ## Maps -/

/-- The entries of a map, each the key of a member with the value of its text. -/
theorem reads_entries {value : Reader Failure α} {members : List (String × List Char)}
    {s : List Char} (text : ObjectText members s) {all : List (String × α)}
    (reads : List.Forall₂ (fun member entry => member.1 = entry.1 ∧ Reads value member.2 entry.2)
      members all) : Reads (entries value) s all where
  starts := text.startsToken
  reads {before rest} blank _ := by
    let member (key : String) (seen : List (String × α)) : Reader Failure (List (String × α)) :=
      (colon.bind fun _ => value).map fun v => (key, v) :: seen
    -- What has been seen is kept in reverse, so the draft grows at its front.
    have steps : ∀ seen, ReadsMembers member members seen (all.reverse ++ seen) := by
      clear text
      induction reads with
      | nil => exact fun seen => .nil seen
      | @cons m entry ms es head _ ih =>
          intro seen
          obtain ⟨sameKey, read⟩ := head
          have step : ReadsMember member m.1 m.2 seen (entry :: seen) := by
            refine ⟨read.starts, fun hb ha delimited => ?_⟩
            simp only [member, Reader.read_map, Reader.read_bind, colon, skipColon_append hb,
              Except.bind, read.reads ha delimited, Except.map, sameKey]
          have later := ih (entry :: seen)
          rw [List.reverse_cons, List.append_assoc]
          exact .cons step later
    obtain ⟨tail, rfl, read⟩ := text.readMembers (steps []) rest
    rw [entries]
    simp only [text.startsToken.skipBlanks_append blank, List.cons_append]
    simp [member] at read
    simp [read]

/-! ## Records -/

/-- A known field that is still empty takes its value into the draft. -/
theorem readsMember_field {format : RecordFormat σ α} {key : String} {field : Field σ}
    {p : Reader Failure β} {set : β → σ} {v : List Char} {draft draft' : σ} {b : β}
    (known : format.fields.find? (·.name = key) = some field)
    (empty : field.isFilled draft = false) (fill : field.fill draft = p.map set)
    (read : Reads p v b) (filled : set b = draft') :
    ReadsMember format.member key v draft draft' where
  starts := read.starts
  reads hb ha delimited := by
    rw [RecordFormat.member, known]
    simp only [empty, Bool.false_eq_true, if_false, Reader.read_bind, colon, skipColon_append hb,
      Except.bind, fill, (read.map set).reads ha delimited, filled]

/-- An unknown field leaves the draft as it is. -/
theorem readsMember_unknown {format : RecordFormat σ α} {key : String} {v : List Char} (draft : σ)
    (unknown : format.fields.find? (·.name = key) = none) (value : WellFormed v) :
    ReadsMember format.member key v draft draft where
  starts := value.startsToken
  reads hb ha delimited := by
    rw [RecordFormat.member, unknown]
    simp only [Reader.read_map, ignored, skipColon_append hb,
      skipValue_wellFormed value ha delimited, Except.map]

theorem reads_record {format : RecordFormat σ α} {members : List (String × List Char)}
    {s : List Char} (text : ObjectText members s) {draft : σ} {a : α}
    (reads : ReadsMembers format.member members format.blank draft)
    (finished : format.finish draft = .ok a) : Reads format.reader s a where
  starts := text.startsToken
  reads {before rest} blank _ := by
    obtain ⟨tail, rfl, read⟩ := text.readMembers reads rest
    rw [RecordFormat.reader]
    simp only [text.startsToken.skipBlanks_append blank, List.cons_append, read, finished]

/-! ## Documents -/

/-- A whole text holds the value of its spelling. -/
theorem readDocument_reads {value : Reader Failure α} {before v after : List Char} {a : α}
    (read : Reads value v a) (hb : Blank before) (ha : Blank after) :
    readDocument value (before ++ v ++ after) = .ok a := by
  have delimited : Delimited after := by
    simpa using Delimited.blank_append ha .nil
  rw [readDocument, read.reads hb delimited]
  simp only [skipBlanks_of_blank ha]

/-! ## Changing what is read -/

/-- Members that take drafts that correspond to drafts that correspond do so together. -/
theorem readMembers_map {member : String → σ → Reader Failure σ}
    {other : String → τ → Reader Failure τ} (f : σ → τ)
    (alike : ∀ key draft s, (other key (f draft)).read s =
      ((member key draft).read s).map fun (a, r) => (f a, r))
    (first : Bool) (draft : σ) (s : List Char) :
    readMembers other first (f draft) s =
      (readMembers member first draft s).map fun (a, r) => (f a, r) := by
  fun_induction readMembers member first draft s with
  | case1 first draft s failure next =>
      rw [readMembers_eq, next]
      rfl
  | case2 first draft s after next => exact readMembers_end next
  | case3 first draft s key after next failure taken =>
      rw [readMembers_eq, next]
      simp only [Except.bind, alike, taken]
      rfl
  | case4 first draft s key after next draft' after' taken ih =>
      have taken' : (other key (f draft)).read after = .ok (f draft', after') := by
        rw [alike, taken]
        rfl
      rw [readMembers_more next taken', ih]

/-- Changing the values of a map is changing the map. -/
theorem entries_map (value : Reader Failure α) (f : α → β) (s : List Char) :
    (entries (value.map f)).read s =
      ((entries value).map (List.map (Prod.map id f))).read s := by
  -- What has been seen is kept in reverse; it is changed value by value.
  have members := @readMembers_map _ _
    (fun key seen => (colon.bind fun _ => value).map fun v => (key, v) :: seen)
    (fun key seen => (colon.bind fun _ => value.map f).map fun v => (key, v) :: seen)
    (List.map (Prod.map id f)) (by
      intro key seen s
      simp only [Reader.read_map, Reader.read_bind]
      cases colon.read s with
      | error failure => rfl
      | ok step =>
          simp only [Except.bind]
          cases value.read step.2 with
          | error failure => rfl
          | ok taken => rfl) true []
  rw [Reader.read_map]
  simp only [entries]
  split
  · rename_i rest start
    rw [List.map_nil] at members
    rw [members rest]
    cases readMembers (fun key seen => (colon.bind fun _ => value).map fun v => (key, v) :: seen)
        true [] rest with
    | error failure => rfl
    | ok step =>
        simp only [Except.map, List.map_reverse]
  · rfl

theorem readDocument_map (value : Reader Failure α) (f : α → β) (text : List Char) :
    readDocument (value.map f) text = (readDocument value text).map f := by
  rw [readDocument, readDocument, Reader.read_map]
  cases value.read text with
  | error failure => rfl
  | ok step =>
      simp only [Except.map]
      split
      · rfl
      · rfl

end LuaBindings.Json
