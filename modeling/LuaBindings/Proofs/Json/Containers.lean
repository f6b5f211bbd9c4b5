import LuaBindings.Json.Record
import LuaBindings.Proofs.Json.Skipping
/-!
# Reading containers part by part

Arrays and objects are read by loops, one part after another. At each place of a container, what is
left of it is told by the parts that are still to come, and so the loops can be followed by going
through the parts.
-/

namespace LuaBindings.Json

variable {α σ : Type}

/-! ## What is left of a container -/

/-- The text of a container from some place on, with the parts that are still to come. Behind a part
a comma is due before the next one. -/
inductive Pending (closing : Char) (rest : List Char) :
    Bool → List (List Char) → List Char → Prop
  | none {first : Bool} {blanks : List Char} (h : Blank blanks) :
      Pending closing rest first [] (blanks ++ closing :: rest)
  | first {before part s : List Char} {parts : List (List Char)} (hb : Blank before)
      (later : Pending closing rest false parts s) :
      Pending closing rest true (part :: parts) (before ++ part ++ s)
  | next {after before part s : List Char} {parts : List (List Char)} (ha : Blank after)
      (hb : Blank before) (later : Pending closing rest false parts s) :
      Pending closing rest false (part :: parts) (after ++ ',' :: (before ++ part ++ s))

/-- The parts of a list may come behind a comma as well. -/
theorem Pending.behind {closing : Char} {rest u after : List Char} {parts : List (List Char)}
    (h : Pending closing rest true parts u) (some : parts ≠ []) (ha : Blank after) :
    Pending closing rest false parts (after ++ ',' :: u) := by
  cases h with
  | none => exact absurd rfl some
  | first hb later => exact .next ha hb later

theorem Listed.ne_nil {parts : List (List Char)} {s : List Char} (h : Listed parts s) :
    parts ≠ [] := by
  cases h with
  | one => exact List.cons_ne_nil _ _
  | more => exact List.cons_ne_nil _ _

theorem Listed.pending {parts : List (List Char)} {s : List Char} (h : Listed parts s)
    (closing : Char) (rest : List Char) :
    Pending closing rest true parts (s ++ closing :: rest) := by
  induction h with
  | @one before part after hb ha =>
      have alone : Pending closing rest true [part] (before ++ part ++ (after ++ closing :: rest)) :=
        .first hb (.none ha)
      simpa using alone
  | @more before part after s parts hb ha others ih =>
      have further : Pending closing rest true (part :: parts)
          (before ++ part ++ (after ++ ',' :: (s ++ closing :: rest))) :=
        .first hb (ih.behind others.ne_nil ha)
      simpa using further

theorem Bracketed.pending {opening closing : Char} {parts : List (List Char)} {s : List Char}
    (h : Bracketed opening closing parts s) :
    ∃ tail, s = opening :: tail ∧ ∀ rest, Pending closing rest true parts (tail ++ rest) := by
  cases h with
  | @empty blanks h => exact ⟨_, rfl, fun rest => by simpa using .none h⟩
  | @parts parts s listed => exact ⟨_, rfl, fun rest => by simpa using listed.pending closing rest⟩

theorem Pending.delimited {closing : Char} {rest u : List Char} {parts : List (List Char)}
    (h : Pending closing rest false parts u) (closes : closing = ']' ∨ closing = '}') :
    Delimited u := by
  cases h with
  | none h => exact delimited_punctuation h (.inr closes) rest
  | next ha => exact delimited_punctuation ha (.inl rfl) _

/-! ## Elements -/

theorem nextElement_none {first : Bool} {rest u : List Char}
    (pending : Pending ']' rest first [] u) : nextElement first u = .ok (false, rest) := by
  cases pending with
  | none h =>
      rw [nextElement, skipBlanks_append h, skipBlanks_cons rfl]
      rfl

theorem nextElement_some {first : Bool} {part rest u : List Char} {parts : List (List Char)}
    (pending : Pending ']' rest first (part :: parts) u) (starts : StartsToken part) :
    ∃ later, nextElement first u = .ok (true, part ++ later) ∧ Pending ']' rest false parts later := by
  obtain @⟨c, tail, notBlank, notComma, notBracket, -⟩ := starts
  cases pending with
  | @first before _ s _ hb later =>
      refine ⟨s, ?_, later⟩
      rw [nextElement, List.append_assoc, skipBlanks_append hb, List.cons_append,
        skipBlanks_cons notBlank]
      simp [notBracket]
  | @next after before _ s _ ha hb later =>
      refine ⟨s, ?_, later⟩
      rw [nextElement, skipBlanks_append ha, skipBlanks_cons rfl]
      simp [skipBlanks_append hb, skipBlanks_cons notBlank, notBracket]

/-- What one element more or the end of the array comes to. -/
theorem readElements_eq (item : Reader Failure α) (first : Bool) (seen : List α) (s : List Char) :
    readElements item first seen s = (nextElement first s).bind fun (more, r) =>
      if more then (item.read r).bind fun (a, r') => readElements item false (a :: seen) r'
      else .ok (seen.reverse, r) := by
  conv_lhs => rw [readElements]
  split
  · rename_i next
    rw [next]
    rfl
  · rename_i next
    rw [next]
    rfl
  · rename_i next
    rw [next]
    simp only [Except.bind, if_true]
    split
    · rename_i taken
      rw [taken]
    · rename_i taken
      rw [taken]

theorem readElements_more {item : Reader Failure α} {first : Bool} {seen : List α}
    {s r r' : List Char} {a : α} (next : nextElement first s = .ok (true, r))
    (taken : item.read r = .ok (a, r')) :
    readElements item first seen s = readElements item false (a :: seen) r' := by
  rw [readElements_eq, next]
  simp only [Except.bind, if_true, taken]

theorem readElements_end {item : Reader Failure α} {first : Bool} {seen : List α} {s r : List Char}
    (next : nextElement first s = .ok (false, r)) :
    readElements item first seen s = .ok (seen.reverse, r) := by
  rw [readElements_eq, next]
  rfl

/-! ## Members -/

theorem readNextKey_none {first : Bool} {rest u : List Char}
    (pending : Pending '}' rest first [] u) : readNextKey first u = .ok (none, rest) := by
  cases pending with
  | none h =>
      rw [readNextKey, skipBlanks_append h, skipBlanks_cons rfl]
      rfl

theorem readNextKey_some {first : Bool} {part rest u : List Char} {parts : List (List Char)}
    (pending : Pending '}' rest first (part :: parts) u) (starts : StartsToken part) :
    ∃ later, readNextKey first u = readKey (part ++ later) ∧
      Pending '}' rest false parts later := by
  obtain @⟨c, tail, notBlank, notComma, -, notBrace⟩ := starts
  cases pending with
  | @first before _ s _ hb later =>
      refine ⟨s, ?_, later⟩
      rw [readNextKey, List.append_assoc, skipBlanks_append hb, List.cons_append,
        skipBlanks_cons notBlank]
      simp [notBrace]
  | @next after before _ s _ ha hb later =>
      refine ⟨s, ?_, later⟩
      rw [readNextKey, skipBlanks_append ha, skipBlanks_cons rfl]
      simp [skipBlanks_append hb, skipBlanks_cons notBlank, notBrace]

/-- What one key more or the end of the object comes to. -/
theorem readMembers_eq (member : String → σ → Reader Failure σ) (first : Bool) (draft : σ)
    (s : List Char) :
    readMembers member first draft s = (readNextKey first s).bind fun (key, r) =>
      match key with
      | none => .ok (draft, r)
      | some key => ((member key draft).read r).bind fun (draft', r') =>
          readMembers member false draft' r' := by
  conv_lhs => rw [readMembers]
  split
  · rename_i next
    rw [next]
    rfl
  · rename_i next
    rw [next]
    rfl
  · rename_i key r next
    rw [next]
    simp only [Except.bind]
    split
    · rename_i taken
      rw [taken]
    · rename_i taken
      rw [taken]

theorem readMembers_more {member : String → σ → Reader Failure σ} {first : Bool}
    {draft draft' : σ} {s r r' : List Char} {key : String}
    (next : readNextKey first s = .ok (some key, r))
    (taken : (member key draft).read r = .ok (draft', r')) :
    readMembers member first draft s = readMembers member false draft' r' := by
  rw [readMembers_eq, next]
  simp only [Except.bind, taken]

theorem readMembers_end {member : String → σ → Reader Failure σ} {first : Bool} {draft : σ}
    {s r : List Char} (next : readNextKey first s = .ok (none, r)) :
    readMembers member first draft s = .ok (draft, r) := by
  rw [readMembers_eq, next]
  rfl

end LuaBindings.Json
