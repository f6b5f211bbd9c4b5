import LuaBindings.Json.Container
/-!
# Records

A record has named fields of fixed types. It is written as an object, its fields in any order and
among fields of other names, or as an array of the values of its fields in their order. Faults of
the record as a whole have no token of their own; they are placed behind its closing bracket where
that comes next.
-/

namespace LuaBindings.Json

variable {σ α : Type}

/-- A field of a record that is being drafted. -/
structure Field (σ : Type) where
  name : String
  /-- Whether the draft already holds a value of the field. -/
  isFilled : σ → Bool
  /-- Reads the field's value into the draft. -/
  fill : σ → Reader Failure σ

/-- How a record is written. -/
structure RecordFormat (σ α : Type) where
  /-- The record's name in messages. -/
  title : String
  /-- The fields in their order. -/
  fields : List (Field σ)
  /-- The draft with no field filled. -/
  blank : σ
  /-- The record that a draft amounts to, or the first field that it lacks. -/
  finish : σ → Except String α

/-- The text where a fault of a whole container is placed, from somewhere inside it. -/
def behindClose (close : Char) (s : List Char) : List Char :=
  match skipBlanks s with
  | [] => []
  | c :: r => if c = close then r else c :: r

namespace RecordFormat

/-- One member of a record written as an object. -/
def member (format : RecordFormat σ α) (key : String) (draft : σ) : Reader Failure σ :=
  match format.fields.find? (·.name = key) with
  | none => ignored.map fun _ => draft
  | some field =>
    if field.isFilled draft then
      .fail fun s => .before (.duplicateField key) (behindClose '}' s)
    else colon.bind fun _ => field.fill draft

/-- The end of an array that has held a value for every field. -/
def endPositional (s : List Char) : Except Failure (List Char) :=
  match skipBlanks s with
  | [] => .error (.before .endInList [])
  | c :: r =>
    if c = ']' then .ok r
    else if c = ',' then
      match skipBlanks r with
      | ']' :: r => .error (.onNext .trailingComma (']' :: r))
      | r => .error (.onNext .trailingCharacters r)
    else .error (.onNext .trailingCharacters (c :: r))

/-- The values of the given fields in their order, as far as the array goes. -/
def readPositional (first : Bool) (draft : σ) (s : List Char) :
    List (Field σ) → Except Failure (σ × List Char)
  | [] =>
    match endPositional s with
    | .error e => .error e
    | .ok r => .ok (draft, r)
  | field :: fields =>
    match nextElement first s with
    | .error e => .error e
    | .ok (false, r) => .ok (draft, r)
    | .ok (true, r) =>
      match (field.fill draft).read r with
      | .error e => .error e
      | .ok (draft, r) => readPositional false draft r fields

theorem endPositional_shrinks {s r : List Char} (h : endPositional s = .ok r) :
    r.length < s.length := by
  have blanks := length_skipBlanks_le s
  unfold endPositional at h
  split at h
  · simp at h
  · rename_i c tail found
    rw [found, List.length_cons] at blanks
    split at h
    · simp only [Except.ok.injEq] at h
      rw [← h]
      omega
    · split at h
      · split at h <;> simp at h
      · simp at h

theorem readPositional_shrinks {first : Bool} {draft final : σ} {s r : List Char}
    {fields : List (Field σ)} (h : readPositional first draft s fields = .ok (final, r)) :
    r.length < s.length := by
  fun_induction readPositional first draft s fields with
  | case1 => simp at h
  | case2 first draft s after ended =>
    simp only [Except.ok.injEq, Prod.mk.injEq] at h
    exact h.2 ▸ endPositional_shrinks ended
  | case3 => simp at h
  | case4 first draft s field fields after next =>
    simp only [Except.ok.injEq, Prod.mk.injEq] at h
    exact h.2 ▸ nextElement_shrinks next
  | case5 => simp at h
  | case6 first draft s field fields after next draft' after' taken ih =>
    have := nextElement_length_le next
    have := (field.fill draft).shrinks taken
    have := ih h
    omega

/-- A record written as an object or as an array. -/
def reader (format : RecordFormat σ α) : Reader Failure α where
  read s :=
    match skipBlanks s with
    | '{' :: r =>
      match readMembers format.member true format.blank r with
      | .error e => .error e
      | .ok (draft, r) =>
        match format.finish draft with
        | .error name => .error (.before (.missingField name) r)
        | .ok a => .ok (a, r)
    | '[' :: r =>
      match readPositional true format.blank r format.fields with
      | .error e => .error e
      | .ok (draft, r) =>
        match format.finish draft with
        | .error name =>
          let expected := format.title ++ " with " ++ toString format.fields.length ++ " elements"
          .error (.before (.wrongLength (format.fields.findIdx (·.name = name)) expected) r)
        | .ok a => .ok (a, r)
    | s => .error (mismatch format.title s)
  shrinks {s a r} h := by
    have blanks := length_skipBlanks_le s
    split at h
    · rename_i tail found
      rw [found, List.length_cons] at blanks
      split at h
      · simp at h
      · rename_i draft after taken
        have := readMembers_shrinks taken
        split at h
        · simp at h
        · simp only [Except.ok.injEq, Prod.mk.injEq] at h
          rw [← h.2]
          omega
    · rename_i tail found
      rw [found, List.length_cons] at blanks
      split at h
      · simp at h
      · rename_i draft after taken
        have := readPositional_shrinks taken
        split at h
        · simp at h
        · simp only [Except.ok.injEq, Prod.mk.injEq] at h
          rw [← h.2]
          omega
    · simp at h

end RecordFormat

/-- The value that a whole text holds, with nothing but blanks behind it. -/
def readDocument (value : Reader Failure α) (text : List Char) : Except Failure α :=
  match value.read text with
  | .error e => .error e
  | .ok (a, r) =>
    match skipBlanks r with
    | [] => .ok a
    | rest => .error (.onNext .trailingCharacters rest)

end LuaBindings.Json
