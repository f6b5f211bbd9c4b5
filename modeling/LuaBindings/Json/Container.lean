import LuaBindings.Json.Skip
/-!
# Strings, sequences and maps

Readers for the typed values of a document. Each first passes over blanks; each reports a value of
another type by what stands in its place. Containers are read by loops that carry what was read so
far, so their size is not bounded by the stack.
-/

namespace LuaBindings.Json

variable {α σ : Type}

/-! ## Strings -/

/-- A string. -/
def string : Reader Failure String where
  read s :=
    match skipBlanks s with
    | '"' :: r => readString [] r
    | s => .error (mismatch "a string" s)
  shrinks {s t r} h := by
    have blanks := length_skipBlanks_le s
    split at h
    · rename_i tail found
      have := readString_shrinks h
      rw [found, List.length_cons] at blanks
      omega
    · simp at h

/-- A string, or `null` for none. -/
def optionalString : Reader Failure (Option String) where
  read s :=
    match skipBlanks s with
    | 'n' :: r =>
      match readLiteral ['u', 'l', 'l'] r with
      | .error e => .error e
      | .ok r => .ok (none, r)
    | s =>
      match string.read s with
      | .error e => .error e
      | .ok (t, r) => .ok (some t, r)
  shrinks {s t r} h := by
    have blanks := length_skipBlanks_le s
    split at h
    · rename_i tail found
      cases hl : readLiteral ['u', 'l', 'l'] tail with
      | error e => simp [hl] at h
      | ok after =>
        simp only [hl, Except.ok.injEq, Prod.mk.injEq] at h
        have := readLiteral_length_le hl
        rw [found, List.length_cons] at blanks
        rw [← h.2]
        omega
    · cases hs : string.read (skipBlanks s) with
      | error e => simp [hs] at h
      | ok step =>
        obtain ⟨t, after⟩ := step
        simp only [hs, Except.ok.injEq, Prod.mk.injEq] at h
        have := string.shrinks hs
        rw [← h.2]
        omega

/-! ## Sequences -/

/-- Whether another element follows, and the text where it starts or, after the last one, the text
behind the bracket. `first` tells that no element came before. -/
def nextElement (first : Bool) (s : List Char) : Except Failure (Bool × List Char) :=
  match skipBlanks s with
  | [] => .error (.before .endInList [])
  | c :: r =>
    if c = ']' then .ok (false, r)
    else if first then .ok (true, c :: r)
    else if c = ',' then
      match skipBlanks r with
      | [] => .error (.before .endInValue [])
      | d :: r => if d = ']' then .error (.onNext .trailingComma (d :: r)) else .ok (true, d :: r)
    else .error (.onNext .expectedListEnd (c :: r))

theorem nextElement_length_le {first more : Bool} {s r : List Char}
    (h : nextElement first s = .ok (more, r)) : r.length ≤ s.length := by
  have blanks := length_skipBlanks_le s
  unfold nextElement at h
  split at h
  · simp at h
  · rename_i c tail found
    rw [found, List.length_cons] at blanks
    split at h
    · simp only [Except.ok.injEq, Prod.mk.injEq] at h
      rw [← h.2]
      omega
    · split at h
      · simp only [Except.ok.injEq, Prod.mk.injEq] at h
        rw [← h.2, List.length_cons]
        omega
      · split at h
        · have further := length_skipBlanks_le tail
          split at h
          · simp at h
          · rename_i d after found
            rw [found] at further
            split at h
            · simp at h
            · simp only [Except.ok.injEq, Prod.mk.injEq] at h
              rw [← h.2]
              omega
        · simp at h

theorem nextElement_shrinks {first : Bool} {s r : List Char}
    (h : nextElement first s = .ok (false, r)) : r.length < s.length := by
  have blanks := length_skipBlanks_le s
  unfold nextElement at h
  split at h
  · simp at h
  · rename_i c tail found
    rw [found, List.length_cons] at blanks
    split at h
    · simp only [Except.ok.injEq, Prod.mk.injEq] at h
      rw [← h.2]
      omega
    · split at h
      · simp at h
      · split at h
        · split at h
          · simp at h
          · split at h <;> simp at h
        · simp at h

/-- The elements from the next one on, and the text behind the bracket; `seen` holds the elements
before, last first. -/
def readElements (item : Reader Failure α) (first : Bool) (seen : List α) (s : List Char) :
    Except Failure (List α × List Char) :=
  match _next : nextElement first s with
  | .error e => .error e
  | .ok (false, r) => .ok (seen.reverse, r)
  | .ok (true, r) =>
    match _item : item.read r with
    | .error e => .error e
    | .ok (a, r') => readElements item false (a :: seen) r'
  termination_by s.length
  decreasing_by
    have := nextElement_length_le _next
    have := item.shrinks _item
    omega

theorem readElements_length_le {item : Reader Failure α} {first : Bool} {seen all : List α}
    {s r : List Char} (h : readElements item first seen s = .ok (all, r)) :
    r.length ≤ s.length := by
  fun_induction readElements item first seen s with
  | case1 => simp at h
  | case2 first seen s after next =>
    simp only [Except.ok.injEq, Prod.mk.injEq] at h
    exact h.2 ▸ nextElement_length_le next
  | case3 => simp at h
  | case4 first seen s after next a after' taken ih =>
    have := nextElement_length_le next
    have := item.shrinks taken
    have := ih h
    omega

/-- A sequence of values. -/
def sequence (item : Reader Failure α) : Reader Failure (List α) where
  read s :=
    match skipBlanks s with
    | '[' :: r => readElements item true [] r
    | s => .error (mismatch "a sequence" s)
  shrinks {s t r} h := by
    have blanks := length_skipBlanks_le s
    split at h
    · rename_i tail found
      have := readElements_length_le h
      rw [found, List.length_cons] at blanks
      omega
    · simp at h

/-! ## Maps -/

/-- A key, from its opening quote on. -/
def readKey (s : List Char) : Except Failure (Option String × List Char) :=
  match s with
  | '"' :: r =>
    match readString [] r with
    | .error e => .error e
    | .ok (key, r) => .ok (some key, r)
  | s => .error (.onNext .keyNotString s)

/-- The next key and the text behind it or, after the last member, the text behind the bracket.
`first` tells that no member came before. -/
def readNextKey (first : Bool) (s : List Char) : Except Failure (Option String × List Char) :=
  match skipBlanks s with
  | [] => .error (.before .endInObject [])
  | c :: r =>
    if c = '}' then .ok (none, r)
    else if first then readKey (c :: r)
    else if c = ',' then
      match skipBlanks r with
      | [] => .error (.before .endInValue [])
      | d :: r => if d = '}' then .error (.onNext .trailingComma (d :: r)) else readKey (d :: r)
    else .error (.onNext .expectedObjectEnd (c :: r))

theorem readKey_shrinks {s r : List Char} {key : Option String} (h : readKey s = .ok (key, r)) :
    r.length < s.length := by
  unfold readKey at h
  split at h
  · rename_i tail
    cases hs : readString [] tail with
    | error e => simp [hs] at h
    | ok step =>
      obtain ⟨t, after⟩ := step
      simp only [hs, Except.ok.injEq, Prod.mk.injEq] at h
      have := readString_shrinks hs
      rw [← h.2, List.length_cons]
      omega
  · simp at h

theorem readNextKey_shrinks {first : Bool} {s r : List Char} {key : Option String}
    (h : readNextKey first s = .ok (key, r)) : r.length < s.length := by
  have blanks := length_skipBlanks_le s
  unfold readNextKey at h
  split at h
  · simp at h
  · rename_i c tail found
    rw [found, List.length_cons] at blanks
    split at h
    · simp only [Except.ok.injEq, Prod.mk.injEq] at h
      rw [← h.2]
      omega
    · split at h
      · have := readKey_shrinks h
        simp only [List.length_cons] at this
        omega
      · split at h
        · have further := length_skipBlanks_le tail
          split at h
          · simp at h
          · rename_i d after found
            rw [found] at further
            split at h
            · simp at h
            · have := readKey_shrinks h
              omega
        · simp at h

/-- The members of an object from the next one on, and the text behind the bracket. Each member
takes a draft to the next draft; its reader starts right behind the key. -/
def readMembers (member : String → σ → Reader Failure σ) (first : Bool) (draft : σ)
    (s : List Char) : Except Failure (σ × List Char) :=
  match _next : readNextKey first s with
  | .error e => .error e
  | .ok (none, r) => .ok (draft, r)
  | .ok (some key, r) =>
    match _member : (member key draft).read r with
    | .error e => .error e
    | .ok (draft', r') => readMembers member false draft' r'
  termination_by s.length
  decreasing_by
    have := readNextKey_shrinks _next
    have := (member key draft).shrinks _member
    omega

theorem readMembers_shrinks {member : String → σ → Reader Failure σ} {first : Bool}
    {draft final : σ} {s r : List Char} (h : readMembers member first draft s = .ok (final, r)) :
    r.length < s.length := by
  fun_induction readMembers member first draft s with
  | case1 => simp at h
  | case2 first draft s after next =>
    simp only [Except.ok.injEq, Prod.mk.injEq] at h
    exact h.2 ▸ readNextKey_shrinks next
  | case3 => simp at h
  | case4 first draft s key after next draft' after' taken ih =>
    have := readNextKey_shrinks next
    have := (member key draft).shrinks taken
    have := ih h
    omega

/-- The colon behind a key. -/
def colon : Reader Failure Unit where
  read s :=
    match skipColon s with
    | .error e => .error e
    | .ok r => .ok ((), r)
  shrinks {s a r} h := by
    cases hc : skipColon s with
    | error e => simp [hc] at h
    | ok after =>
      simp only [hc, Except.ok.injEq, Prod.mk.injEq] at h
      exact h.2 ▸ skipColon_shrinks hc

/-- The colon behind a key and a value of no interest. -/
def ignored : Reader Failure Unit where
  read s :=
    match skipColon s with
    | .error e => .error e
    | .ok r =>
      match skipValue r with
      | .error e => .error e
      | .ok r => .ok ((), r)
  shrinks {s a r} h := by
    cases hc : skipColon s with
    | error e => simp [hc] at h
    | ok after =>
      cases hv : skipValue after with
      | error e => simp [hc, hv] at h
      | ok after' =>
        simp only [hc, hv, Except.ok.injEq, Prod.mk.injEq] at h
        have := skipColon_shrinks hc
        have := skipNested_length_le hv
        rw [← h.2]
        omega

/-- A map as its entries in the order of the text, repeated keys included. -/
def entries (value : Reader Failure α) : Reader Failure (List (String × α)) where
  read s :=
    match skipBlanks s with
    | '{' :: r =>
      let member (key : String) (seen : List (String × α)) : Reader Failure (List (String × α)) :=
        (colon.bind fun _ => value).map fun v => (key, v) :: seen
      match readMembers member true [] r with
      | .error e => .error e
      | .ok (seen, r) => .ok (seen.reverse, r)
    | s => .error (mismatch "a map" s)
  shrinks {s t r} h := by
    have blanks := length_skipBlanks_le s
    split at h
    · rename_i tail found
      rw [found, List.length_cons] at blanks
      simp only at h
      split at h
      · simp at h
      · rename_i seen after taken
        simp only [Except.ok.injEq, Prod.mk.injEq] at h
        have := readMembers_shrinks taken
        rw [← h.2]
        omega
    · simp at h

end LuaBindings.Json
