import LuaBindings.Toml.Moment
import LuaBindings.Toml.Number
/-!
# TOML readers

The reader of a value, by how deep the value may nest. Arrays may run over several lines and end
with a comma; tables between braces may do neither.
-/

namespace LuaBindings.Toml

/-- A date, a time, a number or the name of a float, in the order in which they are tried. -/
def readNumeric (s : List Char) : Except Fault (Value × List Char) :=
  match skipMoment? s with
  | some r => .ok (.moment (written s r), r)
  | none => readNumber s

/-- The truth values. -/
def readBoolean (s : List Char) : Except Fault (Value × List Char) :=
  match s with
  | 't' :: 'r' :: 'u' :: 'e' :: r => .ok (.boolean true, r)
  | 'f' :: 'a' :: 'l' :: 's' :: 'e' :: r => .ok (.boolean false, r)
  | _ => .error .malformed

/-- A value that holds no other. -/
def scalarReader : Reader Fault Value where
  read s :=
    match s with
    | [] => .error .malformed
    | c :: _ =>
      if c = '"' || c = '\'' then (stringReader.map Value.text).read s
      else if c = 't' || c = 'f' then (Reader.ofStep readBoolean .malformed).read s
      else (Reader.ofStep readNumeric .malformed).read s
  shrinks {s v r} h := by
    split at h
    · simp at h
    · split at h
      · exact (stringReader.map Value.text).shrinks h
      · split at h
        · exact (Reader.ofStep readBoolean .malformed).shrinks h
        · exact (Reader.ofStep readNumeric .malformed).shrinks h

/-- The items of an array from the next one on, and the text behind the bracket; `seen` holds the
items before, last first. -/
def readItems (item : Reader Fault Value) (seen : List Value) (s : List Char) :
    Except Fault (List Value × List Char) :=
  match _start : skipFiller false s with
  | ']' :: r => .ok (seen.reverse, r)
  | r =>
    match _item : item.read r with
    | .error e => .error e
    | .ok (v, r') =>
      match _behind : skipFiller false r' with
      | ',' :: r'' => readItems item (v :: seen) r''
      | ']' :: r'' => .ok ((v :: seen).reverse, r'')
      | _ => .error .malformed
  termination_by s.length
  decreasing_by
    have start := length_skipFiller_le false s
    rw [_start] at start
    have := item.shrinks _item
    have behind := length_skipFiller_le false r'
    rw [_behind, List.length_cons] at behind
    omega

theorem readItems_shrinks {item : Reader Fault Value} {seen items : List Value} {s r : List Char}
    (h : readItems item seen s = .ok (items, r)) : r.length < s.length := by
  fun_induction readItems item seen s with
  | case1 seen s after start =>
    have filler := length_skipFiller_le false s
    rw [start, List.length_cons] at filler
    simp only [Except.ok.injEq, Prod.mk.injEq] at h
    rw [← h.2]
    omega
  | case2 => simp at h
  | case3 seen s v after tail behind _ taken ih =>
    have filler := length_skipFiller_le false s
    have := item.shrinks taken
    have further := length_skipFiller_le false after
    rw [behind, List.length_cons] at further
    have := ih h
    omega
  | case4 seen s v after tail behind _ taken =>
    have filler := length_skipFiller_le false s
    have := item.shrinks taken
    have further := length_skipFiller_le false after
    rw [behind, List.length_cons] at further
    simp only [Except.ok.injEq, Prod.mk.injEq] at h
    rw [← h.2]
    omega
  | case5 => simp at h

/-- A key and its value, with blanks around them: the path, the last part, and the value. -/
def pairReader (value : Reader Fault Value) : Reader Fault (List String × String × Value) :=
  pathReader.bind fun (path, key) =>
    { read := fun s =>
        match s with
        | '=' :: r =>
          match value.read (skipBlanks r) with
          | .error e => .error e
          | .ok (v, r) => .ok ((path, key, v), r)
        | _ => .error .malformed
      shrinks := by
        intro s a r h
        split at h
        · rename_i tail
          split at h
          · simp at h
          · rename_i taken
            simp only [Except.ok.injEq, Prod.mk.injEq] at h
            have := value.shrinks taken
            have := length_skipBlanks_le tail
            rw [← h.2, List.length_cons]
            omega
        · simp at h }

/-- The pairs of a table between braces from the next one on, and the text behind the brace. -/
def readPairs (value : Reader Fault Value) (entries : Entries) (s : List Char) :
    Except Fault (Entries × List Char) :=
  match _pair : (pairReader value).read s with
  | .error e => .error e
  | .ok ((path, key, v), r) =>
    match assign path key v entries with
    | .error e => .error e
    | .ok entries =>
      match _behind : skipBlanks r with
      | ',' :: r' => readPairs value entries r'
      | '}' :: r' => .ok (entries, r')
      | _ => .error .malformed
  termination_by s.length
  decreasing_by
    have := (pairReader value).shrinks _pair
    have behind := length_skipBlanks_le r
    rw [_behind, List.length_cons] at behind
    omega

theorem readPairs_shrinks {value : Reader Fault Value} {entries all : Entries} {s r : List Char}
    (h : readPairs value entries s = .ok (all, r)) : r.length < s.length := by
  fun_induction readPairs value entries s with
  | case1 => simp at h
  | case2 => simp at h
  | case3 entries s path key v after taken entries' _ tail behind ih =>
    have := (pairReader value).shrinks taken
    have further := length_skipBlanks_le after
    rw [behind, List.length_cons] at further
    have := ih h
    omega
  | case4 entries s path key v after taken entries' _ tail behind =>
    have := (pairReader value).shrinks taken
    have further := length_skipBlanks_le after
    rw [behind, List.length_cons] at further
    simp only [Except.ok.injEq, Prod.mk.injEq] at h
    rw [← h.2]
    omega
  | case5 => simp at h

/-- A table, from behind its brace. -/
def readInlineTable (value : Reader Fault Value) (s : List Char) :
    Except Fault (Entries × List Char) :=
  match skipBlanks s with
  | '}' :: r => .ok ([], r)
  | r => readPairs value [] r

theorem readInlineTable_shrinks {value : Reader Fault Value} {entries : Entries} {s r : List Char}
    (h : readInlineTable value s = .ok (entries, r)) : r.length < s.length := by
  have blanks := length_skipBlanks_le s
  unfold readInlineTable at h
  split at h
  · rename_i tail found
    rw [found, List.length_cons] at blanks
    simp only [Except.ok.injEq, Prod.mk.injEq] at h
    rw [← h.2]
    omega
  · have := readPairs_shrinks h
    omega

/-- A container of values, or a scalar. -/
def containerReader (value : Reader Fault Value) : Reader Fault Value where
  read s :=
    match s with
    | '[' :: r =>
      match readItems value [] r with
      | .error e => .error e
      | .ok (items, r) => .ok (.array items, r)
    | '{' :: r =>
      match readInlineTable value r with
      | .error e => .error e
      | .ok (entries, r) => .ok (.table .inline entries, r)
    | s => scalarReader.read s
  shrinks {s v r} h := by
    split at h
    · split at h
      · simp at h
      · rename_i taken
        simp only [Except.ok.injEq, Prod.mk.injEq] at h
        have := readItems_shrinks taken
        rw [← h.2, List.length_cons]
        omega
    · split at h
      · simp at h
      · rename_i taken
        simp only [Except.ok.injEq, Prod.mk.injEq] at h
        have := readInlineTable_shrinks taken
        rw [← h.2, List.length_cons]
        omega
    · exact scalarReader.shrinks h

/-- A value that nests at most so deep. -/
def valueReader : (depth : Nat) → Reader Fault Value
  | 0 => scalarReader
  | depth + 1 => containerReader (valueReader depth)

/-- The deepest nesting of values. -/
def maxDepth : Nat := 79

end LuaBindings.Toml
