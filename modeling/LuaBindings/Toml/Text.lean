import LuaBindings.Reader
import LuaBindings.Text.Digits
import LuaBindings.Toml.Value
/-!
# TOML text

Blanks, comments, strings and keys. Controls are refused everywhere but for the tab; a line ends
with a line feed, before which a carriage return may stand.
-/

namespace LuaBindings.Toml

/-! ## Blanks and comments -/

/-- The blanks within a line. -/
def isBlank (c : Char) : Bool := c = ' ' || c = '\t'

/-- The text from the next token of the line on. -/
def skipBlanks (s : List Char) : List Char := s.dropWhile isBlank

/-- The text behind the end of a line, where one is. -/
def newline? (s : List Char) : Option (List Char) :=
  match s with
  | '\n' :: r => some r
  | '\r' :: '\n' :: r => some r
  | _ => none

/-- Characters beyond ASCII. -/
def isWide (c : Char) : Bool := 0x80 ≤ c.toNat

/-- The characters that a comment may hold. -/
def isCommentChar (c : Char) : Bool := c = '\t' || (' ' ≤ c && c ≤ '~') || isWide c

/-- The text behind a comment, if one follows. -/
def skipComment (s : List Char) : List Char :=
  match s with
  | '#' :: r => r.dropWhile isCommentChar
  | s => s

/-- The text behind the rest of a line, which may hold nothing but a comment. -/
def endLine (s : List Char) : Except Fault (List Char) :=
  match skipComment (skipBlanks s) with
  | [] => .ok []
  | r =>
    match newline? r with
    | some r => .ok r
    | none => .error .malformed

/-- The text behind blanks, line ends and comments. -/
def skipFiller (inComment : Bool) (s : List Char) : List Char :=
  match s with
  | [] => []
  | c :: r =>
    if inComment && isCommentChar c then skipFiller true r
    else if isBlank c || c = '\n' then skipFiller false r
    else if c = '#' then skipFiller true r
    else if c = '\r' && r.head? = some '\n' then skipFiller false r
    else c :: r

theorem length_skipBlanks_le (s : List Char) : (skipBlanks s).length ≤ s.length :=
  length_dropWhile_le isBlank s

theorem newline_shrinks {s r : List Char} (h : newline? s = some r) : r.length < s.length := by
  unfold newline? at h
  split at h
  · simp only [Option.some.injEq] at h
    simp [h]
  · simp only [Option.some.injEq] at h
    simp only [h, List.length_cons]
    omega
  · simp at h

theorem length_skipFiller_le (inComment : Bool) (s : List Char) :
    (skipFiller inComment s).length ≤ s.length := by
  fun_induction skipFiller inComment s <;> simp_all <;> omega

/-! ## Strings -/

/-- The characters that stand for themselves in a string with escapes. -/
def isBasicChar (c : Char) : Bool := isCommentChar c && c ≠ '"' && c ≠ '\\'

/-- The characters of a string without escapes. -/
def isLiteralChar (c : Char) : Bool := isCommentChar c && c ≠ '\''

/-- The character with the code that so many hexadecimal digits write. -/
def readCode (digits : Nat) (s : List Char) : Except Fault (Char × List Char) :=
  let written := s.take digits
  if written.length < digits then .error .malformed
  else
    match Text.number? 16 written with
    | none => .error .malformed
    | some code =>
      if code.isValidChar then .ok (Char.ofNat code, s.drop digits) else .error .malformed

/-- The character that an escape stands for, from behind its backslash. -/
def readEscape (s : List Char) : Except Fault (Char × List Char) :=
  match s with
  | [] => .error .malformed
  | c :: r =>
    match c with
    | 'b' => .ok ('\x08', r)
    | 't' => .ok ('\t', r)
    | 'n' => .ok ('\n', r)
    | 'f' => .ok ('\x0c', r)
    | 'r' => .ok ('\r', r)
    | '"' => .ok ('"', r)
    | '\\' => .ok ('\\', r)
    | 'u' => readCode 4 r
    | 'U' => readCode 8 r
    | _ => .error .malformed

theorem readCode_length_le {digits : Nat} {s r : List Char} {c : Char}
    (h : readCode digits s = .ok (c, r)) : r.length ≤ s.length := by
  unfold readCode at h
  simp only at h
  split at h
  · simp at h
  · split at h
    · simp at h
    · split at h
      · simp only [Except.ok.injEq, Prod.mk.injEq] at h
        simp [← h.2]
      · simp at h

theorem readEscape_shrinks {s r : List Char} {c : Char} (h : readEscape s = .ok (c, r)) :
    r.length < s.length := by
  unfold readEscape at h
  split at h
  · simp at h
  · split at h
    case h_8 | h_9 =>
      have := readCode_length_le h
      simp only [List.length_cons]
      omega
    case h_10 => simp at h
    all_goals
      simp only [Except.ok.injEq, Prod.mk.injEq] at h
      simp [h.2]

/-- The rest of a string with escapes; `seen` holds what was read of it, last first. -/
def readBasic (seen : List Char) (s : List Char) : Except Fault (String × List Char) :=
  match s with
  | [] => .error .malformed
  | c :: r =>
    if c = '"' then .ok (String.ofList seen.reverse, r)
    else if c = '\\' then
      match _escape : readEscape r with
      | .error e => .error e
      | .ok (e, r') => readBasic (e :: seen) r'
    else if isBasicChar c then readBasic (c :: seen) r
    else .error .malformed
  termination_by s.length
  decreasing_by
    · have := readEscape_shrinks _escape
      simp only [List.length_cons]
      omega
    · simp

/-- A string without escapes, from behind its quote. -/
def readLiteral (s : List Char) : Except Fault (String × List Char) :=
  match s.dropWhile isLiteralChar with
  | '\'' :: r => .ok (String.ofList (s.takeWhile isLiteralChar), r)
  | _ => .error .malformed

/-- The text behind a backslash at the end of a line, the blanks and line ends behind it
included. -/
def continueLine? (s : List Char) : Option (List Char) :=
  (newline? (skipBlanks s)).map skipLines
where
  skipLines (s : List Char) : List Char :=
    match s with
    | [] => []
    | c :: r =>
      if isBlank c || c = '\n' then skipLines r
      else if c = '\r' && r.head? = some '\n' then skipLines r
      else c :: r

theorem length_skipLines_le (s : List Char) : (continueLine?.skipLines s).length ≤ s.length := by
  fun_induction continueLine?.skipLines s <;> simp_all <;> omega

theorem continueLine_shrinks {s r : List Char} (h : continueLine? s = some r) :
    r.length < s.length := by
  unfold continueLine? at h
  cases hn : newline? (skipBlanks s) with
  | none => simp [hn] at h
  | some after =>
    simp only [hn, Option.map_some, Option.some.injEq] at h
    have := newline_shrinks hn
    have := length_skipBlanks_le s
    have := length_skipLines_le after
    rw [← h]
    omega

/-- The quotes at the end of a string of several lines, three of which close it: the text behind
them, and how many of them belong to the string. -/
def closing? (quote : Char) (s : List Char) : Option (Nat × List Char) :=
  let quotes := min 5 (s.takeWhile (· = quote)).length
  if quotes < 3 then none else some (quotes - 3, s.drop quotes)

theorem closing_shrinks {quote : Char} {extra : Nat} {s r : List Char}
    (h : closing? quote s = some (extra, r)) : r.length < s.length := by
  unfold closing? at h
  simp only at h
  split at h
  · simp at h
  · rename_i many
    simp only [Option.some.injEq, Prod.mk.injEq] at h
    have := (List.takeWhile_sublist (· = quote) (l := s)).length_le
    rw [← h.2, List.length_drop]
    omega

/-- The rest of a string of several lines, with or without escapes; `seen` holds what was read of
it, last first. -/
def readLines (quote : Char) (escapes : Bool) (seen : List Char) (s : List Char) :
    Except Fault (String × List Char) :=
  match s with
  | [] => .error .malformed
  | c :: r =>
    match closing? quote (c :: r) with
    | some (extra, r') =>
      .ok (String.ofList (List.replicate extra quote ++ seen).reverse, r')
    | none =>
      match _newline : newline? (c :: r) with
      | some r' => readLines quote escapes ('\n' :: seen) r'
      | none =>
        if escapes && c = '\\' then
          match _continued : continueLine? r with
          | some r' => readLines quote escapes seen r'
          | none =>
            match _escape : readEscape r with
            | .error e => .error e
            | .ok (e, r') => readLines quote escapes (e :: seen) r'
        else if isCommentChar c then readLines quote escapes (c :: seen) r
        else .error .malformed
  termination_by s.length
  decreasing_by
    · exact newline_shrinks _newline
    · have := continueLine_shrinks _continued
      simp only [List.length_cons]
      omega
    · have := readEscape_shrinks _escape
      simp only [List.length_cons]
      omega
    · simp

/-- A string of several lines, from behind its quotes. A line end right behind them is dropped. -/
def readMultiline (quote : Char) (escapes : Bool) (s : List Char) :
    Except Fault (String × List Char) :=
  readLines quote escapes [] ((newline? s).getD s)

theorem readBasic_shrinks {seen s r : List Char} {t : String} (h : readBasic seen s = .ok (t, r)) :
    r.length < s.length := by
  fun_induction readBasic seen s with
  | case1 => simp at h
  | case2 seen tail =>
    simp only [Except.ok.injEq, Prod.mk.injEq] at h
    simp [← h.2]
  | case3 => simp at h
  | case4 seen tail e after taken _ ih =>
    have taken := readEscape_shrinks taken
    have rest := ih h
    simp only [List.length_cons]
    omega
  | case5 seen c tail _ _ _ ih =>
    have rest := ih h
    simp only [List.length_cons]
    omega
  | case6 => simp at h

theorem readLiteral_shrinks {s r : List Char} {t : String} (h : readLiteral s = .ok (t, r)) :
    r.length < s.length := by
  have shorter := length_dropWhile_le isLiteralChar s
  unfold readLiteral at h
  split at h
  · rename_i tail found
    simp only [Except.ok.injEq, Prod.mk.injEq] at h
    rw [found, List.length_cons, h.2] at shorter
    omega
  · simp at h

theorem readLines_shrinks {quote : Char} {escapes : Bool} {seen s r : List Char} {t : String}
    (h : readLines quote escapes seen s = .ok (t, r)) : r.length < s.length := by
  fun_induction readLines quote escapes seen s with
  | case1 => simp at h
  | case2 seen c tail extra after closed =>
    simp only [Except.ok.injEq, Prod.mk.injEq] at h
    exact h.2 ▸ closing_shrinks closed
  | case3 seen c tail _ after ended ih =>
    have := newline_shrinks ended
    have := ih h
    omega
  | case4 seen c tail _ _ _ after continued ih =>
    have := continueLine_shrinks continued
    have := ih h
    simp only [List.length_cons]
    omega
  | case5 => simp at h
  | case6 seen c tail _ _ _ _ e after taken ih =>
    have := readEscape_shrinks taken
    have := ih h
    simp only [List.length_cons]
    omega
  | case7 seen c tail _ _ _ _ ih =>
    have := ih h
    simp only [List.length_cons]
    omega
  | case8 => simp at h

theorem readMultiline_length_le {quote : Char} {escapes : Bool} {s r : List Char} {t : String}
    (h : readMultiline quote escapes s = .ok (t, r)) : r.length < s.length := by
  have := readLines_shrinks h
  cases hn : newline? s with
  | none => simpa [hn] using this
  | some after =>
    have := newline_shrinks hn
    simp_all
    omega

/-- A string of any of the four kinds. -/
def stringReader : Reader Fault String where
  read s :=
    match s with
    | '"' :: '"' :: '"' :: r => readMultiline '"' true r
    | '\'' :: '\'' :: '\'' :: r => readMultiline '\'' false r
    | '"' :: r => readBasic [] r
    | '\'' :: r => readLiteral r
    | _ => .error .malformed
  shrinks {s t r} h := by
    split at h
    · have := readMultiline_length_le h
      simp only [List.length_cons]
      omega
    · have := readMultiline_length_le h
      simp only [List.length_cons]
      omega
    · have := readBasic_shrinks h
      simp only [List.length_cons]
      omega
    · have := readLiteral_shrinks h
      simp only [List.length_cons]
      omega
    · simp at h

/-! ## Keys -/

/-- The characters of a key without quotes. -/
def isKeyChar (c : Char) : Bool := c.isAlphanum || c = '_' || c = '-'

/-- One part of a key. -/
def keyReader : Reader Fault String where
  read s :=
    match s with
    | '"' :: r => readBasic [] r
    | '\'' :: r => readLiteral r
    | c :: r =>
      if isKeyChar c then .ok (String.ofList (c :: r.takeWhile isKeyChar), r.dropWhile isKeyChar)
      else .error .malformed
    | [] => .error .malformed
  shrinks {s t r} h := by
    split at h
    · have := readBasic_shrinks h
      simp only [List.length_cons]
      omega
    · have := readLiteral_shrinks h
      simp only [List.length_cons]
      omega
    · rename_i c tail _ _
      split at h
      · simp only [Except.ok.injEq, Prod.mk.injEq] at h
        have := length_dropWhile_le isKeyChar tail
        rw [← h.2, List.length_cons]
        omega
      · simp at h
    · simp at h

/-- The parts of a key, with blanks around them, and the text behind; `seen` holds the parts before,
last first. -/
def readParts (seen : List String) (s : List Char) : Except Fault (List String × List Char) :=
  match _part : keyReader.read (skipBlanks s) with
  | .error e => .error e
  | .ok (part, r) =>
    match _behind : skipBlanks r with
    | '.' :: r' => readParts (part :: seen) r'
    | r' => .ok ((part :: seen).reverse, r')
  termination_by s.length
  decreasing_by
    have := keyReader.shrinks _part
    have := length_skipBlanks_le s
    have behind := length_skipBlanks_le r
    rw [_behind, List.length_cons] at behind
    omega

theorem readParts_shrinks {seen parts : List String} {s r : List Char}
    (h : readParts seen s = .ok (parts, r)) : r.length < s.length := by
  fun_induction readParts seen s with
  | case1 => simp at h
  | case2 seen s part after taken tail behind ih =>
    have := keyReader.shrinks taken
    have := length_skipBlanks_le s
    have further := length_skipBlanks_le after
    rw [behind, List.length_cons] at further
    have := ih h
    omega
  | case3 seen s part after taken =>
    simp only [Except.ok.injEq, Prod.mk.injEq] at h
    have := keyReader.shrinks taken
    have := length_skipBlanks_le s
    have := length_skipBlanks_le after
    rw [← h.2]
    omega

/-- The most parts that a key may have. -/
def maxParts : Nat := 79

/-- A key: the path to the table that it lies in, and its last part. -/
def pathReader : Reader Fault (List String × String) where
  read s :=
    match readParts [] s with
    | .error e => .error e
    | .ok (parts, r) =>
      if maxParts < parts.length then .error .tooDeep
      else
        match parts.getLast? with
        | none => .error .malformed
        | some last => .ok ((parts.dropLast, last), r)
  shrinks {s key r} h := by
    cases hp : readParts [] s with
    | error e => simp [hp] at h
    | ok step =>
      obtain ⟨parts, after⟩ := step
      have := readParts_shrinks hp
      simp only [hp] at h
      split at h
      · simp at h
      · split at h
        · simp at h
        · simp only [Except.ok.injEq, Prod.mk.injEq] at h
          exact h.2 ▸ this

end LuaBindings.Toml
