import LuaBindings.Json.Failure
import LuaBindings.Reader
import LuaBindings.Text.Digits
/-!
# Strings

The text of a JSON string, from behind its opening quote. Escapes name characters by their UTF-16
units, so a character beyond the first plane takes a pair of them; a unit of a pair that stands
alone is refused.
-/

namespace LuaBindings.Json

/-- The blanks that may stand before any token. -/
def isBlank (c : Char) : Bool := c == ' ' || c == '\n' || c == '\t' || c == '\r'

/-- The text from its first token on. -/
def skipBlanks (s : List Char) : List Char := s.dropWhile isBlank

theorem length_skipBlanks_le (s : List Char) : (skipBlanks s).length ≤ s.length :=
  length_dropWhile_le isBlank s

/-- The four digits of an escape. Four bytes are taken before they are looked at. -/
def readUnit (s : List Char) : Except Failure (Nat × List Char) :=
  match s with
  | a :: b :: c :: d :: r =>
    match Text.number? 16 [a, b, c, d] with
    | some unit => .ok (unit, r)
    | none => .error ⟨.invalidEscape, s, 4⟩
  | s => if 4 ≤ byteSize s then .error ⟨.invalidEscape, s, 4⟩ else .error (.before .endInString [])

/-- Units that open a pair. -/
def isLeadUnit (unit : Nat) : Bool := 0xD800 ≤ unit && unit ≤ 0xDBFF

/-- Units that close a pair. -/
def isTrailUnit (unit : Nat) : Bool := 0xDC00 ≤ unit && unit ≤ 0xDFFF

/-- The character that a pair of units stands for. -/
def pairedChar (lead trail : Nat) : Char :=
  Char.ofNat (0x10000 + (lead - 0xD800) * 0x400 + (trail - 0xDC00))

/-- The second escape of a pair, whose first unit has been read. -/
def readTrail (lead : Nat) (s : List Char) : Except Failure (Char × List Char) :=
  match s with
  | [] | ['\\'] => .error (.before .endInString [])
  | '\\' :: 'u' :: r =>
    match readUnit r with
    | .error e => .error e
    | .ok (trail, r) =>
      if isTrailUnit trail then .ok (pairedChar lead trail, r)
      else .error (.before .loneSurrogate r)
  | '\\' :: r => .error (.onNext .brokenSurrogatePair r)
  | s => .error (.onNext .brokenSurrogatePair s)

/-- The character that an escape by code stands for. -/
def readCoded (s : List Char) : Except Failure (Char × List Char) :=
  match readUnit s with
  | .error e => .error e
  | .ok (unit, r) =>
    if isTrailUnit unit then .error (.before .loneSurrogate r)
    else if isLeadUnit unit then readTrail unit r
    else .ok (Char.ofNat unit, r)

/-- The characters with an escape of one letter. -/
def shortEscape? : Char → Option Char
  | '"' => some '"'
  | '\\' => some '\\'
  | '/' => some '/'
  | 'b' => some '\x08'
  | 'f' => some '\x0c'
  | 'n' => some '\n'
  | 'r' => some '\r'
  | 't' => some '\t'
  | _ => none

/-- The character that an escape stands for, from behind its backslash. -/
def readEscape (s : List Char) : Except Failure (Char × List Char) :=
  match s with
  | [] => .error (.before .endInString [])
  | c :: r =>
    if c = 'u' then readCoded r
    else match shortEscape? c with
      | some e => .ok (e, r)
      | none => .error (.onNext .invalidEscape s)

theorem readUnit_shrinks {s r : List Char} {unit : Nat} (h : readUnit s = .ok (unit, r)) :
    r.length < s.length := by
  unfold readUnit at h
  split at h
  · split at h
    · simp only [Except.ok.injEq, Prod.mk.injEq] at h
      simp only [← h.2, List.length_cons]
      omega
    · simp at h
  · split at h <;> simp at h

theorem readTrail_shrinks {lead : Nat} {s r : List Char} {c : Char}
    (h : readTrail lead s = .ok (c, r)) : r.length < s.length := by
  unfold readTrail at h
  split at h <;> try simp at h
  rename_i tail
  cases hu : readUnit tail with
  | error e => simp [hu] at h
  | ok step =>
    obtain ⟨trail, after⟩ := step
    have shorter := readUnit_shrinks hu
    simp only [hu] at h
    split at h
    · simp only [Except.ok.injEq, Prod.mk.injEq] at h
      simp only [← h.2, List.length_cons]
      omega
    · simp at h

theorem readCoded_shrinks {s r : List Char} {c : Char} (h : readCoded s = .ok (c, r)) :
    r.length < s.length := by
  unfold readCoded at h
  cases hu : readUnit s with
  | error e => simp [hu] at h
  | ok step =>
    obtain ⟨unit, after⟩ := step
    have shorter := readUnit_shrinks hu
    simp only [hu] at h
    split at h
    · simp at h
    · split at h
      · exact Nat.lt_trans (readTrail_shrinks h) shorter
      · simp only [Except.ok.injEq, Prod.mk.injEq] at h
        exact h.2 ▸ shorter

theorem readEscape_shrinks {s r : List Char} {c : Char} (h : readEscape s = .ok (c, r)) :
    r.length < s.length := by
  unfold readEscape at h
  split at h
  · simp at h
  · split at h
    · have shorter := readCoded_shrinks h
      simp only [List.length_cons]
      omega
    · split at h
      · simp only [Except.ok.injEq, Prod.mk.injEq] at h
        simp [← h.2]
      · simp at h

/-- The rest of a string and the text behind it; `seen` holds what was read of it, last first. -/
def readString (seen : List Char) (s : List Char) : Except Failure (String × List Char) :=
  match s with
  | [] => .error (.before .endInString [])
  | c :: r =>
    if c = '"' then .ok (String.ofList seen.reverse, r)
    else if c = '\\' then
      match _taken : readEscape r with
      | .error e => .error e
      | .ok (e, r') => readString (e :: seen) r'
    else if c.toNat < 0x20 then .error (.before .controlCharacter r)
    else readString (c :: seen) r
  termination_by s.length
  decreasing_by
    · have := readEscape_shrinks _taken
      simp only [List.length_cons]
      omega
    · simp

theorem readString_shrinks {seen s r : List Char} {t : String}
    (h : readString seen s = .ok (t, r)) : r.length < s.length := by
  fun_induction readString seen s with
  | case1 => simp at h
  | case2 seen tail =>
    simp only [Except.ok.injEq, Prod.mk.injEq] at h
    simp [← h.2]
  | case3 => simp at h
  | case4 seen tail e after taken _ ih =>
    have taken := readEscape_shrinks taken
    have rest := ih h
    simp only [List.length_cons]
    omega
  | case5 => simp at h
  | case6 seen c tail _ _ _ ih =>
    have rest := ih h
    simp only [List.length_cons]
    omega

end LuaBindings.Json
