import LuaBindings.Json.Text
import Mathlib.Data.List.Forall2
/-!
# The grammar of JSON texts

What a JSON text looks like, stated apart from the readers: blanks, strings with the text they stand
for, numbers, and containers as lists of the texts of their parts. A container is taken apart one
level at a time, so that a document of a known shape is described by its parts and a value of no
interest by `WellFormed` alone.
-/

namespace LuaBindings.Json

open Text (isDigit)

/-! ## Blanks -/

/-- Nothing but blanks. -/
def Blank (s : List Char) : Prop := ∀ c ∈ s, c = ' ' ∨ c = '\n' ∨ c = '\t' ∨ c = '\r'

/-- A text that ends whatever stands before it: it is empty, or starts with a blank, a comma or a
closing bracket. -/
def Delimited (s : List Char) : Prop :=
  ∀ c ∈ s.head?, isBlank c = true ∨ c = ',' ∨ c = ']' ∨ c = '}'

/-- A text that starts with a token other than a comma or a closing bracket. -/
inductive StartsToken : List Char → Prop
  | intro {c : Char} {s : List Char} (notBlank : isBlank c = false) (notComma : c ≠ ',')
      (notBracket : c ≠ ']') (notBrace : c ≠ '}') : StartsToken (c :: s)

theorem isBlank_iff (c : Char) :
    isBlank c = true ↔ c = ' ' ∨ c = '\n' ∨ c = '\t' ∨ c = '\r' := by
  simp [isBlank, or_assoc]

theorem Blank.nil : Blank [] := by simp [Blank]

theorem skipBlanks_append {blanks : List Char} (h : Blank blanks) (s : List Char) :
    skipBlanks (blanks ++ s) = skipBlanks s := by
  induction blanks with
  | nil => rfl
  | cons c rest ih =>
      have blank : isBlank c = true := (isBlank_iff c).mpr (h c (by simp))
      rw [List.cons_append, skipBlanks, List.dropWhile_cons_of_pos blank]
      exact ih fun d hd => h d (List.mem_cons_of_mem c hd)

theorem skipBlanks_cons {c : Char} (h : isBlank c = false) (s : List Char) :
    skipBlanks (c :: s) = c :: s := by
  simp [skipBlanks, h]

theorem skipBlanks_of_blank {blanks : List Char} (h : Blank blanks) : skipBlanks blanks = [] := by
  have whole := skipBlanks_append h []
  rw [List.append_nil] at whole
  exact whole

theorem StartsToken.skipBlanks_append {s blanks : List Char} (h : StartsToken s)
    (blank : Blank blanks) (rest : List Char) : skipBlanks (blanks ++ s ++ rest) = s ++ rest := by
  obtain ⟨notBlank, -, -, -⟩ := h
  rw [List.append_assoc, Json.skipBlanks_append blank, List.cons_append, skipBlanks_cons notBlank]

theorem StartsToken.of_head {c : Char} (h : isBlank c = false ∧ c ≠ ',' ∧ c ≠ ']' ∧ c ≠ '}')
    (s : List Char) : StartsToken (c :: s) :=
  .intro h.1 h.2.1 h.2.2.1 h.2.2.2

theorem StartsToken.append {s : List Char} (h : StartsToken s) (rest : List Char) :
    StartsToken (s ++ rest) := by
  obtain ⟨notBlank, notComma, notBracket, notBrace⟩ := h
  exact .intro notBlank notComma notBracket notBrace

theorem Delimited.nil : Delimited [] := by simp [Delimited]

theorem Delimited.cons {c : Char} (h : isBlank c = true ∨ c = ',' ∨ c = ']' ∨ c = '}')
    (s : List Char) : Delimited (c :: s) := by
  simpa [Delimited] using h

/-- Blanks before a delimited text keep it delimited. -/
theorem Delimited.blank_append {blanks s : List Char} (blank : Blank blanks) (h : Delimited s) :
    Delimited (blanks ++ s) := by
  cases blanks with
  | nil => exact h
  | cons c rest => exact .cons (.inl ((isBlank_iff c).mpr (blank c (by simp)))) _

/-! ## Strings -/

/-- A digit of that value, in either case. -/
def HexDigit (value : Nat) (c : Char) : Prop :=
  "0123456789abcdef".toList[value]? = some c ∨ "0123456789ABCDEF".toList[value]? = some c

instance (value : Nat) (c : Char) : Decidable (HexDigit value c) :=
  inferInstanceAs (Decidable (_ ∨ _))

/-- Four hexadecimal digits and the unit they write. -/
inductive UnitText : Nat → List Char → Prop
  | digits {v₁ v₂ v₃ v₄ : Nat} {c₁ c₂ c₃ c₄ : Char} (h₁ : HexDigit v₁ c₁) (h₂ : HexDigit v₂ c₂)
      (h₃ : HexDigit v₃ c₃) (h₄ : HexDigit v₄ c₄) :
      UnitText (((v₁ * 16 + v₂) * 16 + v₃) * 16 + v₄) [c₁, c₂, c₃, c₄]

/-- The letters that escape a character, each with the character. -/
inductive ShortEscape : Char → Char → Prop
  | quote : ShortEscape '"' '"'
  | backslash : ShortEscape '\\' '\\'
  | slash : ShortEscape '/' '/'
  | backspace : ShortEscape 'b' '\x08'
  | formFeed : ShortEscape 'f' '\x0c'
  | newline : ShortEscape 'n' '\n'
  | return : ShortEscape 'r' '\r'
  | tab : ShortEscape 't' '\t'

/-- The first UTF-16 unit of a character beyond the first plane. -/
def leadUnit (c : Char) : Nat := 0xD800 + (c.toNat - 0x10000) / 0x400

/-- The second UTF-16 unit of a character beyond the first plane. -/
def trailUnit (c : Char) : Nat := 0xDC00 + (c.toNat - 0x10000) % 0x400

/-- The spellings of a character inside a string: itself, or one of its escapes. -/
inductive CharText : Char → List Char → Prop
  | plain {c : Char} (notQuote : c ≠ '"') (notBackslash : c ≠ '\\') (notControl : 0x20 ≤ c.toNat) :
      CharText c [c]
  | short {letter c : Char} (escape : ShortEscape letter c) : CharText c ['\\', letter]
  | coded {c : Char} {digits : List Char} (unit : UnitText c.toNat digits) :
      CharText c ('\\' :: 'u' :: digits)
  | paired {c : Char} {lead trail : List Char} (beyond : 0x10000 ≤ c.toNat)
      (leads : UnitText (leadUnit c) lead) (trails : UnitText (trailUnit c) trail) :
      CharText c ('\\' :: 'u' :: (lead ++ '\\' :: 'u' :: trail))

/-- The spellings of a string. -/
inductive StringText : String → List Char → Prop
  | intro {t : String} {pieces : List (List Char)}
      (spelled : List.Forall₂ CharText t.toList pieces) :
      StringText t ('"' :: (pieces.flatten ++ ['"']))

/-- A character or an escape, whatever it stands for: also a unit of a pair that stands alone. -/
inductive StringPiece : List Char → Prop
  | plain {c : Char} (notQuote : c ≠ '"') (notBackslash : c ≠ '\\') (notControl : 0x20 ≤ c.toNat) :
      StringPiece [c]
  | short {letter c : Char} (escape : ShortEscape letter c) : StringPiece ['\\', letter]
  | coded {unit : Nat} {digits : List Char} (h : UnitText unit digits) :
      StringPiece ('\\' :: 'u' :: digits)

/-- A string by its grammar alone. -/
inductive StringToken : List Char → Prop
  | intro {pieces : List (List Char)} (h : ∀ piece ∈ pieces, StringPiece piece) :
      StringToken ('"' :: (pieces.flatten ++ ['"']))

/-! ## Numbers -/

/-- The digits before the point, with no zero too many. -/
inductive WholeText : List Char → Prop
  | zero : WholeText ['0']
  | digits {c : Char} {s : List Char} (first : isDigit c = true) (nonzero : c ≠ '0')
      (others : ∀ d ∈ s, isDigit d = true) : WholeText (c :: s)

/-- The point and the digits behind it, or nothing. -/
inductive FractionText : List Char → Prop
  | none : FractionText []
  | digits {c : Char} {s : List Char} (first : isDigit c = true)
      (others : ∀ d ∈ s, isDigit d = true) : FractionText ('.' :: c :: s)

/-- The mark of an exponent, its sign if it has one, and its digits, or nothing. -/
inductive ExponentText : List Char → Prop
  | none : ExponentText []
  | digits {mark c : Char} {sign s : List Char} (marked : mark = 'e' ∨ mark = 'E')
      (signed : sign = [] ∨ sign = ['+'] ∨ sign = ['-']) (first : isDigit c = true)
      (others : ∀ d ∈ s, isDigit d = true) : ExponentText (mark :: (sign ++ c :: s))

/-- A number of any size. -/
inductive NumberText : List Char → Prop
  | intro {sign whole fraction exponent : List Char} (signed : sign = [] ∨ sign = ['-'])
      (hw : WholeText whole) (hf : FractionText fraction) (he : ExponentText exponent) :
      NumberText (sign ++ (whole ++ (fraction ++ exponent)))

/-! ## Containers -/

/-- At least one part, with commas between the parts and blanks around each. -/
inductive Listed : List (List Char) → List Char → Prop
  | one {before part after : List Char} (hb : Blank before) (ha : Blank after) :
      Listed [part] (before ++ part ++ after)
  | more {before part after s : List Char} {parts : List (List Char)} (hb : Blank before)
      (ha : Blank after) (others : Listed parts s) :
      Listed (part :: parts) (before ++ part ++ (after ++ ',' :: s))

/-- Parts between two brackets. -/
inductive Bracketed (opening closing : Char) : List (List Char) → List Char → Prop
  | empty {blanks : List Char} (h : Blank blanks) :
      Bracketed opening closing [] (opening :: (blanks ++ [closing]))
  | parts {parts : List (List Char)} {s : List Char} (h : Listed parts s) :
      Bracketed opening closing parts (opening :: (s ++ [closing]))

/-- A key, a colon and a value. -/
inductive MemberText (key value : List Char) : List Char → Prop
  | intro {before after : List Char} (hb : Blank before) (ha : Blank after) :
      MemberText key value (key ++ (before ++ ':' :: (after ++ value)))

/-- An array of values with these texts. -/
def ArrayText (items : List (List Char)) (s : List Char) : Prop := Bracketed '[' ']' items s

/-- An object with these keys, each with the text of its value. -/
inductive ObjectText : List (String × List Char) → List Char → Prop
  | intro {members : List (String × List Char)} {parts : List (List Char)} {s : List Char}
      (spelled : List.Forall₂
        (fun member part => ∃ key, StringText member.1 key ∧ MemberText key member.2 part)
        members parts)
      (bracketed : Bracketed '{' '}' parts s) : ObjectText members s

/-- A value of any kind and any depth. -/
inductive WellFormed : List Char → Prop
  | null : WellFormed ['n', 'u', 'l', 'l']
  | true : WellFormed ['t', 'r', 'u', 'e']
  | false : WellFormed ['f', 'a', 'l', 's', 'e']
  | number {s : List Char} (h : NumberText s) : WellFormed s
  | string {s : List Char} (h : StringToken s) : WellFormed s
  | array {items : List (List Char)} {s : List Char} (values : ∀ item ∈ items, WellFormed item)
      (text : ArrayText items s) : WellFormed s
  | object {members : List (List Char × List Char)} {parts : List (List Char)} {s : List Char}
      (keys : ∀ member ∈ members, StringToken member.1)
      (values : ∀ member ∈ members, WellFormed member.2)
      (spelled : List.Forall₂ (fun member part => MemberText member.1 member.2 part) members parts)
      (text : Bracketed '{' '}' parts s) : WellFormed s

/-- An array of values of any kind. -/
structure ArrayOf (items : List (List Char)) (s : List Char) : Prop where
  values : ∀ item ∈ items, WellFormed item
  text : ArrayText items s

/-- An object of values of any kind, each under the text of its key. -/
structure ObjectOf (members : List (List Char × List Char)) (s : List Char) : Prop where
  keys : ∀ member ∈ members, StringToken member.1
  values : ∀ member ∈ members, WellFormed member.2
  text : ∃ parts, List.Forall₂ (fun member part => MemberText member.1 member.2 part) members parts ∧
    Bracketed '{' '}' parts s

theorem ObjectOf.wellFormed {members : List (List Char × List Char)} {s : List Char}
    (h : ObjectOf members s) : WellFormed s := by
  obtain ⟨keys, values, parts, spelled, bracketed⟩ := h
  exact .object keys values spelled bracketed

/-- The blanks before the first part of a list can be told from the rest. -/
theorem Listed.trim {parts : List (List Char)} {s : List Char} (listed : Listed parts s)
    (starts : ∀ part ∈ parts, StartsToken part) :
    ∃ blanks trimmed, Blank blanks ∧ s = blanks ++ trimmed ∧ Listed parts trimmed ∧
      StartsToken trimmed := by
  cases listed with
  | @one before part after hb ha =>
      refine ⟨before, part ++ after, hb, by simp, ?_, ?_⟩
      · have alone : Listed [part] ([] ++ part ++ after) := .one .nil ha
        exact alone
      · exact (starts part (by simp)).append after
  | @more before part after s others hb ha rest =>
      refine ⟨before, part ++ (after ++ ',' :: s), hb, by simp, ?_, ?_⟩
      · have further : Listed (part :: _) ([] ++ part ++ (after ++ ',' :: s)) := .more .nil ha rest
        exact further
      · exact (starts part (by simp)).append _

end LuaBindings.Json
