import LuaBindings.Proofs.Lua.Comments
/-!
# Lua tokens

What a Lua chunk says depends on its tokens alone; comments and blanks only stand between them. A
token is a name, a numeral or a symbol, and as long as it can be. Quotes and brackets of text
literals are symbols of their own here, since generated code has no text literals.
-/

namespace LuaBindings.Lua

/-! ## Scanning -/

/-- Whether a character separates tokens. -/
def isBlank (c : Char) : Bool := c.isWhitespace || c = '\x0b' || c = '\x0c'

/-- Whether names and numerals may have the character in them. -/
def isWordChar (c : Char) : Bool := c.isAlphanum || c = '_'

/-- The symbols of more than one character. -/
def longSymbols : List (List Char) :=
  ["==", "~=", "<=", ">=", "//", "::", "..", "...", "<<", ">>"].map String.toList

/-- Whether a character goes on with the token in front of it. A numeral may have dots in it. -/
def joins (token : List Char) (c : Char) : Bool :=
  match token with
  | [] => false
  | first :: _ =>
      isWordChar first && (isWordChar c || first.isDigit && c = '.') ||
        longSymbols.contains (token ++ [c])

/-- Some tokens behind one that has come to its end, if there is one. -/
def settle (token : List Char) (later : List (List Char)) : List (List Char) :=
  if token = [] then later else token :: later

/-- The tokens of a text, of which the first one has begun with some characters already. -/
def scan (token : List Char) : List Char → List (List Char)
  | [] => settle token []
  | c :: rest =>
      if isBlank c then settle token (scan [] rest)
      else if joins token c then scan (token ++ [c]) rest
      else settle token (scan [c] rest)

/-- The tokens of a chunk. -/
def tokens (chunk : List Char) : List (List Char) := scan [] (uncomment .code chunk)

/-! ## Line by line -/

theorem settle_append (token : List Char) (later more : List (List Char)) :
    settle token (later ++ more) = settle token later ++ more := by
  unfold settle
  split
  · rfl
  · rfl

/-- No token goes over the end of a line. -/
theorem scan_line (token s rest : List Char) :
    scan token (s ++ '\n' :: rest) = scan token s ++ scan [] rest := by
  induction s generalizing token with
  | nil => exact settle_append token [] (scan [] rest)
  | cons c s ih =>
      rw [List.cons_append, scan, scan]
      by_cases blank : isBlank c
      · rw [if_pos blank, if_pos blank, ih, settle_append]
      · rw [if_neg blank, if_neg blank]
        by_cases joined : joins token c
        · rw [if_pos joined, if_pos joined, ih]
        · rw [if_neg joined, if_neg joined, ih, settle_append]

/-- Behind a settled line, the tokens of the other lines are those of a chunk. -/
theorem tokens_line {line : List Char} (h : Settled line) (rest : List Char) :
    tokens (line ++ '\n' :: rest) = tokens line ++ tokens rest := by
  unfold tokens
  rw [uncomment_settled h, scan_line]

example : tokens "a.b = x1..2.5 -- c\n--[[ d\n]]==e".toList =
    ["a", ".", "b", "=", "x1", "..", "2.5", "==", "e"].map String.toList := by decide

end LuaBindings.Lua
