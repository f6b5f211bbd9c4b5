import LuaBindings.Text.Printable
/-!
# Quoted text

Text shown between double quotes inside a message. The quote, the backslash and the common controls
are written with a backslash; every other character that could not be made out is written as its
code point in braces.
-/

namespace LuaBindings.Text

/-- Lower-case hexadecimal digits of a number, without leading zeros. -/
def hexadecimal (n : Nat) : List Char := Nat.toDigits 16 n

/-- One character of a quoted text. -/
def quoteChar (c : Char) : List Char :=
  match c with
  | '\x00' => ['\\', '0']
  | '\t' => ['\\', 't']
  | '\r' => ['\\', 'r']
  | '\n' => ['\\', 'n']
  | '\\' => ['\\', '\\']
  | '"' => ['\\', '"']
  | c => if isPrintable c then [c] else ['\\', 'u', '{'] ++ hexadecimal c.toNat ++ ['}']

/-- A text between double quotes. -/
def quoted (s : String) : String :=
  String.ofList ('"' :: s.toList.flatMap quoteChar ++ ['"'])

end LuaBindings.Text
