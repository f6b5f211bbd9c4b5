import LuaBindings.Text.Quoted
/-!
# Reading failures

Why a JSON text could not be read, and where. A failure keeps the text that was left when it arose;
`Failure.position` turns that into a line and a column of the whole text. Columns count bytes.
-/

namespace LuaBindings.Json

/-- What stood where something else was expected. -/
inductive Found where
  | null
  | boolean (value : Bool)
  | integer (value : Int)
  /-- A number with a fraction or an exponent, or too large for an integer, as it is written out. -/
  | float (shown : String)
  | text (value : String)
  | sequence
  | map
  deriving DecidableEq, Repr

/-- How a message names what was found. -/
def Found.describe : Found → String
  | .null => "null"
  | .boolean value => "boolean `" ++ toString value ++ "`"
  | .integer value => "integer `" ++ toString value ++ "`"
  | .float shown => "floating point `" ++ shown ++ "`"
  | .text value => "string " ++ Text.quoted value
  | .sequence => "sequence"
  | .map => "map"

/-- Why reading stopped. -/
inductive Cause where
  | endInValue
  | endInObject
  | endInList
  | endInString
  | expectedColon
  | expectedListEnd
  | expectedObjectEnd
  | expectedLiteral
  | expectedValue
  | invalidEscape
  | invalidNumber
  | numberOutOfRange
  | controlCharacter
  | keyNotString
  | loneSurrogate
  | brokenSurrogatePair
  | trailingComma
  | trailingCharacters
  | wrongType (found : Found) (expected : String)
  | missingField (name : String)
  | duplicateField (name : String)
  | wrongLength (length : Nat) (expected : String)
  deriving DecidableEq, Repr

/-- The wording of a cause. -/
def Cause.message : Cause → String
  | .endInValue => "EOF while parsing a value"
  | .endInObject => "EOF while parsing an object"
  | .endInList => "EOF while parsing a list"
  | .endInString => "EOF while parsing a string"
  | .expectedColon => "expected `:`"
  | .expectedListEnd => "expected `,` or `]`"
  | .expectedObjectEnd => "expected `,` or `\x7d`"
  | .expectedLiteral => "expected ident"
  | .expectedValue => "expected value"
  | .invalidEscape => "invalid escape"
  | .invalidNumber => "invalid number"
  | .numberOutOfRange => "number out of range"
  | .controlCharacter => "control character (\\u0000-\\u001F) found while parsing a string"
  | .keyNotString => "key must be a string"
  | .loneSurrogate => "lone leading surrogate in hex escape"
  | .brokenSurrogatePair => "unexpected end of hex escape"
  | .trailingComma => "trailing comma"
  | .trailingCharacters => "trailing characters"
  | .wrongType found expected => "invalid type: " ++ found.describe ++ ", expected " ++ expected
  | .missingField name => "missing field `" ++ name ++ "`"
  | .duplicateField name => "duplicate field `" ++ name ++ "`"
  | .wrongLength length expected =>
    "invalid length " ++ toString length ++ ", expected " ++ expected

/-- A cause, the text left when it arose, and how many bytes of that text it already covers. -/
structure Failure where
  cause : Cause
  rest : List Char
  ahead : Nat
  deriving DecidableEq, Repr

/-- A failure just before the text left. -/
def Failure.before (cause : Cause) (rest : List Char) : Failure := ⟨cause, rest, 0⟩

/-- A failure that covers the next byte of the text left. -/
def Failure.onNext (cause : Cause) (rest : List Char) : Failure := ⟨cause, rest, 1⟩

/-- A place in a text: lines from one, columns in bytes of the line before the place. -/
structure Position where
  line : Nat
  column : Nat
  deriving DecidableEq, Repr

/-- The size of a text in bytes. -/
def byteSize (s : List Char) : Nat := s.foldl (fun n c => n + c.utf8Size) 0

/-- The place `bytes` bytes further on from `here`. A place inside a character is one in its line. -/
def Position.advance (here : Position) (bytes : Nat) : List Char → Position
  | [] => here
  | c :: rest =>
    if bytes < c.utf8Size then ⟨here.line, here.column + bytes⟩
    else if c = '\n' then advance ⟨here.line + 1, 0⟩ (bytes - c.utf8Size) rest
    else advance ⟨here.line, here.column + c.utf8Size⟩ (bytes - c.utf8Size) rest

/-- Where in the whole text a failure lies; never behind its end. -/
def Failure.position (failure : Failure) (whole : List Char) : Position :=
  Position.advance ⟨1, 0⟩ (byteSize whole - byteSize failure.rest + failure.ahead) whole

end LuaBindings.Json
