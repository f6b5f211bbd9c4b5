/-!
# Lua identifiers

A parameter of a Lua function cannot be called by a reserved word of the language. Such a name gets
an underscore; every other name stays as it is.
-/

namespace LuaBindings.Lua

/-- The reserved words of Lua 5.4. -/
def reservedWords : List String := [
  "and", "break", "do", "else", "elseif", "end", "false", "for", "function", "goto", "if", "in",
  "local", "nil", "not", "or", "repeat", "return", "then", "true", "until", "while"]

/-- Whether a name is a reserved word, case included. -/
def isReserved (name : String) : Bool := reservedWords.contains name

/-- The name of a parameter in Lua. -/
def escapeReserved (name : String) : String := if isReserved name then name ++ "_" else name

end LuaBindings.Lua
