import LuaBindings.Text.CaseMapping
/-!
# Type constants

The runtime knows a type of the catalog by a key of its table `Type`. The key depends on the
spelling alone: pointer stars are dropped, a C string becomes `string`, the first character is made
a capital and every other one small.
-/

namespace LuaBindings.Binding

/-- The spelling of a type without its pointer stars, and `string` for that of a C string. -/
def baseType (type : String) : List Char :=
  let bare := type.toList.filter (· ≠ '*')
  if bare = "const char".toList then "string".toList else bare

/-- A text with a capital at its front and small letters behind it. -/
def capitalize : List Char → List Char
  | [] => []
  | c :: rest => Text.capital c ++ rest.flatMap Text.small

/-- The expression for a type of the catalog. -/
def typeConstant (type : String) : String := "Type." ++ String.ofList (capitalize (baseType type))

end LuaBindings.Binding
