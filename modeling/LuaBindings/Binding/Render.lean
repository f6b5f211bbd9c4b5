import LuaBindings.Binding.TypeConstant
import LuaBindings.Binding.VectorFixup
import LuaBindings.Lua.Identifier
/-!
# Rendering

The Lua text of a namespace: a table, and for each native a function that hands its arguments on to
`native.invoke` together with the result type, the place of the native and the fix-up flag.
-/

namespace LuaBindings.Binding

/-- What the generated text holds besides the bindings, and how it is divided into files. -/
structure Options where
  /-- Put the catalog's comments above the functions. -/
  comments : Bool
  /-- Put the catalog's declarations above the functions. -/
  signatures : Bool
  /-- Put all namespaces into one file. -/
  singleFile : Bool
  deriving DecidableEq, Repr

/-- Everything switched off. -/
def Options.none : Options := ⟨false, false, false⟩

/-- Everything that either side switches on. -/
def Options.union (a b : Options) : Options :=
  ⟨a.comments || b.comments, a.signatures || b.signatures, a.singleFile || b.singleFile⟩

/-- The declaration of a native as the catalog spells it, with its hash. -/
def signature (f : NativeFunction) : String :=
  let parameters := f.parameters.map fun p => p.type ++ " " ++ p.name
  f.returnType ++ " " ++ f.name ++ "(" ++ ", ".intercalate parameters ++ ") // " ++ f.hash

/-- The line that hands on one argument. A pointer is handed on by reference. -/
def argumentLine (p : Parameter) : String :=
  let wrapper := if p.isPointer then "ref" else "arg"
  "    " ++ wrapper ++ "(" ++ typeConstant p.type ++ ", " ++ Lua.escapeReserved p.name ++ ")"

/-- The lines above a function. -/
def headLines (options : Options) (f : NativeFunction) : List String :=
  (if options.signatures then ["-- " ++ signature f] else []) ++
    if options.comments && f.comment ≠ "" then ["--[[\n" ++ f.comment ++ "\n--]]"] else []

/-- The lines of a function. -/
def bodyLines (ns : String) (f : NativeFunction) : List String :=
  let names := f.parameters.map fun p => Lua.escapeReserved p.name
  let result := if f.returnsVoid then "" else "return "
  let flag := if needsFixup f then "true" else "false"
  let comma := if f.parameters.isEmpty then "" else ","
  let arguments := f.parameters.map argumentLine
  ["function " ++ ns ++ "." ++ f.name ++ "(" ++ ", ".intercalate names ++ ")",
    "  " ++ result ++ "native.invoke(",
    "    " ++ typeConstant f.returnType ++ ", " ++ toString f.sequenceId.toNat ++ ", " ++ flag ++ comma] ++
  (if arguments.isEmpty then [] else [",\n".intercalate arguments]) ++
  ["  )", "end"]

/-- The text of one function, ending with a line break. -/
def renderFunction (ns : String) (f : NativeFunction) (options : Options) : String :=
  "\n".intercalate (headLines options f ++ bodyLines ns f) ++ "\n"

/-- The text of a namespace: its table, and its functions with an empty line behind each. -/
def renderNamespace (ns : Namespace) (options : Options) : String :=
  ns.name ++ " = \x7b\x7d\n\n" ++
    String.join (ns.functions.map fun f => renderFunction ns.name f options ++ "\n")

end LuaBindings.Binding
