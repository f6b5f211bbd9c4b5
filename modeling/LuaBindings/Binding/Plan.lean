import LuaBindings.Binding.Render
/-!
# File plans

How the rendered namespaces are divided into files: one for each, or a single one that holds all of
them in order.
-/

namespace LuaBindings.Binding

/-- A file that is to be written into the output directory. -/
structure PlannedFile where
  name : String
  content : String
  /-- The number of functions in the file. -/
  functionCount : Nat
  deriving DecidableEq, Repr

/-- The name of the file that holds all namespaces. -/
def singleFileName : String := "natives.lua"

/-- The part of a file that holds one namespace. -/
def fileText (options : Options) (ns : Namespace) : String := renderNamespace ns options ++ "\n"

/-- The files of a catalog, in its order. -/
def plan (catalog : Catalog) (options : Options) : List PlannedFile :=
  if options.singleFile then
    [{ name := singleFileName
       content := String.join (catalog.namespaces.map (fileText options))
       functionCount := catalog.functionCount }]
  else
    catalog.namespaces.map fun ns =>
      { name := ns.name ++ ".lua"
        content := fileText options ns
        functionCount := ns.functions.length }

end LuaBindings.Binding
