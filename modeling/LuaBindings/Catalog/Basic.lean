/-!
# Catalogs

A catalog lists native functions by namespace, in a fixed order. The place of a function among all
functions of the catalog is its sequence id, by which the runtime dispatches a call. It is a word of
32 bits, so that in a catalog with more functions than there are words the places come round again.
-/

namespace LuaBindings

/-- A parameter of a native function. -/
structure Parameter where
  /-- The type as the catalog spells it. -/
  type : String
  name : String
  deriving DecidableEq, Repr

/-- Whether the parameter is passed by pointer. -/
def Parameter.isPointer (p : Parameter) : Bool := p.type.toList.contains '*'

/-- A native function. -/
structure NativeFunction where
  name : String
  /-- The key of the function in its namespace. -/
  hash : String
  /-- The place among all functions of the catalog, from zero. -/
  sequenceId : UInt32
  returnType : String
  parameters : List Parameter
  /-- Documentation; empty where there is none. -/
  comment : String
  /-- A second hash, of an older kind. -/
  jhash : Option String
  /-- The build in which the function first appeared. -/
  build : Option String
  deriving DecidableEq, Repr

/-- Whether a call yields no result. -/
def NativeFunction.returnsVoid (f : NativeFunction) : Bool := f.returnType = "void"

/-- A named group of functions. -/
structure Namespace where
  name : String
  functions : List NativeFunction
  deriving DecidableEq, Repr

/-- Namespaces in their order. -/
structure Catalog where
  namespaces : List Namespace
  deriving DecidableEq, Repr

namespace Catalog

/-- Every function with its namespace, in the order of the catalog. -/
def functions (catalog : Catalog) : List (Namespace × NativeFunction) :=
  catalog.namespaces.flatMap fun ns => ns.functions.map (ns, ·)

/-- The number of functions in all namespaces. -/
def functionCount (catalog : Catalog) : Nat :=
  catalog.namespaces.foldr (fun ns count => ns.functions.length + count) 0

/-- Whether there is no namespace at all. -/
def isEmpty (catalog : Catalog) : Bool := catalog.namespaces.isEmpty

/-- The first namespace of exactly that name. -/
def namespace? (catalog : Catalog) (name : String) : Option Namespace :=
  catalog.namespaces.find? (·.name = name)

theorem length_functions (catalog : Catalog) :
    catalog.functions.length = catalog.functionCount := by
  rw [functions, functionCount]
  induction catalog.namespaces with
  | nil => rfl
  | cons ns rest ih =>
    rw [List.flatMap_cons, List.length_append, ih, List.length_map]
    rfl

end Catalog

end LuaBindings
