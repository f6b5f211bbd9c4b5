import LuaBindings.Catalog.Basic
import LuaBindings.Json.Record
import LuaBindings.OrderedMap
/-!
# Catalog documents

A catalog is written as a JSON map from namespace names to maps from hashes to function records.
This module says how the records are written; what a document must satisfy beyond its shape is the
concern of loading.
-/

namespace LuaBindings.Catalog

open Json (Failure Field RecordFormat)

/-! ## Parameters -/

/-- A parameter of which only some fields may have been read. -/
structure ParameterDraft where
  type : Option String
  name : Option String

/-- How a parameter is written. -/
def parameterFormat : RecordFormat ParameterDraft Parameter where
  title := "struct ParamRecord"
  fields := [
    ⟨"type", (·.type.isSome), fun d => Json.string.map fun t => { d with type := some t }⟩,
    ⟨"name", (·.name.isSome), fun d => Json.string.map fun t => { d with name := some t }⟩]
  blank := ⟨none, none⟩
  finish d := do
    let type ← d.type.elim (.error "type") .ok
    let name ← d.name.elim (.error "name") .ok
    return { type, name }

/-! ## Functions -/

/-- A function as it is written: its hash is the key, and its place is not yet known. -/
structure FunctionRecord where
  name : String
  comment : String
  parameters : List Parameter
  returnType : String
  jhash : Option String
  build : Option String
  deriving DecidableEq, Repr

/-- A function of which only some fields may have been read. -/
structure FunctionDraft where
  name : Option String
  comment : Option String
  parameters : Option (List Parameter)
  returnType : Option String
  jhash : Option (Option String)
  build : Option (Option String)

/-- How a function is written. Without a comment it has an empty one. -/
def functionFormat : RecordFormat FunctionDraft FunctionRecord where
  title := "struct RawFunction"
  fields := [
    ⟨"name", (·.name.isSome), fun d => Json.string.map fun t => { d with name := some t }⟩,
    ⟨"comment", (·.comment.isSome),
      fun d => Json.string.map fun t => { d with comment := some t }⟩,
    ⟨"params", (·.parameters.isSome),
      fun d => (Json.sequence parameterFormat.reader).map fun ps => { d with parameters := some ps }⟩,
    ⟨"return_type", (·.returnType.isSome),
      fun d => Json.string.map fun t => { d with returnType := some t }⟩,
    ⟨"jhash", (·.jhash.isSome),
      fun d => Json.optionalString.map fun t => { d with jhash := some t }⟩,
    ⟨"build", (·.build.isSome),
      fun d => Json.optionalString.map fun t => { d with build := some t }⟩]
  blank := ⟨none, none, none, none, none, none⟩
  finish d := do
    let name ← d.name.elim (.error "name") .ok
    let parameters ← d.parameters.elim (.error "params") .ok
    let returnType ← d.returnType.elim (.error "return_type") .ok
    return {
      name, parameters, returnType
      comment := d.comment.getD ""
      jhash := d.jhash.getD none
      build := d.build.getD none }

/-! ## Documents -/

/-- Functions under their hashes, under the names of their namespaces. A repeated key has the place
of its first occurrence and the value of its last. -/
abbrev Document := OrderedMap (OrderedMap FunctionRecord)

/-- The reader of a document. -/
def documentReader : Reader Failure Document :=
  (Json.entries ((Json.entries functionFormat.reader).map OrderedMap.ofList)).map OrderedMap.ofList

/-- The document that a text holds. -/
def Document.read (text : List Char) : Except Failure Document :=
  Json.readDocument documentReader text

end LuaBindings.Catalog
