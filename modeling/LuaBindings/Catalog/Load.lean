import LuaBindings.Catalog.Document
/-!
# Loading

A catalog is loaded from a document in one walk in the order of the document. The walk checks that
namespaces can name files and that no part of a declaration is empty, and it numbers the functions
with a counter of 32 bits. The first violation met ends it.
-/

namespace LuaBindings.Catalog

/-- Why a text is not a catalog. -/
inductive LoadError where
  /-- It is not a document of the right shape. -/
  | document (cause : Json.Cause) (position : Json.Position)
  /-- A namespace cannot name a file. -/
  | pathSeparator (namespaceName : String)
  | emptyName (namespaceName hash : String)
  | emptyReturnType (namespaceName hash : String)
  /-- The type of the parameter at an index, counted from zero, is empty. -/
  | emptyParameterType (namespaceName hash : String) (index : Nat)
  deriving DecidableEq, Repr

/-- What is wrong, without the words that open the message. -/
def LoadError.detail : LoadError → String
  | .document cause position =>
    cause.message ++ " at line " ++ toString position.line ++ " column " ++ toString position.column
  | .pathSeparator ns => "namespace '" ++ ns ++ "' contains a path separator"
  | .emptyName ns hash => ns ++ "/" ++ hash ++ ": name is empty"
  | .emptyReturnType ns hash => ns ++ "/" ++ hash ++ ": return_type is empty"
  | .emptyParameterType ns hash index =>
    ns ++ "/" ++ hash ++ ": type of parameter " ++ toString index ++ " is empty"

/-- The wording of the error. -/
def LoadError.message (error : LoadError) : String := "malformed catalog: " ++ error.detail

/-- Whether a name holds a character that separates the parts of a path. -/
def hasPathSeparator (name : String) : Bool := name.toList.any fun c => c = '/' || c = '\\'

/-- The function that a record describes, given its place, or the first of its parts that is
empty. -/
def number (ns : String) (hash : String) (id : UInt32) (record : FunctionRecord) :
    Except LoadError NativeFunction :=
  if record.name = "" then .error (.emptyName ns hash)
  else if record.returnType = "" then .error (.emptyReturnType ns hash)
  else
    match record.parameters.findIdx? (·.type = "") with
    | some index => .error (.emptyParameterType ns hash index)
    | none =>
      .ok {
        name := record.name
        hash
        sequenceId := id
        returnType := record.returnType
        parameters := record.parameters
        comment := record.comment
        jhash := record.jhash
        build := record.build }

/-- The functions of a namespace, the first of which has the place `first`. -/
def numberAll (ns : String) (first : UInt32) :
    List (String × FunctionRecord) → Except LoadError (List NativeFunction)
  | [] => .ok []
  | (hash, record) :: rest => do
    let f ← number ns hash first record
    let fs ← numberAll ns (first + 1) rest
    return f :: fs

/-- The namespaces of a document, whose first function has the place `first`. -/
def ofEntries (first : UInt32) :
    List (String × OrderedMap FunctionRecord) → Except LoadError (List Namespace)
  | [] => .ok []
  | (name, records) :: rest => do
    if hasPathSeparator name then throw (.pathSeparator name)
    let functions ← numberAll name first records.entries
    let others ← ofEntries (first + .ofNat records.entries.length) rest
    return { name, functions } :: others

/-- The catalog that a document describes. -/
def ofDocument (document : Document) : Except LoadError Catalog := do
  return { namespaces := ← ofEntries 0 document.entries }

/-- The catalog that a text holds. -/
def load (text : String) : Except LoadError Catalog :=
  let chars := text.toList
  match Document.read chars with
  | .error failure => .error (.document failure.cause (failure.position chars))
  | .ok document => ofDocument document

end LuaBindings.Catalog
