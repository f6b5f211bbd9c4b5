import LuaBindings.Manifest.Basic
import LuaBindings.Toml.Document
/-!
# Manifest documents

A manifest is written as a TOML document with three sections. A section may also be an array of the
values of its settings in their order. Anything else in the document is ignored.
-/

namespace LuaBindings.Manifest

/-- Why a text is not a manifest. -/
inductive ReadError where
  | toml (fault : Toml.Fault)
  /-- A setting or a section has a value of the wrong type. -/
  | wrongType (key : String)
  deriving DecidableEq, Repr

/-- The values of some settings of a section, in the order given. A moment counts as a section that
gives none. -/
def settings (root : Toml.Entries) (heading : String) (names : List String) :
    Except ReadError (String → Option Toml.Value) :=
  match root.lookup heading with
  | none => .ok fun _ => none
  | some (.table _ entries) => .ok fun name => entries.lookup name
  | some (.array items) => .ok fun name => items[names.idxOf name]?
  | some (.moment _) => .ok fun _ => none
  | some _ => .error (.wrongType heading)

/-- The text that a setting is, if it is given. -/
def textSetting (name : String) : Option Toml.Value → Except ReadError (Option String)
  | none => .ok none
  | some (.text s) => .ok (some s)
  | some _ => .error (.wrongType name)

/-- The truth value that a setting is, if it is given. -/
def switchSetting (name : String) : Option Toml.Value → Except ReadError (Option Bool)
  | none => .ok none
  | some (.boolean b) => .ok (some b)
  | some _ => .error (.wrongType name)

/-- The manifest that the root table of a document holds. -/
def ofEntries (root : Toml.Entries) : Except ReadError Manifest := do
  let catalog ← settings root "catalog" ["path"]
  let output ← settings root "output" ["dir", "single_file"]
  let generate ← settings root "generate" ["comments", "signatures"]
  return {
    catalogPath := ← textSetting "path" (catalog "path")
    outputDir := ← textSetting "dir" (output "dir")
    singleFile := ← switchSetting "single_file" (output "single_file")
    comments := ← switchSetting "comments" (generate "comments")
    signatures := ← switchSetting "signatures" (generate "signatures") }

/-- The manifest that a text holds. -/
def read (text : String) : Except ReadError Manifest :=
  match Toml.parse text with
  | .error fault => .error (.toml fault)
  | .ok root => ofEntries root

end LuaBindings.Manifest
