import LuaBindings.Project.Location
import LuaBindings.Project.Telling
/-!
# Generation

Loading the catalog of a project and writing its bindings.
-/

namespace LuaBindings.Project

/-- What the command line says of a generation. A switch is on if either the command line or the
manifest turns it on. -/
structure GenerationRequest where
  catalog : Option String
  outputDir : Option String
  options : Binding.Options
  /-- Tell no more than the summary. -/
  quiet : Bool
  deriving DecidableEq, Repr

/-- What a generation did. -/
structure GenerationSummary where
  /-- The path of the catalog. -/
  catalog : Path
  /-- The paths written, each with the number of functions in the file. -/
  files : List (Path × Nat)
  namespaces : Nat
  functions : Nat
  /-- The number of natives to fix up. -/
  fixups : Nat
  deriving DecidableEq, Repr

variable {m : Type → Type} [Monad m] [FileSystem m]

/-- Load the catalog and write its bindings. -/
def generate (project workingDir : Path) (manifest : Option Manifest)
    (request : GenerationRequest) : ExceptT Failure m GenerationSummary := do
  let (path, catalog) ← loadCatalog project workingDir manifest request.catalog
  let options := (manifest.elim .none Manifest.options).union request.options
  let directory := outputDir project workingDir manifest request.outputDir
  let planned := Binding.plan catalog options
  let written ← ExceptT.adapt (Failure.output directory) (Binding.write directory planned)
  return {
    catalog := path
    files := written.zip (planned.map (·.functionCount))
    namespaces := catalog.namespaces.length
    functions := catalog.functionCount
    fixups := catalog.fixups.length }

/-- The lines that tell of a generation: one for each file unless asked to be quiet, and a
summary. -/
def GenerationSummary.lines (summary : GenerationSummary) (quiet : Bool) : List String :=
  let file (entry : Path × Nat) : String :=
    "  wrote " ++ entry.1.text ++ " (" ++ toString entry.2 ++ " functions)"
  (if quiet then [] else summary.files.map file) ++
    ["Generated " ++ toString summary.functions ++ " functions in " ++
      toString summary.namespaces ++ " namespaces (" ++ toString summary.fixups ++
      " with vector fix-up) from " ++ summary.catalog.text ++ " → " ++
      toString summary.files.length ++ " file(s)"]

/-- Generate, and tell of it. -/
def runGenerate (project workingDir : Path) (manifest : Option Manifest)
    (request : GenerationRequest) : Telling m Unit := do
  let summary ← Telling.work (generate project workingDir manifest request)
  Telling.tellAll (summary.lines request.quiet)

end LuaBindings.Project
