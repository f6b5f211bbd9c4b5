import LuaBindings.Project.Location
import LuaBindings.Project.Telling
/-!
# Inspection

Showing the catalog of a project, as a whole or by one of its namespaces.
-/

namespace LuaBindings.Project

variable {m : Type → Type} [Monad m] [FileSystem m]

/-- What is shown of a catalog: the namespace of a given name, or an overview. -/
def report (catalog : Catalog) : Option String → Except Stop (List String)
  | none => catalog.overview.mapError .brokeDown
  | some name =>
    match catalog.listing? name with
    | some lines => .ok lines
    | none => .error (.failed (.unknownNamespace name))

/-- Load the catalog and show it. -/
def runInspect (project workingDir : Path) (manifest : Option Manifest)
    (catalogFlag namespaceName : Option String) : Telling m Unit := do
  let (path, catalog) ← Telling.work (loadCatalog project workingDir manifest catalogFlag)
  let lines ← liftExcept (report catalog namespaceName)
  Telling.tell ("Catalog: " ++ path.text)
  Telling.tellAll lines
where
  liftExcept {α : Type} (result : Except Stop α) : Telling m α := .mk (pure result)

end LuaBindings.Project
