import LuaBindings.Project.Telling
/-!
# Upkeep

Starting a project with a manifest, and removing what has been generated.
-/

namespace LuaBindings.Project

variable {m : Type → Type} [Monad m] [FileSystem m]

/-- Write the starting manifest into a directory where nothing goes by that name, and yield its
path. -/
def startProject (directory : Path) : ExceptT Failure m Path := do
  let path := directory.join ⟨Manifest.fileName⟩
  if ← FileSystem.holds path then throw (.manifestExists path)
  match ← FileSystem.writeText path Manifest.template with
  | .error fault => throw (.unwritableManifest path fault)
  | .ok () => return path

/-- Start a project in a directory, and tell of it. -/
def runInit (directory : Path) : Telling m Unit := do
  let path ← Telling.work (startProject directory)
  Telling.tell ("Created " ++ path.text)
  Telling.tell "Place natives.json next to it and run `nativegen generate`."

/-- Remove an output directory if it is there, and yield whether it was. -/
def removeOutput (directory : Path) : ExceptT Failure m Bool := do
  if ← FileSystem.holds directory then
    match ← FileSystem.removeDirectory directory with
    | .error fault => throw (.removal directory fault)
    | .ok () => return true
  else return false

/-- Remove an output directory, and tell of it. -/
def runClean (directory : Path) : Telling m Unit := do
  if ← Telling.work (removeOutput directory) then
    Telling.tell ("Removed " ++ directory.text)
  else Telling.tell ("Already clean: " ++ directory.text ++ " does not exist")

end LuaBindings.Project
