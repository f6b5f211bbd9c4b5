import LuaBindings.Binding.Plan
import LuaBindings.FileSystem
/-!
# Output

Planned files are written one after another into a directory, which is made if it is missing. The
first failure ends it; the files written before stay.
-/

namespace LuaBindings.Binding

/-- Why the planned files were not all written. -/
inductive WriteError where
  | createDirectory (path : Path) (fault : FileFault)
  | writeFile (path : Path) (fault : FileFault)
  deriving DecidableEq, Repr

/-- What the file system said. -/
def WriteError.fault : WriteError → FileFault
  | .createDirectory _ fault => fault
  | .writeFile _ fault => fault

/-- The wording of the error. -/
def WriteError.message : WriteError → String
  | .createDirectory path fault =>
    "failed to create output directory " ++ path.text ++ ": " ++ fault.message
  | .writeFile path fault => "failed to write " ++ path.text ++ ": " ++ fault.message

variable {m : Type → Type} [Monad m] [FileSystem m]

/-- Write files into a directory that is there, and tell their paths in order. -/
def writeAll (directory : Path) : List PlannedFile → ExceptT WriteError m (List Path)
  | [] => return []
  | file :: files => do
    let path := directory.join ⟨file.name⟩
    match ← FileSystem.writeText path file.content with
    | .error fault => throw (.writeFile path fault)
    | .ok () => return path :: (← writeAll directory files)

/-- Write files into a directory, and tell their paths in order. -/
def write (directory : Path) (files : List PlannedFile) : ExceptT WriteError m (List Path) := do
  match ← FileSystem.createDirectories directory with
  | .error fault => throw (.createDirectory directory fault)
  | .ok () => writeAll directory files

end LuaBindings.Binding
