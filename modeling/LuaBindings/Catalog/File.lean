import LuaBindings.Catalog.Load
import LuaBindings.FileSystem
/-!
# Catalog files

A catalog is loaded from the text of a file.
-/

namespace LuaBindings.Catalog

/-- Why a file holds no catalog. -/
inductive FileError where
  /-- It cannot be read. -/
  | unreadable (fault : FileFault)
  /-- Its text is not a catalog. -/
  | malformed (error : LoadError)
  deriving DecidableEq, Repr

/-- The wording of the error. -/
def FileError.message : FileError → String
  | .unreadable fault => "I/O error: " ++ fault.message
  | .malformed error => error.message

/-- The catalog that a file holds. -/
def loadFile {m : Type → Type} [Monad m] [FileSystem m] (path : Path) :
    m (Except FileError Catalog) := do
  match ← FileSystem.readText path with
  | .error fault => return .error (.unreadable fault)
  | .ok text =>
    match load text with
    | .error error => return .error (.malformed error)
    | .ok catalog => return .ok catalog

end LuaBindings.Catalog
