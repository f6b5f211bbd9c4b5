import LuaBindings.Binding.Output
import LuaBindings.Catalog.File
import LuaBindings.Catalog.Report
import LuaBindings.Manifest.Document
/-!
# Failures of a command

Why a command on a project came to an end before its work was done. Most failures are told in words
of this library. Where they quote the reader of manifests, and where the program breaks down, the
words are those of others and given from outside.
-/

namespace LuaBindings.Project

/-- Places where a catalog is looked for, in order, from the directory of the project on. -/
def catalogCandidates : List String := ["natives.json", "gta5-nativedb-data/natives.json"]

/-- Where catalogs are published. -/
def catalogSource : String := "https://github.com/alloc8or/gta5-nativedb-data"

/-- The words that are passed on as they come from others. -/
structure Wording where
  /-- What the reader of TOML says of a manifest that it refuses. -/
  manifest : Manifest.ReadError → String
  /-- What the runtime says when the formatter is asked for a width that it does not take. -/
  breakdown : Catalog.Overwide → String
  deriving Inhabited

/-- Why a command failed. -/
inductive Failure where
  /-- There is no working directory to be told of. -/
  | noWorkingDir (fault : FileFault)
  | unreadableManifest (path : Path) (fault : FileFault)
  | malformedManifest (path : Path) (error : Manifest.ReadError)
  /-- The catalog that a setting names is not there. -/
  | missingCatalog (path : Path)
  /-- No setting names a catalog, and none lies where it is looked for. -/
  | noCatalog (project : Path)
  | catalog (path : Path) (error : Catalog.FileError)
  | output (directory : Path) (error : Binding.WriteError)
  | unknownNamespace (name : String)
  | manifestExists (path : Path)
  | unwritableManifest (path : Path) (fault : FileFault)
  | removal (directory : Path) (fault : FileFault)
  deriving DecidableEq, Repr

/-- The wording of a failure: what was being done, and what came in the way. A fault of the file
system stands once more behind the errors that already quote it. -/
def Failure.message (wording : Wording) : Failure → String
  | .noWorkingDir fault => fault.message
  | .unreadableManifest path fault => "reading " ++ path.text ++ ": " ++ fault.message
  | .malformedManifest path error => "parsing " ++ path.text ++ ": " ++ wording.manifest error
  | .missingCatalog path => "catalog not found: " ++ path.text
  | .noCatalog project =>
    "no catalog found in " ++ project.text ++ " (looked for " ++
      ", ".intercalate catalogCandidates ++ "); download natives.json from " ++ catalogSource ++
      " or pass --catalog"
  | .catalog path error =>
    "loading " ++ path.text ++ ": " ++ error.message ++
      match error with
      | .unreadable fault => ": " ++ fault.message
      | .malformed _ => ""
  | .output directory error =>
    "writing bindings to " ++ directory.text ++ ": " ++ error.message ++ ": " ++ error.fault.message
  | .unknownNamespace name => "namespace '" ++ name ++ "' not found in catalog"
  | .manifestExists path => path.text ++ " already exists"
  | .unwritableManifest path fault => "writing " ++ path.text ++ ": " ++ fault.message
  | .removal directory fault => "removing " ++ directory.text ++ ": " ++ fault.message

/-- How a command comes to a stop before its work is done. -/
inductive Stop where
  | failed (failure : Failure)
  /-- The formatter was asked for a width that it does not take. -/
  | brokeDown (overwide : Catalog.Overwide)
  deriving DecidableEq, Repr

end LuaBindings.Project
