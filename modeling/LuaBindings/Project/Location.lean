import LuaBindings.Project.Failure
/-!
# Locations

Where a command finds the manifest and the catalog, and where its output goes. What the command line
says counts from the working directory and comes first; what the manifest says counts from the
directory of the project, and so does what holds where neither says anything.
-/

namespace LuaBindings.Project

variable {m : Type → Type} [Monad m] [FileSystem m]

/-- The first manifest in some directories, with its directory. -/
def firstManifest : List Path → ExceptT Failure m (Option (Manifest × Path))
  | [] => return none
  | directory :: others => do
    let path := directory.join ⟨Manifest.fileName⟩
    if ← FileSystem.isFile path then
      match ← FileSystem.readText path with
      | .error fault => throw (.unreadableManifest path fault)
      | .ok text =>
        match Manifest.read text with
        | .error error => throw (.malformedManifest path error)
        | .ok manifest => return some (manifest, directory)
    else firstManifest others

/-- The manifest of the nearest directory from `start` upward that has one. -/
def findManifest (start : Path) : ExceptT Failure m (Option (Manifest × Path)) :=
  firstManifest start.ancestors

/-- The first of some paths that leads to a file. -/
def firstFile : List Path → m (Option Path)
  | [] => return none
  | path :: others => do
    if ← FileSystem.isFile path then return some path
    firstFile others

/-- The path of the catalog that a setting names, if one does. -/
def configuredCatalog (project workingDir : Path) (manifest : Option Manifest)
    (flag : Option String) : Option Path :=
  match flag with
  | some path => some (workingDir.join ⟨path⟩)
  | none => (manifest.bind (·.catalogPath)).map fun path => project.join ⟨path⟩

/-- The path of the catalog. One that a setting names must be there. -/
def locateCatalog (project workingDir : Path) (manifest : Option Manifest)
    (flag : Option String) : ExceptT Failure m Path := do
  match configuredCatalog project workingDir manifest flag with
  | some path =>
    if ← FileSystem.isFile path then return path
    else throw (.missingCatalog path)
  | none =>
    match ← firstFile (catalogCandidates.map fun name => project.join ⟨name⟩) with
    | some path => return path
    | none => throw (.noCatalog project)

/-- The directory that the output goes to. -/
def outputDir (project workingDir : Path) (manifest : Option Manifest) (flag : Option String) :
    Path :=
  match flag with
  | some dir => workingDir.join ⟨dir⟩
  | none => project.join ⟨(manifest.bind (·.outputDir)).getD Manifest.defaultOutputDir⟩

/-- The catalog and the path that it was loaded from. -/
def loadCatalog (project workingDir : Path) (manifest : Option Manifest) (flag : Option String) :
    ExceptT Failure m (Path × Catalog) := do
  let path ← locateCatalog project workingDir manifest flag
  match ← Catalog.loadFile path with
  | .error error => throw (.catalog path error)
  | .ok catalog => return (path, catalog)

end LuaBindings.Project
