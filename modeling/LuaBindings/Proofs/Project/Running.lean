import LuaBindings.Project.Generation
import LuaBindings.Proofs.Binding.Alteration
/-!
# Runs of a generation

A generation on a file tree finds the catalog, loads it and writes what is planned for it. Finding
and loading only look at the tree, so all that a run changes is what writing changes. Everything
that can come of a run is said by two statements: one for the runs that succeed, one for those that
fail.
-/

namespace LuaBindings

/-- The catalog in the file that a path leads to. -/
def Catalog.inFile (tree : FileTree) (path : Path) : Except Catalog.FileError Catalog :=
  match tree.readText path with
  | .error fault => .error (.unreadable fault)
  | .ok text => (Catalog.load text).mapError .malformed

namespace Project

/-! ## Settings -/

/-- What a generation goes by besides the files. -/
structure Setting where
  project : Path
  workingDir : Path
  manifest : Option Manifest
  request : GenerationRequest

namespace Setting

variable (s : Setting) (tree : FileTree)

/-- What the manifest and the command line switch on together. -/
def options : Binding.Options :=
  (s.manifest.elim .none Manifest.options).union s.request.options

/-- The directory that the output goes to. -/
def directory : Path := outputDir s.project s.workingDir s.manifest s.request.outputDir

/-- Where the catalog lies. -/
def located : Except Failure Path :=
  match configuredCatalog s.project s.workingDir s.manifest s.request.catalog with
  | some path => if tree.isFile path then .ok path else .error (.missingCatalog path)
  | none =>
    match (catalogCandidates.map fun name => s.project.join ⟨name⟩).find? tree.isFile with
    | some path => .ok path
    | none => .error (.noCatalog s.project)

/-- The catalog and the path that it is loaded from. -/
def loaded : Except Failure (Path × Catalog) := do
  let path ← s.located tree
  match Catalog.inFile tree path with
  | .error error => .error (.catalog path error)
  | .ok catalog => .ok (path, catalog)

/-- The files that are planned for a catalog. -/
def planned (catalog : Catalog) : List Binding.PlannedFile := Binding.plan catalog s.options

/-- What is told of a generation that has written some paths. -/
def summary (path : Path) (catalog : Catalog) (paths : List Path) : GenerationSummary where
  catalog := path
  files := paths.zip ((s.planned catalog).map (·.functionCount))
  namespaces := catalog.namespaces.length
  functions := catalog.functionCount
  fixups := catalog.fixups.length

/-- What comes of a generation, and the tree that it leaves. -/
def generation : Except Failure GenerationSummary × FileTree :=
  (generate (m := StateM FileTree) s.project s.workingDir s.manifest s.request).run.run tree

end Setting

/-! ## Finding and loading -/

theorem run_isFile (tree : FileTree) (path : Path) :
    (FileSystem.isFile path : ExceptT Failure (StateM FileTree) _).run.run tree =
      (.ok (tree.isFile path), tree) := rfl

/-- The catalog lies where a setting says, if a file is there. -/
theorem located_of_configured {s : Setting} {tree : FileTree} {path : Path}
    (configured : configuredCatalog s.project s.workingDir s.manifest s.request.catalog = some path)
    (isFile : tree.isFile path = true) : s.located tree = .ok path := by
  rw [Setting.located, configured]
  exact if_pos isFile

theorem run_firstFile (tree : FileTree) (paths : List Path) :
    (firstFile paths : ExceptT Failure (StateM FileTree) _).run.run tree =
      (.ok (paths.find? tree.isFile), tree) := by
  induction paths with
  | nil => rfl
  | cons path others ih =>
      rw [firstFile, run_bind_of_ok (run_isFile tree path), List.find?_cons]
      cases tree.isFile path with
      | true => rfl
      | false => exact ih

theorem run_locateCatalog (s : Setting) (tree : FileTree) :
    (locateCatalog (m := StateM FileTree) s.project s.workingDir s.manifest
      s.request.catalog).run.run tree = (s.located tree, tree) := by
  rw [locateCatalog, Setting.located]
  cases configuredCatalog s.project s.workingDir s.manifest s.request.catalog with
  | some path =>
      simp only []
      rw [run_bind_of_ok (run_isFile tree path)]
      cases tree.isFile path with
      | true => rfl
      | false => rfl
  | none =>
      simp only []
      rw [run_bind_of_ok (run_firstFile tree _)]
      cases (catalogCandidates.map fun name => s.project.join ⟨name⟩).find? tree.isFile with
      | some path => rfl
      | none => rfl

theorem run_readText (tree : FileTree) (path : Path) :
    (FileSystem.readText path : ExceptT Failure (StateM FileTree) _).run.run tree =
      (.ok (tree.readText path), tree) := rfl

theorem run_loadFile (tree : FileTree) (path : Path) :
    (Catalog.loadFile path : ExceptT Failure (StateM FileTree) _).run.run tree =
      (.ok (Catalog.inFile tree path), tree) := by
  rw [Catalog.loadFile, Catalog.inFile, run_bind_of_ok (run_readText tree path)]
  cases tree.readText path with
  | error fault => rfl
  | ok text =>
      simp only []
      cases Catalog.load text with
      | error error => rfl
      | ok catalog => rfl

/-- Loading the catalog leaves the tree as it is. -/
theorem run_loadCatalog (s : Setting) (tree : FileTree) :
    (loadCatalog (m := StateM FileTree) s.project s.workingDir s.manifest
      s.request.catalog).run.run tree = (s.loaded tree, tree) := by
  rw [loadCatalog, Setting.loaded]
  have locates := run_locateCatalog s tree
  cases located : s.located tree with
  | error failure =>
      rw [located] at locates
      rw [run_bind_of_error locates]
      rfl
  | ok path =>
      rw [located] at locates
      rw [run_bind_of_ok locates, run_bind_of_ok (run_loadFile tree path)]
      simp only [bind, Except.bind]
      cases Catalog.inFile tree path with
      | error error => rfl
      | ok catalog => rfl

variable {s : Setting} {tree after : FileTree} {path : Path} {catalog : Catalog}
  {failure : Failure}

theorem inFile_eq_ok_iff :
    Catalog.inFile tree path = .ok catalog ↔
      ∃ text, tree.readText path = .ok text ∧ Catalog.load text = .ok catalog := by
  rw [Catalog.inFile]
  cases tree.readText path with
  | error fault => simp
  | ok text =>
      cases load : Catalog.load text with
      | error error => simp [load, Except.mapError]
      | ok found => simp [load, Except.mapError]

theorem loaded_eq_ok_iff :
    s.loaded tree = .ok (path, catalog) ↔
      s.located tree = .ok path ∧
        ∃ text, tree.readText path = .ok text ∧ Catalog.load text = .ok catalog := by
  rw [Setting.loaded, bind_eq_ok, ← inFile_eq_ok_iff]
  constructor
  · rintro ⟨found, located, h⟩
    cases held : Catalog.inFile tree found with
    | error error =>
        rw [held] at h
        cases h
    | ok other =>
        rw [held] at h
        cases h
        exact ⟨located, held⟩
  · rintro ⟨located, held⟩
    refine ⟨path, located, ?_⟩
    rw [held]

/-- A catalog that could not be loaded is no failure of the output. -/
theorem loaded_ne_output (h : s.loaded tree = .error failure) (directory : Path)
    (error : Binding.WriteError) : failure ≠ .output directory error := by
  rintro rfl
  rw [Setting.loaded] at h
  cases located : s.located tree with
  | error failure =>
      rw [located] at h
      cases h
      rw [Setting.located] at located
      split at located
      · split at located <;> cases located
      · split at located <;> cases located
  | ok found =>
      rw [located] at h
      simp only [bind, Except.bind] at h
      split at h <;> cases h

/-! ## Whole runs -/

theorem run_adapt {α ε : Type} (wrap : ε → Failure) (action : ExceptT ε (StateM FileTree) α)
    (tree : FileTree) :
    (ExceptT.adapt wrap action).run.run tree =
      ((action.run.run tree).1.mapError wrap, (action.run.run tree).2) := rfl

theorem generation_of_error (failed : s.loaded tree = .error failure) :
    s.generation tree = (.error failure, tree) := by
  have loads := run_loadCatalog s tree
  rw [failed] at loads
  rw [Setting.generation, generate, run_bind_of_error loads]

/-- A run whose catalog is loaded comes to what writing the planned files comes to. -/
theorem generation_of_ok {result : Except Binding.WriteError (List Path)}
    (loaded : s.loaded tree = .ok (path, catalog))
    (ran : Binding.runWrite tree s.directory (s.planned catalog) = (result, after)) :
    s.generation tree =
      ((result.mapError (Failure.output s.directory)).map (s.summary path catalog), after) := by
  have loads := run_loadCatalog s tree
  rw [loaded] at loads
  have writes := run_adapt (Failure.output s.directory)
    (Binding.write (m := StateM FileTree) s.directory (s.planned catalog)) tree
  rw [show (Binding.write (m := StateM FileTree) s.directory (s.planned catalog)).run.run tree =
    (result, after) from ran] at writes
  rw [Setting.generation, generate, run_bind_of_ok loads]
  cases result with
  | error error => exact run_bind_of_error writes _
  | ok paths => exact run_bind_of_ok writes _

/-- A run that succeeds has loaded a catalog and written what is planned for it. -/
theorem generation_eq_ok_iff {summary : GenerationSummary} :
    s.generation tree = (.ok summary, after) ↔
      ∃ path catalog paths, s.loaded tree = .ok (path, catalog) ∧
        Binding.runWrite tree s.directory (s.planned catalog) = (.ok paths, after) ∧
        summary = s.summary path catalog paths := by
  constructor
  · intro h
    cases loaded : s.loaded tree with
    | error failure =>
        rw [generation_of_error loaded] at h
        cases h
    | ok found =>
        obtain ⟨path, catalog⟩ := found
        cases ran : Binding.runWrite tree s.directory (s.planned catalog) with
        | mk result final =>
            rw [generation_of_ok loaded ran] at h
            cases result with
            | error error => cases h
            | ok paths =>
                cases h
                exact ⟨path, catalog, paths, rfl, ran, rfl⟩
  · rintro ⟨path, catalog, paths, loaded, ran, rfl⟩
    exact generation_of_ok loaded ran

/-- A run that fails has not loaded a catalog, or has not written what is planned for it. -/
theorem generation_eq_error_iff :
    s.generation tree = (.error failure, after) ↔
      s.loaded tree = .error failure ∧ after = tree ∨
        ∃ path catalog error, s.loaded tree = .ok (path, catalog) ∧
          Binding.runWrite tree s.directory (s.planned catalog) = (.error error, after) ∧
          failure = .output s.directory error := by
  constructor
  · intro h
    cases loaded : s.loaded tree with
    | error found =>
        rw [generation_of_error loaded] at h
        cases h
        exact .inl ⟨rfl, rfl⟩
    | ok found =>
        obtain ⟨path, catalog⟩ := found
        cases ran : Binding.runWrite tree s.directory (s.planned catalog) with
        | mk result final =>
            rw [generation_of_ok loaded ran] at h
            cases result with
            | error error =>
                cases h
                exact .inr ⟨path, catalog, error, rfl, ran, rfl⟩
            | ok paths => cases h
  · rintro (⟨failed, rfl⟩ | ⟨path, catalog, error, loaded, ran, rfl⟩)
    · exact generation_of_error failed
    · exact generation_of_ok loaded ran

theorem Setting.planned_names (s : Setting) {text : String}
    (loaded : Catalog.load text = .ok catalog) :
    (∀ f ∈ s.planned catalog, Path.PlainName f.name) ∧
      ((s.planned catalog).map (·.name)).Nodup :=
  Binding.plan_names (Catalog.outline_valid loaded) s.options

/-- When all planned files have been written, they are told in order. -/
theorem Setting.summary_files (s : Setting) (path : Path) (catalog : Catalog) :
    (s.summary path catalog ((s.planned catalog).map fun f => s.directory.join ⟨f.name⟩)).files =
      (s.planned catalog).map fun f => (s.directory.join ⟨f.name⟩, f.functionCount) := by
  rw [Setting.summary, List.zip_map']

/-- A run leaves the tree as it is, or as the planned files of a loaded catalog do. -/
theorem generation_tree (s : Setting) (tree : FileTree) :
    (s.generation tree).2 = tree ∨ ∃ path text catalog, s.loaded tree = .ok (path, catalog) ∧
      Catalog.load text = .ok catalog ∧
      (s.generation tree).2 = (Binding.runWrite tree s.directory (s.planned catalog)).2 := by
  cases loaded : s.loaded tree with
  | error failure =>
      rw [generation_of_error loaded]
      exact .inl rfl
  | ok found =>
      obtain ⟨path, catalog⟩ := found
      obtain ⟨-, text, -, held⟩ := loaded_eq_ok_iff.mp loaded
      refine .inr ⟨path, text, catalog, rfl, held, ?_⟩
      cases ran : Binding.runWrite tree s.directory (s.planned catalog) with
      | mk result left => rw [generation_of_ok loaded ran]

/-- However a run ends, what was there still is. -/
theorem generation_grows (s : Setting) (tree : FileTree) :
    FileTree.Grows tree (s.generation tree).2 := by
  rcases generation_tree s tree with same | ⟨-, text, catalog, -, held, left⟩
  · rw [same]
    exact .refl tree
  · rw [left]
    exact Binding.runWrite_grows (s.planned_names held).1 tree s.directory

/-- However a run ends, nothing is altered but as bindings alter it. -/
theorem generation_altered (s : Setting) (tree : FileTree) (l : Location) :
    (s.generation tree).2.get? l = tree.get? l ∨
      Binding.Altered s.directory tree (s.generation tree).2 l := by
  rcases generation_tree s tree with same | ⟨-, text, catalog, -, held, left⟩
  · rw [same]
    exact .inl rfl
  · obtain ⟨plain, distinct⟩ := s.planned_names held
    rw [left]
    exact Binding.runWrite_altered plain distinct (Binding.plan_stems catalog s.options) tree
      s.directory l

/-- What a run that succeeded tells and leaves behind, for the catalog that it has read. -/
structure Generated (s : Setting) (tree : FileTree) (catalog : Catalog)
    (summary : GenerationSummary) (after : FileTree) : Prop where
  files : summary.files =
    (s.planned catalog).map fun f => (s.directory.join ⟨f.name⟩, f.functionCount)
  namespaces : summary.namespaces = catalog.namespaces.length
  functions : summary.functions = catalog.functionCount
  fixups : summary.fixups = catalog.fixups.length
  written : ∃ location, Binding.Written tree s.directory (s.planned catalog) location after

theorem generation_generated {text : String} {summary : GenerationSummary}
    (loaded : Catalog.load text = .ok catalog) (ran : s.generation tree = (.ok summary, after))
    (read : tree.readText summary.catalog = .ok text) :
    Generated s tree catalog summary after := by
  obtain ⟨path, found, paths, located, wrote, rfl⟩ := generation_eq_ok_iff.mp ran
  obtain ⟨-, held, readHeld, loadedHeld⟩ := loaded_eq_ok_iff.mp located
  -- The file that the catalog was loaded from holds the one text.
  have sameText : held = text := Except.ok.inj (readHeld.symm.trans read)
  subst sameText
  have same : found = catalog := Except.ok.inj (loadedHeld.symm.trans loaded)
  subst same
  obtain ⟨plain, distinct⟩ := s.planned_names loaded
  obtain ⟨rfl, written⟩ := Binding.runWrite_written plain distinct wrote
  exact ⟨s.summary_files path found, rfl, rfl, rfl, written⟩

/-! ## Runs in a small tree -/

theorem empty_isDirectory_root : FileTree.empty.IsDirectory [] := .inl rfl

theorem empty_not_isDirectory (name : String) : ¬FileTree.empty.IsDirectory ([] ++ [name]) := by
  simp [FileTree.isDirectory_iff]

/-- A tree with a catalog and nothing else. -/
def catalogTree (text : String) : FileTree :=
  FileTree.empty.put [] "c.json" (.file text.toUTF8) empty_isDirectory_root
    (empty_not_isDirectory "c.json")

/-- A tree with a catalog of two namespaces and an empty directory. -/
def twoTree : FileTree :=
  (catalogTree "\x7b\"M\":\x7b\x7d,\"N\":\x7b\x7d\x7d").put [] "lua" .directory (.inl rfl)
    (by decide +kernel)

theorem twoTree_isDirectory : twoTree.IsDirectory ["lua"] := by decide +kernel

/-- A generation in the root of such a tree. -/
def generationInto (directory : String) (options : Binding.Options) : Setting where
  project := ⟨"/"⟩
  workingDir := ⟨"/"⟩
  manifest := none
  request := ⟨some "c.json", some directory, options, true⟩

end Project

end LuaBindings
