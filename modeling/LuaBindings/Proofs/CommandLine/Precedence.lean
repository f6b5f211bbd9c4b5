import LuaBindings.Proofs.CommandLine.Inputs
import LuaBindings.Proofs.Project.Nearest
/-!
# Precedence of settings

A command takes its catalog from where the first setting that names one says, and from nowhere else:
what the settings behind it say, and what lies where they point, has no bearing on what the command
comes to, not even where nothing can be taken from the first. So it is with the output directory.
-/

namespace LuaBindings.Project

variable {tree : FileTree} {project workingDir path : Path} {manifest : Option Manifest}
  {flag : Option String}

/-! ## Taking a catalog -/

/-- What comes of taking the catalog from a path, by the bytes of the file that is there, if there is
one. -/
def taken (path : Path) : Option ByteArray → Except Failure (Path × Catalog)
  | none => .error (.missingCatalog path)
  | some content =>
    match String.fromUTF8? content with
    | none => .error (.catalog path (.unreadable .notText))
    | some text =>
      match Catalog.load text with
      | .error error => .error (.catalog path (.malformed error))
      | .ok catalog => .ok (path, catalog)

/-- What comes of taking it from the first of the places where one is looked for. -/
def takenFirst (tree : FileTree) (project : Path) : Except Failure (Path × Catalog) :=
  if tree.isFile (project.join ⟨"natives.json"⟩) then
    taken (project.join ⟨"natives.json"⟩) (tree.bytes? (project.join ⟨"natives.json"⟩))
  else if tree.isFile (project.join ⟨"gta5-nativedb-data/natives.json"⟩) then
    taken (project.join ⟨"gta5-nativedb-data/natives.json"⟩)
      (tree.bytes? (project.join ⟨"gta5-nativedb-data/natives.json"⟩))
  else .error (.noCatalog project)

theorem inFile_of_bytes? {content : ByteArray} (holds : tree.bytes? path = some content) :
    (match Catalog.inFile tree path with
      | .error error => .error (.catalog path error)
      | .ok catalog => .ok (path, catalog)) = taken path (some content) := by
  rw [Catalog.inFile, FileTree.readText_of_bytes? holds, taken]
  cases String.fromUTF8? content with
  | none => rfl
  | some text =>
      dsimp only
      cases Catalog.load text with
      | error error => rfl
      | ok catalog => rfl

theorem bytes?_of_not_isFile (notFile : tree.isFile path = false) : tree.bytes? path = none := by
  apply FileTree.not_isFile_iff.mp
  rw [notFile]
  exact Bool.false_ne_true

/-- What is loaded from a path that has been located. -/
theorem loaded_of_located {s : Setting} (located : s.located tree = .ok path) :
    s.loaded tree = taken path (tree.bytes? path) := by
  obtain ⟨content, holds⟩ := FileTree.isFile_iff_bytes?.mp (isFile_of_located located)
  rw [Setting.loaded, located, holds, ← inFile_of_bytes? holds]
  rfl

/-- Where a setting names the catalog, the file that it names decides. -/
theorem loaded_configured {s : Setting}
    (configured : configuredCatalog s.project s.workingDir s.manifest s.request.catalog = some path) :
    s.loaded tree = taken path (tree.bytes? path) := by
  cases isFile : tree.isFile path with
  | true => exact loaded_of_located (located_of_configured configured isFile)
  | false =>
      have missing : s.located tree = .error (.missingCatalog path) := by
        rw [Setting.located, configured]
        dsimp only
        rw [isFile, if_neg Bool.false_ne_true]
      rw [Setting.loaded, missing, bytes?_of_not_isFile isFile]
      rfl

/-- Where none does, the first place that has a file decides. -/
theorem loaded_unconfigured {s : Setting}
    (unconfigured : configuredCatalog s.project s.workingDir s.manifest s.request.catalog = none) :
    s.loaded tree = takenFirst tree s.project := by
  have located : s.located tree =
      ((catalogCandidates.map fun name => s.project.join ⟨name⟩).find? tree.isFile).elim
        (.error (.noCatalog s.project)) .ok := by
    rw [Setting.located, unconfigured]
    cases (catalogCandidates.map fun name => s.project.join ⟨name⟩).find? tree.isFile with
    | none => rfl
    | some path => rfl
  rw [catalogCandidates, List.map_cons, List.map_singleton, List.find?_cons, List.find?_singleton]
    at located
  rw [takenFirst]
  cases first : tree.isFile (s.project.join ⟨"natives.json"⟩) with
  | true =>
      rw [first] at located
      rw [if_pos rfl]
      exact loaded_of_located located
  | false =>
      rw [first] at located
      rw [if_neg Bool.false_ne_true]
      cases second : tree.isFile (s.project.join ⟨"gta5-nativedb-data/natives.json"⟩) with
      | true =>
          rw [second] at located
          rw [if_pos rfl]
          exact loaded_of_located located
      | false =>
          rw [second] at located
          rw [if_neg Bool.false_ne_true, Setting.loaded, located]
          rfl

/-! ## Going by a catalog -/

/-- What a generation comes to with a catalog, or with the failure to have one. -/
def Setting.outcome (s : Setting) (tree : FileTree) :
    Except Failure (Path × Catalog) → Except Failure GenerationSummary × FileTree
  | .error failure => (.error failure, tree)
  | .ok (path, catalog) =>
    let ran := Binding.runWrite tree s.directory (s.planned catalog)
    ((ran.1.mapError (Failure.output s.directory)).map (s.summary path catalog), ran.2)

/-- The commands that need a catalog go by this one, or fail since they cannot have it. -/
structure GoBy (tree : FileTree) (project workingDir : Path) (manifest : Option Manifest)
    (flag : Option String) (had : Except Failure (Path × Catalog)) : Prop where
  generates : ∀ request : GenerationRequest, request.catalog = flag →
    (Setting.mk project workingDir manifest request).generation tree =
      (Setting.mk project workingDir manifest request).outcome tree had
  inspects : ∀ name,
    (runInspect (m := StateM FileTree) project workingDir manifest flag name).carryOut.run tree =
      (atEnd (shown name had), tree)

theorem generation_eq_outcome (s : Setting) (tree : FileTree) :
    s.generation tree = s.outcome tree (s.loaded tree) := by
  cases loaded : s.loaded tree with
  | error failure => exact generation_of_error loaded
  | ok found => exact generation_of_ok loaded rfl

/-- The commands go by what is loaded for them. -/
theorem goBy_loaded {had : Except Failure (Path × Catalog)}
    (loads : ∀ s : Setting, s.project = project → s.workingDir = workingDir →
      s.manifest = manifest → s.request.catalog = flag → s.loaded tree = had) :
    GoBy tree project workingDir manifest flag had where
  generates := by
    intro request same
    rw [generation_eq_outcome, loads _ rfl rfl rfl same]
  inspects := by
    intro name
    rw [run_runInspect, loads (inspection project workingDir manifest flag) rfl rfl rfl rfl]

theorem goBy_configured
    (configured : configuredCatalog project workingDir manifest flag = some path) :
    GoBy tree project workingDir manifest flag (taken path (tree.bytes? path)) := by
  apply goBy_loaded
  rintro s rfl rfl rfl rfl
  exact loaded_configured configured

theorem goBy_unconfigured
    (unconfigured : configuredCatalog project workingDir manifest flag = none) :
    GoBy tree project workingDir manifest flag (takenFirst tree project) := by
  apply goBy_loaded
  rintro s rfl rfl rfl rfl
  exact loaded_unconfigured unconfigured

/-! ## Settings that do not count -/

/-- Settings with the same directory and the same switches come to the same with a catalog. -/
theorem outcome_congr {s t : Setting} (directory : s.directory = t.directory)
    (options : s.options = t.options) (had : Except Failure (Path × Catalog)) :
    s.outcome tree had = t.outcome tree had := by
  have planned : ∀ catalog, s.planned catalog = t.planned catalog := by
    intro catalog
    rw [Setting.planned, Setting.planned, options]
  have summary : ∀ path catalog, s.summary path catalog = t.summary path catalog := by
    intro path catalog
    funext paths
    rw [Setting.summary, Setting.summary, planned]
  cases had with
  | error failure => rfl
  | ok found => rw [Setting.outcome, Setting.outcome, directory, planned, summary]

/-- Settings with the same directory and the same switches, for which the same catalog is loaded, make
the same run. -/
theorem generation_congr {s t : Setting} (directory : s.directory = t.directory)
    (options : s.options = t.options) (loaded : s.loaded tree = t.loaded tree) :
    s.generation tree = t.generation tree := by
  rw [generation_eq_outcome, generation_eq_outcome, loaded]
  exact outcome_congr directory options _

/-- What a manifest switches on. -/
def switches (manifest : Option Manifest) : Binding.Options := manifest.elim .none Manifest.options

/-- With both paths on the command line, a run depends on nothing of the project but the switches of
its manifest. -/
theorem generation_of_flags {request : GenerationRequest} {flag directory : String}
    (catalog : request.catalog = some flag) (output : request.outputDir = some directory)
    {project' : Path} {manifest' : Option Manifest} (same : switches manifest' = switches manifest) :
    (Setting.mk project' workingDir manifest' request).generation tree =
      (Setting.mk project workingDir manifest request).generation tree := by
  apply generation_congr
  · rw [Setting.directory, Setting.directory, output]
    rfl
  · show (switches manifest').union request.options = (switches manifest).union request.options
    rw [same]
  · have configured : ∀ project manifest, configuredCatalog project workingDir manifest
        request.catalog = some (workingDir.join ⟨flag⟩) := by
      intro project manifest
      rw [catalog]
      rfl
    rw [loaded_configured (configured project' manifest'),
      loaded_configured (configured project manifest)]

/-- With none, it does not depend on the working directory. -/
theorem generation_of_no_flags {request : GenerationRequest} (catalog : request.catalog = none)
    (output : request.outputDir = none) (workingDir' : Path) :
    (Setting.mk project workingDir' manifest request).generation tree =
      (Setting.mk project workingDir manifest request).generation tree := by
  have directory : ∀ workingDir, outputDir project workingDir manifest request.outputDir =
      project.join ⟨(manifest.bind (·.outputDir)).getD Manifest.defaultOutputDir⟩ := by
    intro workingDir
    rw [output]
    rfl
  have located : ∀ workingDir, configuredCatalog project workingDir manifest request.catalog =
      (manifest.bind (·.catalogPath)).map fun path => project.join ⟨path⟩ := by
    intro workingDir
    rw [catalog]
    rfl
  apply generation_congr
  · rw [Setting.directory, Setting.directory, directory, directory]
  · rfl
  · rw [Setting.loaded, Setting.loaded, Setting.located, Setting.located, located, located]

/-- How the settings of a project in a tree come one before the other. -/
structure Precedence (tree : FileTree) (project workingDir : Path) (manifest : Option Manifest) :
    Prop where
  /-- A catalog on the command line counts from the working directory. The commands go by the same
  in all projects, with all manifests, and in all trees that have the same bytes there. -/
  byCommandLine : ∀ flag project' manifest' other,
    other.bytes? (workingDir.join ⟨flag⟩) = tree.bytes? (workingDir.join ⟨flag⟩) →
    GoBy other project' workingDir manifest' (some flag)
      (taken (workingDir.join ⟨flag⟩) (tree.bytes? (workingDir.join ⟨flag⟩)))
  /-- Otherwise one in the manifest counts from the project. The commands go by the same from all
  working directories, and in all trees that have the same bytes there. -/
  byManifest : ∀ setting, manifest.bind (·.catalogPath) = some setting → ∀ workingDir' other,
    other.bytes? (project.join ⟨setting⟩) = tree.bytes? (project.join ⟨setting⟩) →
    GoBy other project workingDir' manifest none
      (taken (project.join ⟨setting⟩) (tree.bytes? (project.join ⟨setting⟩)))
  /-- Otherwise it is the first in the project, from all working directories. -/
  byDefault : manifest.bind (·.catalogPath) = none → ∀ workingDir',
    GoBy tree project workingDir' manifest none (takenFirst tree project)
  /-- A path that a setting gives and that is none of a file is a failure, whatever else there is. -/
  missing : ∀ flag path, configuredCatalog project workingDir manifest flag = some path →
    tree.isFile path = false → ∃ failure : Failure,
      (∀ wording, failure.message wording = "catalog not found: " ++ path.text) ∧
        GoBy tree project workingDir manifest flag (.error failure)
  /-- What is found is a file. -/
  regular : ∀ flag path after,
    (locateCatalog (m := StateM FileTree) project workingDir manifest flag).run.run tree =
      (.ok path, after) → tree.isFile path = true
  /-- An output directory on the command line is the same for all projects and manifests. -/
  outputByCommandLine : ∀ directory project' manifest',
    outputDir project' workingDir manifest' (some directory) = workingDir.join ⟨directory⟩
  /-- Otherwise it is the same for all working directories. -/
  outputByProject : ∀ workingDir', outputDir project workingDir' manifest none =
    project.join ⟨(manifest.bind (·.outputDir)).getD "natives"⟩
  /-- So with both on the command line, all projects whose manifests switch on the same make the same
  run. -/
  runsByCommandLine : ∀ (request : GenerationRequest) flag directory,
    request.catalog = some flag → request.outputDir = some directory → ∀ project' manifest',
      switches manifest' = switches manifest →
      (Setting.mk project' workingDir manifest' request).generation tree =
        (Setting.mk project workingDir manifest request).generation tree
  /-- And with none, it is the same run from all working directories. -/
  runsByProject : ∀ request : GenerationRequest, request.catalog = none →
    request.outputDir = none → ∀ workingDir',
      (Setting.mk project workingDir' manifest request).generation tree =
        (Setting.mk project workingDir manifest request).generation tree

theorem settings_precedence (tree : FileTree) (project workingDir : Path)
    (manifest : Option Manifest) : Precedence tree project workingDir manifest where
  byCommandLine := by
    intro flag project' manifest' other same
    rw [← same]
    exact goBy_configured rfl
  byManifest := by
    intro setting named workingDir' other same
    rw [← same]
    apply goBy_configured
    rw [configuredCatalog, named]
    rfl
  byDefault := by
    intro unnamed workingDir'
    apply goBy_unconfigured
    rw [configuredCatalog, unnamed]
    rfl
  missing := by
    intro flag path configured notFile
    have goBy : GoBy tree project workingDir manifest flag (taken path (tree.bytes? path)) :=
      goBy_configured configured
    rw [bytes?_of_not_isFile notFile] at goBy
    exact ⟨.missingCatalog path, fun _ => rfl, goBy⟩
  regular := by
    intro flag path after ran
    let s := inspection project workingDir manifest flag
    have locates := (run_locateCatalog s tree).symm.trans ran
    exact isFile_of_located (congrArg Prod.fst locates)
  outputByCommandLine := fun _ _ _ => rfl
  outputByProject := fun _ => rfl
  runsByCommandLine := by
    intro request flag directory catalog output project' manifest' same
    exact generation_of_flags catalog output same
  runsByProject := by
    intro request catalog output workingDir'
    exact generation_of_no_flags catalog output workingDir'

/-- A manifest that says where the catalog lies, and nothing else. -/
def namingManifest : Manifest := { Manifest.empty with catalogPath := some "c.json" }

/-- The commands go by that catalog, but not where the command line names another one, which is not
there. -/
theorem settings_precedence_naming :
    GoBy (catalogTree "\x7b\x7d") ⟨"/"⟩ ⟨"/lua"⟩ (some namingManifest) none
      (.ok (⟨"/c.json"⟩, ⟨[]⟩)) ∧
    ∃ failure : Failure, (∀ wording, failure.message wording = "catalog not found: /d.json") ∧
      GoBy (catalogTree "\x7b\x7d") ⟨"/"⟩ ⟨"/"⟩ (some namingManifest) (some "d.json")
        (.error failure) := by
  have precedence :=
    settings_precedence (catalogTree "\x7b\x7d") ⟨"/"⟩ ⟨"/"⟩ (some namingManifest)
  have had : taken ((Path.mk "/").join ⟨"c.json"⟩)
      ((catalogTree "\x7b\x7d").bytes? ((Path.mk "/").join ⟨"c.json"⟩)) =
        .ok (⟨"/c.json"⟩, ⟨[]⟩) := by
    decide +kernel
  have named := precedence.byManifest "c.json" rfl ⟨"/lua"⟩ (catalogTree "\x7b\x7d") rfl
  rw [had] at named
  refine ⟨named, ?_⟩
  apply precedence.missing (some "d.json") ⟨"/d.json"⟩
  · decide +kernel
  · decide +kernel

end LuaBindings.Project
