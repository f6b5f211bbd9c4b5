import LuaBindings.CommandLine.Program
import LuaBindings.Proofs.Project.Discovery
import LuaBindings.Proofs.Project.Upkeep
/-!
# What commands may change

A command finds its manifest in the tree and goes by it, and comes to a generation, to the removal
of an output directory or to the start of a project, if it does not fail before. So it changes
nothing but the place of a manifest, what lies at or below an output directory, and the places of
directories that are missing on the way to one.
-/

namespace LuaBindings

namespace Project

/-! ## Commands that say what they have done -/

/-- Telling of a generation changes nothing more. -/
theorem run_runGenerate (s : Setting) (tree : FileTree) :
    (runGenerate (m := StateM FileTree) s.project s.workingDir s.manifest s.request).carryOut.run
        tree =
      (atEnd (((s.generation tree).1.mapError .failed).map (·.lines s.request.quiet)),
        (s.generation tree).2) := by
  rw [runGenerate]
  exact Telling.carryOut_work fun summary : GenerationSummary => summary.lines s.request.quiet

/-- The setting of an inspection. -/
def inspection (project workingDir : Path) (manifest : Option Manifest) (flag : Option String) :
    Setting :=
  ⟨project, workingDir, manifest, ⟨flag, none, .none, true⟩⟩

/-- What an inspection comes to with a catalog, or with the failure to have one. -/
def shown (name : Option String) : Except Failure (Path × Catalog) → Except Stop (List String)
  | .error failure => .error (.failed failure)
  | .ok (path, catalog) => (report catalog name).map (("Catalog: " ++ path.text) :: ·)

/-- Inspecting leaves the tree as it is. -/
theorem run_runInspect (tree : FileTree) (project workingDir : Path) (manifest : Option Manifest)
    (flag name : Option String) :
    (runInspect (m := StateM FileTree) project workingDir manifest flag name).carryOut.run tree =
      (atEnd (shown name ((inspection project workingDir manifest flag).loaded tree)), tree) := by
  have loads : (loadCatalog (m := StateM FileTree) project workingDir manifest flag).run.run tree =
      ((inspection project workingDir manifest flag).loaded tree, tree) :=
    run_loadCatalog (inspection project workingDir manifest flag) tree
  rw [runInspect]
  cases loaded : (inspection project workingDir manifest flag).loaded tree with
  | error failure =>
      rw [loaded] at loads
      exact Telling.carryOut_work_of_error loads
  | ok found =>
      obtain ⟨path, catalog⟩ := found
      rw [loaded] at loads
      rw [Telling.carryOut_work_of_ok loads, shown]
      dsimp only
      cases report catalog name with
      | error stop => rfl
      | ok lines => exact Telling.carryOut_tellAll (("Catalog: " ++ path.text) :: lines) tree

/-! ## Telling at the end -/

theorem tellsAtEnd_runGenerate (project workingDir : Path) (manifest : Option Manifest)
    (request : GenerationRequest) :
    Telling.TellsAtEnd (runGenerate project workingDir manifest request) :=
  .work_bind fun summary => Telling.tellsAtEnd_tellAll (summary.lines request.quiet)

theorem tellsAtEnd_runInspect (project workingDir : Path) (manifest : Option Manifest)
    (flag name : Option String) :
    Telling.TellsAtEnd (runInspect project workingDir manifest flag name) :=
  fun tree => ⟨_, congrArg Prod.fst (run_runInspect tree project workingDir manifest flag name)⟩

theorem tellsAtEnd_runInit (directory : Path) : Telling.TellsAtEnd (runInit directory) := by
  rw [runInit_eq]
  exact .work_bind fun path => Telling.tellsAtEnd_tellAll (startLines path)

theorem tellsAtEnd_runClean (directory : Path) : Telling.TellsAtEnd (runClean directory) := by
  rw [runClean_eq]
  exact .work_bind fun removed => Telling.tellsAtEnd_tellAll [cleanLine directory removed]

/-! ## Not breaking down -/

theorem steady_runGenerate (project workingDir : Path) (manifest : Option Manifest)
    (request : GenerationRequest) :
    Telling.Steady (runGenerate project workingDir manifest request) :=
  .work_bind fun summary => Telling.steady_tellAll (summary.lines request.quiet)

theorem steady_runInit (directory : Path) : Telling.Steady (runInit directory) := by
  rw [runInit_eq]
  exact .work_bind fun path => Telling.steady_tellAll (startLines path)

theorem steady_runClean (directory : Path) : Telling.Steady (runClean directory) := by
  rw [runClean_eq]
  exact .work_bind fun removed => Telling.steady_tellAll [cleanLine directory removed]

end Project

namespace CommandLine

open Project (GenerationRequest)

variable {tree left : FileTree} {workingDir : Path} {command : Command} {l : Location}

/-- The manifest that rules in a directory of a tree, and the directory of the project. -/
def ruling (tree : FileTree) (workingDir : Path) : Except Project.Failure (Option Manifest × Path) :=
  ((project (m := StateM FileTree) workingDir).run.run tree).1

theorem run_project (tree : FileTree) (workingDir : Path) :
    (project (m := StateM FileTree) workingDir).run.run tree = (ruling tree workingDir, tree) := by
  refine Prod.ext rfl ?_
  have found : ((Project.findManifest (m := StateM FileTree) workingDir).run.run tree).2 = tree :=
    congrArg Prod.snd (Project.run_findManifest tree workingDir)
  rw [project, ExceptT.run_bind, StateT.run_bind]
  cases ran : (Project.findManifest (m := StateM FileTree) workingDir).run.run tree with
  | mk result left =>
      rw [ran] at found
      cases result with
      | error failure => exact found
      | ok ruling? =>
          cases ruling? with
          | none => exact found
          | some pair => exact found

/-- The nearest manifest rules, and where there is none the directory itself is that of the
project. -/
theorem ruling_eq (tree : FileTree) (workingDir : Path) :
    ruling tree workingDir =
      match Project.nearest? tree workingDir with
      | none => .ok (none, workingDir)
      | some directory =>
          (Project.manifestIn tree directory).map fun manifest => (some manifest, directory) := by
  have found := Project.run_findManifest tree workingDir
  rw [ruling, project]
  cases nearest : Project.nearest? tree workingDir with
  | none =>
      rw [nearest] at found
      rw [run_bind_of_ok found]
      rfl
  | some directory =>
      rw [nearest, Project.decided] at found
      cases read : Project.manifestIn tree directory with
      | error failure =>
          rw [read] at found
          rw [run_bind_of_error found]
          simp only [read]
          rfl
      | ok manifest =>
          rw [read] at found
          rw [run_bind_of_ok found]
          simp only [read]
          rfl

/-! ## One command -/

/-- The output directory that a command goes by where a manifest rules. -/
inductive Resolves (tree : FileTree) (workingDir : Path) : Command → Path → Prop
  | generate {manifest : Option Manifest} {directory : Path} {request : GenerationRequest}
      (found : ruling tree workingDir = .ok (manifest, directory)) :
      Resolves tree workingDir (.generate request)
        (Project.outputDir directory workingDir manifest request.outputDir)
  | clean {manifest : Option Manifest} {directory : Path} {flag : Option String}
      (found : ruling tree workingDir = .ok (manifest, directory)) :
      Resolves tree workingDir (.clean flag)
        (Project.outputDir directory workingDir manifest flag)

/-- All that a command can do to a tree: nothing, wherever it fails before it gets to its work, or what
its work comes to. -/
inductive Effect (tree : FileTree) (workingDir : Path) : Command → FileTree → Prop
  | nothing {command : Command} : Effect tree workingDir command tree
  | generated {manifest : Option Manifest} {directory : Path} {request : GenerationRequest}
      (found : ruling tree workingDir = .ok (manifest, directory)) :
      Effect tree workingDir (.generate request)
        ((Project.Setting.mk directory workingDir manifest request).generation tree).2
  | started : Effect tree workingDir .init (Project.started tree workingDir)
  | cleaned {manifest : Option Manifest} {directory : Path} {flag : Option String}
      (found : ruling tree workingDir = .ok (manifest, directory)) :
      Effect tree workingDir (.clean flag)
        (Project.cleaned tree (Project.outputDir directory workingDir manifest flag))

/-- The tree that a command leaves. -/
def executed (tree : FileTree) (workingDir : Path) (command : Command) : FileTree :=
  ((execute (m := StateM FileTree) workingDir command).carryOut.run tree).2

/-- A command that goes by a manifest fails and does nothing if it finds one that it cannot read. -/
theorem run_project_bind (tree : FileTree) (workingDir : Path)
    (rest : Option Manifest × Path → Project.Telling (StateM FileTree) Unit) :
    (Project.Telling.work (project workingDir) >>= rest).carryOut.run tree =
      match ruling tree workingDir with
      | .error failure => (Project.atEnd (.error (.failed failure)), tree)
      | .ok found => (rest found).carryOut.run tree := by
  have ran := run_project tree workingDir
  cases found : ruling tree workingDir with
  | error failure =>
      rw [found] at ran
      exact Project.Telling.carryOut_work_of_error ran
  | ok pair =>
      rw [found] at ran
      exact Project.Telling.carryOut_work_of_ok ran

theorem run_project_bind_eq_ok {told : List String}
    {rest : Option Manifest × Path → Project.Telling (StateM FileTree) Unit} :
    (Project.Telling.work (project workingDir) >>= rest).carryOut.run tree = ((.ok (), told), left) ↔
      ∃ manifest directory, ruling tree workingDir = .ok (manifest, directory) ∧
        (rest (manifest, directory)).carryOut.run tree = ((.ok (), told), left) := by
  rw [run_project_bind]
  cases ruling tree workingDir with
  | error failure => exact ⟨nofun, fun ⟨_, _, ruled, _⟩ => nomatch ruled⟩
  | ok pair =>
      constructor
      · exact fun ran => ⟨pair.1, pair.2, rfl, ran⟩
      · rintro ⟨manifest, directory, ruled, ran⟩
        cases ruled
        exact ran

/-- A call for a generation comes to what the generation in its setting comes to. -/
theorem run_generate (tree : FileTree) (workingDir : Path) (request : GenerationRequest) :
    (execute (m := StateM FileTree) workingDir (.generate request)).carryOut.run tree =
      match ruling tree workingDir with
      | .error failure => (Project.atEnd (.error (.failed failure)), tree)
      | .ok (manifest, directory) =>
          let s : Project.Setting := ⟨directory, workingDir, manifest, request⟩
          (Project.atEnd (((s.generation tree).1.mapError .failed).map (·.lines request.quiet)),
            (s.generation tree).2) := by
  rw [execute, run_project_bind]
  cases ruling tree workingDir with
  | error failure => rfl
  | ok found => exact Project.run_runGenerate ⟨_, workingDir, _, request⟩ tree

theorem executed_generate (tree : FileTree) (workingDir : Path) (request : GenerationRequest) :
    executed tree workingDir (.generate request) =
      match ruling tree workingDir with
      | .error _ => tree
      | .ok (manifest, directory) =>
          ((Project.Setting.mk directory workingDir manifest request).generation tree).2 := by
  rw [executed, run_generate]
  cases ruling tree workingDir with
  | error failure => rfl
  | ok found => rfl

/-- A call for a removal leaves what removing its output directory leaves. -/
theorem executed_clean (tree : FileTree) (workingDir : Path) (flag : Option String) :
    executed tree workingDir (.clean flag) =
      match ruling tree workingDir with
      | .error _ => tree
      | .ok (manifest, directory) =>
          Project.cleaned tree (Project.outputDir directory workingDir manifest flag) := by
  rw [executed, execute, run_project_bind]
  cases ruling tree workingDir with
  | error failure => rfl
  | ok found => rfl

/-- No line is told by a command before the last of its steps that can stop it. -/
theorem tellsAtEnd_execute (workingDir : Path) (command : Command) :
    Project.Telling.TellsAtEnd (execute workingDir command) := by
  cases command with
  | generate request => exact .work_bind fun _ => Project.tellsAtEnd_runGenerate _ workingDir _ request
  | inspect catalog name => exact .work_bind fun _ => Project.tellsAtEnd_runInspect _ workingDir _ catalog name
  | init => exact Project.tellsAtEnd_runInit workingDir
  | clean flag => exact .work_bind fun _ => Project.tellsAtEnd_runClean _

/-- A call for a command comes to what carrying it out comes to. -/
theorem run_of_command {arguments : List String} (parsed : parse arguments = .run command)
    (wording : Project.Wording) (tree : FileTree) (workingDir : Path) :
    (run (m := StateM FileTree) wording (.ok workingDir) arguments).run tree =
      let carried := (execute (m := StateM FileTree) workingDir command).carryOut.run tree
      (.ofCommand wording carried.1.1 carried.1.2, carried.2) := by
  rw [run, parsed]
  rfl

/-- A command finds its manifest in the tree, and then does its work. -/
theorem executed_effect (tree : FileTree) (workingDir : Path) (command : Command) :
    Effect tree workingDir command (executed tree workingDir command) := by
  cases command with
  | generate request =>
      rw [executed_generate]
      cases found : ruling tree workingDir with
      | error failure => exact .nothing
      | ok pair => exact .generated found
  | inspect catalog name =>
      rw [executed, execute, run_project_bind]
      cases ruling tree workingDir with
      | error failure => exact .nothing
      | ok pair =>
          show Effect tree workingDir _ ((Project.runInspect (m := StateM FileTree) pair.2 workingDir
            pair.1 catalog name).carryOut.run tree).2
          rw [Project.run_runInspect]
          exact .nothing
  | init => exact .started
  | clean flag =>
      rw [executed_clean]
      cases found : ruling tree workingDir with
      | error failure => exact .nothing
      | ok pair => exact .cleaned found

/-- The places that a command may do with as it likes: that of the manifest that it starts a project
with, and those at or below where its output directory leads, before or after it. -/
inductive Owns (tree left : FileTree) (workingDir : Path) : Command → Location → Prop
  | manifest {directory : Location} (leads : tree.walk workingDir = .ok directory) :
      Owns tree left workingDir .init (directory ++ [Manifest.fileName])
  | output {command : Command} {path : Path} {directory l : Location}
      (resolved : Resolves tree workingDir command path)
      (leads : tree.walk path = .ok directory ∨ left.walk path = .ok directory)
      (below : directory <+: l) : Owns tree left workingDir command l

/-- The places of the directories that a generation makes where nothing was, on the way to its
output directory. -/
inductive Opens (tree left : FileTree) (workingDir : Path) : Command → Location → Prop
  | directory {request : GenerationRequest} {path above : Path} {l : Location}
      (resolved : Resolves tree workingDir (.generate request) path)
      (parent : above ∈ path.parents) (leads : left.walk above = .ok l)
      (free : tree.get? l = none) (now : left.get? l = some .directory) :
      Opens tree left workingDir (.generate request) l

theorem Opens.free (opens : Opens tree left workingDir command l) : tree.get? l = none := by
  cases opens with
  | directory resolved parent leads free now => exact free

theorem Opens.now (opens : Opens tree left workingDir command l) :
    left.get? l = some .directory := by
  cases opens with
  | directory resolved parent leads free now => exact now

/-- A command changes nothing but what it owns and what it opens. -/
theorem Effect.frame (effect : Effect tree workingDir command left) (l : Location) :
    left.get? l = tree.get? l ∨ Owns tree left workingDir command l ∨
      Opens tree left workingDir command l := by
  cases effect with
  | nothing => exact .inl rfl
  | @generated manifest directory request found =>
      have resolved : Resolves tree workingDir (.generate request) _ := .generate found
      rcases Project.generation_altered ⟨directory, workingDir, manifest, request⟩ tree l with
        same | altered
      · exact .inl same
      · cases altered with
        | file leads free now =>
            exact .inr (.inl (.output resolved (.inr leads) (List.prefix_append _ _)))
        | directory free now member leads =>
            rcases List.mem_cons.mp member with rfl | parent
            · exact .inr (.inl (.output resolved (.inr leads) (List.prefix_refl _)))
            · exact .inr (.inr (.directory resolved parent leads free now))
  | started =>
      rcases Project.started_cases tree workingDir with same | ⟨directory, wrote⟩
      · rw [same]
        exact .inl rfl
      · by_cases place : l = directory ++ [Manifest.fileName]
        · rw [place]
          exact .inr (.inl (.manifest wrote.leads))
        · rw [wrote.get?, if_neg place]
          exact .inl rfl
  | @cleaned manifest directory flag found =>
      have resolved : Resolves tree workingDir (.clean flag) _ := .clean found
      rw [Project.cleaned_eq]
      rcases FileTree.removeDirectory_takes tree
        (Project.outputDir directory workingDir manifest flag) l with same | ⟨-, here, located, below⟩
      · exact .inl same
      · have leads := (FileTree.locate_eq_ok_iff.mp located).2
        exact .inr (.inl (.output resolved (.inl leads) below))

/-- Inspecting changes nothing. -/
theorem Effect.inspect {catalog name : Option String}
    (effect : Effect tree workingDir (.inspect catalog name) left) : left = tree := by
  cases effect with
  | nothing => rfl

/-- Generating removes nothing, and alters nothing but as bindings in its output directory do. -/
theorem Effect.generate {request : GenerationRequest}
    (effect : Effect tree workingDir (.generate request) left) :
    (∀ l, tree.get? l ≠ none → left.get? l ≠ none) ∧
      ∀ l, left.get? l = tree.get? l ∨ ∃ path,
        Resolves tree workingDir (.generate request) path ∧ Binding.Altered path tree left l := by
  cases effect with
  | nothing => exact ⟨fun l held => held, fun l => .inl rfl⟩
  | @generated manifest directory _ found =>
      let s : Project.Setting := ⟨directory, workingDir, manifest, request⟩
      refine ⟨(Project.generation_grows s tree).entries, ?_⟩
      intro l
      exact (Project.generation_altered s tree l).imp_right fun altered =>
        ⟨_, .generate found, altered⟩

/-- Cleaning makes nothing. -/
theorem Effect.clean {flag : Option String}
    (effect : Effect tree workingDir (.clean flag) left) (l : Location)
    (held : left.get? l ≠ none) : left.get? l = tree.get? l := by
  cases effect with
  | nothing => rfl
  | cleaned found =>
      rw [Project.cleaned_eq] at held ⊢
      rcases FileTree.removeDirectory_takes tree _ l with same | ⟨gone, -⟩
      · exact same
      · exact absurd gone held

end CommandLine

end LuaBindings
