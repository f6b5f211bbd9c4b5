import LuaBindings.Proofs.CommandLine.Calls
/-!
# What becomes of the inputs

Commands read a manifest and a catalog, and they write and remove what their settings say. Nothing
keeps these apart. Generating never touches the manifest, and it replaces the catalog only where that
lies in the place of a file of bindings. Cleaning takes the two away where its output directory is
above them, and otherwise leaves them alone.
-/

namespace LuaBindings

namespace Project

variable {s : Setting} {tree : FileTree} {l : Location}

/-- A place is that of a file which a generation plans for its catalog, and holds this file after
it. -/
inductive Filled (s : Setting) (tree after : FileTree) (l : Location) : Prop
  | intro {path : Path} {catalog : Catalog} {directory : Location} {f : Binding.PlannedFile}
      (loaded : s.loaded tree = .ok (path, catalog)) (planned : f ∈ s.planned catalog)
      (leads : after.walk s.directory = .ok directory) (place : l = directory ++ [f.name])
      (now : after.get? l = some (.file f.content.toUTF8))

/-- However a generation ends, a file is as it was, or a file of bindings has taken its place. -/
theorem generation_file {content : ByteArray} (held : tree.get? l = some (.file content)) :
    (s.generation tree).2.get? l = tree.get? l ∨ Filled s tree (s.generation tree).2 l := by
  rcases generation_tree s tree with same | ⟨path, text, catalog, loaded, valid, left⟩
  · rw [same]
    exact .inl rfl
  · obtain ⟨plain, distinct⟩ := s.planned_names valid
    rcases Binding.runWrite_brought plain distinct tree s.directory l with same | brought
    · rw [left]
      exact .inl same
    · rw [← left] at brought
      cases brought with
      | file planned leads place now => exact .inr ⟨loaded, planned, leads, place, now⟩
      | directory free now member leads =>
          rw [held] at free
          cases free

/-- A manifest is no file of bindings. -/
theorem not_filled_manifest {after : FileTree} {directory : Path}
    (located : tree.locate (manifestPath directory) = .ok l) : ¬Filled s tree after l := by
  rintro ⟨-, planned, -, place, -⟩
  obtain ⟨-, walked⟩ := FileTree.locate_eq_ok_iff.mp located
  obtain ⟨parent, -, -, -, named, -⟩ := (FileTree.walk_join_eq_ok_iff plainName_manifest).mp walked
  obtain ⟨stem, spelled⟩ := Binding.plan_stems _ _ _ planned
  rw [named, spelled] at place
  have names := List.append_inj_right' place rfl
  exact Binding.bindings_ne (by decide) stem (List.singleton_inj.mp names).symm

/-- The catalog that a generation finds is a file. -/
theorem isFile_of_located {path : Path} (h : s.located tree = .ok path) :
    tree.isFile path = true := by
  rw [Setting.located] at h
  split at h
  · split at h
    · rename_i isFile
      cases h
      exact isFile
    · cases h
  · split at h
    · rename_i found
      cases h
      exact List.find?_some found
    · cases h

end Project

namespace CommandLine

open Project (GenerationRequest)

variable {tree : FileTree} {workingDir : Path} {l : Location}

/-! ## The files that commands go by -/

/-- Where the manifest lies that is found from a working directory. -/
def FindsManifest (tree : FileTree) (workingDir : Path) (l : Location) : Prop :=
  ∃ directory, Project.nearest? tree workingDir = some directory ∧
    tree.locate (Project.manifestPath directory) = .ok l

/-- Where the catalog lies that a generation reads. -/
def FindsCatalog (tree : FileTree) (workingDir : Path) (request : GenerationRequest)
    (l : Location) : Prop :=
  ∃ manifest directory path, ruling tree workingDir = .ok (manifest, directory) ∧
    (Project.Setting.mk directory workingDir manifest request).located tree = .ok path ∧
    tree.locate path = .ok l

theorem exists_file {path : Path} (isFile : tree.isFile path = true)
    (located : tree.locate path = .ok l) : ∃ content, tree.get? l = some (.file content) := by
  obtain ⟨found, content, locates, held⟩ := FileTree.isFile_iff.mp isFile
  cases located.symm.trans locates
  exact ⟨content, held⟩

theorem FindsManifest.file (finds : FindsManifest tree workingDir l) :
    ∃ content, tree.get? l = some (.file content) := by
  obtain ⟨directory, nearest, located⟩ := finds
  exact exists_file (by simpa using List.find?_some nearest) located

theorem FindsCatalog.file {request : GenerationRequest}
    (finds : FindsCatalog tree workingDir request l) :
    ∃ content, tree.get? l = some (.file content) := by
  obtain ⟨manifest, directory, path, -, found, located⟩ := finds
  exact exists_file (Project.isFile_of_located found) located

/-! ## Calls that go by them -/

/-- What becomes in a call of the files that it goes by. -/
structure InputsAfter (stage : Stage) : Prop where
  /-- A generation leaves the manifest as it is. -/
  manifest : ∀ request, stage.Runs (.generate request) →
    ∀ l, FindsManifest stage.tree stage.call.workingDir l →
      stage.after.get? l = stage.tree.get? l
  /-- It leaves the catalog as it is, or replaces it by a file of bindings that has the same place. -/
  catalog : ∀ request, stage.Runs (.generate request) →
    ∀ l, FindsCatalog stage.tree stage.call.workingDir request l →
      stage.after.get? l = stage.tree.get? l ∨ ∃ manifest directory,
        ruling stage.tree stage.call.workingDir = .ok (manifest, directory) ∧
          Project.Filled ⟨directory, stage.call.workingDir, manifest, request⟩ stage.tree
            stage.after l
  /-- Cleaning removes the manifest, and any catalog that a generation would find, where its output
  directory is above. -/
  removed : ∀ flag, stage.Runs (.clean flag) → ∀ l path,
    (FindsManifest stage.tree stage.call.workingDir l ∨ ∃ request, request.outputDir = flag ∧
      FindsCatalog stage.tree stage.call.workingDir request l) →
    Resolves stage.tree stage.call.workingDir (.clean flag) path → stage.tree.LeadsAbove path l →
    stage.after.get? l = none
  /-- Otherwise it leaves them as they are, like all that is not at or below that directory. -/
  kept : ∀ flag, stage.Runs (.clean flag) → ∀ l,
    (∀ path, Resolves stage.tree stage.call.workingDir (.clean flag) path →
      ¬stage.tree.LeadsAbove path l) →
    stage.after.get? l = stage.tree.get? l

/-- In every call, the manifest and the catalog are lost only to a removal of a directory above them,
and the catalog besides to a file of bindings that has the same place. -/
theorem inputs_after (stage : Stage) : InputsAfter stage where
  manifest request runs l finds := by
    obtain ⟨content, held⟩ := finds.file
    obtain ⟨above, -, located⟩ := finds
    rw [Stage.after_eq runs, executed_generate]
    cases ruling stage.tree stage.call.workingDir with
    | error failure => rfl
    | ok pair =>
        exact (Project.generation_file held).resolve_right (Project.not_filled_manifest located)
  catalog request runs l finds := by
    obtain ⟨content, held⟩ := finds.file
    rw [Stage.after_eq runs, executed_generate]
    cases found : ruling stage.tree stage.call.workingDir with
    | error failure => exact .inl rfl
    | ok pair =>
        exact (Project.generation_file held).imp_right fun filled => ⟨pair.1, pair.2, rfl, filled⟩
  removed flag runs l path finds resolved leads := by
    have file : ∃ content, stage.tree.get? l = some (.file content) := by
      rcases finds with finds | ⟨request, -, finds⟩
      · exact finds.file
      · exact finds.file
    obtain ⟨content, held⟩ := file
    cases resolved with
    | clean found =>
        rw [Stage.after_eq runs, executed_clean, found]
        simp only [Project.cleaned_eq]
        exact FileTree.removeDirectory_file leads held
  kept flag runs l outside := by
    rw [Stage.after_eq runs, executed_clean]
    cases found : ruling stage.tree stage.call.workingDir with
    | error failure => rfl
    | ok pair =>
        simp only [Project.cleaned_eq]
        exact FileTree.removeDirectory_outside (outside _ (.clean found))

/-- In a project whose bindings go where its manifest and its catalog lie, cleaning removes both, and
generating replaces the catalog. -/
theorem inputs_destroyed :
    let request : GenerationRequest := ⟨none, none, .none, false⟩
    let clean : Stage := ⟨⟨⟨"/p"⟩, ["clean"], default⟩, Project.crampedTree⟩
    let generate : Stage := ⟨⟨⟨"/p"⟩, ["generate"], default⟩, Project.crampedTree⟩
    FindsManifest Project.crampedTree ⟨"/p"⟩ ["p", "nativegen.toml"] ∧
      FindsCatalog Project.crampedTree ⟨"/p"⟩ request ["p", "N.lua"] ∧
      clean.Runs (.clean none) ∧
      clean.tree.get? ["p", "nativegen.toml"] ≠ none ∧
      clean.after.get? ["p", "nativegen.toml"] = none ∧
      clean.tree.get? ["p", "N.lua"] ≠ none ∧ clean.after.get? ["p", "N.lua"] = none ∧
      generate.Runs (.generate request) ∧
      generate.after.get? ["p", "N.lua"] ≠ generate.tree.get? ["p", "N.lua"] := by
  refine ⟨⟨⟨"/p"⟩, by decide +kernel, by decide +kernel⟩, ?_, by decide +kernel, by decide +kernel,
    by decide +kernel, by decide +kernel, by decide +kernel, by decide +kernel, by decide +kernel⟩
  exact ⟨some ⟨some "N.lua", some "", none, none, none⟩, ⟨"/p"⟩, ⟨"/p/N.lua"⟩, by decide +kernel,
    by decide +kernel, by decide +kernel⟩

end CommandLine

end LuaBindings
