import LuaBindings.Project.Upkeep
import LuaBindings.Proofs.FileTree.Changes
import LuaBindings.Proofs.FileTree.Clearing
import LuaBindings.Proofs.Project.Telling
/-!
# Runs of the upkeep

Starting a project writes its manifest or leaves the tree as it is. Removing the output leaves the
tree that removing the directory leaves, whether or not there is one.
-/

namespace LuaBindings.Project

/-- The tree that starting a project leaves. -/
def started (tree : FileTree) (directory : Path) : FileTree :=
  ((runInit (m := StateM FileTree) directory).carryOut.run tree).2

/-- The tree that removing an output directory leaves. -/
def cleaned (tree : FileTree) (directory : Path) : FileTree :=
  ((runClean (m := StateM FileTree) directory).carryOut.run tree).2

theorem run_holds (tree : FileTree) (path : Path) :
    (FileSystem.holds path : ExceptT Failure (StateM FileTree) _).run.run tree =
      (.ok (tree.holds path), tree) := rfl

/-! ## Starting -/

theorem plainName_manifest : Path.PlainName Manifest.fileName :=
  ⟨by decide, by decide, by decide, by decide⟩

theorem run_writeManifest (tree : FileTree) (path : Path) :
    (FileSystem.writeText path Manifest.template : ExceptT Failure (StateM FileTree) _).run.run tree =
      (.ok (FileTree.attempt (·.writeBytes path Manifest.template.toUTF8) tree).1,
        (FileTree.attempt (·.writeBytes path Manifest.template.toUTF8) tree).2) := rfl

/-- The lines that tell of a manifest that has been written. -/
def startLines (path : Path) : List String :=
  ["Created " ++ path.text, "Place natives.json next to it and run `nativegen generate`."]

/-- Two lines told one after the other are told as these lines. -/
theorem runInit_eq (directory : Path) : runInit (m := StateM FileTree) directory = (do
    let path ← Telling.work (startProject directory)
    Telling.tellAll (startLines path)) := rfl

theorem run_startProject (tree : FileTree) (directory : Path) :
    (startProject (m := StateM FileTree) directory).run.run tree =
      if tree.holds (directory.join ⟨Manifest.fileName⟩) then
        (.error (.manifestExists (directory.join ⟨Manifest.fileName⟩)), tree)
      else
        match tree.writeBytes (directory.join ⟨Manifest.fileName⟩) Manifest.template.toUTF8 with
        | .error fault =>
            (.error (.unwritableManifest (directory.join ⟨Manifest.fileName⟩) fault), tree)
        | .ok changed => (.ok (directory.join ⟨Manifest.fileName⟩), changed) := by
  rw [startProject, run_bind_of_ok (run_holds tree _)]
  cases tree.holds (directory.join ⟨Manifest.fileName⟩) with
  | true => rfl
  | false =>
      simp only [Bool.false_eq_true, if_false]
      rw [run_bind_of_ok (run_writeManifest tree _), FileTree.attempt]
      cases tree.writeBytes (directory.join ⟨Manifest.fileName⟩) Manifest.template.toUTF8 with
      | error fault => rfl
      | ok changed => rfl

/-- What comes of starting a project, and the tree that is left. -/
theorem run_runInit (tree : FileTree) (directory : Path) :
    (runInit (m := StateM FileTree) directory).carryOut.run tree =
      if tree.holds (directory.join ⟨Manifest.fileName⟩) then
        (atEnd (.error (.failed (.manifestExists (directory.join ⟨Manifest.fileName⟩)))), tree)
      else
        match tree.writeBytes (directory.join ⟨Manifest.fileName⟩) Manifest.template.toUTF8 with
        | .error fault =>
            (atEnd (.error (.failed (.unwritableManifest (directory.join ⟨Manifest.fileName⟩) fault))),
              tree)
        | .ok changed =>
            (atEnd (.ok (startLines (directory.join ⟨Manifest.fileName⟩))), changed) := by
  rw [runInit_eq, Telling.carryOut_work, run_startProject]
  cases tree.holds (directory.join ⟨Manifest.fileName⟩) with
  | true => rfl
  | false =>
      cases tree.writeBytes (directory.join ⟨Manifest.fileName⟩) Manifest.template.toUTF8 with
      | error fault => rfl
      | ok changed => rfl

/-- Starting a project changes nothing but the place of the manifest. -/
theorem started_cases (tree : FileTree) (directory : Path) :
    started tree directory = tree ∨
      ∃ location, FileTree.WroteFile tree directory Manifest.fileName Manifest.template.toUTF8
        location (started tree directory) := by
  rw [started, run_runInit]
  split
  · exact .inl rfl
  · cases wrote : tree.writeBytes (directory.join ⟨Manifest.fileName⟩) Manifest.template.toUTF8 with
    | error fault => exact .inl rfl
    | ok changed => exact .inr (FileTree.writeBytes_join plainName_manifest wrote)

/-! ## Removing -/

theorem run_removeDirectory (tree : FileTree) (path : Path) :
    (FileSystem.removeDirectory path : ExceptT Failure (StateM FileTree) _).run.run tree =
      (.ok (tree.removeDirectory path).1, (tree.removeDirectory path).2) := rfl

/-- The line that tells of a removal, or that there was nothing to remove. -/
def cleanLine (directory : Path) (removed : Bool) : String :=
  if removed then "Removed " ++ directory.text
  else "Already clean: " ++ directory.text ++ " does not exist"

theorem runClean_eq (directory : Path) : runClean (m := StateM FileTree) directory = (do
    let removed ← Telling.work (removeOutput directory)
    Telling.tellAll [cleanLine directory removed]) := by
  refine congrArg (Telling.work (removeOutput directory) >>= ·) (funext fun removed => ?_)
  cases removed with
  | true => rfl
  | false => rfl

theorem run_removeOutput (tree : FileTree) (directory : Path) :
    (removeOutput (m := StateM FileTree) directory).run.run tree =
      if tree.holds directory then
        match tree.removeDirectory directory with
        | (.error fault, left) => (.error (.removal directory fault), left)
        | (.ok (), left) => (.ok true, left)
      else (.ok false, tree) := by
  rw [removeOutput, run_bind_of_ok (run_holds tree directory)]
  cases tree.holds directory with
  | false => rfl
  | true =>
      rw [if_pos rfl, run_bind_of_ok (run_removeDirectory tree directory)]
      cases tree.removeDirectory directory with
      | mk answer left =>
          cases answer with
          | error fault => rfl
          | ok done => rfl

/-- What comes of removing an output directory, and the tree that is left. -/
theorem run_runClean (tree : FileTree) (directory : Path) :
    (runClean (m := StateM FileTree) directory).carryOut.run tree =
      if tree.holds directory then
        match tree.removeDirectory directory with
        | (.error fault, left) => (atEnd (.error (.failed (.removal directory fault))), left)
        | (.ok (), left) => (atEnd (.ok [cleanLine directory true]), left)
      else (atEnd (.ok [cleanLine directory false]), tree) := by
  rw [runClean_eq, Telling.carryOut_work, run_removeOutput]
  cases tree.holds directory with
  | false => rfl
  | true =>
      rw [if_pos rfl, if_pos rfl]
      cases tree.removeDirectory directory with
      | mk answer left =>
          cases answer with
          | error fault => rfl
          | ok done => rfl

theorem cleaned_eq (tree : FileTree) (directory : Path) :
    cleaned tree directory = (tree.removeDirectory directory).2 := by
  rw [cleaned, run_runClean]
  cases holds : tree.holds directory with
  | false =>
      have nowhere : ∃ fault, tree.locate directory = .error fault := by
        rw [FileTree.holds] at holds
        cases located : tree.locate directory with
        | ok l =>
            rw [located] at holds
            cases holds
        | error fault => exact ⟨fault, rfl⟩
      obtain ⟨fault, located⟩ := nowhere
      rw [FileTree.removeDirectory, located]
      rfl
  | true =>
      rw [if_pos rfl]
      cases tree.removeDirectory directory with
      | mk answer left =>
          cases answer with
          | error fault => rfl
          | ok done => rfl

end LuaBindings.Project
