import LuaBindings.Proofs.CommandLine.Effects
/-!
# Working directories

Where the command line gives no path, a command goes by the manifest alone: from whatever directory
below that of the manifest it is called, it ends the same way, says the same and leaves the same
tree, unless another manifest lies nearer.
-/

namespace LuaBindings.CommandLine

variable {tree : FileTree} {above below : Path} {command : Command}

/-- The command line says neither where the catalog lies nor where the output goes. -/
def Command.Pathless : Command → Prop
  | .generate request => request.catalog = none ∧ request.outputDir = none
  | .inspect catalog _ => catalog = none
  | .init => False
  | .clean outputDir => outputDir = none

/-- The directory `above` has the manifest that rules in `below`, which is the directory itself or one
below it: no directory from `below` up to it has a manifest as well. -/
structure Governs (tree : FileTree) (above below : Path) : Prop where
  has : tree.isFile (Project.manifestPath above) = true
  nearest : ∃ nearer others, below.ancestors = nearer ++ above :: others ∧
    ∀ directory ∈ nearer, ¬tree.isFile (Project.manifestPath directory) = true

/-- It governs itself. -/
theorem Governs.self (governs : Governs tree above below) : Governs tree above above where
  has := governs.has
  nearest := ⟨[], above.parents, rfl, List.forall_mem_nil _⟩

/-- All that rules in a directory that is governed is the manifest of the one above. -/
theorem Governs.ruling_eq (governs : Governs tree above below) :
    ruling tree below =
      (Project.manifestIn tree above).map fun manifest => (some manifest, above) := by
  obtain ⟨nearer, others, split, without⟩ := governs.nearest
  rw [CommandLine.ruling_eq, Project.nearest?_of_split split without governs.has]

/-- Where the same manifest rules, a command that is given no path does the same work. -/
theorem execute_of_ruling_eq (pathless : command.Pathless)
    (same : ruling tree below = ruling tree above) :
    (execute (m := StateM FileTree) below command).carryOut.run tree =
      (execute (m := StateM FileTree) above command).carryOut.run tree := by
  cases command with
  | generate request =>
      obtain ⟨catalog, outputDir, options, quiet⟩ := request
      obtain ⟨rfl, rfl⟩ : catalog = none ∧ outputDir = none := pathless
      rw [execute, execute, run_project_bind, run_project_bind, same]
      -- The working directory only counts for paths that are given.
      rfl
  | inspect catalog name =>
      obtain rfl : catalog = none := pathless
      rw [execute, execute, run_project_bind, run_project_bind, same]
      rfl
  | init => exact pathless.elim
  | clean outputDir =>
      obtain rfl : outputDir = none := pathless
      rw [execute, execute, run_project_bind, run_project_bind, same]
      rfl

/-- Without a path on the command line, a call in any directory that is governed from above ends, says
and leaves what a call from above does. -/
theorem run_below {arguments : List String} (governs : Governs tree above below)
    (parsed : parse arguments = .run command) (pathless : command.Pathless)
    (wording : Project.Wording) :
    (run (m := StateM FileTree) wording (.ok below) arguments).run tree =
      (run (m := StateM FileTree) wording (.ok above) arguments).run tree := by
  have same : ruling tree below = ruling tree above := by
    rw [governs.ruling_eq, governs.self.ruling_eq]
  rw [run_of_command parsed, run_of_command parsed, execute_of_ruling_eq pathless same]

/-- A generation that is asked for in a directory of a project, and succeeds. -/
theorem run_below_project :
    let fromBelow := (run (m := StateM FileTree) default (.ok ⟨"/p/a"⟩) ["generate", "-q"]).run
      Project.crampedTree
    let fromAbove := (run (m := StateM FileTree) default (.ok ⟨"/p"⟩) ["generate", "-q"]).run
      Project.crampedTree
    Governs Project.crampedTree ⟨"/p"⟩ ⟨"/p/a"⟩ ∧
      parse ["generate", "-q"] = .run (.generate ⟨none, none, .none, true⟩) ∧
      (Command.generate ⟨none, none, .none, true⟩).Pathless ∧
      fromBelow = fromAbove ∧ fromBelow.1.status = 0 := by
  have governs : Governs Project.crampedTree ⟨"/p"⟩ ⟨"/p/a"⟩ :=
    ⟨by decide +kernel, [⟨"/p/a"⟩], [⟨"/"⟩], by decide +kernel, by decide +kernel⟩
  have parsed : parse ["generate", "-q"] = .run (.generate ⟨none, none, .none, true⟩) := by
    decide +kernel
  have pathless : (Command.generate ⟨none, none, .none, true⟩).Pathless := ⟨rfl, rfl⟩
  exact ⟨governs, parsed, pathless, run_below governs parsed pathless default, by decide +kernel⟩

end LuaBindings.CommandLine
