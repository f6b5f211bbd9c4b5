import LuaBindings.Project.Telling
import LuaBindings.FileTree.Operations
import LuaBindings.Proofs.Except
/-!
# Commands that tell at their end

Work tells nothing, whether or not it fails, and lines that have been told stop nothing. So a command
that does its work first and tells of it then comes to one of two ends: all its lines have been told,
or it was stopped and has told none.
-/

namespace LuaBindings.Project

/-- The end of a command that tells its lines when nothing can stop it any more: it has told all of
them, or it was stopped before the first. -/
def atEnd : Except Stop (List String) → Except Stop Unit × List String
  | .ok lines => (.ok (), lines)
  | .error stop => (.error stop, [])

/-- Nothing has been told where such a command was stopped. -/
theorem atEnd_eq_error_iff {result : Except Stop (List String)} {stop : Stop} {told : List String} :
    atEnd result = (.error stop, told) ↔ result = .error stop ∧ told = [] := by
  cases result with
  | error stop => simp [atEnd, eq_comm]
  | ok lines => exact ⟨nofun, nofun⟩

namespace Telling

variable {α : Type} {tree left : FileTree} {steps : ExceptT Failure (StateM FileTree) α}
  {next : α → Telling (StateM FileTree) Unit}

/-- Lines are told behind those that have been told. -/
theorem run_tellAll (lines : List String) (told : Array String) (tree : FileTree) :
    ((tellAll (m := StateM FileTree) lines).run.run told).run tree =
      ((.ok (), told ++ lines.toArray), tree) := by
  -- On the lines that are still to be told, whatever has been told before them.
  induction lines generalizing told with
  | nil =>
      rw [Array.append_empty]
      rfl
  | cons line lines ih =>
      have first : ((tellAll (m := StateM FileTree) (line :: lines)).run.run told).run tree =
          ((tellAll (m := StateM FileTree) lines).run.run (told.push line)).run tree := rfl
      rw [first, ih, List.push_append_toArray]

theorem carryOut_tellAll (lines : List String) (tree : FileTree) :
    (tellAll (m := StateM FileTree) lines).carryOut.run tree = (atEnd (.ok lines), tree) := by
  rw [carryOut, StateT.run_bind, run_tellAll, Array.empty_append]
  rfl

/-- Work tells nothing, whether or not it fails. -/
theorem run_work (steps : ExceptT Failure (StateM FileTree) α) (told : Array String)
    (tree : FileTree) : ((work steps).run.run told).run tree =
      (((steps.run.run tree).1.mapError .failed, told), (steps.run.run tree).2) := rfl

/-- Work that yields something hands it, and the tree that it leaves, to what follows. -/
theorem carryOut_work_of_ok {a : α} (ran : steps.run.run tree = (.ok a, left)) :
    (work steps >>= next).carryOut.run tree = (next a).carryOut.run left := by
  have first : ((work steps >>= next).run.run #[]).run tree = ((next a).run.run #[]).run left := by
    rw [ExceptT.run_bind, StateT.run_bind, StateT.run_bind, run_work, ran]
    rfl
  rw [carryOut, carryOut, StateT.run_bind, StateT.run_bind, first]

/-- If it fails, nothing follows. -/
theorem carryOut_work_of_error {failure : Failure}
    (ran : steps.run.run tree = (.error failure, left)) :
    (work steps >>= next).carryOut.run tree = (atEnd (.error (.failed failure)), left) := by
  have first : ((work steps >>= next).run.run #[]).run tree =
      ((.error (.failed failure), #[]), left) := by
    rw [ExceptT.run_bind, StateT.run_bind, StateT.run_bind, run_work, ran]
    rfl
  rw [carryOut, StateT.run_bind, first]
  rfl

/-- Work, and lines that tell of it. -/
theorem carryOut_work (lines : α → List String) :
    (work steps >>= fun a => tellAll (lines a)).carryOut.run tree =
      (atEnd (((steps.run.run tree).1.mapError .failed).map lines), (steps.run.run tree).2) := by
  cases ran : steps.run.run tree with
  | mk result left =>
      cases result with
      | error failure => exact carryOut_work_of_error ran
      | ok a => exact (carryOut_work_of_ok ran).trans (carryOut_tellAll (lines a) left)

/-- A command tells nothing before the last step that can stop it. -/
def TellsAtEnd (command : Telling (StateM FileTree) Unit) : Prop :=
  ∀ tree, ∃ result, (command.carryOut.run tree).1 = atEnd result

theorem tellsAtEnd_tellAll (lines : List String) : TellsAtEnd (tellAll lines) :=
  fun tree => ⟨.ok lines, congrArg Prod.fst (carryOut_tellAll lines tree)⟩

/-- Work may stand before a command that does so. -/
theorem TellsAtEnd.work_bind (tells : ∀ a, TellsAtEnd (next a)) :
    TellsAtEnd (work steps >>= next) := by
  intro tree
  cases ran : steps.run.run tree with
  | mk result left =>
      cases result with
      | error failure =>
          exact ⟨.error (.failed failure), congrArg Prod.fst (carryOut_work_of_error ran)⟩
      | ok a =>
          rw [carryOut_work_of_ok ran]
          exact tells a left

/-- Where it was stopped, nothing has been told. -/
theorem TellsAtEnd.told_of_stopped {command : Telling (StateM FileTree) Unit} {stop : Stop}
    {told : List String} (tells : TellsAtEnd command)
    (ran : command.carryOut.run tree = ((.error stop, told), left)) : told = [] := by
  obtain ⟨result, ends⟩ := tells tree
  rw [ran] at ends
  exact (atEnd_eq_error_iff.mp ends.symm).2

/-- A command does not break down. -/
def Steady (command : Telling (StateM FileTree) Unit) : Prop :=
  ∀ tree overwide told left,
    command.carryOut.run tree ≠ ((.error (.brokeDown overwide), told), left)

theorem steady_tellAll (lines : List String) : Steady (tellAll lines) := by
  intro tree overwide told left
  rw [carryOut_tellAll]
  exact nofun

theorem Steady.work_bind (steady : ∀ a, Steady (next a)) : Steady (work steps >>= next) := by
  intro tree overwide told left
  cases ran : steps.run.run tree with
  | mk result between =>
      cases result with
      | error failure =>
          rw [carryOut_work_of_error ran]
          exact nofun
      | ok a =>
          rw [carryOut_work_of_ok ran]
          exact steady a between overwide told left

end Telling

end LuaBindings.Project
