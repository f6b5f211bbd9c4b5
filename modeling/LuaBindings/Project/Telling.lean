import LuaBindings.Project.Failure
/-!
# Commands that tell

A command works on files and tells of it, line by line on standard output. A line that has been told
stays told, however the command ends. Standard output is taken to be there for every line.
-/

namespace LuaBindings.Project

/-- What a command does: work on files, and lines that it tells, until its end or until it stops. -/
abbrev Telling (m : Type → Type) := ExceptT Stop (StateT (Array String) m)

namespace Telling

variable {m : Type → Type} [Monad m] {α : Type}

/-- Work that tells nothing. -/
def work (steps : ExceptT Failure m α) : Telling m α :=
  .mk (StateT.lift (Except.mapError .failed <$> steps.run))

/-- Tell a line. -/
def tell (line : String) : Telling m Unit := modify (·.push line)

/-- Tell some lines, one after another. -/
def tellAll (lines : List String) : Telling m Unit := lines.forM tell

/-- Do what a command does: how it ends, and all that it has told by then. -/
def carryOut (command : Telling m Unit) : m (Except Stop Unit × List String) := do
  let (ended, told) ← command.run.run #[]
  return (ended, told.toList)

end Telling

end LuaBindings.Project
