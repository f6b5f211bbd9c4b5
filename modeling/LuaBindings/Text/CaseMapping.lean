import LuaBindings.Text.CaseTable
/-!
# Case mapping

The capital and the small letter of a single character, each a sequence of one or more characters.
A character is mapped without regard to its neighbours, so a final sigma is an ordinary one.
-/

namespace LuaBindings.Text

/-- The code point that a table of runs in ascending order assigns, or the point itself. -/
def otherCase : List CaseRun → Nat → Nat
  | [], point => point
  | run :: rest, point =>
    if point < run.first then point
    else if point ≤ run.last && (point - run.first) % run.stride == 0 then
      (point + run.shift).toNat
    else otherCase rest point

/-- A character under a table of sequences, or else under a table of runs. -/
def mapCase (sequences : List (Nat × List Nat)) (runs : List CaseRun) (c : Char) : List Char :=
  match sequences.lookup c.toNat with
  | some points => points.map Char.ofNat
  | none => [Char.ofNat (otherCase runs c.toNat)]

/-- The capital of a character. -/
def capital (c : Char) : List Char := mapCase upperSequences upperRuns c

/-- The small letter of a character. -/
def small (c : Char) : List Char := mapCase lowerSequences lowerRuns c

end LuaBindings.Text
