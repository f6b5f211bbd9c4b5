import LuaBindings.Proofs.CommandLine.Effects
/-!
# Calls of the program

The program may be called again and again, in any directories and with any arguments. Every call
finds its manifest in the tree that the calls before it have left. What has changed in the end is
what the commands of the run may change.
-/

namespace LuaBindings.CommandLine

variable {command : Command}

/-! ## Calls and runs -/

/-- A call of the program: the directory it is made in, its arguments, and the words of others that
it passes on. -/
structure Call where
  workingDir : Path
  arguments : List String
  wording : Project.Wording

/-- The tree that a call leaves. -/
def Call.after (call : Call) (tree : FileTree) : FileTree :=
  ((run (m := StateM FileTree) call.wording (.ok call.workingDir) call.arguments).run tree).2

/-- The tree that calls leave, one after another. -/
def afterAll (tree : FileTree) (calls : List Call) : FileTree :=
  calls.foldl (fun tree call => call.after tree) tree

/-- A call with the tree that it is made on. -/
structure Stage where
  call : Call
  tree : FileTree

/-- The tree that is left. -/
def Stage.after (stage : Stage) : FileTree := stage.call.after stage.tree

/-- The calls of a run, each with the tree that those before it have left. -/
def stages (tree : FileTree) : List Call → List Stage
  | [] => []
  | call :: calls => ⟨call, tree⟩ :: stages (call.after tree) calls

/-- Whether the arguments ask for a command. -/
def Stage.Runs (stage : Stage) (command : Command) : Prop :=
  parse stage.call.arguments = .run command

instance (stage : Stage) (command : Command) : Decidable (stage.Runs command) :=
  inferInstanceAs (Decidable (parse stage.call.arguments = .run command))

/-- A call does what its command does, if its arguments ask for one. -/
theorem Call.after_eq (call : Call) (tree : FileTree) :
    call.after tree =
      match parse call.arguments with
      | .run command => executed tree call.workingDir command
      | _ => tree := by
  cases parsed : parse call.arguments with
  | run command =>
      rw [Call.after, run_of_command parsed]
      rfl
  | print text =>
      rw [Call.after, run, parsed]
      rfl
  | noCommand =>
      rw [Call.after, run, parsed]
      rfl
  | refused error =>
      rw [Call.after, run, parsed]
      rfl

theorem Stage.after_eq {stage : Stage} (runs : stage.Runs command) :
    stage.after = executed stage.tree stage.call.workingDir command := by
  rw [Stage.after, Call.after_eq, show parse stage.call.arguments = _ from runs]

theorem Stage.effect {stage : Stage} (runs : stage.Runs command) :
    Effect stage.tree stage.call.workingDir command stage.after := by
  rw [Stage.after_eq runs]
  exact executed_effect stage.tree stage.call.workingDir command

/-- A call changes nothing but what its command owns and opens. -/
theorem Stage.frame (stage : Stage) (l : Location) :
    stage.after.get? l = stage.tree.get? l ∨ ∃ command, stage.Runs command ∧
      (Owns stage.tree stage.after stage.call.workingDir command l ∨
        Opens stage.tree stage.after stage.call.workingDir command l) := by
  cases parsed : parse stage.call.arguments with
  | run command =>
      exact ((Stage.effect parsed).frame l).imp_right fun changed => ⟨command, parsed, changed⟩
  | print text =>
      left
      rw [Stage.after, Call.after_eq, parsed]
  | noCommand =>
      left
      rw [Stage.after, Call.after_eq, parsed]
  | refused error =>
      left
      rw [Stage.after, Call.after_eq, parsed]

/-- How a place may differ between the ends of a run. -/
inductive Changed (tree : FileTree) (calls : List Call) (l : Location) : Prop
  /-- A command of the run owns it. -/
  | owned {stage : Stage} {command : Command} (member : stage ∈ stages tree calls)
      (runs : stage.Runs command)
      (owns : Owns stage.tree stage.after stage.call.workingDir command l)
  /-- A generation of the run has made a directory where nothing was before the run. -/
  | opened {stage : Stage} {command : Command} (member : stage ∈ stages tree calls)
      (runs : stage.Runs command)
      (opens : Opens stage.tree stage.after stage.call.workingDir command l)
      (free : tree.get? l = none) (now : (afterAll tree calls).get? l = some .directory)

/-- A run changes nothing but what its commands own, or open and leave open. -/
theorem afterAll_changed (tree : FileTree) (calls : List Call) (l : Location) :
    (afterAll tree calls).get? l = tree.get? l ∨ Changed tree calls l := by
  induction calls generalizing tree with
  | nil => exact .inl rfl
  | cons call calls ih =>
      have first : (⟨call, tree⟩ : Stage) ∈ stages tree (call :: calls) := List.mem_cons_self
      have others : ∀ stage ∈ stages (call.after tree) calls, stage ∈ stages tree (call :: calls) :=
        fun stage member => List.mem_cons_of_mem _ member
      -- A place may have changed in the first call, in those behind it, or in both.
      have step := Stage.frame ⟨call, tree⟩ l
      show (afterAll (call.after tree) calls).get? l = tree.get? l ∨ _
      rcases ih (call.after tree) with same | ⟨member, runs, owns⟩ | ⟨member, runs, opens, free, now⟩
      · rcases step with still | ⟨command, runs, owns | opens⟩
        · exact .inl (same.trans still)
        · exact .inr (.owned first runs owns)
        · exact .inr (.opened first runs opens opens.free (same.trans opens.now))
      · exact .inr (.owned (others _ member) runs owns)
      · rcases step with still | ⟨command, runs', owns | opens'⟩
        · exact .inr (.opened (others _ member) runs opens (still.symm.trans free) now)
        · exact .inr (.owned first runs' owns)
        · exact absurd (free.symm.trans opens'.now) nofun

/-- What a run of calls does to a tree, and what each of its calls does. -/
structure Framed (tree : FileTree) (calls : List Call) : Prop where
  places : ∀ l, (afterAll tree calls).get? l = tree.get? l ∨ Changed tree calls l
  /-- Inspecting changes nothing. -/
  inspections : ∀ stage ∈ stages tree calls, ∀ catalog name,
    stage.Runs (.inspect catalog name) → stage.after = stage.tree
  /-- Generating removes nothing, and alters nothing but as bindings in its output directory do. -/
  generations : ∀ stage ∈ stages tree calls, ∀ request, stage.Runs (.generate request) →
    (∀ l, stage.tree.get? l ≠ none → stage.after.get? l ≠ none) ∧
      ∀ l, stage.after.get? l = stage.tree.get? l ∨ ∃ path,
        Resolves stage.tree stage.call.workingDir (.generate request) path ∧
          Binding.Altered path stage.tree stage.after l
  /-- Cleaning makes nothing. -/
  cleanings : ∀ stage ∈ stages tree calls, ∀ flag, stage.Runs (.clean flag) →
    ∀ l, stage.after.get? l ≠ none → stage.after.get? l = stage.tree.get? l

/-- Whatever calls are made, in whatever directories, they keep to what their commands own. -/
theorem afterAll_framed (tree : FileTree) (calls : List Call) : Framed tree calls where
  places := afterAll_changed tree calls
  inspections _ _ _ _ runs := (Stage.effect runs).inspect
  generations _ _ _ runs := (Stage.effect runs).generate
  cleanings _ _ _ runs := (Stage.effect runs).clean

/-- Of an output directory that was made and removed, what had to be made above it is left. -/
example :
    let left := afterAll (Project.catalogTree "\x7b\"N\":\x7b\x7d\x7d")
      [⟨⟨"/"⟩, ["generate", "--catalog", "c.json", "--out-dir", "a/b"], default⟩,
        ⟨⟨"/"⟩, ["clean", "--out-dir", "a/b"], default⟩]
    left.get? ["a"] = some .directory ∧ left.get? ["a", "b"] = none := by
  decide +kernel

end LuaBindings.CommandLine
