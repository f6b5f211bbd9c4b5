import LuaBindings.Proofs.Catalog.Large
import LuaBindings.Proofs.CommandLine.Effects
import LuaBindings.Proofs.CommandLine.Switches
import LuaBindings.Proofs.Project.Leftovers
/-!
# How calls end

A command either does all of its work and tells of it, or it is stopped and says no more than why.
What a command has done before it is stopped is not told. It is stopped by a failure, but where it is
to show the whole of a catalog with a name that is too large to be laid out: there it breaks down. To
be quiet makes no difference but to what is told of the files.
-/

namespace LuaBindings.CommandLine

open Project (GenerationRequest)

variable {tree left : FileTree} {workingDir : Path} {command : Command} {arguments : List String}
  {wording : Project.Wording} {told : List String}

/-! ## Ways to end -/

/-- All was done, and something is told of it. -/
structure Outcome.Succeeded (outcome : Outcome) : Prop where
  status : outcome.status = 0
  stdout : outcome.stdout ≠ ""
  stderr : outcome.stderr = ""

/-- Something was not done, and nothing is told but an error. -/
structure Outcome.Failed (outcome : Outcome) : Prop where
  status : outcome.status = 1
  stdout : outcome.stdout = ""
  stderr : ∃ message, outcome.stderr = "error: " ++ message

/-- The program broke down, and nothing is told but what the runtime says of it. -/
structure Outcome.BrokeDown (wording : Project.Wording) (outcome : Outcome) : Prop where
  status : outcome.status = 101
  stdout : outcome.stdout = ""
  stderr : ∃ overwide, outcome.stderr = wording.breakdown overwide

/-- The whole work of a command, and the tree that it leaves. -/
inductive Done (tree : FileTree) (workingDir : Path) : Command → FileTree → Prop
  /-- A catalog was loaded, the output directory made, and every planned file written. -/
  | generate {s : Project.Setting} {path : Path} {catalog : Catalog} {made left : FileTree}
      (here : s.workingDir = workingDir)
      (ruled : ruling tree workingDir = .ok (s.manifest, s.project))
      (loaded : s.loaded tree = .ok (path, catalog))
      (created : tree.createDirectories s.directory = (.ok (), made))
      (wrote : Binding.writtenAll s.directory (s.planned catalog) made = .ok left) :
      Done tree workingDir (.generate s.request) left
  /-- A catalog was loaded that has the namespace in question, or whose names can all be laid out if
  there is none. -/
  | inspect {manifest : Option Manifest} {directory path : Path} {catalog : Catalog}
      {flag name : Option String} (ruled : ruling tree workingDir = .ok (manifest, directory))
      (loaded : (Project.inspection directory workingDir manifest flag).loaded tree =
        .ok (path, catalog))
      (named : ∀ n ∈ name, ∃ ns ∈ catalog.namespaces, ns.name = n)
      (narrow : name = none → catalog.Narrow) :
      Done tree workingDir (.inspect flag name) tree
  /-- A manifest was written where nothing was. -/
  | init {left : FileTree} (free : ¬tree.holds (Project.manifestPath workingDir) = true)
      (wrote : tree.writeBytes (Project.manifestPath workingDir) Manifest.template.toUTF8 =
        .ok left) : Done tree workingDir .init left
  /-- The output directory was removed. -/
  | clean {manifest : Option Manifest} {directory : Path} {flag : Option String} {left : FileTree}
      (ruled : ruling tree workingDir = .ok (manifest, directory))
      (removed : tree.removeDirectory (Project.outputDir directory workingDir manifest flag) =
        (.ok (), left)) : Done tree workingDir (.clean flag) left
  /-- There was no output directory. -/
  | nothingToClean {manifest : Option Manifest} {directory : Path} {flag : Option String}
      (ruled : ruling tree workingDir = .ok (manifest, directory))
      (missing : ¬tree.holds (Project.outputDir directory workingDir manifest flag) = true) :
      Done tree workingDir (.clean flag) tree

/-- A command is to show the whole of a catalog in which a name is too large to be laid out. -/
inductive BreaksDown (tree : FileTree) (workingDir : Path) : Command → Prop
  | inspect {manifest : Option Manifest} {directory path : Path} {catalog : Catalog}
      {flag : Option String} (ruled : ruling tree workingDir = .ok (manifest, directory))
      (loaded : (Project.inspection directory workingDir manifest flag).loaded tree =
        .ok (path, catalog))
      (wide : ∃ ns ∈ catalog.namespaces, 65535 < ns.name.utf8ByteSize) :
      BreaksDown tree workingDir (.inspect flag none)

/-! ## What ends well -/

theorem exists_report_iff {catalog : Catalog} {name : Option String} :
    (∃ lines, Project.report catalog name = .ok lines) ↔
      (∀ n ∈ name, ∃ ns ∈ catalog.namespaces, ns.name = n) ∧
        (name = none → catalog.Narrow) := by
  cases name with
  | none =>
      rw [Project.report]
      by_cases narrow : catalog.Narrow
      · rw [Catalog.overview_of_narrow narrow]
        constructor
        · intro _
          exact ⟨fun n none => absurd none (Option.not_mem_none n), fun _ => narrow⟩
        · intro _
          exact ⟨_, rfl⟩
      · rw [Catalog.overview_of_wide narrow]
        constructor
        · rintro ⟨lines, shown⟩
          cases shown
        · intro shown
          exact absurd (shown.2 rfl) narrow
  | some name =>
      have found : (catalog.namespace? name).isSome = true ↔
          ∃ ns ∈ catalog.namespaces, ns.name = name := by
        rw [Catalog.namespace?, List.find?_isSome]
        simp
      rw [Project.report, Catalog.listing?]
      simp only [Option.mem_some_iff, forall_eq', ← found]
      cases catalog.namespace? name with
      | none => simp
      | some ns => simp

/-- A command that ends well has done its whole work, and has told something. -/
theorem Done.of_run
    (ran : (execute (m := StateM FileTree) workingDir command).carryOut.run tree =
      ((.ok (), told), left)) : Done tree workingDir command left ∧ told ≠ [] := by
  cases command with
  | generate request =>
      obtain ⟨manifest, directory, ruled, ran⟩ := run_project_bind_eq_ok.mp ran
      let s : Project.Setting := ⟨directory, workingDir, manifest, request⟩
      have ended := (Project.run_runGenerate s tree).symm.trans ran
      cases generated : s.generation tree with
      | mk result after =>
          rw [generated] at ended
          cases result with
          | error failure => cases ended
          | ok summary =>
              cases ended
              obtain ⟨path, catalog, paths, loaded, wrote, -⟩ :=
                Project.generation_eq_ok_iff.mp generated
              obtain ⟨made, created, wrote⟩ := Binding.exists_runWrite_iff.mp ⟨paths, wrote⟩
              exact ⟨.generate (s := s) rfl ruled loaded created wrote,
                by simp [Project.GenerationSummary.lines]⟩
  | inspect flag name =>
      obtain ⟨manifest, directory, ruled, ran⟩ := run_project_bind_eq_ok.mp ran
      have ended :=
        (Project.run_runInspect tree directory workingDir manifest flag name).symm.trans ran
      cases loaded : (Project.inspection directory workingDir manifest flag).loaded tree with
      | error failure =>
          rw [loaded] at ended
          cases ended
      | ok found =>
          rw [loaded, Project.shown] at ended
          cases reported : Project.report found.2 name with
          | error stop =>
              rw [reported] at ended
              cases ended
          | ok shown =>
              rw [reported] at ended
              cases ended
              obtain ⟨named, narrow⟩ := exists_report_iff.mp ⟨shown, reported⟩
              exact ⟨.inspect ruled loaded named narrow, List.cons_ne_nil _ _⟩
  | init =>
      rw [execute, Project.run_runInit] at ran
      split at ran
      · cases ran
      · rename_i free
        split at ran
        · cases ran
        · rename_i changed wrote
          cases ran
          exact ⟨.init free wrote, List.cons_ne_nil _ _⟩
  | clean flag =>
      obtain ⟨manifest, directory, ruled, ran⟩ := run_project_bind_eq_ok.mp ran
      have ended := (Project.run_runClean tree
        (Project.outputDir directory workingDir manifest flag)).symm.trans ran
      split at ended
      · split at ended
        · cases ended
        · rename_i removed
          cases ended
          exact ⟨.clean ruled removed, List.cons_ne_nil _ _⟩
      · rename_i missing
        cases ended
        exact ⟨.nothingToClean ruled missing, List.cons_ne_nil _ _⟩

/-- Once its whole work is done, it ends well. -/
theorem Done.run (done : Done tree workingDir command left) :
    ∃ told, (execute (m := StateM FileTree) workingDir command).carryOut.run tree =
      ((.ok (), told), left) := by
  cases done with
  | @generate s path catalog made _ here ruled loaded created wrote =>
      obtain ⟨paths, ran⟩ := Binding.exists_runWrite_iff.mpr ⟨made, created, wrote⟩
      have told := Project.run_runGenerate s tree
      rw [Project.generation_eq_ok_iff.mpr ⟨path, catalog, paths, loaded, ran, rfl⟩] at told
      subst here
      exact ⟨_, run_project_bind_eq_ok.mpr ⟨s.manifest, s.project, ruled, told⟩⟩
  | @inspect manifest directory _ _ flag name ruled loaded named narrow =>
      obtain ⟨shown, reported⟩ := exists_report_iff.mpr ⟨named, narrow⟩
      have ran := Project.run_runInspect tree directory workingDir manifest flag name
      rw [loaded, Project.shown, reported] at ran
      exact ⟨_, run_project_bind_eq_ok.mpr ⟨manifest, directory, ruled, ran⟩⟩
  | init free wrote =>
      have ran := Project.run_runInit tree workingDir
      rw [Project.manifestPath] at free wrote
      rw [if_neg free, wrote] at ran
      exact ⟨_, ran⟩
  | @clean manifest directory flag _ ruled removed =>
      have ran := Project.run_runClean tree (Project.outputDir directory workingDir manifest flag)
      rw [if_pos (FileTree.holds_of_removeDirectory removed), removed] at ran
      exact ⟨_, run_project_bind_eq_ok.mpr ⟨manifest, directory, ruled, ran⟩⟩
  | @nothingToClean manifest directory flag ruled missing =>
      have ran := Project.run_runClean tree (Project.outputDir directory workingDir manifest flag)
      rw [if_neg missing] at ran
      exact ⟨_, run_project_bind_eq_ok.mpr ⟨manifest, directory, ruled, ran⟩⟩

/-! ## What breaks down -/

/-- A report breaks down only where it is to show all of a catalog that has too large a name. -/
theorem wide_of_report {catalog : Catalog} {name : Option String} {overwide : Catalog.Overwide}
    (reported : Project.report catalog name = .error (.brokeDown overwide)) :
    name = none ∧ ¬catalog.Narrow := by
  cases name with
  | none =>
      refine ⟨rfl, fun narrow => ?_⟩
      rw [Project.report, Catalog.overview_of_narrow narrow] at reported
      cases reported
  | some name =>
      rw [Project.report] at reported
      split at reported
      · cases reported
      · cases reported

/-- Only an overview breaks down. -/
theorem BreaksDown.of_run {overwide : Catalog.Overwide}
    (ran : (execute (m := StateM FileTree) workingDir command).carryOut.run tree =
      ((.error (.brokeDown overwide), told), left)) : BreaksDown tree workingDir command := by
  cases command with
  | generate request =>
      have steady : Project.Telling.Steady (execute workingDir (.generate request)) :=
        .work_bind fun _ => Project.steady_runGenerate _ workingDir _ request
      exact absurd ran (steady tree overwide told left)
  | inspect flag name =>
      rw [execute, run_project_bind] at ran
      cases ruled : ruling tree workingDir with
      | error failure =>
          rw [ruled] at ran
          cases ran
      | ok pair =>
          rw [ruled] at ran
          have ended := (Project.run_runInspect tree pair.2 workingDir pair.1 flag name).symm.trans ran
          cases loaded : (Project.inspection pair.2 workingDir pair.1 flag).loaded tree with
          | error failure =>
              rw [loaded] at ended
              cases ended
          | ok found =>
              rw [loaded, Project.shown] at ended
              cases reported : Project.report found.2 name with
              | error stop =>
                  rw [reported] at ended
                  cases ended
                  obtain ⟨rfl, wide⟩ := wide_of_report reported
                  exact .inspect ruled loaded (Catalog.not_narrow_iff.mp wide)
              | ok lines =>
                  rw [reported] at ended
                  cases ended
  | init => exact absurd ran (Project.steady_runInit workingDir tree overwide told left)
  | clean flag =>
      have steady : Project.Telling.Steady (execute workingDir (.clean flag)) :=
        .work_bind fun _ => Project.steady_runClean _
      exact absurd ran (steady tree overwide told left)

/-- There it does, and has told nothing and changed nothing. -/
theorem BreaksDown.run (breaks : BreaksDown tree workingDir command) :
    ∃ overwide, (execute (m := StateM FileTree) workingDir command).carryOut.run tree =
      ((.error (.brokeDown overwide), []), tree) := by
  cases breaks with
  | @inspect manifest directory path catalog flag ruled loaded wide =>
      have shown := Project.run_runInspect tree directory workingDir manifest flag none
      rw [loaded, Project.shown, Project.report,
        Catalog.overview_of_wide (Catalog.not_narrow_iff.mpr wide)] at shown
      refine ⟨⟨catalog.nameWidth⟩, ?_⟩
      rw [execute, run_project_bind, ruled]
      exact shown

/-! ## Lines -/

/-- The last line of a text whose lines all end. -/
def lastLine (text : String) : String :=
  String.ofList (text.toList.dropLast.reverse.takeWhile (· ≠ '\n')).reverse

theorem toList_unlines_concat (lines : List String) (line : String) :
    (unlines (lines ++ [line])).toList = (unlines lines).toList ++ line.toList ++ ['\n'] := by
  rw [unlines, List.map_append, String.join_append, String.toList_append, List.append_assoc]
  simp [unlines]

theorem unlines_ne_empty {lines : List String} (some : lines ≠ []) : unlines lines ≠ "" := by
  obtain ⟨others, line, rfl⟩ := List.eq_nil_or_concat lines |>.resolve_left some
  intro empty
  have letters := congrArg String.toList empty
  rw [List.concat_eq_append, toList_unlines_concat] at letters
  simp at letters

/-- Lines before the last one make no difference to it. -/
theorem lastLine_unlines (lines : List String) (line : String) :
    lastLine (unlines (lines ++ [line])) = lastLine (unlines [line]) := by
  have ends : (unlines lines).toList.reverse.takeWhile (· ≠ '\n') = [] := by
    rcases List.eq_nil_or_concat lines with rfl | ⟨others, last, rfl⟩
    · rfl
    · rw [List.concat_eq_append, toList_unlines_concat, List.reverse_concat]
      rfl
  have alone : (unlines [line]).toList = line.toList ++ ['\n'] := toList_unlines_concat [] line
  rw [lastLine, lastLine, toList_unlines_concat, alone, List.dropLast_concat, List.dropLast_concat,
    List.reverse_append, List.takeWhile_append, ends, List.append_nil]
  split
  · rename_i whole
    rw [(List.takeWhile_prefix _).eq_of_length whole]
  · rfl

/-- The last line that tells of a generation is the same whether or not it is quiet. -/
theorem lastLine_summary (summary : Project.GenerationSummary) (quiet : Bool) :
    lastLine (unlines (summary.lines quiet)) = lastLine (unlines (summary.lines true)) := by
  rw [Project.GenerationSummary.lines, Project.GenerationSummary.lines, lastLine_unlines,
    lastLine_unlines]

/-! ## Calls -/

/-- Two calls come to the same but for what is told before the last line. -/
structure SameButTold (a b : Outcome × FileTree) : Prop where
  status : a.1.status = b.1.status
  stderr : a.1.stderr = b.1.stderr
  lastLine : CommandLine.lastLine a.1.stdout = CommandLine.lastLine b.1.stdout
  tree : a.2 = b.2

/-- What comes of a call for a command, in the directory that the system says is the current one. -/
structure Concluded (wording : Project.Wording) (tree : FileTree) (current : Except FileFault Path)
    (arguments : List String) (command : Command) (ended : Outcome × FileTree) : Prop where
  /-- It succeeds or fails unless an overview is to show a name that is too large. -/
  ways : ended.1.Succeeded ∨ ended.1.Failed ↔
    ¬∃ workingDir, current = .ok workingDir ∧ BreaksDown tree workingDir command
  /-- It succeeds just where the whole work of the command is done, and leaves what that leaves. -/
  succeeded : ∀ left, ended.1.Succeeded ∧ ended.2 = left ↔
    ∃ workingDir, current = .ok workingDir ∧ Done tree workingDir command left
  /-- Otherwise it breaks down and leaves the tree as it is. -/
  brokeDown : ∀ left, ended.1.BrokeDown wording ∧ ended.2 = left ↔
    left = tree ∧ ∃ workingDir, current = .ok workingDir ∧ BreaksDown tree workingDir command
  /-- Whether a generation is asked for quietly makes no difference but to what is told before the
  last line. -/
  quiet : ∀ request quiet others, command = .generate request →
    parse others = .run (.generate { request with quiet }) →
    SameButTold ended ((run (m := StateM FileTree) wording current others).run tree)
  /-- It is asked for quietly by one switch more. -/
  quieted : ∀ request others, command = .generate request → request.quiet = false →
    arguments = "generate" :: others →
    parse ("generate" :: "--quiet" :: others) = .run (.generate { request with quiet := true })

theorem run_of_ok (parsed : parse arguments = .run command)
    (ran : (execute (m := StateM FileTree) workingDir command).carryOut.run tree =
      ((.ok (), told), left)) :
    (run (m := StateM FileTree) wording (.ok workingDir) arguments).run tree =
      (⟨0, unlines told, ""⟩, left) := by
  rw [run_of_command parsed, ran]
  rfl

/-- Where a command is stopped, nothing stands on standard output. -/
theorem run_of_error {stop : Project.Stop} (parsed : parse arguments = .run command)
    (ran : (execute (m := StateM FileTree) workingDir command).carryOut.run tree =
      ((.error stop, told), left)) :
    (run (m := StateM FileTree) wording (.ok workingDir) arguments).run tree =
      (.ofCommand wording (.error stop) [], left) := by
  rw [run_of_command parsed, ran, (tellsAtEnd_execute workingDir command).told_of_stopped ran]

/-- Without a working directory nothing is done. -/
theorem run_nowhere (parsed : parse arguments = .run command) (wording : Project.Wording)
    (tree : FileTree) (fault : FileFault) :
    (run (m := StateM FileTree) wording (.error fault) arguments).run tree =
      (⟨1, "", "error: " ++ fault.message ++ "\n"⟩, tree) := by
  rw [run, parsed]
  rfl

/-- Whether it is quiet, a call for a generation comes to the same but for what is told. -/
theorem run_quiet {request : GenerationRequest} {quiet : Bool} {others : List String}
    (parsed : parse arguments = .run (.generate request))
    (parsedOthers : parse others = .run (.generate { request with quiet }))
    (current : Except FileFault Path) :
    SameButTold ((run (m := StateM FileTree) wording current arguments).run tree)
      ((run (m := StateM FileTree) wording current others).run tree) := by
  cases current with
  | error fault =>
      rw [run_nowhere parsed, run_nowhere parsedOthers]
      exact ⟨rfl, rfl, rfl, rfl⟩
  | ok workingDir =>
      rw [run_of_command parsed, run_of_command parsedOthers, run_generate, run_generate]
      cases ruling tree workingDir with
      | error failure => exact ⟨rfl, rfl, rfl, rfl⟩
      | ok pair =>
          obtain ⟨manifest, directory⟩ := pair
          -- The generation itself does not look at how it will be told of.
          have same : (Project.Setting.mk directory workingDir manifest
              { request with quiet }).generation tree =
            (Project.Setting.mk directory workingDir manifest request).generation tree := rfl
          simp only [same]
          cases (Project.Setting.mk directory workingDir manifest request).generation tree with
          | mk result after =>
              cases result with
              | error failure => exact ⟨rfl, rfl, rfl, rfl⟩
              | ok summary =>
                  exact ⟨rfl, rfl, (lastLine_summary summary request.quiet).trans
                    (lastLine_summary summary quiet).symm, rfl⟩

/-- The ways in which a call for a command ends: the command has come to its end, it has failed or
could not be carried out at all, or it has broken down. -/
theorem run_cases (parsed : parse arguments = .run command) (wording : Project.Wording)
    (tree : FileTree) (current : Except FileFault Path) :
    let ended := (run (m := StateM FileTree) wording current arguments).run tree
    (∃ workingDir told, current = .ok workingDir ∧
      (execute (m := StateM FileTree) workingDir command).carryOut.run tree =
        ((.ok (), told), ended.2) ∧ ended.1 = ⟨0, unlines told, ""⟩) ∨
    ended.1.Failed ∨
    ∃ workingDir overwide told, current = .ok workingDir ∧
      (execute (m := StateM FileTree) workingDir command).carryOut.run tree =
        ((.error (.brokeDown overwide), told), ended.2) ∧
        ended.1 = ⟨101, "", wording.breakdown overwide⟩ := by
  cases current with
  | error fault =>
      rw [run_nowhere parsed]
      exact .inr (.inl ⟨rfl, rfl, fault.message ++ "\n", String.append_assoc⟩)
  | ok workingDir =>
      cases ran : (execute (m := StateM FileTree) workingDir command).carryOut.run tree with
      | mk ended left =>
          obtain ⟨result, told⟩ := ended
          cases result with
          | ok done =>
              rw [run_of_ok parsed ran]
              exact .inl ⟨workingDir, told, rfl, ran, rfl⟩
          | error stop =>
              rw [run_of_error parsed ran]
              cases stop with
              | failed failure =>
                  exact .inr (.inl ⟨rfl, rfl, failure.message wording ++ "\n", String.append_assoc⟩)
              | brokeDown overwide =>
                  exact .inr (.inr ⟨workingDir, overwide, told, rfl, ran, rfl⟩)

/-- Every call for a command tells on standard output of work that is all done, or on standard error
of a failure, and nothing else, unless it breaks down over an overview. -/
theorem run_concluded (parsed : parse arguments = .run command) (wording : Project.Wording)
    (tree : FileTree) (current : Except FileFault Path) :
    Concluded wording tree current arguments command
      ((run (m := StateM FileTree) wording current arguments).run tree) where
  ways := by
    constructor
    · rintro ways ⟨workingDir, rfl, breaks⟩
      obtain ⟨_, ran⟩ := breaks.run
      rw [run_of_error parsed ran] at ways
      rcases ways with succeeded | failed
      · exact absurd succeeded.status nofun
      · exact absurd failed.status nofun
    · intro keeps
      rcases run_cases parsed wording tree current with ⟨_, told, -, ran, ended⟩ | failed |
        ⟨workingDir, _, _, here, ran, -⟩
      · rw [ended]
        exact .inl ⟨rfl, unlines_ne_empty (Done.of_run ran).2, rfl⟩
      · exact .inr failed
      · exact absurd ⟨workingDir, here, BreaksDown.of_run ran⟩ keeps
  succeeded left := by
    constructor
    · rintro ⟨succeeded, rfl⟩
      rcases run_cases parsed wording tree current with ⟨workingDir, told, here, ran, -⟩ | failed |
        ⟨_, _, _, -, -, ended⟩
      · exact ⟨workingDir, here, (Done.of_run ran).1⟩
      · exact absurd (succeeded.status.symm.trans failed.status) (by decide)
      · rw [ended] at succeeded
        exact absurd succeeded.status nofun
    · rintro ⟨workingDir, rfl, done⟩
      obtain ⟨told, ran⟩ := done.run
      rw [run_of_ok parsed ran]
      exact ⟨⟨rfl, unlines_ne_empty (Done.of_run ran).2, rfl⟩, rfl⟩
  brokeDown left := by
    constructor
    · rintro ⟨broken, rfl⟩
      rcases run_cases parsed wording tree current with ⟨_, _, -, -, ended⟩ | failed |
        ⟨workingDir, overwide, told, here, ran, -⟩
      · rw [ended] at broken
        exact absurd broken.status nofun
      · exact absurd (broken.status.symm.trans failed.status) (by decide)
      · have breaks := BreaksDown.of_run ran
        obtain ⟨_, again⟩ := breaks.run
        exact ⟨congrArg Prod.snd (ran.symm.trans again), workingDir, here, breaks⟩
    · rintro ⟨rfl, workingDir, rfl, breaks⟩
      obtain ⟨overwide, ran⟩ := breaks.run
      rw [run_of_error parsed ran]
      exact ⟨⟨rfl, rfl, overwide, rfl⟩, rfl⟩
  quiet request quiet others asked parsedOthers := by
    subst asked
    exact run_quiet parsed parsedOthers current
  quieted request others asked loud given := by
    subst asked given
    exact parse_quiet parsed loud

/-- A call that fails at the second file tells nothing of the first one, which is there. -/
theorem run_concluded_obstructed :
    let arguments := ["generate", "--catalog", "c.json", "--out-dir", "out"]
    let command := Command.generate ⟨some "c.json", some "out", .none, false⟩
    let failure := Project.Failure.output ⟨"/out"⟩ (.writeFile ⟨"/out/B.lua"⟩ .isDirectory)
    let ended := (run (m := StateM FileTree) default (.ok ⟨"/"⟩) arguments).run
      Project.obstructedTree
    parse arguments = .run command ∧
      Concluded default Project.obstructedTree (.ok ⟨"/"⟩) arguments command ended ∧
      ended.1 = ⟨1, "", "error: " ++ failure.message default ++ "\n"⟩ ∧
      ended.2.readText ⟨"/out/A.lua"⟩ = .ok "A = \x7b\x7d\n\n\n" := by
  have parsed : parse ["generate", "--catalog", "c.json", "--out-dir", "out"] =
      .run (.generate ⟨some "c.json", some "out", .none, false⟩) := by decide +kernel
  exact ⟨parsed, run_concluded parsed default Project.obstructedTree (.ok ⟨"/"⟩), by decide +kernel,
    by decide +kernel⟩

/-! ## A breakdown -/

theorem join_catalog : (Path.mk "/").join ⟨"c.json"⟩ = ⟨"/c.json"⟩ := by decide +kernel

theorem plainName_catalog : Path.PlainName "c.json" := ⟨by decide, by decide, by decide, by decide⟩

theorem readText_catalogTree (text : String) :
    (Project.catalogTree text).readText ⟨"/c.json"⟩ = .ok text := by
  have accepted : FileTree.Accepted ((Path.mk "/").join ⟨"c.json"⟩) := by
    rw [join_catalog]
    exact ⟨by decide, by decide, by decide⟩
  have leads : (Project.catalogTree text).walk ⟨"/"⟩ = .ok [] := rfl
  have root : (Project.catalogTree text).IsDirectory [] := .inl rfl
  rw [← join_catalog]
  exact FileTree.readText_join plainName_catalog accepted (by decide) leads root rfl

/-- Nothing but the root itself rules in the tree of a catalog. -/
theorem ruling_catalogTree (text : String) :
    ruling (Project.catalogTree text) ⟨"/"⟩ = .ok (none, ⟨"/"⟩) := by
  have missing : ¬(Project.catalogTree text).isFile (Project.manifestPath ⟨"/"⟩) = true := by
    intro isFile
    obtain ⟨l, content, located, held⟩ := FileTree.isFile_iff.mp isFile
    obtain ⟨directory, leads, -, -, place, -⟩ :=
      (FileTree.walk_join_eq_ok_iff Project.plainName_manifest).mp
        (FileTree.locate_eq_ok_iff.mp located).2
    cases (show (Project.catalogTree text).walk ⟨"/"⟩ = .ok [] from rfl).symm.trans leads
    rw [place] at held
    cases held
  have ancestors : (Path.mk "/").ancestors = [⟨"/"⟩] := by decide +kernel
  have nowhere : Project.nearest? (Project.catalogTree text) ⟨"/"⟩ = none := by
    rw [Project.nearest?, ancestors]
    exact List.find?_eq_none.mpr (List.forall_mem_singleton.mpr missing)
  rw [ruling_eq, nowhere]

theorem loaded_catalogTree {text : String} {catalog : Catalog}
    (loaded : Catalog.load text = .ok catalog) :
    (Project.inspection ⟨"/"⟩ ⟨"/"⟩ none (some "c.json")).loaded (Project.catalogTree text) =
      .ok (⟨"/c.json"⟩, catalog) := by
  have read := readText_catalogTree text
  have isFile := FileTree.isFile_iff.mpr (FileTree.readText_file read)
  exact Project.loaded_eq_ok_iff.mpr
    ⟨Project.located_of_configured (congrArg some join_catalog) isFile, text, read, loaded⟩

/-- Where the overview is of such a catalog, the program breaks down. -/
theorem run_inspect_of_wide {text : String} {catalog : Catalog}
    (loaded : Catalog.load text = .ok catalog) (wide : ¬catalog.Narrow)
    (wording : Project.Wording) : ∃ overwide,
    (run (m := StateM FileTree) wording (.ok ⟨"/"⟩) ["inspect", "--catalog", "c.json"]).run
      (Project.catalogTree text) =
        (⟨101, "", wording.breakdown overwide⟩, Project.catalogTree text) := by
  have parsed : parse ["inspect", "--catalog", "c.json"] = .run (.inspect (some "c.json") none) := by
    decide +kernel
  have breaks : BreaksDown (Project.catalogTree text) ⟨"/"⟩ (.inspect (some "c.json") none) :=
    .inspect (ruling_catalogTree text) (loaded_catalogTree loaded) (Catalog.not_narrow_iff.mp wide)
  obtain ⟨overwide, ran⟩ := breaks.run
  exact ⟨overwide, run_of_error parsed ran⟩

/-- A catalog that is loaded can have a name that is too large for an overview: then the program
neither tells of it nor reports an error. -/
theorem run_inspect_breaksDown :
    let text := (Catalog.wideOutline 65536).print
    let arguments := ["inspect", "--catalog", "c.json"]
    let ended := (run (m := StateM FileTree) default (.ok ⟨"/"⟩) arguments).run
      (Project.catalogTree text)
    Catalog.load text = .ok (Catalog.wideOutline 65536).catalog ∧
      parse arguments = .run (.inspect (some "c.json") none) ∧
      ended.1.status = 101 ∧ ended.1.stdout = "" ∧
      ¬(ended.1.Succeeded ∨ ended.1.Failed) := by
  have loaded := Catalog.load_print (Catalog.wideOutline_valid 65536)
  have wide : ¬(Catalog.wideOutline 65536).catalog.Narrow := Catalog.not_narrow_wide (by omega)
  obtain ⟨overwide, ran⟩ := run_inspect_of_wide loaded wide default
  dsimp only
  rw [ran]
  refine ⟨loaded, by decide +kernel, rfl, rfl, ?_⟩
  rintro (succeeded | failed)
  · exact absurd succeeded.status nofun
  · exact absurd failed.status nofun

end LuaBindings.CommandLine
