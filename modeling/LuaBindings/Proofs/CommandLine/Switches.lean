import LuaBindings.CommandLine.Program
import LuaBindings.Proofs.Except
/-!
# One switch more

The options of a command are read one by one, and which have been read matters only to one that comes
a second time. So a switch that a command line does not have can be put in front of it, and all else
is read as before.
-/

namespace LuaBindings.CommandLine

open Project (GenerationRequest)

/-! ## Reading with a switch in front -/

/-- The reading with a switch before all other options. -/
def Reading.preceded (o : OptionSpec) (reading : Reading) : Reading :=
  { reading with settled := (o, none) :: reading.settled }

/-- The option has not been taken into account. -/
def Reading.Without (o : OptionSpec) (reading : Reading) : Prop :=
  ∀ settled ∈ reading.settled, settled.1 ≠ o

/-- A step of reading that does not take the option into account goes the same way if the option was
there before. -/
def Undisturbed (o : OptionSpec) (f : Reading → Except Stop Reading) : Prop :=
  ∀ reading next, f reading = .ok next → next.Without o →
    reading.Without o ∧ f (reading.preceded o) = .ok (next.preceded o)

variable {o : OptionSpec} {f g : Reading → Except Stop Reading}

theorem undisturbed_error (stop : Stop) : Undisturbed o fun _ => .error stop := by
  intro reading next read
  cases read

theorem undisturbed_ok {f : Reading → Reading} (settled : ∀ r, (f r).settled = r.settled)
    (same : ∀ r, f (r.preceded o) = (f r).preceded o) : Undisturbed o fun r => .ok (f r) := by
  rintro reading _ ⟨⟩ without
  refine ⟨?_, congrArg _ (same reading)⟩
  rw [Reading.Without, ← settled]
  exact without

theorem Undisturbed.bind (hf : Undisturbed o f) (hg : Undisturbed o g) :
    Undisturbed o fun r => f r >>= g := by
  intro reading next read without
  obtain ⟨between, first, second⟩ := bind_eq_ok.mp read
  obtain ⟨withoutBetween, again⟩ := hg between next second without
  obtain ⟨withoutReading, before⟩ := hf reading between first withoutBetween
  exact ⟨withoutReading, bind_eq_ok.mpr ⟨_, before, again⟩⟩

/-- Where the step does one thing for a reading with and without the option in front, that thing
decides. -/
theorem undisturbed_of_same
    (same : ∀ r, ∃ g, Undisturbed o g ∧ f r = g r ∧ f (r.preceded o) = g (r.preceded o)) :
    Undisturbed o f := by
  intro reading next read without
  obtain ⟨g, undisturbed, now, preceded⟩ := same reading
  rw [now] at read
  rw [preceded]
  exact undisturbed reading next read without

theorem undisturbed_settle (p : OptionSpec) (value : Option String) :
    Undisturbed o fun r => r.settle p value := by
  intro reading next read without
  simp only [Reading.settle] at read ⊢
  split at read
  · cases read
  · rename_i fresh
    cases read
    rw [Reading.Without, List.forall_mem_append, List.forall_mem_singleton] at without
    have differs : decide (o = p) = false := decide_eq_false without.2.symm
    refine ⟨without.1, ?_⟩
    rw [Reading.preceded, List.any_cons, differs, Bool.false_or, if_neg fresh]
    rfl

theorem undisturbed_settlePending : Undisturbed o Reading.settlePending := by
  refine undisturbed_of_same fun r => ?_
  cases pending : r.pending with
  | none =>
      refine ⟨_, undisturbed_ok (fun _ => rfl) fun _ => rfl, ?_, ?_⟩ <;>
        simp only [Reading.settlePending, Reading.preceded, pending]
  | some found =>
      obtain ⟨p, value⟩ := found
      cases value with
      | none =>
          refine ⟨_, undisturbed_error (.refused (.missingValue p)), ?_, ?_⟩ <;>
            simp only [Reading.settlePending, Reading.preceded, pending]
      | some value =>
          have cleared : Undisturbed o fun r => .ok { r with pending := none } :=
            undisturbed_ok (fun _ => rfl) fun _ => rfl
          refine ⟨_, cleared.bind (undisturbed_settle p (some value)), ?_, ?_⟩ <;>
            simp only [Reading.settlePending, Reading.preceded, pending] <;> rfl

theorem undisturbed_switch (p : OptionSpec) : Undisturbed o fun r => r.switch p := by
  refine undisturbed_settlePending.bind ?_
  by_cases help : p = helpOption
  · simp only [help, if_true]
    exact undisturbed_error .help
  · by_cases version : p = versionOption
    · simp only [version, if_true]
      exact undisturbed_error .version
    · simp only [help, version, if_false]
      exact undisturbed_settle p none

theorem undisturbed_switches (options : List OptionSpec) (letters : List Char) :
    Undisturbed o fun r => r.switches options letters := by
  induction letters with
  | nil => exact undisturbed_ok (fun _ => rfl) fun _ => rfl
  | cons c rest ih =>
      simp only [Reading.switches]
      cases options.find? (·.letter = some c) with
      | none => exact undisturbed_error _
      | some p => exact (undisturbed_switch p).bind ih

theorem undisturbed_long (options : List OptionSpec) (name : String) (attached : Option String) :
    Undisturbed o fun r => r.long options name attached := by
  simp only [Reading.long]
  cases options.find? (·.long = name) with
  | none => exact undisturbed_error _
  | some p =>
      simp only []
      cases p.value with
      | none =>
          cases attached with
          | none => exact undisturbed_switch p
          | some value => exact undisturbed_error _
      | some shown =>
          cases attached with
          | none => exact undisturbed_settlePending.bind (undisturbed_ok (fun _ => rfl) fun _ => rfl)
          | some value => exact undisturbed_settlePending.bind (undisturbed_settle p (some value))

theorem undisturbed_step (options : List OptionSpec) (argument : String) :
    Undisturbed o fun r => r.step options argument := by
  refine undisturbed_of_same fun r => ?_
  by_cases ended : r.ended = true
  · exact ⟨_, undisturbed_error _, if_pos ended, if_pos ended⟩
  · cases shape : tokenOf argument with
    | endMark =>
        refine ⟨fun r => .ok { r with ended := true },
          undisturbed_ok (fun _ => rfl) fun _ => rfl, ?_, ?_⟩ <;>
          simp [Reading.step, Reading.preceded, ended, shape]
    | long name attached =>
        refine ⟨_, undisturbed_long options name attached, ?_, ?_⟩ <;>
          simp [Reading.step, Reading.preceded, ended, shape]
    | letters letters =>
        refine ⟨_, undisturbed_switches options letters, ?_, ?_⟩ <;>
          simp [Reading.step, Reading.preceded, ended, shape]
    | plain =>
        -- It is the value of a pending option that has none yet, and else it is refused.
        rcases pending : r.pending with - | ⟨p, - | value⟩
        · refine ⟨_, undisturbed_error (.refused (.unexpectedArgument argument)), ?_, ?_⟩ <;>
            simp [Reading.step, Reading.preceded, ended, shape, pending]
        · refine ⟨fun r => .ok { r with pending := some (p, some argument) },
            undisturbed_ok (fun _ => rfl) fun _ => rfl, ?_, ?_⟩ <;>
            simp [Reading.step, Reading.preceded, ended, shape, pending]
        · refine ⟨_, undisturbed_error (.refused (.unexpectedArgument argument)), ?_, ?_⟩ <;>
            simp [Reading.step, Reading.preceded, ended, shape, pending]

theorem undisturbed_steps (options : List OptionSpec) (arguments : List String) :
    Undisturbed o fun r => arguments.foldlM (Reading.step options) r := by
  induction arguments with
  | nil => exact undisturbed_ok (fun _ => rfl) fun _ => rfl
  | cons argument rest ih => exact (undisturbed_step options argument).bind ih

/-- A switch that is read by its name, when nothing was read before. -/
theorem step_start {options : List OptionSpec} {argument name : String}
    (token : tokenOf argument = .long name none)
    (found : options.find? (·.long = name) = some o) (isSwitch : o.value = none)
    (goesOn : o ≠ helpOption ∧ o ≠ versionOption) :
    Reading.start.step options argument = .ok (.preceded o .start) := by
  have long : Reading.start.step options argument = Reading.start.long options name none := by
    simp [Reading.step, Reading.start, token]
  have switched : Reading.start.long options name none = Reading.start.switch o := by
    simp only [Reading.long, found, isSwitch]
  rw [long, switched, Reading.switch]
  simp only [goesOn.1, goesOn.2, if_false]
  rfl

/-- A switch that is read first stands before all other options of the command, if it is not among
them. -/
theorem readOptions_preceded {spec : CommandSpec} {argument : String} {arguments : List String}
    {reading : Reading}
    (first : Reading.start.step (spec.options ++ [helpOption]) argument = .ok (.preceded o .start))
    (read : readOptions spec arguments = .ok reading) (without : reading.Without o) :
    readOptions spec (argument :: arguments) = .ok (reading.preceded o) := by
  have preceded := ((undisturbed_steps _ arguments).bind undisturbed_settlePending
    .start reading read without).2
  rw [readOptions, List.foldlM_cons, first]
  exact preceded

theorem has_preceded (reading : Reading) (long : String) :
    (reading.preceded o).has long = (decide (o.long = long) || reading.has long) := rfl

theorem value?_preceded (reading : Reading) {long : String} (differs : o.long ≠ long) :
    (reading.preceded o).value? long = reading.value? long := by
  rw [Reading.value?, Reading.preceded, List.find?_cons_of_neg (by simpa using differs)]
  rfl

/-! ## Being quiet -/

/-- The switch that asks for no more than the last line. -/
def quietOption : OptionSpec := ⟨"quiet", some 'q', none, "Only print the summary line"⟩

theorem parse_generate (arguments : List String) :
    parse ("generate" :: arguments) = invoke generateSpec generateCommand arguments := by
  have found : findCommand "generate" = some (generateSpec, generateCommand) := by
    rw [findCommand, commands, List.find?_cons_of_pos (by decide)]
  simp only [parse]
  rw [if_neg (by decide), found]

/-- A generation that is asked for is asked for quietly by one switch more. -/
theorem parse_quiet {arguments : List String} {request : GenerationRequest}
    (parsed : parse ("generate" :: arguments) = .run (.generate request))
    (loud : request.quiet = false) :
    parse ("generate" :: "--quiet" :: arguments) =
      .run (.generate { request with quiet := true }) := by
  rw [parse_generate, invoke] at parsed ⊢
  cases read : readOptions generateSpec arguments with
  | error stop =>
      rw [read] at parsed
      cases stop <;> cases parsed
  | ok reading =>
      rw [read] at parsed
      obtain rfl := Command.generate.inj (Invocation.run.inj parsed)
      have without : reading.Without quietOption := by
        intro settled member same
        have absent := List.any_eq_false.mp loud settled member
        rw [same] at absent
        exact absent (by decide)
      have token : tokenOf "--quiet" = .long "quiet" none := by decide +kernel
      have found : (generateSpec.options ++ [helpOption]).find? (·.long = "quiet") =
          some quietOption := by decide +kernel
      rw [readOptions_preceded (step_start token found rfl (by decide)) read without]
      have others : ∀ long, quietOption.long ≠ long →
          (reading.preceded quietOption).has long = reading.has long := by
        intro long differs
        rw [has_preceded, decide_eq_false differs, Bool.false_or]
      simp only [generateCommand]
      rw [value?_preceded reading (by decide), value?_preceded reading (by decide),
        others _ (by decide), others _ (by decide), others _ (by decide)]
      rfl

end LuaBindings.CommandLine
