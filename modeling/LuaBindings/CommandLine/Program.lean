import LuaBindings.CommandLine.Arguments
import LuaBindings.Project.Generation
import LuaBindings.Project.Inspection
import LuaBindings.Project.Upkeep
/-!
# The program

What the program does with its arguments in a working directory. The arguments are read before
anything else; then a command is carried out, and what it has told by its end is what stands on
standard output. A command that stops is told of on standard error.
-/

namespace LuaBindings.CommandLine

open Project (GenerationRequest)

/-- What the arguments ask for. -/
inductive Command where
  | generate (request : GenerationRequest)
  | inspect (catalog namespaceName : Option String)
  | init
  | clean (outputDir : Option String)
  deriving DecidableEq, Repr

/-- What comes of the arguments. -/
inductive Invocation where
  | run (command : Command)
  /-- Print a text. -/
  | print (text : String)
  /-- Without a command there is nothing to do but to explain the program. -/
  | noCommand
  | refused (error : UsageError)
  deriving DecidableEq, Repr

/-- The command that the options of a generation ask for. -/
def generateCommand (reading : Reading) : Command :=
  .generate {
    catalog := reading.value? "catalog"
    outputDir := reading.value? "out-dir"
    options := ⟨reading.has "comments", reading.has "signatures", reading.has "single-file"⟩
    quiet := reading.has "quiet" }

/-- The command that the options of an inspection ask for. -/
def inspectCommand (reading : Reading) : Command :=
  .inspect (reading.value? "catalog") (reading.value? "namespace")

/-- The commands with what their options ask for. -/
def commands : List (CommandSpec × (Reading → Command)) := [
  (generateSpec, generateCommand),
  (inspectSpec, inspectCommand),
  (initSpec, fun _ => .init),
  (cleanSpec, fun reading => .clean (reading.value? "out-dir"))]

/-- What a command with its arguments asks for. -/
def invoke (spec : CommandSpec) (command : Reading → Command) (arguments : List String) :
    Invocation :=
  match readOptions spec arguments with
  | .ok reading => .run (command reading)
  | .error .help => .print (commandHelp spec)
  | .error .version => .print (programName ++ " " ++ programVersion ++ "\n")
  | .error (.refused error) => .refused error

/-- What the help command prints. It explains one command, which has no commands of its own. -/
def explain (topics : List String) : Invocation :=
  match topics with
  | [] => .print programHelp
  | topic :: others =>
    let text? :=
      if topic = helpCommand then some helpHelp
      else (commandSpecs.find? (·.name = topic)).map commandHelp
    match text?, others with
    | none, _ => .refused (.unrecognizedCommand topic)
    | some text, [] => .print text
    | some _, other :: _ => .refused (.unrecognizedCommand other)

/-- The command of that name. -/
def findCommand (name : String) : Option (CommandSpec × (Reading → Command)) :=
  commands.find? (·.1.name = name)

/-- Whether a command goes by that name. -/
def isCommand (name : String) : Bool := name = helpCommand || (findCommand name).isSome

/-- What the arguments behind a lone `--` come to, where no command can stand any more. -/
def afterEndMark (arguments : List String) : Invocation :=
  match arguments with
  | [] => .noCommand
  | argument :: _ =>
    if isCommand argument then .refused (.unexpectedArgument argument)
    else .refused (.unrecognizedCommand argument)

/-- What the arguments of the program ask for. -/
def parse (arguments : List String) : Invocation :=
  match arguments with
  | [] => .noCommand
  | argument :: rest =>
    if argument = helpCommand then explain rest
    else
      match findCommand argument with
      | some (spec, command) => invoke spec command rest
      | none =>
        let own : List OptionSpec := [helpOption, versionOption]
        match tokenOf argument with
        | .endMark => afterEndMark rest
        | .plain => .refused (.unrecognizedCommand argument)
        | _ =>
          match Reading.start.step own argument with
          | .error .help => .print programHelp
          | .error .version => .print (programName ++ " " ++ programVersion ++ "\n")
          | .error (.refused error) => .refused error
          | .ok _ => .noCommand

/-- How the program ended. -/
structure Outcome where
  status : Nat
  stdout : String
  stderr : String
  deriving DecidableEq, Repr

variable {m : Type → Type} [Monad m] [FileSystem m]

/-- The manifest that rules in a directory, and the directory of the project, which is the given one
where no manifest rules. -/
def project (workingDir : Path) : ExceptT Project.Failure m (Option Manifest × Path) := do
  match ← Project.findManifest workingDir with
  | some (manifest, directory) => return (some manifest, directory)
  | none => return (none, workingDir)

/-- What a command asks for. -/
def execute (workingDir : Path) : Command → Project.Telling m Unit
  | .generate request => do
    let (manifest, directory) ← Project.Telling.work (project workingDir)
    Project.runGenerate directory workingDir manifest request
  | .inspect catalog namespaceName => do
    let (manifest, directory) ← Project.Telling.work (project workingDir)
    Project.runInspect directory workingDir manifest catalog namespaceName
  | .init => Project.runInit workingDir
  | .clean outputDir => do
    let (manifest, directory) ← Project.Telling.work (project workingDir)
    Project.runClean (Project.outputDir directory workingDir manifest outputDir)

/-- Do what a command asks for in the working directory, if there is one: how it ends, and the lines
that it has told. -/
def executeIn (workingDir : Except FileFault Path) (command : Command) :
    m (Except Project.Stop Unit × List String) :=
  match workingDir with
  | .error fault => pure (.error (.failed (.noWorkingDir fault)), [])
  | .ok directory => (execute directory command).carryOut

/-- Some lines as a text. -/
def unlines (lines : List String) : String := String.join (lines.map (· ++ "\n"))

/-- How the program ends with a command that has come to its end and has told some lines. -/
def Outcome.ofCommand (wording : Project.Wording) (ended : Except Project.Stop Unit)
    (told : List String) : Outcome :=
  match ended with
  | .ok () => ⟨0, unlines told, ""⟩
  | .error (.failed failure) =>
    ⟨1, unlines told, "error: " ++ failure.message wording ++ "\n"⟩
  | .error (.brokeDown overwide) => ⟨101, unlines told, wording.breakdown overwide⟩

/-- Run the program. -/
def run (wording : Project.Wording) (workingDir : Except FileFault Path)
    (arguments : List String) : m Outcome := do
  match parse arguments with
  | .print text => return ⟨0, text, ""⟩
  | .noCommand => return ⟨2, "", programHelp⟩
  | .refused error =>
    return ⟨2, "", "error: " ++ error.message ++ "\n\nFor more information, try '--help'.\n"⟩
  | .run command =>
    let (ended, told) ← executeIn workingDir command
    return .ofCommand wording ended told

end LuaBindings.CommandLine
