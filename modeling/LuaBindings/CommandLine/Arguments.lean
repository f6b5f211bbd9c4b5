import LuaBindings.CommandLine.Help
/-!
# Arguments

Reading the arguments of a command from left to right. The value of an option stands behind `=` or
is the next argument; it is taken into account when the next option comes or the arguments end, so
an option that lacks its value, or has a second one, is found out then. A lone `--` ends the
options.
-/

namespace LuaBindings.CommandLine

/-- Why arguments are refused. -/
inductive UsageError where
  | unrecognizedCommand (argument : String)
  | unexpectedArgument (argument : String)
  | missingValue (option : OptionSpec)
  | repeated (option : OptionSpec)
  | unexpectedValue (value : String) (option : OptionSpec)
  deriving DecidableEq, Repr

/-- The wording of the error. -/
def UsageError.message : UsageError → String
  | .unrecognizedCommand argument => "unrecognized subcommand '" ++ argument ++ "'"
  | .unexpectedArgument argument => "unexpected argument '" ++ argument ++ "' found"
  | .missingValue o => "a value is required for '" ++ o.shown ++ "' but none was supplied"
  | .repeated o => "the argument '" ++ o.shown ++ "' cannot be used multiple times"
  | .unexpectedValue value o =>
    "unexpected value '" ++ value ++ "' for '" ++ o.shown ++ "' found; no more were expected"

/-- What ends the reading of arguments early. -/
inductive Stop where
  | refused (error : UsageError)
  | help
  | version
  deriving DecidableEq, Repr

/-- The shape of an argument. -/
inductive Token where
  /-- The mark that ends the options. -/
  | endMark
  | long (name : String) (attached : Option String)
  | letters (letters : List Char)
  | plain
  deriving DecidableEq, Repr

/-- A text divided at its first `=`, if there is one. -/
def divideAtEquals (s : List Char) : List Char × Option (List Char) :=
  match s.dropWhile (· ≠ '=') with
  | [] => (s, none)
  | _ :: rest => (s.takeWhile (· ≠ '='), some rest)

/-- The shape of an argument. A dash alone is a plain one. -/
def tokenOf (argument : String) : Token :=
  match argument.toList with
  | ['-', '-'] => .endMark
  | '-' :: '-' :: rest =>
    let (name, attached) := divideAtEquals rest
    .long (String.ofList name) (attached.map String.ofList)
  | '-' :: c :: rest => .letters (c :: rest)
  | _ => .plain

/-- The options read so far. -/
structure Reading where
  /-- Options with their values; a switch has none. -/
  settled : List (OptionSpec × Option String)
  /-- An option whose value has not been taken into account, with the value if it came. -/
  pending : Option (OptionSpec × Option String)
  /-- Whether the options have ended. -/
  ended : Bool

namespace Reading

/-- Nothing has been read. -/
def start : Reading := ⟨[], none, false⟩

/-- Take an option into account, which may be done once. -/
def settle (reading : Reading) (o : OptionSpec) (value : Option String) : Except Stop Reading :=
  if reading.settled.any (·.1 = o) then .error (.refused (.repeated o))
  else .ok { reading with settled := reading.settled ++ [(o, value)] }

/-- Take the pending option into account, if there is one. -/
def settlePending (reading : Reading) : Except Stop Reading :=
  match reading.pending with
  | none => .ok reading
  | some (o, none) => .error (.refused (.missingValue o))
  | some (o, some value) => { reading with pending := none }.settle o (some value)

/-- Take a switch into account; some switches end the reading. -/
def switch (reading : Reading) (o : OptionSpec) : Except Stop Reading := do
  let reading ← reading.settlePending
  if o = helpOption then throw .help
  if o = versionOption then throw .version
  reading.settle o none

/-- Read switches by their letters. -/
def switches (options : List OptionSpec) (reading : Reading) : List Char → Except Stop Reading
  | [] => .ok reading
  | c :: rest =>
    match options.find? (·.letter = some c) with
    | none => .error (.refused (.unexpectedArgument (String.ofList ['-', c])))
    | some o => do switches options (← reading.switch o) rest

/-- Read an option by its name. -/
def long (options : List OptionSpec) (reading : Reading) (name : String)
    (attached : Option String) : Except Stop Reading :=
  match options.find? (·.long = name) with
  | none => .error (.refused (.unexpectedArgument ("--" ++ name)))
  | some o =>
    match o.value, attached with
    | none, none => reading.switch o
    | none, some value => .error (.refused (.unexpectedValue value o))
    | some _, some value => do (← reading.settlePending).settle o (some value)
    | some _, none => do return { ← reading.settlePending with pending := some (o, none) }

/-- Read one argument. No command takes arguments of its own besides the values of options. -/
def step (options : List OptionSpec) (reading : Reading) (argument : String) :
    Except Stop Reading :=
  if reading.ended then .error (.refused (.unexpectedArgument argument))
  else
    match tokenOf argument with
    | .endMark => .ok { reading with ended := true }
    | .long name attached => reading.long options name attached
    | .letters letters => reading.switches options letters
    | .plain =>
      match reading.pending with
      | some (o, none) => .ok { reading with pending := some (o, some argument) }
      | _ => .error (.refused (.unexpectedArgument argument))

/-- Whether a switch was read. -/
def has (reading : Reading) (long : String) : Bool := reading.settled.any (·.1.long = long)

/-- The value of an option, if it was read. -/
def value? (reading : Reading) (long : String) : Option String :=
  (reading.settled.find? (·.1.long = long)).bind (·.2)

end Reading

/-- The options that the arguments of a command give. -/
def readOptions (command : CommandSpec) (arguments : List String) : Except Stop Reading := do
  (← arguments.foldlM (Reading.step (command.options ++ [helpOption])) .start).settlePending

end LuaBindings.CommandLine
