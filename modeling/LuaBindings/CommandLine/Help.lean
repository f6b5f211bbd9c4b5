import LuaBindings.CommandLine.Grammar
/-!
# Help

The texts that explain the program and each of its commands, laid out in two columns.
-/

namespace LuaBindings.CommandLine

/-- Rows of two columns, the second of which starts two blanks behind the widest first one. -/
def columns (rows : List (String × String)) : String :=
  let width := (rows.map fun row => row.1.length).foldl max 0
  String.join (rows.map fun row =>
    "  " ++ row.1 ++ String.ofList (List.replicate (width - row.1.length) ' ') ++ "  " ++ row.2 ++ "\n")

/-- The row of an option. -/
def optionRow (o : OptionSpec) : String × String :=
  let letter := o.letter.elim "    " fun c => "-" ++ String.ofList [c] ++ ", "
  (letter ++ o.shown, o.about)

/-- How a command is called. -/
def usage (command : CommandSpec) : String :=
  "Usage: " ++ programName ++ " " ++ command.name ++
    if command.options.isEmpty then "" else " [OPTIONS]"

/-- The help on a command. -/
def commandHelp (command : CommandSpec) : String :=
  command.about ++ "\n\n" ++ usage command ++ "\n\nOptions:\n" ++
    columns ((command.options ++ [helpOption]).map optionRow)

/-- The help on the program. -/
def programHelp : String :=
  programAbout ++ "\n\nUsage: " ++ programName ++ " <COMMAND>\n\nCommands:\n" ++
    columns (commandSpecs.map (fun c => (c.name, c.about)) ++ [(helpCommand, helpAbout)]) ++
    "\nOptions:\n" ++ columns ([helpOption, versionOption].map optionRow)

/-- The help on the help command. -/
def helpHelp : String :=
  helpAbout ++ "\n\nUsage: " ++ programName ++ " " ++ helpCommand ++ " [COMMAND]...\n\nArguments:\n" ++
    columns [("[COMMAND]...", "Print help for the subcommand(s)")]

end LuaBindings.CommandLine
