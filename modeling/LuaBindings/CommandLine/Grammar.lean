/-!
# The command line

The commands of the program and their options. An option has a long name and may have a letter; it
either takes a value or is a switch.
-/

namespace LuaBindings.CommandLine

/-- An option of a command. -/
structure OptionSpec where
  long : String
  letter : Option Char
  /-- What messages call the value, where there is one. -/
  value : Option String
  about : String
  deriving DecidableEq, Repr

/-- A command. -/
structure CommandSpec where
  name : String
  about : String
  options : List OptionSpec
  deriving DecidableEq, Repr

/-- The name of an option in messages. -/
def OptionSpec.shown (o : OptionSpec) : String :=
  "--" ++ o.long ++ (o.value.elim "" fun value => " <" ++ value ++ ">")

/-- The option that asks for help, which every command has. -/
def helpOption : OptionSpec := ⟨"help", some 'h', none, "Print help"⟩

/-- The option that asks for the version of the program. -/
def versionOption : OptionSpec := ⟨"version", some 'V', none, "Print version"⟩

/-- The name of the program. -/
def programName : String := "nativegen"

/-- The version of the program. -/
def programVersion : String := "0.1.0"

/-- What the program is for. -/
def programAbout : String := "Generate Lua bindings from a native function catalog"

/-- Writing the bindings. -/
def generateSpec : CommandSpec where
  name := "generate"
  about := "Generate Lua bindings from the catalog"
  options := [
    ⟨"catalog", none, some "CATALOG",
      "Catalog file (default: natives.json, then gta5-nativedb-data/natives.json)"⟩,
    ⟨"out-dir", none, some "OUT_DIR", "Output directory (default: natives)"⟩,
    ⟨"comments", none, none, "Include catalog comments above each binding"⟩,
    ⟨"signatures", none, none,
      "Include the original declaration and hash above each binding"⟩,
    ⟨"single-file", none, none, "Write all namespaces into a single natives.lua"⟩,
    ⟨"quiet", some 'q', none, "Only print the summary line"⟩]

/-- Showing a catalog. -/
def inspectSpec : CommandSpec where
  name := "inspect"
  about := "Summarize a catalog"
  options := [
    ⟨"catalog", none, some "CATALOG", "Catalog file"⟩,
    ⟨"namespace", none, some "NAMESPACE", "List the natives of one namespace"⟩]

/-- Starting a project. -/
def initSpec : CommandSpec where
  name := "init"
  about := "Write a starter nativegen.toml in the current directory"
  options := []

/-- Removing the bindings. -/
def cleanSpec : CommandSpec where
  name := "clean"
  about := "Remove generated bindings"
  options := [⟨"out-dir", none, some "OUT_DIR", "Output directory (default: natives)"⟩]

/-- The commands in the order in which they are listed. -/
def commandSpecs : List CommandSpec := [generateSpec, inspectSpec, initSpec, cleanSpec]

/-- The command that prints help on others. -/
def helpCommand : String := "help"

/-- What the help command is for. -/
def helpAbout : String := "Print this message or the help of the given subcommand(s)"

end LuaBindings.CommandLine
