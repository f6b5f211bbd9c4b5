import LuaBindings.CommandLine.Program
/-!
# Entry point

The program on the file system of the machine it runs on.
-/

namespace LuaBindings

/-- A fault of the system by its code. -/
def FileFault.ofError (error : IO.Error) : FileFault :=
  match error with
  | .noFileOrDirectory .. => .notFound
  | .alreadyExists _ code _ => if code = 39 then .notEmpty else .alreadyExists
  | .inappropriateType _ code _ => if code = 21 then .isDirectory else .notDirectory
  | .resourceBusy .. => .busy
  | .invalidArgument _ code _ => if code = 36 then .nameTooLong else .invalidArgument
  | error => .other (toString error)

/-- The outcome of an action on files. -/
def attempting {α : Type} (action : IO α) : IO (Except FileFault α) := do
  match ← action.toBaseIO with
  | .ok a => return .ok a
  | .error error => return .error (.ofError error)

instance : FileSystem IO where
  isFile path := do
    match ← ((← IO.currentDir) / path.text).metadata.toBaseIO with
    | .ok data => return data.type == .file
    | .error _ => return false
  holds path := do ((← IO.currentDir) / path.text).pathExists
  readText path := do
    match ← attempting (IO.FS.readBinFile path.text) with
    | .error fault => return .error fault
    | .ok content => return (String.fromUTF8? content).elim (.error .notText) .ok
  createDirectories path := attempting (IO.FS.createDirAll path.text)
  writeText path content := attempting (IO.FS.writeFile path.text content)
  removeDirectory path := attempting (IO.FS.removeDirAll path.text)

/-- What is said of a manifest that is refused, and of a name that is too large for an overview. -/
def wording : Project.Wording where
  manifest
    | .toml .malformed => "TOML parse error: invalid document"
    | .toml .tooDeep => "TOML parse error: nesting is too deep"
    | .toml .outOfRange => "TOML parse error: number out of range"
    | .toml (.duplicateKey key) => "TOML parse error: duplicate key `" ++ key ++ "`"
    | .toml (.notTable key) => "TOML parse error: key `" ++ key ++ "` is not a table"
    | .wrongType key => "TOML parse error: invalid type of `" ++ key ++ "`"
  breakdown overwide := "cannot lay out a text in width " ++ toString overwide.width ++ "\n"

end LuaBindings

/-- Run the program in the current directory. -/
def main (arguments : List String) : IO UInt32 := do
  let current ← LuaBindings.attempting IO.currentDir
  let workingDir := current.map fun directory => ⟨directory.toString⟩
  let outcome ← LuaBindings.CommandLine.run LuaBindings.wording workingDir arguments
  IO.print outcome.stdout
  IO.eprint outcome.stderr
  return outcome.status.toUInt32
