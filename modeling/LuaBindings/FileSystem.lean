import LuaBindings.Path
/-!
# File systems

What the commands ask of a file system. Every request names its file by a path; a request that
cannot be met says why, as the system words it.
-/

namespace LuaBindings

/-- Why a request to the file system failed. -/
inductive FileFault where
  | notFound
  | alreadyExists
  | notDirectory
  | isDirectory
  | nameTooLong
  | invalidArgument
  | notEmpty
  | busy
  /-- The name holds the character that ends names for the system. -/
  | nulInName
  /-- The file is not UTF-8. -/
  | notText
  /-- Any other fault, in the words of the system. -/
  | other (description : String)
  deriving DecidableEq, Repr

/-- The wording of a fault. -/
def FileFault.message : FileFault → String
  | .notFound => "No such file or directory (os error 2)"
  | .alreadyExists => "File exists (os error 17)"
  | .notDirectory => "Not a directory (os error 20)"
  | .isDirectory => "Is a directory (os error 21)"
  | .nameTooLong => "File name too long (os error 36)"
  | .invalidArgument => "Invalid argument (os error 22)"
  | .notEmpty => "Directory not empty (os error 39)"
  | .busy => "Device or resource busy (os error 16)"
  | .nulInName => "file name contained an unexpected NUL byte"
  | .notText => "stream did not contain valid UTF-8"
  | .other description => description

/-- The requests that commands make. -/
class FileSystem (m : Type → Type) where
  /-- Whether the path leads to a file. -/
  isFile : Path → m Bool
  /-- Whether the path leads to anything. -/
  holds : Path → m Bool
  /-- The text of a file. -/
  readText : Path → m (Except FileFault String)
  /-- Make a directory, and those above it, where they are missing. -/
  createDirectories : Path → m (Except FileFault Unit)
  /-- Make a file or replace what it holds. -/
  writeText : Path → String → m (Except FileFault Unit)
  /-- Remove a directory with all that lies in it. -/
  removeDirectory : Path → m (Except FileFault Unit)

/-- Requests made where a command may also fail for reasons of its own. -/
instance {ε : Type} {m : Type → Type} [Monad m] [FileSystem m] : FileSystem (ExceptT ε m) where
  isFile path := ExceptT.lift (FileSystem.isFile path)
  holds path := ExceptT.lift (FileSystem.holds path)
  readText path := ExceptT.lift (FileSystem.readText path)
  createDirectories path := ExceptT.lift (FileSystem.createDirectories path)
  writeText path content := ExceptT.lift (FileSystem.writeText path content)
  removeDirectory path := ExceptT.lift (FileSystem.removeDirectory path)

end LuaBindings
