/-!
# Files

Policies and certificates are read from files. A source of files is a function from paths to texts;
it says why a path names no readable text.
-/

namespace TrustSchema

/-- Why a file cannot be read as text. -/
inductive FileError
  | notFound
  /-- A component before the last one names a file. -/
  | notDirectory
  | isDirectory
  /-- A component is longer than a directory can hold. -/
  | nameTooLong
  /-- The path holds the character NUL. -/
  | embeddedNul
  /-- The file is not valid UTF-8. -/
  | notText
  deriving DecidableEq

/-- The wording of the error. -/
def FileError.message : FileError → String
  | .notFound => "No such file or directory (os error 2)"
  | .notDirectory => "Not a directory (os error 20)"
  | .isDirectory => "Is a directory (os error 21)"
  | .nameTooLong => "File name too long (os error 36)"
  | .embeddedNul => "file name contained an unexpected NUL byte"
  | .notText => "stream did not contain valid UTF-8"

/-- A source of files: the text of each path, or why there is none. -/
abbrev Files := String → Except FileError String

end TrustSchema
