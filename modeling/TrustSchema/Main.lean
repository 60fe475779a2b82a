import TrustSchema.Lint.Command

/-!
# The command line

Reads the environment and the files that a policy names, and prints what the lint command says.
-/

namespace TrustSchema.Lint

/-- The environment variables that settings come from. -/
def variableNames : List String :=
  ["VALIDATOR_CONFIG", "VALIDATOR_STEP_LIMIT", "VALIDATOR_CACHE_TTL_SECS",
    "VALIDATOR_CACHE_CAPACITY", "VALIDATOR_FETCH_RETRIES"]

/-- The settings that the environment gives. -/
def readSettings : IO Settings := do
  let known ← variableNames.mapM fun name => do return (name, ← IO.getEnv name)
  return .ofEnvironment fun name => (known.lookup name).join

/-- The reason for which the system did not give a file. -/
def fileErrorOf : IO.Error → FileError
  | .inappropriateType .. => .isDirectory
  | .resourceExhausted .. | .invalidArgument .. => .nameTooLong
  | .otherError .. => .notDirectory
  | _ => .notFound

/-- Reads a file as text. -/
def readText (path : String) : IO (Except FileError String) := do
  if path.toList.contains '\x00' then return .error .embeddedNul
  try
    match Text.ofUtf8? (← IO.FS.readBinFile path).toList with
    | some text => return .ok text
    | none => return .error .notText
  catch e => return .error (fileErrorOf e)

/-- Reads files, each together with its path. -/
def readTexts (paths : List String) : IO (List (String × Except FileError String)) :=
  paths.mapM fun path => do return (path, ← readText path)

/-- Reads the policy that the command is about and the files that it names. -/
def readFiles (settings : Settings) (args : List String) : IO Files := do
  let own ← readTexts (path? settings args).toList
  let others ← match own with
    | [(path, .ok text)] => readTexts (certificatePaths path text)
    | _ => pure []
  return fun path => ((own ++ others).lookup path).getD (.error .notFound)

end TrustSchema.Lint

open TrustSchema in
/-- Prints the summary of a policy, or says why there is none. -/
def main (args : List String) : IO UInt32 := do
  let settings ← Lint.readSettings
  match Lint.run settings (← Lint.readFiles settings args) args with
  | .ok output =>
    IO.print output
    return 0
  | .error failure =>
    IO.eprintln failure.message
    return failure.exitCode.toUInt32
