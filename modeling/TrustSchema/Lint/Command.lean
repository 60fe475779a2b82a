import TrustSchema.Lint.Summary
import TrustSchema.Validation.Validator

/-!
# The lint command

The command loads a policy and prints its summary. The file is the first argument or, without
arguments, the one that the settings name. If there is no summary, nothing is printed, and the exit
code says so.
-/

namespace TrustSchema.Lint

/-- Why there is no summary. -/
inductive Failure
  /-- No file is given. -/
  | noFile
  | unreadable (reason : FileError)
  /-- No validator can be set up with these settings. -/
  | settings (reason : Cache.LimitError)
  | config (reason : LoadError)
  deriving DecidableEq

/-- The wording of the failure. -/
def Failure.message : Failure → String
  | .noFile => "usage: validator-lint <policy file> (or set VALIDATOR_CONFIG)"
  | .unreadable reason => reason.message
  | .settings reason => reason.message
  | .config reason => reason.message

/-- The exit code of the command after a failure. Settings that no validator can have are a fault of
another kind. -/
def Failure.exitCode : Failure → UInt8
  | .settings _ => 101
  | _ => 1

/-- The file that the command is about. -/
def path? (settings : Settings) (args : List String) : Option String :=
  args.head? <|> settings.configPath

/-- The summary of the policy in a file. -/
def summary (settings : Settings) (files : Files) (path : String) :
    Except Failure Summary := do
  let text ← (files path).mapError .unreadable
  let validator ← (Validator.ofSettings settings .ecdsaP256).mapError .settings
  let policy ← (Policy.ofText files path text).mapError .config
  return .ofPolicy path validator.judge.stepLimit policy

/-- What the command prints. -/
def run (settings : Settings) (files : Files) (args : List String) : Except Failure String := do
  let some path := path? settings args | throw .noFile
  let s ← summary settings files path
  return s.toJson.render ++ "\n"

/-- The paths of the files that a policy may name, besides its own: whatever stands under a key
`file-name`, taken from the directory of the policy. -/
def certificatePaths (path text : String) : List String :=
  match Document.parse text with
  | .error _ => []
  | .ok document =>
    (Entry.flattenAll 0 document).filterMap fun (_, e) =>
      if Section.hasKey "file-name" e then some (Path.join (Path.directory path) e.value) else none

end TrustSchema.Lint
