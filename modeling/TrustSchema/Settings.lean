import TrustSchema.Text.Digit

/-!
# Settings

The settings of a validator come from environment variables. A variable that is not set, or whose
value is not a number in range, leaves its setting at the default.
-/

namespace TrustSchema

/-- The settings of a validator. -/
structure Settings where
  /-- The file with the policy. -/
  configPath : Option String := none
  stepLimit : Nat := 10
  /-- How long certificates stay in the cache, in seconds. -/
  cacheLifetime : Nat := 3600
  cacheCapacity : Nat := 10000
  fetchRetries : Nat := 1
  deriving DecidableEq

namespace Settings

/-- The number of so many bits that a variable is set to, or else a default. -/
def numberOr (fallback bits : Nat) (value : Option String) : Nat :=
  (value.bind fun text => Text.unsigned? bits text.toList).getD fallback

/-- Reads the settings from the variables that are set. -/
def ofEnvironment (lookup? : String → Option String) : Settings :=
  let standard : Settings := {}
  { configPath := lookup? "VALIDATOR_CONFIG"
    stepLimit := numberOr standard.stepLimit 64 (lookup? "VALIDATOR_STEP_LIMIT")
    cacheLifetime :=
      numberOr standard.cacheLifetime 64 (lookup? "VALIDATOR_CACHE_TTL_SECS")
    cacheCapacity :=
      numberOr standard.cacheCapacity 64 (lookup? "VALIDATOR_CACHE_CAPACITY")
    fetchRetries :=
      numberOr standard.fetchRetries 32 (lookup? "VALIDATOR_FETCH_RETRIES") }

end Settings

end TrustSchema
