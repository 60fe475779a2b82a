import TrustSchema.Policy.Load
import TrustSchema.Settings
import TrustSchema.Validation.Fetch

/-!
# Validators

A validator has a policy, which can be replaced at any time, and a cache. Checks that begin after a
replacement use the new policy; what was pending goes on under the policy it began with. A policy
that cannot be loaded replaces nothing.
-/

namespace TrustSchema

/-- A policy in force, a cache, and what judges packets under them. -/
structure Validator where
  judge : Judge
  policy : Policy
  cache : Cache

namespace Validator

/-- A validator without rules. -/
def ofJudge (judge : Judge) (cache : Cache) : Validator := ⟨judge, .empty, cache⟩

/-- A validator without rules whose limits are those of the settings. -/
def ofSettings (settings : Settings) (verifier : Verifier) :
    Except Cache.LimitError Validator := do
  let cache ← Cache.ofLimits settings.cacheLifetime settings.cacheCapacity
  return ofJudge ⟨verifier, settings.stepLimit, settings.fetchRetries⟩ cache

variable (v : Validator)

/-- Puts a policy in force. -/
def install (policy : Policy) : Validator := { v with policy }

/-- Puts a policy in force if it could be loaded. -/
def load (policy : Except LoadError Policy) : Except LoadError Unit × Validator :=
  match policy with
  | .ok policy => (.ok (), v.install policy)
  | .error reason => (.error reason, v)

/-- The validator with another cache, together with a result. -/
def withCache {α : Type} (result : α × Cache) : α × Validator :=
  (result.1, { v with cache := result.2 })

/-- Checks a packet under the policy in force. -/
def check (now : Instant) (packet : Packet) (step : Nat) : Outcome × Validator :=
  v.withCache (v.judge.check now v.policy packet step v.cache)

/-- Goes on with a validation, now that the certificate is there. -/
def resume (now : Instant) (r : Request) (certificate : Data) : Outcome × Validator :=
  v.withCache (v.judge.resume now r certificate v.cache)

/-- Ends a validation, because the certificate cannot be had. -/
def fail (r : Request) (reason : String) : Outcome × Validator := (r.fail reason, v)

variable {σ : Type}

/-- Validates a packet under the policy in force, fetching what is needed. -/
def validate (now : Instant) (fetcher : Fetcher σ) (packet : Packet) (s : σ) :
    Except Rejection Unit × Validator × σ :=
  let (result, state) := v.judge.validate now v.policy fetcher packet ⟨v.cache, s⟩
  (result, { v with cache := state.cache }, state.fetcher)

end Validator

end TrustSchema
