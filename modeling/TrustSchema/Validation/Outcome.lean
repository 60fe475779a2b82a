import TrustSchema.Policy.Basic

/-!
# Outcomes of a check

A check accepts a packet, rejects it, or waits for a certificate. A request says which certificate
is waited for and holds all that is needed to go on once it is there: the packets that wait, and the
policy under which the validation began.
-/

namespace TrustSchema

/-- A certificate that has to be fetched before a validation can go on. -/
structure Request where
  /-- The key name of the certificate. -/
  certificateName : Name
  /-- The step at which the certificate is judged. -/
  step : Nat
  /-- How many times the fetch may be tried again when no answer comes. -/
  retries : Nat
  /-- The packets that wait, innermost first: the first one is signed with the key that is waited
  for, each other one with that of the one before it. The last one is the packet to be validated. -/
  waiting : List SignedPacket
  /-- The policy in force when the validation began. -/
  policy : Policy

/-- The name of the packet whose validation began the chain. -/
def Request.subject? (r : Request) : Option Name := r.waiting.getLast?.map SignedPacket.name

/-- What a check says about a packet. -/
inductive Outcome
  | accepted
  | rejected (reason : Rejection)
  /-- The answers to the requests decide. -/
  | pending (requests : List Request)

namespace Outcome

/-- Whether the packet is accepted. -/
def isAccepted : Outcome → Bool
  | accepted => true
  | _ => false

/-- Whether the packet is rejected. -/
def isRejected : Outcome → Bool
  | rejected _ => true
  | _ => false

/-- The certificates that are waited for. -/
def requests : Outcome → List Request
  | pending requests => requests
  | _ => []

/-- An outcome behind requests that are waited for already. -/
def behind (queue : List Request) : Outcome → Outcome
  | .pending requests => .pending (queue ++ requests)
  | outcome => outcome

@[simp] theorem behind_nil (outcome : Outcome) : outcome.behind [] = outcome := by
  cases outcome <;> rfl

end Outcome

/-- Ends a validation, because the certificate cannot be had. -/
def Request.fail (r : Request) (reason : String) : Outcome :=
  .rejected (.certificateUnresolved r.certificateName reason)

end TrustSchema
