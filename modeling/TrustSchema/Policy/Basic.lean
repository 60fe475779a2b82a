import TrustSchema.Policy.Rule

/-!
# Policies

A policy consists of rules for data packets, rules for interests, and trust anchors: certificates
that are trusted without further evidence. The first rule that covers a packet judges it.
-/

namespace TrustSchema

/-- Rules, in the order in which they are tried, and trust anchors. -/
structure Policy where
  dataRules : List Rule
  interestRules : List Rule
  anchors : Keyring

namespace Policy

/-- The policy without rules and anchors, under which every packet is rejected. -/
def empty : Policy := ⟨[], [], .empty⟩

/-- The policy with the given rules, which keep their order, and anchors. -/
def ofRules (rules : List Rule) (anchors : Keyring) : Policy where
  dataRules := rules.filter fun r => r.kind == .data
  interestRules := rules.filter fun r => r.kind == .interest
  anchors := anchors

/-- The rules for a kind of packets. -/
def rulesOf (policy : Policy) : PacketKind → List Rule
  | .data => policy.dataRules
  | .interest => policy.interestRules

/-- All rules, those for data packets first. -/
def rules (policy : Policy) : List Rule := policy.dataRules ++ policy.interestRules

/-- The first rule that covers a packet. -/
def ruleFor? (policy : Policy) (p : SignedPacket) : Option Rule :=
  (policy.rulesOf p.kind).find? fun r => r.covers p

end Policy

end TrustSchema
