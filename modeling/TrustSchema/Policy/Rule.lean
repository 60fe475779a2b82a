import TrustSchema.Policy.Checker

/-!
# Rules

A rule covers the packets of one kind whose name one of its filters covers; without filters it
covers all packets of its kind. Of its checkers, the first one for the type of a packet's signature
judges the signer.
-/

namespace TrustSchema

/-- An entry of a policy: which packets it covers, and how their signers are judged. -/
structure Rule where
  id : String
  kind : PacketKind
  filters : List Filter
  checkers : List Checker

namespace Rule

/-- Whether the rule covers a packet. -/
def covers (r : Rule) (p : SignedPacket) : Bool :=
  p.kind == r.kind && (r.filters.isEmpty || r.filters.any fun f => f.matchesName p.signedName)

/-- The first checker for the type of a packet's signature. -/
def checkerFor? (r : Rule) (t : SignatureType) : Option Checker :=
  r.checkers.find? fun c => c.isFor t

/-- The judgement about a packet that the rule covers. -/
def check (v : Verifier) (p : SignedPacket) (r : Rule) : Ruling :=
  match r.checkerFor? p.signatureType with
  | some checker => checker.check v p
  | none => .reject (.noApplicableChecker r.id p.signedName p.signatureType)

end Rule

end TrustSchema
