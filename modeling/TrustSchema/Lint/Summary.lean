import TrustSchema.Policy.Basic
import TrustSchema.Text.Json

/-!
# Summaries of policies

A summary lists the rules of a policy, those for data packets first, and the key names of its trust
anchors in ascending order.
-/

namespace TrustSchema

/-- What a summary says about a rule. -/
structure RuleLine where
  id : String
  kind : PacketKind
  /-- The number of filters. -/
  filters : Nat
  /-- The type of signature that each checker is for. -/
  checkers : List SignatureType
  deriving DecidableEq

/-- What a summary says about a policy. -/
structure Summary where
  /-- The file that the policy was loaded from. -/
  file : String
  stepLimit : Nat
  rules : List RuleLine
  /-- The key names of the trust anchors. -/
  anchors : List Name
  deriving DecidableEq

namespace RuleLine

/-- The summary of a rule. -/
def ofRule (r : Rule) : RuleLine :=
  ⟨r.id, r.kind, r.filters.length, r.checkers.map Checker.signatureType⟩

/-- The summary as a JSON document. -/
def toJson (r : RuleLine) : Text.Json :=
  .object [("id", .text r.id), ("for", .text r.kind.label), ("filters", .number r.filters),
    ("checkers", .array (r.checkers.map fun t => .text t.label))]

end RuleLine

namespace Summary

/-- The summary of a policy. -/
def ofPolicy (file : String) (stepLimit : Nat) (policy : Policy) : Summary :=
  ⟨file, stepLimit, policy.rules.map RuleLine.ofRule, policy.anchors.keyNames⟩

/-- The summary as a JSON document. -/
def toJson (s : Summary) : Text.Json :=
  .object [("file", .text s.file), ("step_limit", .number s.stepLimit),
    ("rules", .array (s.rules.map RuleLine.toJson)),
    ("trust_anchors", .array (s.anchors.map fun n => .text n.toUri))]

end Summary

end TrustSchema
