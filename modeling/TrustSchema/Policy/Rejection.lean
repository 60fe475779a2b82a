import TrustSchema.Certificate.Text
import TrustSchema.Packet.Interest

/-!
# Rejections

The reasons for which a packet is not accepted.
-/

namespace TrustSchema

/-- Why a packet is rejected. -/
inductive Rejection
  /-- The chain of certificates is longer than allowed. -/
  | stepLimitReached (limit : Nat)
  | noRuleMatched (name : Name)
  /-- An interest carries no signature. -/
  | malformedInterest (reason : InterestError)
  /-- The rule that covers the packet says nothing about its type of signature. -/
  | noApplicableChecker (rule : String) (name : Name) (signatureType : SignatureType)
  | missingKeyLocator (name : Name)
  | keyLocatorRejected (keyLocator name : Name)
  | signerNotFixed (signer : Name)
  | signatureInvalid (name : Name)
  /-- Signatures of this type cannot be checked with the signer's key. -/
  | unsupportedSignatureType (name : Name) (signatureType : SignatureType)
  | certificateUnresolved (certificate : Name) (reason : String)
  | certificateExpired (certificate : Name)
  | certificateMalformed (certificate : Name) (reason : Certificate.Malformed)
  /-- Nothing is left to wait for, and still nothing is decided. -/
  | undecided (name : Name)
  deriving DecidableEq

/-- The wording of the rejection. -/
def Rejection.message : Rejection → String
  | .stepLimitReached limit => "maximum steps reached (step limit " ++ toString limit ++ ")"
  | .noRuleMatched name => "no rule matched " ++ name.toUri
  | .malformedInterest reason => "malformed interest signature: " ++ reason.message
  | .noApplicableChecker rule name signatureType =>
    "packet " ++ name.toUri ++ " cannot pass any checker of rule " ++ rule ++
      " (signature type " ++ signatureType.label ++ ")"
  | .missingKeyLocator name => "signature of " ++ name.toUri ++ " has no key locator"
  | .keyLocatorRejected keyLocator name =>
    "key locator " ++ keyLocator.toUri ++ " does not satisfy the checker for " ++ name.toUri
  | .signerNotFixed signer => "signer " ++ signer.toUri ++ " is not in the fixed signer list"
  | .signatureInvalid name => "signature verification failed for " ++ name.toUri
  | .unsupportedSignatureType name signatureType =>
    "unsupported signature type " ++ signatureType.label ++ " for " ++ name.toUri
  | .certificateUnresolved certificate reason =>
    "unresolved certificate " ++ certificate.toUri ++ ": " ++ reason
  | .certificateExpired certificate =>
    "signing certificate " ++ certificate.toUri ++ " is no longer valid"
  | .certificateMalformed certificate reason =>
    "cannot decode certificate " ++ certificate.toUri ++ ": " ++ reason.message
  | .undecided name => "validation of " ++ name.toUri ++ " ended without a decision"

end TrustSchema
