import TrustSchema.Crypto.Verifier
import TrustSchema.Packet.Signed
import TrustSchema.Policy.CertificateSource
import TrustSchema.Policy.Locator
import TrustSchema.Policy.Rejection

/-!
# Checkers

A checker judges the signer of a packet. It decides alone, or it finds the signer acceptable and
leaves the signature to be verified with the signer's certificate. Each checker is for one type of
signature.

- A customized checker puts a condition on the key locator, or none.
- A hierarchical checker requires that the signer's identity leads the name of the packet.
- A fixed-signer checker holds the certificates of all acceptable signers and verifies the signature
  itself.
-/

namespace TrustSchema

/-- What a checker says about a packet. -/
inductive Ruling
  | accept
  | reject (reason : Rejection)
  /-- The signer is acceptable; the signature has yet to be verified. -/
  | undecided
  deriving DecidableEq

/-- A judgement about signers. -/
inductive Checker
  | customized (signatureType : SignatureType) (locator : Option LocatorCheck)
  | hierarchical (signatureType : SignatureType)
  | fixedSigner (signatureType : SignatureType) (signers : Keyring)

/-- The component of key names that stands behind the identity of the key's owner. -/
def Component.keyMarker : Component := .ofText "KEY"

/-- The identity that a key belongs to: what stands before the first `KEY`, or else the key name
without its last component. The root name, which leads every name, is no identity. -/
def Name.keyOwner? (keyName : Name) : Option Name :=
  let identity :=
    match keyName.components.idxOf? Component.keyMarker with
    | some index => keyName.take index
    | none => keyName.parent
  if identity.isEmpty then none else some identity

namespace Checker

/-- The type of signature that the checker is for. -/
def signatureType : Checker → SignatureType
  | .customized t _ | .hierarchical t | .fixedSigner t _ => t

/-- Whether the checker is for a type of signature. -/
def isFor (c : Checker) (t : SignatureType) : Bool := c.signatureType == t

/-- Whether the identity of a key's owner leads a name. -/
def isAncestor (keyLocator signedName : Name) : Bool :=
  keyLocator.keyOwner?.any fun identity => identity.isPrefixOf signedName

/-- The judgement about a packet with a signature of the checker's type. -/
def check (v : Verifier) (p : SignedPacket) : Checker → Ruling
  | .customized _ none => .undecided
  | .customized _ (some check) =>
    match p.keyLocator with
    | none => .reject (.missingKeyLocator p.signedName)
    | some locator =>
      if check.accepts locator p.signedName then .undecided
      else .reject (.keyLocatorRejected locator p.signedName)
  | .hierarchical _ =>
    match p.keyLocator with
    | none => .reject (.missingKeyLocator p.signedName)
    | some locator =>
      if isAncestor locator p.signedName then .undecided
      else .reject (.keyLocatorRejected locator p.signedName)
  | .fixedSigner _ signers =>
    match p.keyLocator with
    | none => .reject (.missingKeyLocator p.signedName)
    | some locator =>
      match signers.find? locator with
      | none => .reject (.signerNotFixed locator)
      | some certificate =>
        if !v.supports p.signatureType certificate.publicKey.keyType then
          .reject (.unsupportedSignatureType p.signedName p.signatureType)
        else if v.verify p.signedBytes p.signature certificate.publicKey then .accept
        else .reject (.signatureInvalid p.signedName)

/-- Reads the certificates of fixed signers off the front of some entries. There is at least one. -/
def readSigners (source : CertificateSource) (entries : List Entry) :
    Except SectionFault (Keyring × List Entry) := do
  let (signers, entries) := Section.takeAll "signer" entries
  let certificates ← signers.mapM fun e => source.certificate "checker.signer" e.children
  if certificates.isEmpty then throw (.missing "checker.signer")
  return (Keyring.ofList certificates, entries)

/-- Reads what a customized checker requires of the key locator. Only digest signatures, which have
no key, need no condition. -/
def readLocator (t : SignatureType) (entries : List Entry) :
    Except SectionFault (Option LocatorCheck × List Entry) :=
  match Section.takeIf "key-locator" entries with
  | (some block, entries) => do return (some (← LocatorCheck.ofEntries block.children), entries)
  | (none, entries) =>
    if t = .digestSha256 then .ok (none, entries) else .error (.missing "checker.key-locator")

/-- Reads a checker from the entries of its section. -/
def ofEntries (source : CertificateSource) (entries : List Entry) :
    Except SectionFault Checker := do
  let (type, entries) ← Section.requireValue "type" "checker.type" entries
  let (word, entries) ← Section.requireValue "sig-type" "checker.sig-type" entries
  let t ← Section.keyword SignatureType.ofKeyword? "checker.sig-type" word
  if Text.sameKeyword type "customized" then
    let (locator, entries) ← readLocator t entries
    Section.requireEnd "checker" entries
    return .customized t locator
  else if Text.sameKeyword type "hierarchical" then
    if t = .digestSha256 then
      throw (.unsupported "checker.sig-type for hierarchical checker" word)
    Section.requireEnd "checker" entries
    return .hierarchical t
  else if Text.sameKeyword type "fixed-signer" then
    if t = .digestSha256 then
      throw (.unsupported "checker.sig-type for fixed-signer checker" word)
    let (signers, entries) ← readSigners source entries
    Section.requireEnd "checker" entries
    return .fixedSigner t signers
  else throw (.unsupported "checker.type" type)

/-- Reads a checker from its section. -/
def ofEntry (source : CertificateSource) (e : Entry) : Except SectionFault Checker :=
  ofEntries source e.children

end Checker

end TrustSchema
