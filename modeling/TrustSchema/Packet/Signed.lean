import TrustSchema.Packet.Data
import TrustSchema.Packet.Interest

/-!
# Signed packets

A packet is a data packet or an interest. What a policy judges is a signed packet: a data packet, or
an interest whose signature has been taken off its name. Both have a signed name, a signature and
signed bytes.
-/

namespace TrustSchema

/-- A packet as it arrives. -/
inductive Packet
  | data (d : Data)
  | interest (i : Interest)
  deriving DecidableEq

/-- The full name of a packet. -/
def Packet.name : Packet → Name
  | .data d => d.name
  | .interest i => i.name

/-- A packet together with its signature. An interest is given by the name it signs and its
signature, which determine its full name. -/
inductive SignedPacket
  | data (d : Data)
  | interest (signedName : Name) (signature : Signature)
  deriving DecidableEq

namespace SignedPacket

/-- Takes the signature off an interest. -/
def ofInterest (i : Interest) : Except InterestError SignedPacket := do
  let signature ← i.signature
  let signedName ← i.signedName
  return .interest signedName signature

/-- Takes the signature off a packet. -/
def ofPacket : Packet → Except InterestError SignedPacket
  | .data d => .ok (.data d)
  | .interest i => ofInterest i

/-- The kind of the packet. -/
def kind : SignedPacket → PacketKind
  | .data _ => .data
  | .interest .. => .interest

/-- The full name of the packet; that of an interest includes its signature. -/
def name : SignedPacket → Name
  | .data d => d.name
  | .interest signedName signature => Interest.fullName signedName signature

/-- The name that rules look at: for an interest, the name without its signature. -/
def signedName : SignedPacket → Name
  | .data d => d.name
  | .interest signedName _ => signedName

/-- The signature of the packet. -/
def signature : SignedPacket → Signature
  | .data d => d.signature
  | .interest _ signature => signature

/-- The bytes that the signature covers. -/
def signedBytes : SignedPacket → List UInt8
  | .data d => d.signedBytes
  | .interest signedName signature => (Interest.coveredName signedName signature.info).encode

/-- The algorithm of the signature. -/
def signatureType (p : SignedPacket) : SignatureType := p.signature.signatureType

/-- The name of the key that signed the packet, if the signature gives one. -/
def keyLocator (p : SignedPacket) : Option Name := p.signature.keyLocator

end SignedPacket

end TrustSchema
