import TrustSchema.Packet.Signature

/-!
# Data packets

A data packet binds a name to content by a signature. The signature covers the name, the content
and the signature info, in their binary form one after the other.
-/

namespace TrustSchema

open Wire

/-- A named, signed piece of content. -/
structure Data where
  name : Name
  content : List UInt8
  signature : Signature
  deriving DecidableEq

namespace Data

/-- The bytes that the signature of a data packet covers. -/
def signedPortion (name : Name) (content : List UInt8) (info : SignatureInfo) : List UInt8 :=
  name.encode ++ Format.bytes.encode content ++ info.encode

/-- The packet whose signature value a signer computes from the signed bytes. -/
def signed (name : Name) (content : List UInt8) (info : SignatureInfo)
    (sign : List UInt8 → List UInt8) : Data :=
  ⟨name, content, ⟨info, sign (signedPortion name content info)⟩⟩

/-- The bytes that the signature of this packet covers. -/
def signedBytes (d : Data) : List UInt8 :=
  signedPortion d.name d.content d.signature.info

/-- A data packet: name, content and signature. -/
def format : Format Data :=
  ((Name.format.inside (.field "Data" "name")).pair
    ((Format.bytes.inside (.field "Data" "content")).pair
      (Signature.format.inside (.field "Data" "signature")))).map
        (fun p => ⟨p.1, p.2.1, p.2.2⟩) (fun d => (d.name, d.content, d.signature))

/-- The bytes of a data packet. -/
def toBytes (d : Data) : List UInt8 := format.encode d

/-- Reads a data packet that is the whole input. -/
def ofBytes (bytes : List UInt8) : Except DecodeError Data := format.decodeAll bytes

end Data

end TrustSchema
