import TrustSchema.Name.Format
import TrustSchema.Text.Keyword

/-!
# Signatures

A signature has an algorithm, a value and, optionally, a key locator: the name of the key that made
it. The algorithm and the key locator form the signature info, which is itself covered by the
signature.
-/

namespace TrustSchema

open Wire

/-- The two kinds of packets that rules tell apart. -/
inductive PacketKind
  | data
  | interest
  deriving DecidableEq

namespace PacketKind

/-- Every kind. -/
def all : List PacketKind := [.data, .interest]

/-- How the kind is written. -/
def label : PacketKind → String
  | .data => "data"
  | .interest => "interest"

/-- The kind that a keyword of a configuration names, in any case. -/
def ofKeyword? (word : String) : Option PacketKind := Text.keyword? all label word

/-- The kind that is written exactly so. -/
def ofLabel? (text : String) : Option PacketKind := all.find? fun k => k.label == text

end PacketKind

/-- The signature algorithms that policies can name. -/
inductive SignatureType
  /-- The value is the SHA-256 digest of the signed bytes; there is no key. -/
  | digestSha256
  /-- RSA over SHA-256. -/
  | rsaSha256
  /-- ECDSA over SHA-256. -/
  | ecdsaSha256
  deriving DecidableEq

namespace SignatureType

/-- Every algorithm, in the order of their bytes on the wire. -/
def all : List SignatureType := [.digestSha256, .rsaSha256, .ecdsaSha256]

/-- How the algorithm is written. -/
def label : SignatureType → String
  | .digestSha256 => "digest-sha256"
  | .rsaSha256 => "rsa-sha256"
  | .ecdsaSha256 => "ecdsa-sha256"

/-- The algorithm that a keyword of a configuration names, in any case. -/
def ofKeyword? (word : String) : Option SignatureType := Text.keyword? all label word

/-- The algorithm that is written exactly so. -/
def ofLabel? (text : String) : Option SignatureType := all.find? fun t => t.label == text

/-- An algorithm: one byte. -/
def format : Format SignatureType := Format.enumeration "SignatureType" all

end SignatureType

/-- The part of a signature that is itself signed: the algorithm and the name of the key. -/
structure SignatureInfo where
  signatureType : SignatureType
  keyLocator : Option Name
  deriving DecidableEq

namespace SignatureInfo

/-- A signature info: the algorithm, then the optional key locator. -/
def format : Format SignatureInfo :=
  ((SignatureType.format.inside (.field "SignatureInfo" "signature_type")).pair
    (Name.format.option.inside (.field "SignatureInfo" "key_locator"))).map
      (fun p => ⟨p.1, p.2⟩) (fun info => (info.signatureType, info.keyLocator))

/-- The bytes of a signature info. -/
def encode (info : SignatureInfo) : List UInt8 := format.encode info

/-- Reads a signature info that is the whole input. -/
def ofBytes (bytes : List UInt8) : Except DecodeError SignatureInfo := format.decodeAll bytes

end SignatureInfo

/-- A signature: its info and its value. -/
structure Signature where
  info : SignatureInfo
  value : List UInt8
  deriving DecidableEq

namespace Signature

/-- The algorithm of the signature. -/
def signatureType (s : Signature) : SignatureType := s.info.signatureType

/-- The name of the key that made the signature, if it has one. -/
def keyLocator (s : Signature) : Option Name := s.info.keyLocator

/-- A signature: its info, then its value. -/
def format : Format Signature :=
  ((SignatureInfo.format.inside (.field "Signature" "info")).pair
    (Format.bytes.inside (.field "Signature" "value"))).map
      (fun p => ⟨p.1, p.2⟩) (fun s => (s.info, s.value))

end Signature

end TrustSchema
