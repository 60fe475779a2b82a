import TrustSchema.Packet.Data

/-!
# Certificates

A certificate is a data packet whose content holds a public key and a validity period. The last
component of its name is a version; the name without it is the key name, by which the signatures
made with the key refer to it.
-/

namespace TrustSchema

open Wire

/-- A point in time, in milliseconds since the start of 1970 (UTC). -/
abbrev Instant := Int

/-- The kinds of public keys. -/
inductive KeyType
  /-- A point of the curve P-256. -/
  | ecdsa
  | rsa
  deriving DecidableEq

namespace KeyType

/-- Every kind of key, in the order of their bytes on the wire. -/
def all : List KeyType := [.ecdsa, .rsa]

/-- How the kind is written. -/
def label : KeyType → String
  | .ecdsa => "ecdsa"
  | .rsa => "rsa"

/-- The kind that is written exactly so. -/
def ofLabel? (text : String) : Option KeyType := all.find? fun t => t.label == text

/-- A kind of key: one byte. -/
def format : Format KeyType := Format.enumeration "KeyType" all

end KeyType

/-- A public key: its kind and its encoded form. -/
structure PublicKey where
  keyType : KeyType
  bits : List UInt8
  deriving DecidableEq

/-- A public key: its kind, then its encoded form. -/
def PublicKey.format : Format PublicKey :=
  ((KeyType.format.inside (.field "PublicKey" "key_type")).pair
    (Format.bytes.inside (.field "PublicKey" "bits"))).map
      (fun p => ⟨p.1, p.2⟩) (fun k => (k.keyType, k.bits))

/-- What the content of a certificate says. -/
structure CertificateContent where
  notBefore : Instant
  notAfter : Instant
  publicKey : PublicKey
  deriving DecidableEq

namespace CertificateContent

/-- The content of a certificate: the two ends of the validity period and the key. -/
def format : Format CertificateContent :=
  ((Format.signed64.inside (.field "CertificateContent" "not_before")).pair
    ((Format.signed64.inside (.field "CertificateContent" "not_after")).pair
      (PublicKey.format.inside (.field "CertificateContent" "public_key")))).map
        (fun p => ⟨p.1, p.2.1, p.2.2⟩) (fun c => (c.notBefore, c.notAfter, c.publicKey))

/-- The bytes of a certificate's content. -/
def encode (c : CertificateContent) : List UInt8 := format.encode c

/-- Reads the content of a certificate that is the whole input. -/
def ofBytes (bytes : List UInt8) : Except DecodeError CertificateContent := format.decodeAll bytes

/-- The first instant of the calendar. -/
def earliest : Instant := -8334601228800000

/-- The last instant of the calendar. -/
def latest : Instant := 8210266876799999

/-- Whether an instant lies in the calendar, which spans a little over half a million years. -/
def inCalendar (t : Instant) : Bool := earliest ≤ t && t ≤ latest

end CertificateContent

/-- A data packet read as a certificate. -/
structure Certificate where
  data : Data
  publicKey : PublicKey
  notBefore : Instant
  notAfter : Instant
  deriving DecidableEq

/-- Why a data packet is no certificate. -/
inductive Certificate.Malformed
  /-- The name has no components, so there is no key name. -/
  | emptyName
  /-- The content is not that of a certificate. -/
  | content (reason : DecodeError)
  /-- An end of the validity period lies outside the calendar. -/
  | validity
  deriving DecidableEq

namespace Certificate

/-- Reads a data packet as a certificate. -/
def ofData (d : Data) : Except Malformed Certificate :=
  if d.name.isEmpty then .error .emptyName
  else match CertificateContent.ofBytes d.content with
    | .error reason => .error (.content reason)
    | .ok c =>
      if CertificateContent.inCalendar c.notBefore && CertificateContent.inCalendar c.notAfter then
        .ok ⟨d, c.publicKey, c.notBefore, c.notAfter⟩
      else .error .validity

/-- The name of the certificate, version included. -/
def name (c : Certificate) : Name := c.data.name

/-- The name that signatures made with the key refer to. -/
def keyName (c : Certificate) : Name := c.name.parent

/-- Whether an instant lies in the validity period; both ends belong to it. -/
def isValidAt (c : Certificate) (now : Instant) : Bool :=
  c.notBefore ≤ now && now ≤ c.notAfter

/-- A certificate that is read from a data packet has the packet in it. -/
theorem data_of_ofData {c : Certificate} {d : Data} (h : ofData d = .ok c) : c.data = d := by
  unfold ofData at h
  split at h
  · cases h
  · split at h
    · cases h
    · split at h
      · cases h
        rfl
      · cases h

theorem keyName_of_ofData {c : Certificate} {d : Data} (h : ofData d = .ok c) :
    c.keyName = d.name.parent := by
  rw [← data_of_ofData h]
  rfl

end Certificate

end TrustSchema
