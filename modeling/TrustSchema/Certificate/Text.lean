import TrustSchema.Certificate.Basic
import TrustSchema.Files.Basic
import TrustSchema.Text.Armor

/-!
# Certificates as text

In files and configurations a certificate is the Base64 form of its data packet, either bare or
armored under the tag `NDN CERTIFICATE`. White space in either form means nothing.
-/

namespace TrustSchema

/-- Why a certificate cannot be had from a text or a file. -/
inductive CertificateError
  /-- The file cannot be read. -/
  | unreadable (path : String) (reason : FileError)
  | base64 (reason : Text.Base64.Error)
  | armor (reason : Text.Armor.Error)
  /-- The armor has another tag. -/
  | tag (found : String)
  /-- The bytes are no data packet. -/
  | packet (reason : Wire.DecodeError)
  /-- The packet is no certificate. -/
  | malformed (reason : Certificate.Malformed)
  deriving DecidableEq

/-- The tag of armored certificates. -/
def Certificate.armorTag : String := "NDN CERTIFICATE"

/-- The wording of the error. -/
def Certificate.Malformed.message : Certificate.Malformed → String
  | .emptyName => "certificate name is empty"
  | .content reason => "cannot decode certificate: " ++ reason.message
  | .validity => "certificate validity period is out of range"

/-- The wording of the error. -/
def CertificateError.message : CertificateError → String
  | .unreadable path reason => "failed to read " ++ path ++ ": " ++ reason.message
  | .base64 reason => "invalid base64: " ++ reason.message
  | .armor reason => "invalid PEM: " ++ reason.message
  | .tag found => "expected PEM tag " ++ Certificate.armorTag ++ ", got " ++ found
  | .packet reason => "cannot decode certificate: " ++ reason.message
  | .malformed reason => reason.message

namespace Certificate

/-- The bare Base64 form of a certificate. -/
def toBase64 (c : Certificate) : String :=
  String.ofList ((Text.Base64.encode c.data.toBytes).map Char.ofUInt8)

/-- The armored form of a certificate. -/
def toArmor (c : Certificate) : String :=
  Text.Armor.encode ⟨armorTag, c.data.toBytes⟩

/-- Reads the bytes of a data packet as a certificate. -/
def ofBytes (bytes : List UInt8) : Except CertificateError Certificate := do
  let d ← (Data.ofBytes bytes).mapError .packet
  (ofData d).mapError .malformed

/-- Reads the bare Base64 form. -/
def ofBase64 (text : String) : Except CertificateError Certificate := do
  let bytes ← (Text.Base64.decode (Text.utf8 (Text.dropBlanks text.toList))).mapError .base64
  ofBytes bytes

/-- Whether a text is in armored form: a boundary is the first thing in it. -/
def isArmored (text : String) : Bool :=
  "-----BEGIN".toList.isPrefixOf (Text.trimStart text.toList)

/-- Reads either form. -/
def ofText (text : String) : Except CertificateError Certificate := do
  if isArmored text then
    let block ← (Text.Armor.decode text.toList).mapError .armor
    if block.tag = armorTag then ofBytes block.contents else throw (.tag block.tag)
  else ofBase64 text

/-- Reads the certificate in a file. -/
def ofFile (files : Files) (path : String) : Except CertificateError Certificate := do
  let text ← (files path).mapError (.unreadable path)
  ofText text

end Certificate

end TrustSchema
