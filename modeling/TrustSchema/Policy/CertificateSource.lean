import TrustSchema.Certificate.Keyring
import TrustSchema.Certificate.Text
import TrustSchema.Files.Path
import TrustSchema.Policy.Section

/-!
# Certificates in configurations

Trust anchors and fixed signers are given by certificates, each in a file or as Base64 text. The
path of a file is taken from the directory of the configuration.
-/

namespace TrustSchema

/-- Where certificate files are found: a source of files, and the directory that paths are relative
to. -/
structure CertificateSource where
  files : Files
  directory : String

namespace CertificateSource

/-- Reads a certificate from the entries of a section with a name. -/
def certificate (source : CertificateSource) (sectionName : String) (entries : List Entry) :
    Except SectionFault Certificate := do
  let (type, entries) ← Section.requireValue "type" (sectionName ++ ".type") entries
  if Text.sameKeyword type "file" then
    let (file, entries) ← Section.requireValue "file-name" (sectionName ++ ".file-name") entries
    Section.requireEnd sectionName entries
    let path := Path.join source.directory file
    (Certificate.ofFile source.files path).mapError (.certificateFile path)
  else if Text.sameKeyword type "base64" then
    let (text, entries) ←
      Section.requireValue "base64-string" (sectionName ++ ".base64-string") entries
    Section.requireEnd sectionName entries
    (Certificate.ofBase64 text).mapError .certificateText
  else throw (.unsupported (sectionName ++ ".type") type)

end CertificateSource

end TrustSchema
