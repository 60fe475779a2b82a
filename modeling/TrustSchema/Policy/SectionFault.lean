import TrustSchema.Certificate.Text
import TrustSchema.Name.Uri

/-!
# Faults in sections

What can be wrong with one section of a configuration.
-/

namespace TrustSchema

/-- Why a section cannot be used. -/
inductive SectionFault
  /-- The section ends where a key is expected. -/
  | missing (key : String)
  /-- Another key stands where one is expected. -/
  | unexpected (expected found : String)
  /-- A key stands where the section should end. -/
  | surplus (sectionName found : String)
  /-- The value of a key is none of those known. -/
  | unsupported (key value : String)
  /-- A pattern is malformed. -/
  | pattern (source : String)
  /-- A value is no name. -/
  | name (reason : UriError)
  | certificateFile (path : String) (reason : CertificateError)
  | certificateText (reason : CertificateError)
  deriving DecidableEq

/-- The wording of the error. -/
def SectionFault.message : SectionFault → String
  | .missing key => "expected <" ++ key ++ ">"
  | .unexpected expected found => "expected <" ++ expected ++ ">, found <" ++ found ++ ">"
  | .surplus sectionName found =>
    "expected the end of " ++ sectionName ++ ", found <" ++ found ++ ">"
  | .unsupported key value => "unsupported " ++ key ++ ": " ++ value
  | .pattern source => "invalid regex " ++ source ++ ": <regex error>"
  | .name reason => "invalid name: " ++ reason.message
  | .certificateFile path reason =>
    "cannot read certificate from file " ++ path ++ ": " ++ reason.message
  | .certificateText reason => "cannot decode certificate from base64-string: " ++ reason.message

end TrustSchema
