import TrustSchema.Decimal.Shortest
import TrustSchema.Name.Uri

/-!
# Names in JSON documents

In a JSON document a name is a string, its URI. No other value is a name.
-/

namespace TrustSchema

/-- A JSON value, as far as it matters to names. -/
inductive JsonValue
  | null
  | boolean (b : Bool)
  | integer (i : Int)
  /-- A number with a fraction or an exponent, or one that no 64-bit integer holds. -/
  | real (x : Float)
  | text (s : String)
  | sequence
  | map

/-- Numbers are written with their points in place from 0.00001 up to sixteen digits before the
point. -/
def JsonValue.realNotation : Decimal.Notation := ⟨-5, 15⟩

/-- What an error text calls the value. -/
def JsonValue.describe : JsonValue → String
  | .null => "null"
  | .boolean b => "boolean `" ++ (if b then "true" else "false") ++ "`"
  | .integer i => "integer `" ++ toString i ++ "`"
  | .real x => "floating point `" ++ Decimal.ofFloat realNotation x ++ "`"
  | .text _ => "string"
  | .sequence => "sequence"
  | .map => "map"

/-- Why a JSON value is no name. -/
inductive JsonNameError
  | notText (found : JsonValue)
  | uri (reason : UriError)

/-- The wording of the error. -/
def JsonNameError.message : JsonNameError → String
  | .notText found => "invalid type: " ++ found.describe ++ ", expected a string"
  | .uri reason => reason.message

namespace Name

/-- The name that a JSON value denotes. -/
def ofJson : JsonValue → Except JsonNameError Name
  | .text s => (ofUri s).mapError .uri
  | value => .error (.notText value)

/-- The JSON value of a name. -/
def toJson (n : Name) : JsonValue := .text n.toUri

end Name

end TrustSchema
