import TrustSchema.Name.Basic
import TrustSchema.Text.Blank
import TrustSchema.Text.Hex
import TrustSchema.Text.Pieces
import TrustSchema.Text.Utf8

/-!
# Names as URIs

A name is written `/a/b/c`, the root name `/`. ASCII letters and digits and the four characters
`-._~` stand for themselves; every other byte is written as `%` and two upper-case digits.

Reading is more liberal than writing: white space around the text and one leading `ndn:` are
dropped, slashes may be repeated (an empty segment names no component), digits may be in either
case, and a character that stands for itself is taken as its UTF-8 bytes. The one thing refused is
a `%` that is not followed by two digits in its own segment.
-/

namespace TrustSchema

/-- Why a text is no name. -/
inductive UriError
  /-- A segment holds a `%` without two hexadecimal digits after it; it is kept as written. -/
  | invalidEscape (segment : String)
  deriving DecidableEq

/-- The wording of the error. -/
def UriError.message : UriError → String
  | .invalidEscape segment => "invalid percent-escape in name component: " ++ segment

namespace Component

/-- Whether a byte is written as itself: an ASCII letter or digit or one of `-._~`. -/
def isUnreserved (b : UInt8) : Bool :=
  (48 ≤ b && b ≤ 57) || (65 ≤ b && b ≤ 90) || (97 ≤ b && b ≤ 122) ||
    b == 45 || b == 46 || b == 95 || b == 126

/-- A byte as it stands in a URI. -/
def escapeByte (b : UInt8) : List Char :=
  if isUnreserved b then [Char.ofUInt8 b] else '%' :: Text.hexByte b

/-- A component as it stands in a URI. -/
def escape (c : Component) : List Char :=
  c.bytes.flatMap escapeByte

/-- The bytes that a segment of a URI denotes, unless it holds a bad escape. -/
def unescapeBytes? : List Char → Option (List UInt8)
  | [] => some []
  | '%' :: high :: low :: cs => do
    let b ← Text.byteOfHex? high low
    let bs ← unescapeBytes? cs
    return b :: bs
  | c :: cs =>
    if c = '%' then none else (unescapeBytes? cs).map (String.utf8EncodeChar c ++ ·)

/-- The component that a segment of a URI denotes. -/
def ofSegment (segment : List Char) : Except UriError Component :=
  match unescapeBytes? segment with
  | some bytes => .ok ⟨bytes⟩
  | none => .error (.invalidEscape (String.ofList segment))

/-- The component with exactly the bytes of a text: nothing is unescaped. -/
def ofText (s : String) : Component := ⟨Text.utf8 s.toList⟩

end Component

namespace Name

/-- The URI of a name, character by character. -/
def uriChars (n : Name) : List Char :=
  if n.components.isEmpty then ['/'] else n.components.flatMap fun c => '/' :: c.escape

/-- The URI of a name. -/
def toUri (n : Name) : String := String.ofList n.uriChars

/-- The path of a URI: the text without surrounding white space and without one leading `ndn:`. -/
def uriPath (cs : List Char) : List Char :=
  match Text.trim cs with
  | 'n' :: 'd' :: 'n' :: ':' :: path => path
  | path => path

/-- The segments of a URI: the non-empty pieces of its path between slashes. -/
def uriSegments (cs : List Char) : List (List Char) :=
  (Text.pieces '/' (uriPath cs)).filter fun segment => !segment.isEmpty

/-- The name that a URI denotes, a component for each segment. The first bad segment is reported. -/
def ofUri (uri : String) : Except UriError Name := do
  let components ← (uriSegments uri.toList).mapM Component.ofSegment
  return ⟨components⟩

end Name

end TrustSchema
