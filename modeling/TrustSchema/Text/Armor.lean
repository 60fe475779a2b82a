import TrustSchema.Text.Base64
import TrustSchema.Text.Blank
import TrustSchema.Text.Pieces
import TrustSchema.Text.Utf8

/-!
# Textual armor

Bytes wrapped for transport as text: a line `-----BEGIN tag-----`, optional header lines that end
with an empty line, the Base64 form of the bytes, and a line `-----END tag-----`. Text before the
first BEGIN and after its END is ignored, and so is white space in the data.

Writing puts 64 symbols on a line and ends lines with a carriage return and a newline.
-/

namespace TrustSchema.Text.Armor

/-- Why a text is no armored block. -/
inductive Error
  /-- There is no block of the required shape. -/
  | framing
  /-- The tag of the BEGIN line is empty. -/
  | emptyBegin
  /-- The tag of the END line is empty. -/
  | emptyEnd
  /-- The two tags differ. -/
  | mismatch (begins ends : String)
  /-- The data is not Base64. -/
  | data (reason : Base64.Error)
  /-- A header line has no colon. -/
  | header (line : String)
  deriving DecidableEq

/-- The wording of the error. -/
def Error.message : Error → String
  | .framing => "malformedframing"
  | .emptyBegin => "missing BEGIN tag"
  | .emptyEnd => "missing END tag"
  | .mismatch begins ends =>
    "mismatching BEGIN (\"" ++ begins ++ "\") and END (\"" ++ ends ++ "\") tags"
  | .data reason => "invalid data: " ++ reason.message
  | .header line => "invalid header: " ++ line

/-- An armored block: its tag and its bytes. -/
structure Block where
  tag : String
  contents : List UInt8
  deriving DecidableEq

/-- Searches for the rest of a marker; a character that does not continue the marker makes the
search start over after it. Returns what was passed, the marker included, and what follows. -/
def seek (marker : List Char) : List Char → List Char → Option (List Char × List Char)
  | [], text => some ([], text)
  | _ :: _, [] => none
  | m :: pending, c :: text =>
    (seek marker (if c = m then pending else marker) text).map fun (passed, rest) =>
      (c :: passed, rest)

/-- The text before the first occurrence of a marker, and the text after it. -/
def cutAt (marker : String) (text : List Char) : Option (List Char × List Char) :=
  (seek marker.toList marker.toList text).map fun (passed, rest) =>
    (passed.take (passed.length - marker.length), rest)

/-- Whether a character may stand between a boundary and what follows it. -/
def isGap (c : Char) : Bool := c == ' ' || c == '\t' || c == '\n' || c == '\r'

/-- The parts of a block, as they stand in the text. -/
structure Parts where
  begins : List Char
  headers : List Char
  data : List Char
  ends : List Char

/-- Finds the parts of the first block. Headers end at the first empty line of the block. -/
def Parts.ofText? (text : List Char) : Option Parts := do
  let (_, rest) ← cutAt "-----BEGIN " text
  let (begins, rest) ← cutAt "-----" rest
  let (payload, rest) ← cutAt "-----END " (rest.dropWhile isGap)
  let (ends, _) ← cutAt "-----" rest
  match cutAt "\n\n" payload <|> cutAt "\r\n\r\n" payload with
  | some (headers, data) => return ⟨begins, headers, data, ends⟩
  | none => return ⟨begins, [], payload, ends⟩

/-- Reads the first armored block of a text. -/
def decode (text : List Char) : Except Error Block := do
  let some parts := Parts.ofText? text | throw .framing
  if parts.begins.isEmpty then throw .emptyBegin
  if parts.ends.isEmpty then throw .emptyEnd
  let tag := String.ofList parts.begins
  if parts.begins ≠ parts.ends then throw (.mismatch tag (String.ofList parts.ends))
  -- The data is looked at before the headers.
  let contents ← (Base64.decode (utf8 (dropBlanks parts.data))).mapError .data
  match (lines parts.headers).find? fun line => !line.contains ':' with
  | some line => throw (.header (String.ofList line))
  | none => return ⟨tag, contents⟩

/-- The end of a line. -/
def lineEnd : List Char := ['\r', '\n']

/-- A text in lines of at most `width` characters, each with a line end. -/
def wrap (width : Nat) (text : List Char) : List Char :=
  if _h : width = 0 ∨ text = [] then []
  else text.take width ++ lineEnd ++ wrap width (text.drop width)
termination_by text.length
decreasing_by
  have := List.length_pos_iff.2 (fun he => _h (Or.inr he))
  simp only [List.length_drop]
  omega

/-- The armored form of a block. -/
def encode (block : Block) : String :=
  String.ofList (boundary "BEGIN" ++
    wrap 64 ((Base64.encode block.contents).map Char.ofUInt8) ++ boundary "END")
where
  boundary (word : String) : List Char :=
    ("-----" ++ word ++ " " ++ block.tag ++ "-----").toList ++ lineEnd

end TrustSchema.Text.Armor
