import TrustSchema.Text.Hex

/-!
# Writing JSON

JSON documents as text: every member and every element stands on a line of its own, indented by two
spaces for each level. Empty lists and objects stand on one line. In strings only quotes,
backslashes and control characters are escaped.
-/

namespace TrustSchema.Text

/-- A JSON document. -/
inductive Json where
  | number (n : Nat)
  | text (s : String)
  | array (items : List Json)
  | object (members : List (String × Json))

namespace Json

/-- A character as it stands in a string. -/
def escape (c : Char) : List Char :=
  match c with
  | '"' => ['\\', '"']
  | '\\' => ['\\', '\\']
  | '\x08' => ['\\', 'b']
  | '\x0c' => ['\\', 'f']
  | '\n' => ['\\', 'n']
  | '\r' => ['\\', 'r']
  | '\t' => ['\\', 't']
  | c =>
    if c.toNat < 32 then
      ['\\', 'u', '0', '0'] ++ (hexByte (UInt8.ofNat c.toNat)).map Char.toLower
    else [c]

/-- A text in quotes. -/
def quote (s : String) : String :=
  "\"" ++ String.ofList (s.toList.flatMap escape) ++ "\""

/-- The start of a line at a depth. -/
def indent (depth : Nat) : String := String.ofList (List.replicate (2 * depth) ' ')

/-- Lines between brackets, indented by one level more than the brackets. -/
def block (opening closing : String) (depth : Nat) (lines : List String) : String :=
  if lines.isEmpty then opening ++ closing
  else
    opening ++ "\n" ++ ",\n".intercalate (lines.map (indent (depth + 1) ++ ·)) ++ "\n" ++
      indent depth ++ closing

mutual

/-- The text of a document that begins at a depth. -/
def renderAt (depth : Nat) : Json → String
  | .number n => toString n
  | .text s => quote s
  | .array items => block "[" "]" depth (renderItems (depth + 1) items)
  | .object members => block "\x7b" "\x7d" depth (renderMembers (depth + 1) members)

/-- The texts of elements. -/
def renderItems (depth : Nat) : List Json → List String
  | [] => []
  | item :: items => renderAt depth item :: renderItems depth items

/-- The texts of members, with their keys. -/
def renderMembers (depth : Nat) : List (String × Json) → List String
  | [] => []
  | (key, value) :: members =>
    (quote key ++ ": " ++ renderAt depth value) :: renderMembers depth members

end

/-- The text of a document. -/
def render (j : Json) : String := renderAt 0 j

end Json

end TrustSchema.Text
