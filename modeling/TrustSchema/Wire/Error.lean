/-!
# Decoding failures

A failure is a cause wrapped in the places where it happened, outermost first. Its text gives one
line to each place and one to the cause, each indented one tab more than the line above. A cause
without a place is written alone, with no line end.
-/

namespace TrustSchema.Wire

/-- A part of a value that is being decoded. -/
inductive Place
  /-- A named field of a record. -/
  | field (record field : String)
  /-- A field of a record that has no field names. -/
  | position (record : String) (index : Nat)
  /-- The byte that says whether an optional value is present. -/
  | optionTag
  /-- The value of an optional value that is present. -/
  | optionPayload
  /-- The byte that selects one case of an enumeration. -/
  | caseTag (enumeration : String)
  deriving DecidableEq

/-- Why bytes do not encode a value. -/
inductive DecodeError
  /-- The input ends inside a field of fixed size or a length. -/
  | shortInput
  /-- The input ends inside a byte string. -/
  | shortBytes
  /-- The presence byte of an optional value is neither 0 nor 1. -/
  | badOptionTag
  /-- A length is not in its shortest form, or does not fit 32 bits. -/
  | badLength
  /-- No case of the enumeration has this byte. -/
  | unknownCase (enumeration : String)
  /-- The value ends before the input does. -/
  | leftOver
  /-- The failure happened in a part of the value. -/
  | inside (place : Place) (cause : DecodeError)
  deriving DecidableEq

/-- How a place is named in an error text. -/
def Place.describe : Place → String
  | .field record part => "`" ++ record ++ "::" ++ part ++ "`"
  | .position record index => "`" ++ record ++ "." ++ toString index ++ "`"
  | .optionTag => "variant byte for `Option`"
  | .optionPayload => "`Option::Some(T)`"
  | .caseTag enumeration => "`" ++ enumeration ++ "`, failed to read variant byte"

namespace DecodeError

/-- The text of a failure below `depth` places. -/
def messageAt (depth : Nat) : DecodeError → String
  | .inside place cause =>
    indent ++ "Could not decode " ++ place.describe ++ ":\n" ++ messageAt (depth + 1) cause
  | .shortInput => leaf "Not enough data to fill buffer"
  | .shortBytes => leaf "Not enough data to decode vector"
  | .badOptionTag => leaf "unexpected first byte decoding Option"
  | .badLength => leaf "out of range decoding Compact<u32>"
  | .unknownCase enumeration =>
    leaf ("Could not decode `" ++ enumeration ++ "`, variant doesn't exist")
  | .leftOver => leaf "Input buffer has still data left after decoding!"
where
  indent : String := String.ofList (List.replicate depth '\t')
  leaf (text : String) : String := if depth = 0 then text else indent ++ text ++ "\n"

/-- The wording of a failure. -/
def message (e : DecodeError) : String := e.messageAt 0

end DecodeError

end TrustSchema.Wire
