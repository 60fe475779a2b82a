import TrustSchema.Wire.Length

/-!
# Binary formats

A format is a way to write the values of a type as bytes, together with a reader that takes one
value off the front of its input. Formats of records, lists and optional values are put together
from those of their parts: the parts follow each other with nothing between them.

`Format.decodeAll` reads a value that is the whole input.
-/

namespace TrustSchema.Wire

/-- A writer and a reader for the values of a type. -/
structure Format (α : Type) where
  /-- The bytes of a value. -/
  encode : α → List UInt8
  /-- Takes one value off the input and returns it with the rest. -/
  decode : List UInt8 → Except DecodeError (α × List UInt8)

namespace Format

variable {α β : Type}

/-- The format that reports its failures as happening in a place. -/
def inside (place : Place) (f : Format α) : Format α where
  encode := f.encode
  decode input := (f.decode input).mapError (DecodeError.inside place)

/-- The format of a type whose values correspond to those of another. -/
def map (f : Format α) (build : α → β) (parts : β → α) : Format β where
  encode b := f.encode (parts b)
  decode input := do
    let (a, rest) ← f.decode input
    return (build a, rest)

/-- Two values, one after the other. -/
def pair (f : Format α) (g : Format β) : Format (α × β) where
  encode p := f.encode p.1 ++ g.encode p.2
  decode input := do
    let (a, rest) ← f.decode input
    let (b, rest) ← g.decode rest
    return ((a, b), rest)

/-- A byte string: its length and its bytes. -/
def bytes : Format (List UInt8) where
  encode bs := encodeLength bs.length ++ bs
  decode input := do
    let (length, rest) ← decodeLength input
    if rest.length < length then .error .shortBytes
    else return (rest.take length, rest.drop length)

/-- Reads a given number of values. -/
def decodeMany (decode : List UInt8 → Except DecodeError (α × List UInt8)) :
    Nat → List UInt8 → Except DecodeError (List α × List UInt8)
  | 0, input => .ok ([], input)
  | count + 1, input => do
    let (a, rest) ← decode input
    let (as, rest) ← decodeMany decode count rest
    return (a :: as, rest)

/-- A list: its length and its elements. -/
def list (f : Format α) : Format (List α) where
  encode as := encodeLength as.length ++ as.flatMap f.encode
  decode input := do
    let (length, rest) ← decodeLength input
    decodeMany f.decode length rest

/-- A number of fixed width, in little-endian order. -/
def fixed (width : Nat) : Format Nat where
  encode := littleEndian width
  decode input := do
    let (bytes, rest) ← readFixed width input
    return (ofLittleEndian bytes, rest)

/-- A signed 64-bit integer in two's complement. -/
def signed64 : Format Int :=
  (fixed 8).map (fun n => (n : Int).bmod (capacity 8)) fun i => (i % (capacity 8 : Nat)).toNat

/-- An optional value: a byte 0, or a byte 1 and the value. -/
def option (f : Format α) : Format (Option α) where
  encode
    | none => [0]
    | some a => 1 :: f.encode a
  decode input := do
    let (tag, rest) ← ((fixed 1).inside .optionTag).decode input
    if tag = 0 then return (none, rest)
    else if tag = 1 then
      let (a, rest) ← (f.inside .optionPayload).decode rest
      return (some a, rest)
    else .error .badOptionTag

/-- An enumeration: one byte, the position of the case in the list of cases. -/
def enumeration [DecidableEq α] (name : String) (cases : List α) : Format α where
  encode a := [UInt8.ofNat (cases.idxOf a)]
  decode input := do
    let (tag, rest) ← ((fixed 1).inside (.caseTag name)).decode input
    match cases[tag]? with
    | some a => return (a, rest)
    | none => .error (.unknownCase name)

/-- Reads a value that is the whole input. -/
def decodeAll (f : Format α) (input : List UInt8) : Except DecodeError α := do
  let (a, rest) ← f.decode input
  if rest.isEmpty then return a else .error .leftOver

end Format

end TrustSchema.Wire
