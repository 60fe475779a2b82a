/-!
# Base64

Bytes as text in the standard alphabet, three bytes to a group of four symbols, the last group
filled up with `=`. Reading is strict: the filling is required, and the bits of the last symbol that
carry no data must be zero, so every byte string has exactly one text.

`decode` works on the bytes of a text and reports positions in bytes. It goes from group to group;
within the last group it looks for bytes that are no symbols before it looks at the group's length.
-/

namespace TrustSchema.Text.Base64

/-- Why a text is not the Base64 form of any bytes. -/
inductive Error
  /-- A byte that is no symbol, or filling where there must be none. -/
  | symbol (byte : UInt8) (position : Nat)
  /-- The last symbol carries bits that do not belong to the data. -/
  | lastSymbol (byte : UInt8) (position : Nat)
  /-- The last group is not filled up with `=`. -/
  | padding
  /-- The last group has a single symbol. -/
  | length (symbols : Nat)
  deriving DecidableEq

/-- The wording of the error. -/
def Error.message : Error → String
  | .symbol byte position => s!"Invalid symbol {byte.toNat}, offset {position}."
  | .lastSymbol byte position => s!"Invalid last symbol {byte.toNat}, offset {position}."
  | .padding => "Invalid padding"
  | .length symbols => s!"Invalid input length: {symbols}"

/-- The byte `=`, which fills up the last group. -/
def pad : UInt8 := 61

/-- The symbol of a value below 64. -/
def symbol (v : Nat) : UInt8 :=
  if v < 26 then UInt8.ofNat (65 + v)
  else if v < 52 then UInt8.ofNat (71 + v)
  else if v < 62 then UInt8.ofNat (v - 4)
  else if v = 62 then 43
  else 47

/-- The value of a symbol. -/
def value? (b : UInt8) : Option Nat :=
  if 65 ≤ b ∧ b ≤ 90 then some (b.toNat - 65)
  else if 97 ≤ b ∧ b ≤ 122 then some (b.toNat - 71)
  else if 48 ≤ b ∧ b ≤ 57 then some (b.toNat + 4)
  else if b = 43 then some 62
  else if b = 47 then some 63
  else none

/-- The Base64 form of bytes. -/
def encode : List UInt8 → List UInt8
  | a :: b :: c :: rest =>
    symbol (a.toNat / 4) :: symbol (a.toNat % 4 * 16 + b.toNat / 16) ::
      symbol (b.toNat % 16 * 4 + c.toNat / 64) :: symbol (c.toNat % 64) :: encode rest
  | [a, b] =>
    [symbol (a.toNat / 4), symbol (a.toNat % 4 * 16 + b.toNat / 16),
      symbol (b.toNat % 16 * 4), pad]
  | [a] => [symbol (a.toNat / 4), symbol (a.toNat % 4 * 16), pad, pad]
  | [] => []

/-- The three bytes that four values denote. -/
def join (a b c d : Nat) : List UInt8 :=
  [UInt8.ofNat (a * 4 + b / 16), UInt8.ofNat (b % 16 * 16 + c / 4), UInt8.ofNat (c % 4 * 64 + d)]

/-- The value of the symbol at a position. -/
def valueAt (position : Nat) (b : UInt8) : Except Error Nat :=
  match value? b with
  | some v => .ok v
  | none => .error (.symbol b position)

/-- The symbols of the last group from index `i` on, with their values, and how much filling
follows them. Filling is allowed after two symbols, and nothing may follow it. -/
def lastGroup (start i : Nat) : List UInt8 → Except Error (List (UInt8 × Nat) × Nat)
  | [] => .ok ([], 0)
  | b :: rest =>
    if b = pad then
      if 2 ≤ i ∧ rest.all (· == pad) then .ok ([], 1 + rest.length)
      else .error (.symbol pad (start + i))
    else do
      let v ← valueAt (start + i) b
      let (symbols, filling) ← lastGroup start (i + 1) rest
      return ((b, v) :: symbols, filling)

/-- The bytes of the last group, which starts at a position. -/
def decodeLast (start : Nat) (group : List UInt8) : Except Error (List UInt8) := do
  let (symbols, filling) ← lastGroup start 0 group
  match symbols, filling with
  | [(_, a), (_, b), (_, c), (_, d)], 0 => return join a b c d
  | [(_, a), (_, b), (last, c)], 1 =>
    if c % 4 = 0 then return (join a b c 0).take 2 else throw (.lastSymbol last (start + 2))
  | [(_, a), (last, b)], 2 =>
    if b % 16 = 0 then return (join a b 0 0).take 1 else throw (.lastSymbol last (start + 1))
  | symbols, _ =>
    if symbols.length < 2 then throw (.length (start + symbols.length)) else throw .padding

/-- The bytes that a text denotes whose first group starts at a position. A group is the last one if
nothing follows it. -/
def decodeFrom (start : Nat) : List UInt8 → Except Error (List UInt8)
  | [] => .ok []
  | a :: b :: c :: d :: e :: rest => do
    let va ← valueAt start a
    let vb ← valueAt (start + 1) b
    let vc ← valueAt (start + 2) c
    let vd ← valueAt (start + 3) d
    let bytes ← decodeFrom (start + 4) (e :: rest)
    return join va vb vc vd ++ bytes
  | group => decodeLast start group

/-- The bytes that a text denotes. A last byte that is alone in its group and no symbol is reported
before anything else. -/
def decode (text : List UInt8) : Except Error (List UInt8) :=
  match text.getLast? with
  | some last =>
    if text.length % 4 = 1 ∧ last ≠ pad ∧ value? last = none then
      .error (.symbol last (text.length - 1))
    else decodeFrom 0 text
  | none => .ok []

end TrustSchema.Text.Base64
