import TrustSchema.Wire.Error

/-!
# Integers on the wire

Integers of fixed width are written in little-endian order. A length is written in one, two, four
or five bytes; the two low bits of its first byte say which. Only the shortest form is read, so a
length has exactly one spelling.

| low bits | bytes | lengths |
| --- | --- | --- |
| 0 | 1 | below `0x40` |
| 1 | 2 | below `0x4000` |
| 2 | 4 | below `0x40000000` |
| 3 | 5 | below `0x100000000`, after a first byte of 3 |
-/

namespace TrustSchema.Wire

/-- How many numbers fit into `width` bytes. -/
def capacity : (width : Nat) → Nat
  | 0 => 1
  | width + 1 => 256 * capacity width

/-- The lowest `width` bytes of a number, lowest first. -/
def littleEndian : (width : Nat) → Nat → List UInt8
  | 0, _ => []
  | width + 1, n => UInt8.ofNat (n % 256) :: littleEndian width (n / 256)

/-- The number that bytes denote, lowest first. -/
def ofLittleEndian : List UInt8 → Nat
  | [] => 0
  | b :: bs => b.toNat + 256 * ofLittleEndian bs

/-- The first `width` bytes of the input, and what follows them. -/
def readFixed (width : Nat) (input : List UInt8) : Except DecodeError (List UInt8 × List UInt8) :=
  if input.length < width then .error .shortInput
  else .ok (input.take width, input.drop width)

/-- A length in its shortest form. -/
def encodeLength (n : Nat) : List UInt8 :=
  if n < 0x40 then littleEndian 1 (4 * n)
  else if n < 0x4000 then littleEndian 2 (4 * n + 1)
  else if n < 0x40000000 then littleEndian 4 (4 * n + 2)
  else 3 :: littleEndian 4 n

/-- Accepts a value only in the range that its form is the shortest for. -/
def inRange (low high n : Nat) (rest : List UInt8) : Except DecodeError (Nat × List UInt8) :=
  if low ≤ n ∧ n < high then .ok (n, rest) else .error .badLength

/-- Reads a length. -/
def decodeLength (input : List UInt8) : Except DecodeError (Nat × List UInt8) := do
  let (first, _) ← readFixed 1 input
  let tag := ofLittleEndian first
  match tag % 4 with
  | 0 => return (tag / 4, input.drop 1)
  | 1 => do
    let (bytes, rest) ← readFixed 2 input
    inRange 0x40 0x4000 (ofLittleEndian bytes / 4) rest
  | 2 => do
    let (bytes, rest) ← readFixed 4 input
    inRange 0x4000 0x40000000 (ofLittleEndian bytes / 4) rest
  | _ =>
    -- The upper bits of the first byte would ask for more than four bytes.
    if tag = 3 then do
      let (bytes, rest) ← readFixed 4 (input.drop 1)
      inRange 0x40000000 0x100000000 (ofLittleEndian bytes) rest
    else .error .badLength

@[simp] theorem length_littleEndian (width n : Nat) : (littleEndian width n).length = width := by
  induction width generalizing n with
  | zero => rfl
  | succ width ih => simp [littleEndian, ih]

/-- Reading a number back keeps what fits the width. -/
theorem ofLittleEndian_littleEndian (width n : Nat) :
    ofLittleEndian (littleEndian width n) = n % capacity width := by
  induction width generalizing n with
  | zero => simp [littleEndian, ofLittleEndian, capacity, Nat.mod_one]
  | succ width ih =>
    have h : (UInt8.ofNat (n % 256)).toNat = n % 256 := by simp
    rw [littleEndian, ofLittleEndian, ih, h, capacity, Nat.mod_mul]

/-- Writing the number that bytes denote gives the bytes back. -/
theorem littleEndian_ofLittleEndian (bytes : List UInt8) :
    littleEndian bytes.length (ofLittleEndian bytes) = bytes := by
  induction bytes with
  | nil => rfl
  | cons b bs ih =>
    have hb : b.toNat < 256 := b.toNat_lt
    have hmod : (b.toNat + 256 * ofLittleEndian bs) % 256 = b.toNat := by omega
    have hdiv : (b.toNat + 256 * ofLittleEndian bs) / 256 = ofLittleEndian bs := by omega
    simp [littleEndian, ofLittleEndian, hmod, hdiv, ih]

end TrustSchema.Wire
