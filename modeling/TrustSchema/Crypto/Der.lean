/-!
# Signatures in DER

An ECDSA signature is a pair of non-negative integers. In DER it is a sequence of two integers, each
with a tag byte, a length and its bytes, highest first. Every part has one spelling only: lengths
are in their shortest form, an integer has no superfluous zero byte in front, and nothing follows.
-/

namespace TrustSchema.Der

/-- The number that bytes denote, highest first. -/
def ofBigEndian (bytes : List UInt8) : Nat :=
  bytes.foldl (fun n b => 256 * n + b.toNat) 0

/-- Reads a length: one byte below 128, or a byte that says how many bytes follow. -/
def length? : List UInt8 → Option (Nat × List UInt8)
  | [] => none
  | first :: rest =>
    let n := first.toNat
    if n < 128 then some (n, rest)
    else
      let width := n - 128
      if width = 0 ∨ 4 < width ∨ rest.length < width then none
      else
        let value := ofBigEndian (rest.take width)
        if 128 ≤ value ∧ rest.head? ≠ some 0 then some (value, rest.drop width) else none

/-- Reads a value with the given tag and returns its bytes and what follows it. -/
def value? (tag : UInt8) : List UInt8 → Option (List UInt8 × List UInt8)
  | [] => none
  | found :: rest => do
    guard (found = tag)
    let (length, rest) ← length? rest
    guard (length ≤ rest.length)
    return (rest.take length, rest.drop length)

/-- The number that the bytes of an integer denote, unless it is negative or has a superfluous zero
byte in front. -/
def natural? : List UInt8 → Option Nat
  | [] => none
  | [b] => if b < 128 then some b.toNat else none
  | b :: c :: rest =>
    if 128 ≤ b ∨ (b = 0 ∧ c < 128) then none else some (ofBigEndian (b :: c :: rest))

/-- Reads a non-negative integer and returns it with what follows. -/
def integer? (input : List UInt8) : Option (Nat × List UInt8) := do
  let (bytes, rest) ← value? 0x02 input
  let n ← natural? bytes
  return (n, rest)

/-- The two integers of a signature that is the whole input. -/
def signature? (input : List UInt8) : Option (Nat × Nat) := do
  let (body, rest) ← value? 0x30 input
  guard (rest = [])
  let (r, body) ← integer? body
  let (s, body) ← integer? body
  guard (body = [])
  return (r, s)

end TrustSchema.Der
