/-!
# Hexadecimal digits

Digits are written in upper case and read in either case.
-/

namespace TrustSchema.Text

/-- The upper-case digit of a value below sixteen. -/
def hexDigit (n : Nat) : Char :=
  if n < 10 then Char.ofNat (48 + n) else Char.ofNat (55 + n)

/-- The value of a hexadecimal digit. -/
def hexValue? (c : Char) : Option Nat :=
  if '0' ≤ c ∧ c ≤ '9' then some (c.toNat - 48)
  else if 'A' ≤ c ∧ c ≤ 'F' then some (c.toNat - 55)
  else if 'a' ≤ c ∧ c ≤ 'f' then some (c.toNat - 87)
  else none

/-- The two upper-case digits of a byte. -/
def hexByte (b : UInt8) : List Char :=
  [hexDigit (b.toNat / 16), hexDigit (b.toNat % 16)]

/-- The byte that two digits denote. -/
def byteOfHex? (high low : Char) : Option UInt8 := do
  let h ← hexValue? high
  let l ← hexValue? low
  return UInt8.ofNat (16 * h + l)

/-- Reading the two digits of a byte gives it back. -/
theorem byteOfHex?_hexByte (b : UInt8) :
    byteOfHex? (hexDigit (b.toNat / 16)) (hexDigit (b.toNat % 16)) = some b := by
  have h : ∀ n : Fin 256,
      byteOfHex? (hexDigit (n.val / 16)) (hexDigit (n.val % 16)) = some (UInt8.ofNat n.val) := by
    decide +kernel
  simpa using h ⟨b.toNat, b.toNat_lt⟩

end TrustSchema.Text
