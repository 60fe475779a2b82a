/-!
# Shortest decimals

A floating-point number stands for an interval: the reals that are rounded to it. It is written as
the decimal in that interval that has the fewest digits; of several with equally many digits, as the
one nearest to the number itself.

A decimal is written with its point in place, or in scientific notation if its first digit stands
too far from the point.
-/

namespace TrustSchema

/-- A decimal fraction: the digits, read as one number, times a power of ten. -/
structure Decimal where
  digits : Nat
  exponent : Int
  deriving DecidableEq

/-- A positive binary fraction as it is stored: a significand times a power of two. -/
structure BinaryFraction where
  significand : Nat
  exponent : Int
  /-- Whether the number below is only half as far away as the number above. -/
  narrowBelow : Bool

namespace BinaryFraction

/-- The fraction that the bits of a finite double stand for, apart from the sign. -/
def ofBits (bits : UInt64) : BinaryFraction :=
  let exponent := (bits >>> 52 &&& 0x7ff).toNat
  let fraction := (bits &&& 0xfffffffffffff).toNat
  -- Without exponent bits there is no hidden leading bit either.
  if exponent = 0 then ⟨fraction, -1074, false⟩
  else
    ⟨0x10000000000000 + fraction, (exponent : Int) - 1075, fraction == 0 && decide (1 < exponent)⟩

/-- A power of a number; 1 if the exponent is negative. -/
def power (base : Nat) (e : Int) : Nat := Nat.pow base e.toNat

/-- Compares `n * 2 ^ e` with a decimal. -/
def compareWith (n : Nat) (e : Int) (d : Decimal) : Ordering :=
  compare (n * power 2 e * power 10 (-d.exponent)) (d.digits * power 10 d.exponent * power 2 (-e))

/-- Whether a decimal is rounded to the fraction. Halfway points go to even significands. -/
def isRoundedFrom (x : BinaryFraction) (d : Decimal) : Bool :=
  let low := 4 * x.significand - (if x.narrowBelow then 1 else 2)
  let high := 4 * x.significand + 2
  let closed := x.significand % 2 == 0
  let above := compareWith low (x.exponent - 2) d
  let below := compareWith high (x.exponent - 2) d
  (above == .lt || (closed && above == .eq)) && (below == .gt || (closed && below == .eq))

/-- The largest number of units `10 ^ e` that is not greater than the fraction. -/
def floorAt (x : BinaryFraction) (e : Int) : Nat :=
  x.significand * power 2 x.exponent * power 10 (-e) / (power 2 (-x.exponent) * power 10 e)

/-- The decimal on a grid of units `10 ^ e` that is rounded to the fraction, if there is one. Of the
two neighbours of the fraction the nearer one counts, of two equally near ones the even one. -/
def onGrid? (x : BinaryFraction) (e : Int) : Option Decimal :=
  let below : Decimal := ⟨x.floorAt e, e⟩
  let above : Decimal := ⟨x.floorAt e + 1, e⟩
  let twiceBetween : Decimal := ⟨2 * x.floorAt e + 1, e⟩
  let nearer :=
    match compareWith (2 * x.significand) x.exponent twiceBetween with
    | .lt => below
    | .eq => if below.digits % 2 == 0 then below else above
    | .gt => above
  match x.isRoundedFrom below, x.isRoundedFrom above with
  | true, true => some nearer
  | true, false => some below
  | false, true => some above
  | false, false => none

/-- The shortest decimal that is rounded to the fraction, tried on ever finer grids. -/
def shortest (x : BinaryFraction) : Decimal :=
  let grids := (List.range 660).map fun (n : Nat) => 310 - (n : Int)
  (grids.findSome? x.onGrid?).getD ⟨0, 0⟩

end BinaryFraction

namespace Decimal

/-- The decimal in positional notation, with at least one digit on either side of the point. -/
def positional (d : Decimal) : String :=
  let digits := Nat.toDigits 10 d.digits
  if 0 ≤ d.exponent then
    String.ofList (digits ++ List.replicate d.exponent.toNat '0' ++ ['.', '0'])
  else
    let places := (-d.exponent).toNat
    let padded := List.replicate (places + 1 - digits.length) '0' ++ digits
    let whole := padded.length - places
    String.ofList (padded.take whole ++ '.' :: padded.drop whole)

/-- The exponent of the first digit. -/
def leading (d : Decimal) : Int := d.exponent + (Nat.toDigits 10 d.digits).length - 1

/-- The decimal in scientific notation: one digit stands before the point, and the exponent has a
sign. -/
def scientific (d : Decimal) : String :=
  let mantissa := match Nat.toDigits 10 d.digits with
    | first :: second :: more => first :: '.' :: second :: more
    | digits => digits
  let sign := if d.leading < 0 then '-' else '+'
  String.ofList (mantissa ++ 'e' :: sign :: Nat.toDigits 10 d.leading.natAbs)

/-- How decimals are written: the exponents of the first digits that are in positional notation. -/
structure Notation where
  least : Int
  greatest : Int

/-- The decimal in the notation for its size. -/
def text (format : Notation) (d : Decimal) : String :=
  if format.least ≤ d.leading ∧ d.leading ≤ format.greatest then d.positional else d.scientific

/-- A finite double as the shortest decimal that is rounded to it. -/
def ofFloat (format : Notation) (x : Float) : String :=
  let bits := x.toBits
  let size := bits &&& 0x7fffffffffffffff
  let sign := if bits = size then "" else "-"
  if size = 0 then sign ++ "0.0" else sign ++ (BinaryFraction.ofBits size).shortest.text format

end Decimal

end TrustSchema
