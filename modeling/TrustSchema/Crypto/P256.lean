import TrustSchema.Crypto.Der
import TrustSchema.Crypto.Sha256

/-!
# ECDSA on P-256

The curve y² = x³ - 3x + b over the integers modulo the prime `p`, whose points form a group of
prime order `n`, and verification of ECDSA signatures with SHA-256 on it. Points are computed with
in Jacobian coordinates: the triple (x, y, z) stands for the point (x / z², y / z³), and z = 0 for
the neutral element.
-/

namespace TrustSchema.P256

/-- The prime of the coordinate field. -/
def p : Nat := 0xffffffff00000001000000000000000000000000ffffffffffffffffffffffff

/-- The order of the group. -/
def n : Nat := 0xffffffff00000000ffffffffffffffffbce6faada7179e84f3b9cac2fc632551

/-- The constant term of the curve equation. -/
def b : Nat := 0x5ac635d8aa3a93e7b3ebbd55769886bc651d06b0cc53b0f63bce3c3e27d2604b

/-- The power of a number modulo another, by repeated squaring. -/
def power (base exponent modulus : Nat) : Nat :=
  if exponent = 0 then 1 % modulus
  else
    let half := power (base * base % modulus) (exponent / 2) modulus
    if exponent % 2 = 1 then base * half % modulus else half
termination_by exponent

/-- The inverse modulo a prime; that of zero is zero. -/
def inverse (a modulus : Nat) : Nat := power a (modulus - 2) modulus

/-- The difference of two coordinates. -/
def sub (a b : Nat) : Nat := (a + p - b % p) % p

/-- A point in Jacobian coordinates. -/
structure Point where
  x : Nat
  y : Nat
  z : Nat

namespace Point

/-- The neutral element. -/
def zero : Point := ⟨1, 1, 0⟩

/-- The generator of the group. -/
def generator : Point :=
  ⟨0x6b17d1f2e12c4247f8bce6e563a440f277037d812deb33a0f4a13945d898c296,
    0x4fe342e2fe1a7f9b8ee7eb4a7c0f9e162bce33576b315ececbb6406837bf51f5, 1⟩

/-- A point added to itself. -/
def double (q : Point) : Point :=
  if q.z = 0 ∨ q.y = 0 then zero
  else
    let yy := q.y * q.y % p
    let s := 4 * q.x * yy % p
    let zz := q.z * q.z % p
    -- The slope is 3x² - 3z⁴, because the linear term of the equation is -3x.
    let m := 3 * (sub q.x zz * (q.x + zz)) % p
    let x := sub (m * m) (2 * s)
    ⟨x, sub (m * sub s x) (8 * yy * yy), 2 * q.y * q.z % p⟩

/-- The sum of two points. -/
def add (q r : Point) : Point :=
  if q.z = 0 then r
  else if r.z = 0 then q
  else
    let zq := q.z * q.z % p
    let zr := r.z * r.z % p
    let u1 := q.x * zr % p
    let u2 := r.x * zq % p
    let s1 := q.y * zr % p * r.z % p
    let s2 := r.y * zq % p * q.z % p
    if u1 = u2 then
      -- Equal first coordinates: the points are the same or opposite.
      if s1 = s2 then q.double else zero
    else
      let h := sub u2 u1
      let d := sub s2 s1
      let hh := h * h % p
      let hhh := h * hh % p
      let v := u1 * hh % p
      let x := sub (d * d) (hhh + 2 * v)
      ⟨x, sub (d * sub v x) (s1 * hhh), q.z * r.z % p * h % p⟩

/-- A point added to itself as often as a number says. -/
def scale (k : Nat) (q : Point) : Point :=
  if k = 0 then zero
  else
    let half := scale (k / 2) q.double
    if k % 2 = 1 then half.add q else half
termination_by k

/-- The first coordinate of a point; that of the neutral element counts as zero. -/
def affineX (q : Point) : Nat :=
  let i := inverse q.z p
  q.x * (i * i % p) % p

/-- The right-hand side of the curve equation. -/
def curve (x : Nat) : Nat := (x * x % p * x + (p - 3) * x + b) % p

/-- The point with the given coordinates, if they are in range and satisfy the equation. -/
def ofCoordinates? (x y : Nat) : Option Point :=
  if x < p ∧ y < p ∧ y * y % p = curve x then some ⟨x, y, 1⟩ else none

/-- A square root of the right-hand side at `x`, if there is one. -/
def root? (x : Nat) : Option Nat :=
  let y := power (curve x) ((p + 1) / 4) p
  if x < p ∧ y * y % p = curve x then some y else none

/-- Reads a point in SEC 1 form: both coordinates after a byte 4; the first one after a byte that
gives the parity of the second (2 even, 3 odd); or the first one after a byte 5, which leaves the
smaller of the two points. The neutral element is no public key. -/
def ofBytes? : List UInt8 → Option Point
  | tag :: rest =>
    let x := Der.ofBigEndian (rest.take 32)
    if tag = 4 ∧ rest.length = 64 then ofCoordinates? x (Der.ofBigEndian (rest.drop 32))
    else if rest.length = 32 ∧ (tag = 2 ∨ tag = 3) then
      (root? x).map fun y => ⟨x, if y % 2 = tag.toNat % 2 then y else (p - y) % p, 1⟩
    else if rest.length = 32 ∧ tag = 5 then
      (root? x).map fun y => ⟨x, min y ((p - y) % p), 1⟩
    else none
  | [] => none

end Point

/-- Reads the two numbers of a signature: in DER or, if they are not, as 32 bytes each. Both must
lie between 1 and the order of the group. -/
def signature? (bytes : List UInt8) : Option (Nat × Nat) :=
  (Der.signature? bytes).bind inRange? <|> (fixed? bytes).bind inRange?
where
  inRange? (rs : Nat × Nat) : Option (Nat × Nat) :=
    if 0 < rs.1 ∧ rs.1 < n ∧ 0 < rs.2 ∧ rs.2 < n then some rs else none
  fixed? (bytes : List UInt8) : Option (Nat × Nat) :=
    if bytes.length = 64 then
      some (Der.ofBigEndian (bytes.take 32), Der.ofBigEndian (bytes.drop 32))
    else none

/-- Whether a signature of a message was made with the key of a public point. -/
def verifies (key : Point) (message : List UInt8) (r s : Nat) : Bool :=
  let e := Der.ofBigEndian (Sha256.digest message) % n
  let w := inverse s n
  let sum := (Point.generator.scale (e * w % n)).add (key.scale (r * w % n))
  sum.affineX % n == r

/-- Whether the bytes of a signature, a message and a public key fit together. -/
def verify (publicKey message signature : List UInt8) : Bool :=
  match Point.ofBytes? publicKey, signature? signature with
  | some key, some (r, s) => verifies key message r s
  | _, _ => false

end TrustSchema.P256
