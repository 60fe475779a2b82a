import TrustSchema.Certificate.Basic
import TrustSchema.Crypto.P256

/-!
# Signature verifiers

Policies decide when a signature is checked and against which key. The check itself is done by a
verifier, which says for which algorithms and kinds of keys it can tell, and whether a signature is
good. Signatures that are plain digests need no key and no verifier.
-/

namespace TrustSchema

/-- A way to check signatures against public keys. -/
structure Verifier where
  /-- Whether signatures of this type, made with a key of this kind, can be checked at all. -/
  supports : SignatureType → KeyType → Bool
  /-- Whether a signature of the signed bytes was made with the key. -/
  verify : (signedBytes : List UInt8) → Signature → PublicKey → Bool

namespace Verifier

/-- Checks ECDSA signatures on P-256 with SHA-256, and nothing else. -/
def ecdsaP256 : Verifier where
  supports signatureType keyType := signatureType == .ecdsaSha256 && keyType == .ecdsa
  verify signedBytes signature key :=
    signature.signatureType == .ecdsaSha256 && key.keyType == .ecdsa &&
      P256.verify key.bits signedBytes signature.value

end Verifier

/-- Collects the bits in which two byte strings differ at some position, as far as both go. -/
def differingBits (seen : UInt8) : List UInt8 → List UInt8 → UInt8
  | x :: xs, y :: ys => differingBits (seen ||| (x ^^^ y)) xs ys
  | _, _ => seen

/-- Whether two byte strings are equal. All bytes are looked at, wherever they differ first, so the
time that this takes says nothing about them. -/
def sameBytes (xs ys : List UInt8) : Bool :=
  xs.length == ys.length && differingBits 0 xs ys == 0

theorem differingBits_eq_zero_iff {seen : UInt8} {xs ys : List UInt8}
    (h : xs.length = ys.length) : differingBits seen xs ys = 0 ↔ seen = 0 ∧ xs = ys := by
  induction xs generalizing seen ys with
  | nil =>
    obtain rfl : ys = [] := List.length_eq_zero_iff.1 h.symm
    simp [differingBits]
  | cons x xs ih =>
    cases ys with
    | nil => cases h
    | cons y ys =>
      rw [differingBits, ih (Nat.succ.inj h), UInt8.or_eq_zero_iff, UInt8.xor_eq_zero_iff,
        List.cons.injEq, and_assoc]

theorem sameBytes_iff {xs ys : List UInt8} : sameBytes xs ys ↔ xs = ys := by
  rw [sameBytes, Bool.and_eq_true, beq_iff_eq, beq_iff_eq]
  constructor
  · rintro ⟨hlength, hbits⟩
    exact ((differingBits_eq_zero_iff hlength).1 hbits).2
  · rintro rfl
    exact ⟨rfl, (differingBits_eq_zero_iff rfl).2 ⟨rfl, rfl⟩⟩

/-- Whether a digest signature is good: its value is the digest of the signed bytes. -/
def verifiesDigest (signedBytes value : List UInt8) : Bool :=
  sameBytes (Sha256.digest signedBytes) value

/-- A digest signature is good if all of its bytes are those of the digest, and there are no more of
them. -/
theorem verifiesDigest_iff {signedBytes value : List UInt8} :
    verifiesDigest signedBytes value ↔ value = Sha256.digest signedBytes := by
  rw [verifiesDigest, sameBytes_iff, eq_comm]

end TrustSchema
