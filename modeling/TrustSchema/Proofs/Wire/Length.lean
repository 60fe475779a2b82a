import Mathlib.Algebra.Ring.Int.Defs
import Mathlib.Algebra.Ring.Nat
import TrustSchema.Proofs.Success
import TrustSchema.Wire.Length

/-!
# Lengths have one spelling

What is read as a length is just what is written for it: `decodeLength_eq_ok_iff` says this for all
inputs. A length could be spelled in every form that has room for it (`Spells`), but only its
shortest spelling is read (`decodeLength_of_spells`).

A form of lengths is a field of fixed width whose number gives the length, within the range that the
form is the shortest for (`readForm_eq_ok_iff`). The two low bits of the first byte tell which form
it is; they are the two low bits of the whole number, since the lowest byte comes first.
-/

namespace TrustSchema.Wire

variable {width n low high k : Nat} {b : UInt8} {input bytes rest : List UInt8}

/-! ## Numbers of fixed width -/

/-- A field of fixed width is what stands before the rest. -/
theorem readFixed_eq_ok_iff :
    readFixed width input = .ok (bytes, rest) ↔ bytes.length = width ∧ input = bytes ++ rest := by
  unfold readFixed
  constructor
  · intro h
    split at h
    · cases h
    · next hle =>
      cases h
      exact ⟨List.length_take_of_le (Nat.le_of_not_lt hle), (List.take_append_drop ..).symm⟩
  · rintro ⟨rfl, rfl⟩
    simp

theorem inRange_eq_ok_iff {m : Nat} {rest' : List UInt8} :
    inRange low high m rest' = .ok (n, rest) ↔ (low ≤ n ∧ n < high) ∧ m = n ∧ rest' = rest := by
  unfold inRange
  constructor
  · intro h
    split at h
    · next hm =>
      cases h
      exact ⟨hm, rfl, rfl⟩
    · cases h
  · rintro ⟨hn, rfl, rfl⟩
    rw [if_pos hn]

theorem ofLittleEndian_lt_capacity (bytes : List UInt8) :
    ofLittleEndian bytes < capacity bytes.length := by
  induction bytes with
  | nil => exact Nat.one_pos
  | cons b bs ih =>
    have hb : b.toNat < 256 := b.toNat_lt
    simp only [ofLittleEndian, List.length_cons, capacity]
    omega

/-- The bytes of a number are the only ones of their width that denote it. -/
theorem ofLittleEndian_eq_iff (hn : n < capacity width) :
    bytes.length = width ∧ ofLittleEndian bytes = n ↔ bytes = littleEndian width n := by
  constructor
  · rintro ⟨rfl, rfl⟩
    exact (littleEndian_ofLittleEndian bytes).symm
  · rintro rfl
    exact ⟨length_littleEndian .., by rw [ofLittleEndian_littleEndian, Nat.mod_eq_of_lt hn]⟩

/-! ## The forms of lengths -/

/-- A form of lengths: a field of fixed width whose number gives the length. It is read exactly for
the lengths in its range. -/
theorem readForm_eq_ok_iff (value form : Nat → Nat) (hform : ∀ n < high, form n < capacity width)
    (hvalue : ∀ bytes rest, bytes.length = width → input = bytes ++ rest →
      ∀ n, value (ofLittleEndian bytes) = n ↔ ofLittleEndian bytes = form n) :
    (do
      let (bytes, rest) ← readFixed width input
      inRange low high (value (ofLittleEndian bytes)) rest) = .ok (n, rest) ↔
    (low ≤ n ∧ n < high) ∧ input = littleEndian width (form n) ++ rest := by
  constructor
  · intro h
    obtain ⟨⟨bytes, mid⟩, hread, hrange⟩ := bind_eq_ok_iff.1 h
    obtain ⟨hlength, hinput⟩ := readFixed_eq_ok_iff.1 hread
    obtain ⟨hn, hlengthRead, rfl⟩ := inRange_eq_ok_iff.1 hrange
    have hnumber := (hvalue bytes mid hlength hinput n).1 hlengthRead
    rw [← (ofLittleEndian_eq_iff (hform n hn.2)).1 ⟨hlength, hnumber⟩]
    exact ⟨hn, hinput⟩
  · rintro ⟨hn, hinput⟩
    obtain ⟨hlength, hnumber⟩ := (ofLittleEndian_eq_iff (hform n hn.2)).2 rfl
    have hread := readFixed_eq_ok_iff.2 ⟨hlength, hinput⟩
    refine bind_eq_ok_iff.2 ⟨_, hread, inRange_eq_ok_iff.2 ⟨hn, ?_, rfl⟩⟩
    exact (hvalue _ rest hlength hinput n).2 hnumber

/-- The first byte has the two low bits of the number. -/
theorem ofLittleEndian_mod_four (b : UInt8) (bytes : List UInt8) :
    ofLittleEndian (b :: bytes) % 4 = b.toNat % 4 := by
  rw [ofLittleEndian]
  omega

/-- The forms that keep the length behind two low bits. -/
theorem readTagged_eq_ok_iff (hb : b.toNat % 4 = k) (hpos : 0 < width)
    (hhigh : 4 * high ≤ capacity width) :
    (do
      let (bytes, rest) ← readFixed width (b :: input)
      inRange low high (ofLittleEndian bytes / 4) rest) = .ok (n, rest) ↔
    (low ≤ n ∧ n < high) ∧ b :: input = littleEndian width (4 * n + k) ++ rest := by
  refine readForm_eq_ok_iff (· / 4) (4 * · + k) ?_ ?_
  · intro n hn
    omega
  · intro bytes rest hlength hinput n
    obtain ⟨b', bytes, rfl⟩ := List.exists_cons_of_length_pos (hlength ▸ hpos)
    obtain ⟨rfl, -⟩ := List.cons_eq_cons.1 hinput
    have hlow := ofLittleEndian_mod_four b bytes
    omega

/-- The form that keeps the length in a field of its own, behind a byte of 3. -/
theorem readUntagged_eq_ok_iff :
    (do
      let (bytes, rest) ← readFixed 4 input
      inRange 0x40000000 0x100000000 (ofLittleEndian bytes) rest) = .ok (n, rest) ↔
    (0x40000000 ≤ n ∧ n < 0x100000000) ∧ input = littleEndian 4 n ++ rest :=
  readForm_eq_ok_iff id id (fun _ h => h) fun _ _ _ _ _ => Iff.rfl

/-- The two low bits of the first byte that is written tell the form. -/
theorem mod_four_of_cons_eq (hk : k < 4)
    (h : b :: input = littleEndian (width + 1) (4 * n + k) ++ rest) : b.toNat % 4 = k := by
  obtain ⟨rfl, -⟩ := List.cons_eq_cons.1 h
  rw [UInt8.toNat_ofNat']
  omega

/-! ## Lengths -/

/-- A length takes one, two, four or five bytes. -/
theorem length_encodeLength (n : Nat) :
    (encodeLength n).length =
      if n < 0x40 then 1 else if n < 0x4000 then 2 else if n < 0x40000000 then 4 else 5 := by
  unfold encodeLength
  split
  · exact length_littleEndian ..
  · split
    · exact length_littleEndian ..
    · split
      · exact length_littleEndian ..
      · rw [List.length_cons, length_littleEndian]

theorem encodeLength_ne_nil (n : Nat) : encodeLength n ≠ [] := by
  rw [← List.length_pos_iff, length_encodeLength]
  split
  · decide
  · split
    · decide
    · split <;> decide

/-- How a length is read, form by form. -/
theorem decodeLength_cons (b : UInt8) (input : List UInt8) :
    decodeLength (b :: input) =
      match b.toNat % 4 with
      | 0 => .ok (b.toNat / 4, input)
      | 1 => do
        let (bytes, rest) ← readFixed 2 (b :: input)
        inRange 0x40 0x4000 (ofLittleEndian bytes / 4) rest
      | 2 => do
        let (bytes, rest) ← readFixed 4 (b :: input)
        inRange 0x4000 0x40000000 (ofLittleEndian bytes / 4) rest
      | _ =>
        if b.toNat = 3 then do
          let (bytes, rest) ← readFixed 4 input
          inRange 0x40000000 0x100000000 (ofLittleEndian bytes) rest
        else .error .badLength :=
  rfl

/-- What is read as a length is what is written for it. -/
theorem eq_encodeLength_of_decodeLength (h : decodeLength input = .ok (n, rest)) :
    n < 2 ^ 32 ∧ input = encodeLength n ++ rest := by
  cases input with
  | nil => cases h
  | cons b input =>
    rw [decodeLength_cons] at h
    split at h
    · next hb =>
      cases h
      have hlt := b.toNat_lt
      refine ⟨by omega, ?_⟩
      rw [encodeLength, if_pos (by omega), show 4 * (b.toNat / 4) = b.toNat by omega]
      simp [littleEndian]
    · next hb =>
      obtain ⟨⟨hlow, hhigh⟩, hinput⟩ := (readTagged_eq_ok_iff hb (by decide) (by decide)).1 h
      refine ⟨by omega, hinput.trans ?_⟩
      rw [encodeLength, if_neg (by omega), if_pos hhigh]
    · next hb =>
      obtain ⟨⟨hlow, hhigh⟩, hinput⟩ := (readTagged_eq_ok_iff hb (by decide) (by decide)).1 h
      refine ⟨by omega, hinput.trans ?_⟩
      rw [encodeLength, if_neg (by omega), if_neg (by omega), if_pos hhigh]
    · split at h
      · next hb =>
        obtain ⟨⟨hlow, hhigh⟩, rfl⟩ := readUntagged_eq_ok_iff.1 h
        have hthree : b = 3 := UInt8.toNat_inj.1 hb
        refine ⟨hhigh, ?_⟩
        rw [encodeLength, if_neg (by omega), if_neg (by omega), if_neg (by omega), hthree]
        rfl
      · cases h

/-- What is written for a length is read back. -/
theorem decodeLength_encodeLength (hn : n < 2 ^ 32) (rest : List UInt8) :
    decodeLength (encodeLength n ++ rest) = .ok (n, rest) := by
  obtain ⟨b, input, hinput⟩ :=
    List.exists_cons_of_ne_nil (List.append_ne_nil_of_left_ne_nil (encodeLength_ne_nil n) rest)
  rw [hinput, decodeLength_cons]
  replace hinput := hinput.symm
  unfold encodeLength at hinput
  split at hinput
  · next hlt =>
    rw [mod_four_of_cons_eq (k := 0) (by decide) hinput]
    obtain ⟨rfl, rfl⟩ := List.cons_eq_cons.1 hinput
    rw [UInt8.toNat_ofNat', show 4 * n % 256 % 2 ^ 8 / 4 = n by omega]
    rfl
  · split at hinput
    · next hge hlt =>
      have hb := mod_four_of_cons_eq (by decide) hinput
      rw [hb]
      exact (readTagged_eq_ok_iff hb (by decide) (by decide)).2 ⟨by omega, hinput⟩
    · split at hinput
      · next hge hlt =>
        have hb := mod_four_of_cons_eq (by decide) hinput
        rw [hb]
        exact (readTagged_eq_ok_iff hb (by decide) (by decide)).2 ⟨by omega, hinput⟩
      · next hge =>
        obtain ⟨rfl, rfl⟩ := List.cons_eq_cons.1 hinput
        exact readUntagged_eq_ok_iff.2 ⟨⟨by omega, hn⟩, rfl⟩

/-- **A length is read exactly from what is written for it.** -/
theorem decodeLength_eq_ok_iff :
    decodeLength input = .ok (n, rest) ↔ n < 2 ^ 32 ∧ input = encodeLength n ++ rest := by
  refine ⟨eq_encodeLength_of_decodeLength, ?_⟩
  rintro ⟨hn, rfl⟩
  exact decodeLength_encodeLength hn rest

/-! ## Spellings -/

/-- The spellings of a length: it can be put into every form that has room for it. -/
inductive Spells (n : Nat) : List UInt8 → Prop
  | one (room : n < 0x40) : Spells n (littleEndian 1 (4 * n))
  | two (room : n < 0x4000) : Spells n (littleEndian 2 (4 * n + 1))
  | four (room : n < 0x40000000) : Spells n (littleEndian 4 (4 * n + 2))
  | five (room : n < 0x100000000) : Spells n (3 :: littleEndian 4 n)

theorem spells_encodeLength (hn : n < 2 ^ 32) : Spells n (encodeLength n) := by
  unfold encodeLength
  split
  · next room => exact .one room
  · split
    · next room => exact .two room
    · split
      · next room => exact .four room
      · exact .five hn

/-- What is written is the shortest spelling. -/
theorem Spells.length_encodeLength_le {spelling : List UInt8} (h : Spells n spelling) :
    (encodeLength n).length ≤ spelling.length := by
  rw [length_encodeLength]
  cases h with
  | one room =>
    refine Nat.le_of_eq ?_
    rw [if_pos room, length_littleEndian]
  | two room =>
    rw [if_pos room, length_littleEndian]
    split <;> decide
  | four room =>
    rw [if_pos room, length_littleEndian]
    split
    · decide
    · split <;> decide
  | five room =>
    rw [List.length_cons, length_littleEndian]
    split
    · decide
    · split
      · decide
      · split <;> decide

/-- A field whose number is below the range of its form is refused. -/
theorem readForm_eq_error (value : Nat → Nat) {number : Nat} (hnumber : number < capacity width)
    (hlow : value number < low) :
    (do
      let (bytes, rest) ← readFixed width (littleEndian width number ++ rest)
      inRange low high (value (ofLittleEndian bytes)) rest) = .error .badLength := by
  obtain ⟨hlength, hread⟩ := (ofLittleEndian_eq_iff hnumber).2 rfl
  rw [readFixed_eq_ok_iff.2 ⟨hlength, rfl⟩]
  show inRange low high (value (ofLittleEndian (littleEndian width number))) rest = _
  rw [hread, inRange, if_neg (by omega)]

/-- A tagged form is refused for lengths that a shorter form has room for. -/
theorem decodeLength_tagged_eq_error
    (h : k = 1 ∧ width = 1 ∧ n < 0x40 ∨ k = 2 ∧ width = 3 ∧ n < 0x4000) (rest : List UInt8) :
    decodeLength (littleEndian (width + 1) (4 * n + k) ++ rest) = .error .badLength := by
  obtain ⟨b, input, hinput⟩ :
      ∃ b input, b :: input = littleEndian (width + 1) (4 * n + k) ++ rest := ⟨_, _, rfl⟩
  rw [← hinput, decodeLength_cons]
  rcases h with ⟨rfl, rfl, hlow⟩ | ⟨rfl, rfl, hlow⟩
  · rw [mod_four_of_cons_eq (by decide) hinput, hinput]
    refine readForm_eq_error (· / 4) ?_ ?_
    · show 4 * n + 1 < 0x10000
      omega
    · omega
  · rw [mod_four_of_cons_eq (by decide) hinput, hinput]
    refine readForm_eq_error (· / 4) ?_ ?_
    · show 4 * n + 2 < 0x100000000
      omega
    · omega

/-- **Only the shortest spelling of a length is read.** -/
theorem decodeLength_of_spells {spelling : List UInt8} (h : Spells n spelling)
    (rest : List UInt8) :
    decodeLength (spelling ++ rest) =
      if spelling = encodeLength n then .ok (n, rest) else .error .badLength := by
  split
  · next heq =>
    have hn : n < 2 ^ 32 := by cases h <;> omega
    rw [heq, decodeLength_encodeLength hn]
  · next hne =>
    cases h with
    | one room => exact absurd (by rw [encodeLength, if_pos room]) hne
    | two room =>
      have hlow : n < 0x40 := by
        refine Nat.lt_of_not_le fun hle => hne ?_
        rw [encodeLength, if_neg (by omega), if_pos room]
      exact decodeLength_tagged_eq_error (Or.inl ⟨rfl, rfl, hlow⟩) rest
    | four room =>
      have hlow : n < 0x4000 := by
        refine Nat.lt_of_not_le fun hle => hne ?_
        rw [encodeLength, if_neg (by omega), if_neg (by omega), if_pos room]
      exact decodeLength_tagged_eq_error (Or.inr ⟨rfl, rfl, hlow⟩) rest
    | five room =>
      have hlow : n < 0x40000000 := by
        refine Nat.lt_of_not_le fun hle => hne ?_
        rw [encodeLength, if_neg (by omega), if_neg (by omega), if_neg (by omega)]
      show decodeLength (3 :: (littleEndian 4 n ++ rest)) = _
      rw [decodeLength_cons]
      exact readForm_eq_error id (Nat.lt_trans hlow (by decide)) hlow

end TrustSchema.Wire
