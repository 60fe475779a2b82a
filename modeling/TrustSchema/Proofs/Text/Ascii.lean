import TrustSchema.Text.Utf8

/-!
# ASCII within UTF-8

A byte below 128 stands for the character of this number and for nothing else
(`utf8_eq_cons_iff`). So what is written with such bytes alone has one text, and its characters can
be told from the bytes one by one (`utf8_eq_iff`).
-/

namespace TrustSchema.Text

theorem eq_ofUInt8_iff {c : Char} {b : UInt8} : c = Char.ofUInt8 b ↔ c.val.toNat = b.toNat := by
  rw [Char.ext_iff, ← UInt32.toNat_inj]
  exact Iff.of_eq (congrArg _ b.toNat_toUInt32)

/-- A character of ASCII is written as itself. -/
theorem utf8EncodeChar_of_le {c : Char} (hc : c.val.toNat ≤ 127) :
    String.utf8EncodeChar c = [UInt8.ofNat c.val.toNat] := by
  unfold String.utf8EncodeChar
  dsimp only
  rw [if_pos hc]

theorem utf8EncodeChar_ofUInt8 {b : UInt8} (hb : b.toNat < 128) :
    String.utf8EncodeChar (Char.ofUInt8 b) = [b] := by
  have hvalue : (Char.ofUInt8 b).val.toNat = b.toNat := eq_ofUInt8_iff.1 rfl
  rw [utf8EncodeChar_of_le (by omega), hvalue, UInt8.ofNat_toNat]

/-- Any other character is written with bytes above those of ASCII. -/
theorem le_of_mem_utf8EncodeChar {c : Char} (hc : 127 < c.val.toNat) :
    ∀ b ∈ String.utf8EncodeChar c, 128 ≤ b.toNat := by
  unfold String.utf8EncodeChar
  dsimp only
  rw [if_neg (by omega)]
  split
  · simp only [List.forall_mem_cons, UInt8.toNat_ofNat']
    exact ⟨by omega, by omega, nofun⟩
  · split
    · simp only [List.forall_mem_cons, UInt8.toNat_ofNat']
      exact ⟨by omega, by omega, by omega, nofun⟩
    · simp only [List.forall_mem_cons, UInt8.toNat_ofNat']
      exact ⟨by omega, by omega, by omega, by omega, nofun⟩

theorem exists_utf8EncodeChar_eq_cons (c : Char) :
    ∃ b bytes, String.utf8EncodeChar c = b :: bytes :=
  List.exists_cons_of_ne_nil String.utf8EncodeChar_ne_nil

section Bytes

variable {cs : List Char} {bytes : List UInt8}

/-- **A byte of ASCII stands for a character of its own.** -/
theorem utf8_eq_cons_iff {b : UInt8} (hb : b.toNat < 128) :
    utf8 cs = b :: bytes ↔ ∃ rest, cs = Char.ofUInt8 b :: rest ∧ utf8 rest = bytes := by
  constructor
  · intro h
    cases cs with
    | nil => cases h
    | cons c cs =>
      rw [utf8_cons] at h
      rcases Nat.lt_or_ge 127 c.val.toNat with hlt | hle'
      · obtain ⟨b', others, hc⟩ := exists_utf8EncodeChar_eq_cons c
        have hhigh := le_of_mem_utf8EncodeChar hlt b' (hc ▸ List.mem_cons_self)
        rw [hc] at h
        obtain ⟨rfl, -⟩ := List.cons.inj h
        omega
      · rw [utf8EncodeChar_of_le hle'] at h
        obtain ⟨rfl, rfl⟩ := List.cons.inj h
        have hc : c = Char.ofUInt8 (UInt8.ofNat c.val.toNat) :=
          eq_ofUInt8_iff.2 (by rw [UInt8.toNat_ofNat']; omega)
        exact ⟨cs, congrArg (· :: cs) hc, rfl⟩
  · rintro ⟨rest, rfl, rfl⟩
    rw [utf8_cons, utf8EncodeChar_ofUInt8 hb]
    rfl

theorem utf8_eq_nil_iff : utf8 cs = [] ↔ cs = [] := by
  constructor
  · intro h
    cases cs with
    | nil => rfl
    | cons c cs =>
      obtain ⟨b, others, hc⟩ := exists_utf8EncodeChar_eq_cons c
      rw [utf8_cons, hc] at h
      cases h
  · rintro rfl
    rfl

/-- **A text is written as bytes of ASCII exactly if its characters are these bytes.** -/
theorem utf8_eq_iff (hascii : ∀ b ∈ bytes, b.toNat < 128) :
    utf8 cs = bytes ↔ cs = bytes.map Char.ofUInt8 := by
  induction bytes generalizing cs with
  | nil => exact utf8_eq_nil_iff
  | cons b bytes ih =>
    obtain ⟨hb, hothers⟩ := List.forall_mem_cons.1 hascii
    rw [utf8_eq_cons_iff hb, List.map_cons]
    constructor
    · rintro ⟨rest, rfl, hrest⟩
      rw [(ih hothers).1 hrest]
    · rintro rfl
      exact ⟨_, rfl, (ih hothers).2 rfl⟩

end Bytes

end TrustSchema.Text
