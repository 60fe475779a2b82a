import TrustSchema.Certificate.Text
import TrustSchema.Proofs.Packet.Canonical
import TrustSchema.Proofs.Text.Armor

/-!
# Certificates have one text

A certificate is pinned by its text, in a configuration or in a file. It is read from its bare
Base64 form, in which white space may stand anywhere, and from nothing else
(`Certificate.ofBase64_eq_ok_iff`): no other filling, no other unused bits and no further bytes give
the same certificate. Its armored form is read back as well (`Certificate.ofText_toArmor`).

Every layer is exact by itself: white space is dropped, Base64 has one text for any bytes, and the
binary form of a packet is canonical. So they are exact together (`Certificate.textForms_exact`).
-/

namespace TrustSchema.Certificate

section Forms

variable {c : Certificate} {text : String}

/-- A certificate is read from the bytes of its packet only. -/
theorem ofBytes_eq_ok_iff (read : ofData c.data = .ok c) (fits : c.data.Fits)
    {bytes : List UInt8} : ofBytes bytes = .ok c ↔ bytes = c.data.toBytes := by
  unfold ofBytes
  constructor
  · intro h
    obtain ⟨d, hd, h⟩ := bind_eq_ok_iff.1 h
    rw [data_of_ofData (mapError_eq_ok_iff.1 h)]
    exact (Data.canonical_format.decodeAll_eq_ok_iff.1 (mapError_eq_ok_iff.1 hd)).2
  · rintro rfl
    have hd : Data.ofBytes c.data.toBytes = .ok c.data :=
      Data.canonical_format.decodeAll_eq_ok_iff.2 ⟨fits, rfl⟩
    exact bind_eq_ok_iff.2 ⟨c.data, mapError_eq_ok_iff.2 hd, mapError_eq_ok_iff.2 read⟩

/-- **A certificate is read from its bare form only**, wherever white space stands in it. -/
theorem ofBase64_eq_ok_iff (read : ofData c.data = .ok c) (fits : c.data.Fits) :
    ofBase64 text = .ok c ↔ Text.dropBlanks text.toList = c.toBase64.toList := by
  unfold ofBase64 toBase64
  rw [bind_eq_ok_iff, String.toList_ofList, ← Text.Base64.decode_utf8_eq_ok_iff]
  simp only [mapError_eq_ok_iff, ofBytes_eq_ok_iff read fits, exists_eq_right]

/-- A boundary has a dash in it, which is no white space. -/
theorem isArmored_eq_false (h : '-' ∉ Text.dropBlanks text.toList) : isArmored text = false := by
  cases harmored : isArmored text with
  | false => rfl
  | true =>
    have hboundary := (List.isPrefixOf_iff_prefix.1 harmored).subset (a := '-') (by decide)
    exact absurd (List.mem_filter.2 ⟨(List.dropWhile_suffix _).subset hboundary, rfl⟩) h

/-- The bare form is taken for what it is. -/
theorem ofText_of_dropBlanks_eq (h : Text.dropBlanks text.toList = c.toBase64.toList) :
    ofText text = ofBase64 text := by
  have hbare : isArmored text = false := by
    refine isArmored_eq_false fun hmem => ?_
    rw [h, toBase64, String.toList_ofList] at hmem
    exact (Text.Base64.not_blank_of_mem_encode _ _ hmem).2 rfl
  unfold ofText
  rw [if_neg (by simp [hbare])]

theorem isArmored_toArmor (c : Certificate) : isArmored c.toArmor := by
  obtain ⟨rest, htext⟩ : ∃ rest, c.toArmor.toList = "-----BEGIN".toList ++ rest := by
    unfold toArmor Text.Armor.encode Text.Armor.encode.boundary
    simp only [String.toList_ofList, String.toList_append, List.append_assoc]
    exact ⟨_, rfl⟩
  have htrim : Text.trimStart ("-----BEGIN".toList ++ rest) = "-----BEGIN".toList ++ rest :=
    List.dropWhile_cons_of_neg (by decide)
  unfold isArmored
  rw [htext, htrim]
  exact List.isPrefixOf_iff_prefix.2 (List.prefix_append _ _)

/-- **A certificate is read from its armored form.** -/
theorem ofText_toArmor (read : ofData c.data = .ok c) (fits : c.data.Fits) :
    ofText c.toArmor = .ok c := by
  have hne : armorTag ≠ "" := by decide
  have hdash : '-' ∉ armorTag.toList := by decide
  have hblock : Text.Armor.decode c.toArmor.toList = .ok ⟨armorTag, c.data.toBytes⟩ :=
    Text.Armor.decode_encode hne hdash
  unfold ofText
  rw [if_pos c.isArmored_toArmor, hblock]
  exact (ofBytes_eq_ok_iff read fits).2 rfl

end Forms

/-- **The text forms of a certificate are exact.** A certificate is read back from its armored form.
A text is read as the bare form of a certificate exactly if it is the one that is written for it,
with white space anywhere in it; and such a text is taken for no armored form. So two texts are the
bare form of one certificate only if they differ in white space. -/
theorem textForms_exact {c : Certificate} {d : Data} (read : ofData d = .ok c) (fits : d.Fits) :
    ofText c.toArmor = .ok c ∧
    (∀ text : String, ofBase64 text = .ok c ↔
      Text.dropBlanks text.toList = c.toBase64.toList) ∧
    (∀ text : String, Text.dropBlanks text.toList = c.toBase64.toList → ofText text = .ok c) ∧
    ∀ text text' : String, ofBase64 text = .ok c →
      (ofBase64 text' = .ok c ↔ Text.dropBlanks text'.toList = Text.dropBlanks text.toList) := by
  obtain rfl := data_of_ofData read
  have hbare : ∀ text : String, ofBase64 text = .ok c ↔
      Text.dropBlanks text.toList = c.toBase64.toList := fun _ => ofBase64_eq_ok_iff read fits
  refine ⟨ofText_toArmor read fits, hbare, fun text h => ?_, fun text text' h => ?_⟩
  · rw [ofText_of_dropBlanks_eq h]
    exact (hbare text).2 h
  · rw [hbare, (hbare text).1 h]

end TrustSchema.Certificate

namespace TrustSchema.Sample

/-- A certificate whose packet leaves one byte for the last group of Base64. -/
def keeper : Certificate :=
  ⟨⟨⟨[⟨[107]⟩, ⟨[1]⟩, ⟨[0]⟩]⟩, CertificateContent.encode ⟨0, 10, ⟨.ecdsa, [7, 8]⟩⟩,
    ⟨⟨.digestSha256, none⟩, []⟩⟩, ⟨.ecdsa, [7, 8]⟩, 0, 10⟩

theorem keeper_read : Certificate.ofData keeper.data = .ok keeper :=
  toOption_eq_some_iff.1 (by decide +kernel)

theorem keeper_fits : keeper.data.Fits where
  name := ⟨by decide, by decide⟩
  content := by decide +kernel
  info := nofun
  value := by decide

/-- The certificate is read from its text in two lines, but not from a text without the filling, nor
from one in which the last symbol has another bit. -/
theorem keeper_pinned :
    Certificate.ofData keeper.data = .ok keeper ∧ keeper.data.Fits ∧
      Certificate.ofText keeper.toArmor = .ok keeper ∧
      Certificate.ofText "DARrBAEEAFAAAAAAAAAA\r\n AAoAAAAAAAAAAAgHCAAAAA==\r\n" = .ok keeper ∧
      Certificate.ofBase64 "DARrBAEEAFAAAAAAAAAAAAoAAAAAAAAAAAgHCAAAAA" ≠ .ok keeper ∧
      Certificate.ofBase64 "DARrBAEEAFAAAAAAAAAAAAoAAAAAAAAAAAgHCAAAAB==" ≠ .ok keeper := by
  obtain ⟨harmor, hbare, htext, -⟩ := Certificate.textForms_exact keeper_read keeper_fits
  refine ⟨keeper_read, keeper_fits, harmor, htext _ (by decide +kernel), ?_, ?_⟩
  · rw [Ne, hbare]
    decide +kernel
  · rw [Ne, hbare]
    decide +kernel

end TrustSchema.Sample
