import TrustSchema.Certificate.Basic
import TrustSchema.Proofs.Wire.Canonical

/-!
# Packets have one binary form

Names, signature infos, data packets and the contents of certificates are canonical: the bytes that
are read as such a value are just those that are written for it. So writing and reading are a
bijection between the values that fit and the byte strings that are accepted
(`Data.binaryForm_exact`).

A value fits if everything in it does that has a length on the wire, and if its times fit 64 bits.
-/

namespace TrustSchema

open Wire

/-! ## Values that fit -/

/-- A name whose components can be written: their number and their lengths are below 2^32. -/
structure Name.Fits (n : Name) : Prop where
  count_lt : n.components.length < 2 ^ 32
  length_lt : ∀ c ∈ n.components, c.bytes.length < 2 ^ 32

/-- A signature info whose key locator, if there is one, can be written. -/
def SignatureInfo.Fits (info : SignatureInfo) : Prop := ∀ n ∈ info.keyLocator, n.Fits

/-- A data packet of which all that its signature covers can be written. -/
structure Data.PortionFits (d : Data) : Prop where
  name : d.name.Fits
  content : d.content.length < 2 ^ 32
  info : d.signature.info.Fits

/-- A data packet that can be written. -/
structure Data.Fits (d : Data) : Prop extends d.PortionFits where
  value : d.signature.value.length < 2 ^ 32

/-- The content of a certificate that can be written: the times are signed integers of 64 bits. -/
structure CertificateContent.Fits (c : CertificateContent) : Prop where
  notBefore : -2 ^ 63 ≤ c.notBefore ∧ c.notBefore < 2 ^ 63
  notAfter : -2 ^ 63 ≤ c.notAfter ∧ c.notAfter < 2 ^ 63
  bits : c.publicKey.bits.length < 2 ^ 32

/-! ## Their formats -/

theorem Component.canonical_format :
    Component.format.Canonical fun c => c.bytes.length < 2 ^ 32 := by
  refine (Format.canonical_bytes.inside (.position "Component" 0)).map ?_ ?_
  · intro bytes hbytes
    exact ⟨hbytes, rfl⟩
  · intro c hc
    exact ⟨hc, rfl⟩

theorem Name.canonical_format : Name.format.Canonical Name.Fits := by
  refine (Component.canonical_format.list.inside (.field "Name" "components")).map ?_ ?_
  · rintro components ⟨hcount, hlength⟩
    exact ⟨⟨hcount, hlength⟩, rfl⟩
  · intro n hn
    exact ⟨⟨hn.count_lt, hn.length_lt⟩, rfl⟩

theorem SignatureType.mem_all (t : SignatureType) : t ∈ SignatureType.all := by
  cases t <;> decide

theorem SignatureType.canonical_format : SignatureType.format.Canonical (· ∈ all) :=
  Format.canonical_enumeration "SignatureType" (by decide) (by decide)

theorem SignatureInfo.canonical_format : SignatureInfo.format.Canonical SignatureInfo.Fits := by
  have htype := SignatureType.canonical_format.inside (.field "SignatureInfo" "signature_type")
  have hlocator := Name.canonical_format.option.inside (.field "SignatureInfo" "key_locator")
  refine (htype.pair hlocator).map ?_ ?_
  · rintro ⟨t, locator⟩ ⟨-, hlocator⟩
    exact ⟨hlocator, rfl⟩
  · intro info hinfo
    exact ⟨⟨info.signatureType.mem_all, hinfo⟩, rfl⟩

theorem Signature.canonical_format :
    Signature.format.Canonical fun s => s.info.Fits ∧ s.value.length < 2 ^ 32 := by
  have hinfo := SignatureInfo.canonical_format.inside (.field "Signature" "info")
  have hvalue := Format.canonical_bytes.inside (.field "Signature" "value")
  refine (hinfo.pair hvalue).map ?_ ?_
  · rintro ⟨info, value⟩ h
    exact ⟨h, rfl⟩
  · intro s hs
    exact ⟨hs, rfl⟩

theorem Data.canonical_format : Data.format.Canonical Data.Fits := by
  have hname := Name.canonical_format.inside (.field "Data" "name")
  have hcontent := Format.canonical_bytes.inside (.field "Data" "content")
  have hsignature := Signature.canonical_format.inside (.field "Data" "signature")
  refine (hname.pair (hcontent.pair hsignature)).map ?_ ?_
  · rintro ⟨name, content, signature⟩ ⟨hname, hcontent, hinfo, hvalue⟩
    exact ⟨⟨⟨hname, hcontent, hinfo⟩, hvalue⟩, rfl⟩
  · intro d hd
    exact ⟨⟨hd.name, hd.content, hd.info, hd.value⟩, rfl⟩

theorem KeyType.mem_all (t : KeyType) : t ∈ KeyType.all := by
  cases t <;> decide

theorem KeyType.canonical_format : KeyType.format.Canonical (· ∈ all) :=
  Format.canonical_enumeration "KeyType" (by decide) (by decide)

theorem PublicKey.canonical_format :
    PublicKey.format.Canonical fun k => k.bits.length < 2 ^ 32 := by
  have htype := KeyType.canonical_format.inside (.field "PublicKey" "key_type")
  have hbits := Format.canonical_bytes.inside (.field "PublicKey" "bits")
  refine (htype.pair hbits).map ?_ ?_
  · rintro ⟨t, bits⟩ ⟨-, hbits⟩
    exact ⟨hbits, rfl⟩
  · intro k hk
    exact ⟨⟨k.keyType.mem_all, hk⟩, rfl⟩

theorem CertificateContent.canonical_format :
    CertificateContent.format.Canonical CertificateContent.Fits := by
  have hbefore := Format.canonical_signed64.inside (.field "CertificateContent" "not_before")
  have hafter := Format.canonical_signed64.inside (.field "CertificateContent" "not_after")
  have hkey := PublicKey.canonical_format.inside (.field "CertificateContent" "public_key")
  refine (hbefore.pair (hafter.pair hkey)).map ?_ ?_
  · rintro ⟨notBefore, notAfter, key⟩ ⟨hbefore, hafter, hbits⟩
    exact ⟨⟨hbefore, hafter, hbits⟩, rfl⟩
  · intro c hc
    exact ⟨⟨hc.notBefore, hc.notAfter, hc.bits⟩, rfl⟩

/-! ## Whole values -/

/-- A signature info cannot begin with a byte that stands for no algorithm. -/
theorem SignatureInfo.ofBytes_eq_unknownCase {tag : UInt8} (htag : 3 ≤ tag.toNat)
    (rest : List UInt8) :
    SignatureInfo.ofBytes (tag :: rest) =
      .error (.inside (.field "SignatureInfo" "signature_type")
        (.unknownCase "SignatureType")) := by
  have hcases : SignatureType.all.length ≤ tag.toNat := htag
  have htype : SignatureType.format.decode (tag :: rest) = .error (.unknownCase "SignatureType") :=
    Format.decode_enumeration_eq_error "SignatureType" hcases rest
  simp only [ofBytes, Format.decodeAll, format, Format.map, Format.pair, Format.inside, htype]
  rfl

/-- Whether a signature info has a key locator is said by a byte 0 or 1. -/
theorem SignatureInfo.ofBytes_eq_badOptionTag (t : SignatureType) {tag : UInt8} (hzero : tag ≠ 0)
    (hone : tag ≠ 1) (rest : List UInt8) :
    SignatureInfo.ofBytes (SignatureType.format.encode t ++ tag :: rest) =
      .error (.inside (.field "SignatureInfo" "key_locator") .badOptionTag) := by
  have htype := (SignatureType.canonical_format _ t (tag :: rest)).2 ⟨t.mem_all, rfl⟩
  have hlocator : Name.format.option.decode (tag :: rest) = .error .badOptionTag :=
    Format.decode_option_eq_error hzero hone rest
  simp only [ofBytes, Format.decodeAll, format, Format.map, Format.pair, Format.inside, htype,
    Except.mapError, bind, Except.bind, hlocator]

/-- **The binary form is a bijection** between the values that fit and the byte strings that are
accepted, for data packets, names, signature infos and the contents of certificates: a byte string
is accepted as a value exactly if the value fits and the byte string is what is written for it.

So whatever else could be taken for such a value is refused. Of the spellings of a length only the
shortest one is read; it has one, two, four or five bytes. A byte that tells whether there is a
key locator is 0 or 1, one that tells the algorithm is below 3, and nothing may follow. -/
theorem Data.binaryForm_exact :
    (∀ (d : Data) (bytes : List UInt8),
      Data.ofBytes bytes = .ok d ↔ d.Fits ∧ bytes = d.toBytes) ∧
    (∀ (n : Name) (bytes : List UInt8),
      Name.format.decodeAll bytes = .ok n ↔ n.Fits ∧ bytes = n.encode) ∧
    (∀ (info : SignatureInfo) (bytes : List UInt8),
      SignatureInfo.ofBytes bytes = .ok info ↔ info.Fits ∧ bytes = info.encode) ∧
    (∀ (c : CertificateContent) (bytes : List UInt8),
      CertificateContent.ofBytes bytes = .ok c ↔ c.Fits ∧ bytes = c.encode) ∧
    (∀ n < 2 ^ 32, Spells n (encodeLength n)) ∧
    (∀ n spelling rest, Spells n spelling → (encodeLength n).length ≤ spelling.length ∧
      decodeLength (spelling ++ rest) =
        if spelling = encodeLength n then .ok (n, rest) else .error .badLength) ∧
    (∀ (t : SignatureType) (tag : UInt8) (rest : List UInt8), tag ≠ 0 → tag ≠ 1 →
      SignatureInfo.ofBytes (SignatureType.format.encode t ++ tag :: rest) =
        .error (.inside (.field "SignatureInfo" "key_locator") .badOptionTag)) ∧
    (∀ (tag : UInt8) (rest : List UInt8), 3 ≤ tag.toNat →
      SignatureInfo.ofBytes (tag :: rest) =
        .error (.inside (.field "SignatureInfo" "signature_type")
          (.unknownCase "SignatureType"))) ∧
    (∀ (d : Data) (extra : List UInt8), d.Fits → extra ≠ [] →
      Data.ofBytes (d.toBytes ++ extra) = .error .leftOver) := by
  refine ⟨?_, ?_, ?_, ?_, fun n => spells_encodeLength, ?_, ?_, ?_, ?_⟩
  · intro d bytes
    exact Data.canonical_format.decodeAll_eq_ok_iff
  · intro n bytes
    exact Name.canonical_format.decodeAll_eq_ok_iff
  · intro info bytes
    exact SignatureInfo.canonical_format.decodeAll_eq_ok_iff
  · intro c bytes
    exact CertificateContent.canonical_format.decodeAll_eq_ok_iff
  · intro n spelling rest h
    exact ⟨h.length_encodeLength_le, decodeLength_of_spells h rest⟩
  · intro t tag rest hzero hone
    exact SignatureInfo.ofBytes_eq_badOptionTag t hzero hone rest
  · intro tag rest htag
    exact SignatureInfo.ofBytes_eq_unknownCase htag rest
  · intro d extra hd hextra
    exact Data.canonical_format.decodeAll_append_eq_error hd hextra

namespace Sample

/-- A data packet with a key locator. -/
def greeting : Data :=
  ⟨⟨[⟨[104]⟩, ⟨[]⟩]⟩, [1, 2, 3], ⟨⟨.ecdsaSha256, some ⟨[⟨[107, 49]⟩]⟩⟩, [7]⟩⟩

theorem greeting_portionFits : greeting.PortionFits where
  name := ⟨by decide, by decide⟩
  content := by decide
  info := by
    rintro _ ⟨⟩
    exact ⟨by decide, by decide⟩

/-- The packet is read back, but not with a byte behind it. The length 70 needs two bytes; the
length 5 is not read from two. A key locator behind a byte 2 and an algorithm of number 3 are not
read either. -/
theorem greeting_binaryForm :
    greeting.Fits ∧ Data.ofBytes greeting.toBytes = .ok greeting ∧
      Data.ofBytes (greeting.toBytes ++ [0]) = .error .leftOver ∧
      Spells 70 [0x19, 1] ∧ Spells 5 [0x15, 0] ∧ decodeLength [0x15, 0] = .error .badLength ∧
      SignatureInfo.ofBytes [2, 2] =
        .error (.inside (.field "SignatureInfo" "key_locator") .badOptionTag) ∧
      SignatureInfo.ofBytes [3, 0] =
        .error (.inside (.field "SignatureInfo" "signature_type")
          (.unknownCase "SignatureType")) := by
  have hfits : greeting.Fits := ⟨greeting_portionFits, by decide⟩
  have hspells : Spells 5 [0x15, 0] := .two (by decide)
  obtain ⟨hdata, -, -, -, hwritten, hlength, hoption, htype, htrailing⟩ := Data.binaryForm_exact
  refine ⟨hfits, (hdata greeting _).2 ⟨hfits, rfl⟩, htrailing greeting [0] hfits nofun,
    hwritten 70 (by decide), hspells, (hlength 5 [0x15, 0] [] hspells).2, ?_, ?_⟩
  · exact hoption .ecdsaSha256 2 [] (by decide) (by decide)
  · exact htype 3 [0] (by decide)

end Sample

end TrustSchema
