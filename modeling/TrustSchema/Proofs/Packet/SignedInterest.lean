import TrustSchema.Proofs.Name.Prefix
import TrustSchema.Proofs.Packet.SignedBytes

/-!
# Signed interests are taken apart exactly

An interest has no field for a signature. What signs it stands in the last two components of its
name, so the reader counts components from the end, decodes one of them, and takes the rest for the
signed name. This module shows that it finds what the signer put there and nothing else
(`SignedPacket.ofInterest_exact`).

Only two things matter about an interest: whether its name has two components to spare
(`SignedPacket.ofInterest_of_length_lt`), and, if so, what the last but one of them decodes to
(`SignedPacket.ofInterest_of_name_eq`). The converse rests on the signature info having one binary
form: a component that decodes to an info is what was written for it.
-/

namespace TrustSchema

open Wire

theorem Name.get?_neg_two_eq_none {n : Name} (h : n.length < 2) : n.get? (-2) = none :=
  Name.get?_eq_none_iff.2 (.inl (by omega))

namespace SignedPacket

variable {i : Interest} {n : Name} {info : SignatureInfo} {value : List UInt8} {p : SignedPacket}

/-! ## The two cases -/

theorem ofInterest_of_length_lt (h : i.name.length < 2) :
    ofInterest i = .error (.tooFewComponents i.name i.name.length) := by
  -- One of the two components is missing, so the signature cannot be read.
  have hsignature : i.signature = .error (.tooFewComponents i.name i.name.length) := by
    unfold Interest.signature
    rw [Name.get?_neg_two_eq_none h]
  rw [ofInterest, hsignature]
  rfl

/-- With two components to spare, everything depends on what the first of them decodes to. -/
theorem ofInterest_of_name_eq {c d : Component} (h : i.name = (n.push c).push d) :
    ofInterest i = match SignatureInfo.ofBytes c.bytes with
      | .ok info => .ok (.interest n ⟨info, d.bytes⟩)
      | .error reason => .error (.signatureInfo i.name reason) := by
  have hsigned : i.signedName = .ok n := by
    unfold Interest.signedName
    rw [h, if_neg (by simp), Name.take_neg_two_push_push]
  have hsignature : i.signature = match SignatureInfo.ofBytes c.bytes with
      | .ok info => .ok ⟨info, d.bytes⟩
      | .error reason => .error (.signatureInfo i.name reason) := by
    unfold Interest.signature
    rewrite [h, Name.get?_neg_two_push_push, Name.get?_neg_one_push]
    rfl
  rw [ofInterest, hsignature, hsigned]
  cases SignatureInfo.ofBytes c.bytes <;> rfl

/-! ## Success -/

theorem ofInterest_signed (hinfo : info.Fits) (sign : List UInt8 → List UInt8) :
    ofInterest (.signed n info sign) =
      .ok (.interest n ⟨info, sign (Interest.coveredName n info).encode⟩) := by
  have hread : SignatureInfo.ofBytes info.encode = .ok info :=
    SignatureInfo.canonical_format.decodeAll_eq_ok_iff.2 ⟨hinfo, rfl⟩
  rw [ofInterest_of_name_eq (i := .signed n info sign) rfl, hread]

/-- Only what was signed is taken apart, and into what it was signed as. -/
theorem ofInterest_eq_ok_iff :
    ofInterest i = .ok p ↔ ∃ n info value, info.Fits ∧ i = .signed n info (fun _ => value) ∧
      p = .interest n ⟨info, value⟩ := by
  constructor
  · intro h
    obtain ⟨n, s, rfl, hname, hfits⟩ := Interest.exists_of_ofInterest h
    refine ⟨n, s.info, s.value, hfits, ?_, rfl⟩
    calc i = ⟨i.name⟩ := rfl
      _ = ⟨Interest.fullName n s⟩ := by rw [hname]
  · rintro ⟨n, info, value, hfits, rfl, rfl⟩
    exact ofInterest_signed hfits _

/-! ## Failure -/

/-- A signature info that cannot be read is no encoding of one. -/
theorem exists_ofBytes_eq_error_iff {bytes : List UInt8} :
    (∃ reason, SignatureInfo.ofBytes bytes = .error reason) ↔
      ¬∃ info : SignatureInfo, info.Fits ∧ bytes = info.encode := by
  have hread : ∀ info, SignatureInfo.ofBytes bytes = .ok info ↔ info.Fits ∧ bytes = info.encode :=
    fun info => SignatureInfo.canonical_format.decodeAll_eq_ok_iff
  simp only [← hread]
  cases SignatureInfo.ofBytes bytes <;> simp

theorem ofInterest_eq_tooFewComponents_iff :
    ofInterest i = .error (.tooFewComponents i.name i.name.length) ↔ i.name.length < 2 := by
  refine ⟨fun h => ?_, ofInterest_of_length_lt⟩
  by_contra hlength
  obtain ⟨n, c, d, hname, -⟩ := Interest.exists_parts (Nat.le_of_not_lt hlength)
  rw [ofInterest_of_name_eq hname] at h
  cases hread : SignatureInfo.ofBytes c.bytes with
  | ok info =>
    rw [hread] at h
    cases h
  | error reason =>
    rw [hread] at h
    cases h

theorem ofInterest_eq_signatureInfo_iff :
    (∃ reason, ofInterest i = .error (.signatureInfo i.name reason)) ↔
      ∃ c, i.name.get? (-2) = some c ∧
        ¬∃ info : SignatureInfo, info.Fits ∧ c.bytes = info.encode := by
  rcases Nat.lt_or_ge i.name.length 2 with hlt | hge
  · rw [ofInterest_of_length_lt hlt, Name.get?_neg_two_eq_none hlt]
    simp
  · obtain ⟨n, c, d, hname, -, hinfo, -⟩ := Interest.exists_parts hge
    rw [ofInterest_of_name_eq hname, hinfo]
    simp only [Option.some.injEq, exists_eq_left', ← exists_ofBytes_eq_error_iff]
    cases SignatureInfo.ofBytes c.bytes <;> simp

theorem ofInterest_eq_error {e : InterestError} (h : ofInterest i = .error e) :
    e = .tooFewComponents i.name i.name.length ∨ ∃ reason, e = .signatureInfo i.name reason := by
  rcases Nat.lt_or_ge i.name.length 2 with hlt | hge
  · rw [ofInterest_of_length_lt hlt] at h
    cases h
    exact Or.inl rfl
  · obtain ⟨n, c, d, hname, -⟩ := Interest.exists_parts hge
    rw [ofInterest_of_name_eq hname] at h
    split at h
    · cases h
    · next reason _ =>
      cases h
      exact Or.inr ⟨reason, rfl⟩

/-! ## Both ways -/

/-- **A signed interest is taken apart exactly.**

- What is read of an interest is what was signed: the name, the signature info, the value that the
  signer returned, and as signed bytes those that the signer was given. The name may hold any
  components, empty ones included; only the info has to be one that can be written.
- Nothing else is read: a packet is read of an interest exactly if the interest is what signing
  these parts gives, and the parts are then the only ones.
- Where nothing is read, there are fewer than two components, or the last but one is not the whole
  encoding of a signature info. Each has an error of its own. -/
theorem ofInterest_exact :
    (∀ n info sign, SignatureInfo.Fits info → ∃ p,
      ofInterest (.signed n info sign) = .ok p ∧ p.kind = .interest ∧ p.signedName = n ∧
        p.signature = ⟨info, sign p.signedBytes⟩ ∧
        p.signedBytes = (Interest.coveredName n info).encode ∧
        p.signedBytes = (Interest.signed n info sign).signedBytes ∧
        p.name = (Interest.signed n info sign).name) ∧
    (∀ i p, ofInterest i = .ok p ↔ ∃ n info value, SignatureInfo.Fits info ∧
      i = .signed n info (fun _ => value) ∧ p = .interest n ⟨info, value⟩) ∧
    (∀ n info value n' info' value', SignatureInfo.Fits info → SignatureInfo.Fits info' →
      Interest.signed n info (fun _ => value) = .signed n' info' (fun _ => value') →
        n = n' ∧ info = info' ∧ value = value') ∧
    (∀ i, ofInterest i = .error (.tooFewComponents i.name i.name.length) ↔ i.name.length < 2) ∧
    (∀ i, (∃ reason, ofInterest i = .error (.signatureInfo i.name reason)) ↔
      ∃ c, i.name.get? (-2) = some c ∧
        ¬∃ info : SignatureInfo, info.Fits ∧ c.bytes = info.encode) ∧
    (∀ i e, ofInterest i = .error e →
      e = .tooFewComponents i.name i.name.length ∨ ∃ reason, e = .signatureInfo i.name reason) := by
  refine ⟨?_, fun i p => ofInterest_eq_ok_iff, ?_, fun i => ofInterest_eq_tooFewComponents_iff,
    fun i => ofInterest_eq_signatureInfo_iff, fun i e => ofInterest_eq_error⟩
  · intro n info sign hinfo
    have hread := ofInterest_signed (n := n) hinfo sign
    exact ⟨_, hread, rfl, rfl, rfl, rfl, signedBytes_of_ofInterest hread, rfl⟩
  · intro n info value n' info' value' hinfo hinfo' heq
    -- Both are read of the same interest.
    have hread := ofInterest_signed (n := n) hinfo fun _ => value
    rw [heq, ofInterest_signed hinfo'] at hread
    cases hread
    exact ⟨rfl, rfl, rfl⟩

end SignedPacket

namespace Sample

/-- A signature info with a key locator. -/
def plea : SignatureInfo := ⟨.ecdsaSha256, some ⟨[⟨[107]⟩, ⟨[]⟩]⟩⟩

theorem plea_fits : plea.Fits := by
  rintro _ ⟨⟩
  exact ⟨by decide, by decide⟩

/-- A name that ends with an empty component is signed with the very bytes that are to be signed;
they come back. With a byte too many in the info, or without the name and the value, nothing is
read. -/
theorem plea_read :
    plea.Fits ∧
      (∃ p, SignedPacket.ofInterest (.signed ⟨[⟨[97]⟩, ⟨[]⟩]⟩ plea id) = .ok p ∧
        p.signedName = ⟨[⟨[97]⟩, ⟨[]⟩]⟩ ∧ p.signature = ⟨plea, p.signedBytes⟩) ∧
      (∃ reason, SignedPacket.ofInterest ⟨⟨[⟨plea.encode ++ [0]⟩, ⟨[7]⟩]⟩⟩ =
        .error (.signatureInfo ⟨[⟨plea.encode ++ [0]⟩, ⟨[7]⟩]⟩ reason)) ∧
      SignedPacket.ofInterest ⟨⟨[⟨plea.encode⟩]⟩⟩ =
        .error (.tooFewComponents ⟨[⟨plea.encode⟩]⟩ 1) := by
  obtain ⟨hsigned, -, -, hfew, hinfo, -⟩ := SignedPacket.ofInterest_exact
  refine ⟨plea_fits, ?_, ?_, ?_⟩
  · obtain ⟨p, hread, -, hname, hsignature, -⟩ := hsigned ⟨[⟨[97]⟩, ⟨[]⟩]⟩ plea id plea_fits
    exact ⟨p, hread, hname, hsignature⟩
  · refine (hinfo _).2 ⟨_, rfl, ?_⟩
    rintro ⟨info, hfits, hbytes⟩
    -- What is written for an info is read as it; with a byte behind it, it is left over.
    have hread : SignatureInfo.ofBytes (plea.encode ++ [0]) = .error .leftOver :=
      SignatureInfo.canonical_format.decodeAll_append_eq_error plea_fits nofun
    rw [show plea.encode ++ [0] = info.encode from hbytes,
      show SignatureInfo.ofBytes info.encode = .ok info from
        SignatureInfo.canonical_format.decodeAll_eq_ok_iff.2 ⟨hfits, rfl⟩] at hread
    cases hread
  · exact (hfew ⟨⟨[⟨plea.encode⟩]⟩⟩).2 (by decide)

end Sample

end TrustSchema
