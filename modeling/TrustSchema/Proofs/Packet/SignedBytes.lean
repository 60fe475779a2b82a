import TrustSchema.Packet.Signed
import TrustSchema.Proofs.Packet.Canonical

/-!
# What a signature covers

A signature covers bytes, and what it says is about a packet. The signed bytes of a data packet are
three values one after the other with nothing between them, those of an interest are a name. This
module shows that they determine all of the packet but the value of the signature, and that no data
packet has the signed bytes of an interest (`SignedPacket.signedBytes_unambiguous`).

The names come first in both cases. Where a name ends can be told from the bytes
(`Wire.Format.Canonical.encode_append_inj`), so equal signed bytes begin with equal names, and what
follows is equal as well. It is empty for an interest, and never for a data packet.
-/

namespace TrustSchema

open Wire

/-! ## Names -/

section Name

variable {m n : Name} {a b : Component}

theorem Name.push_inj : m.push a = n.push b ↔ m = n ∧ a = b := by
  constructor
  · intro h
    obtain ⟨hcomponents, hlast⟩ := List.append_inj' (Name.mk.inj h) rfl
    exact ⟨congrArg Name.mk hcomponents, List.singleton_inj.1 hlast⟩
  · rintro ⟨rfl, rfl⟩
    rfl

theorem Name.exists_eq_push (h : 0 < n.length) : ∃ (m : Name) (a : Component), n = m.push a := by
  have hne : n.components ≠ [] := List.length_pos_iff.1 h
  refine ⟨n.parent, n.components.getLast hne, ?_⟩
  exact congrArg Name.mk (List.dropLast_append_getLast hne).symm

@[simp] theorem Name.length_push : (n.push a).length = n.length + 1 := by
  simp [Name.length, Name.push]

@[simp] theorem Name.take_neg_two_push_push : ((n.push a).push b).take (-2) = n := by
  simp [Name.take, Name.clampedCount, Name.length, Name.push]

@[simp] theorem Name.get?_neg_two_push_push : ((n.push a).push b).get? (-2) = some a := by
  simp [Name.get?, Name.length, Name.push]

@[simp] theorem Name.get?_neg_one_push : (n.push a).get? (-1) = some a := by
  simp [Name.get?, Name.length, Name.push]

theorem Name.Fits.parent (h : n.Fits) : n.parent.Fits where
  count_lt := Nat.lt_of_le_of_lt (by simp [Name.parent]) h.count_lt
  length_lt c hc := h.length_lt c (List.dropLast_subset n.components hc)

theorem Name.Fits.of_push (h : (n.push a).Fits) : n.Fits := by
  rw [← Name.parent_push n a]
  exact h.parent

theorem Name.encode_append_inj {x y : List UInt8} (hm : m.Fits) (hn : n.Fits)
    (h : m.encode ++ x = n.encode ++ y) : m = n ∧ x = y :=
  Name.canonical_format.encode_append_inj hm hn h

theorem Name.encode_inj (hm : m.Fits) (hn : n.Fits) (h : m.encode = n.encode) : m = n :=
  Name.canonical_format.encode_inj hm hn h

end Name

/-! ## Data packets -/

/-- The signed bytes of a data packet determine its name, its content and its signature info. -/
theorem Data.signedBytes_inj {a b : Data} (ha : a.PortionFits) (hb : b.PortionFits)
    (h : a.signedBytes = b.signedBytes) :
    a.name = b.name ∧ a.content = b.content ∧ a.signature.info = b.signature.info := by
  unfold signedBytes signedPortion at h
  rw [List.append_assoc, List.append_assoc] at h
  -- Each part ends at the same place in both, so the next one begins there as well.
  obtain ⟨hname, h⟩ := Name.encode_append_inj ha.name hb.name h
  obtain ⟨hcontent, h⟩ := Format.canonical_bytes.encode_append_inj ha.content hb.content h
  exact ⟨hname, hcontent, SignatureInfo.canonical_format.encode_inj ha.info hb.info h⟩

/-- More than the name is signed of a data packet. -/
theorem Data.signedBytes_ne_encode {d : Data} (hd : d.PortionFits) {n : Name} (hn : n.Fits) :
    d.signedBytes ≠ n.encode := by
  intro h
  unfold signedBytes signedPortion at h
  rw [List.append_assoc, ← List.append_nil n.encode] at h
  -- Behind the name there is at least the length of the content, but nothing behind `n`.
  obtain ⟨-, hempty⟩ := Name.encode_append_inj hd.name hn h
  have hcontent := (List.append_eq_nil_iff.1 hempty).1
  exact encodeLength_ne_nil _ (List.append_eq_nil_iff.1 hcontent).1

/-! ## Interests -/

namespace Interest

variable {i : Interest} {n : Name} {s : Signature}

/-- An interest with two components takes apart into the signed name, the component with the
signature info and the one with the signature value. -/
theorem exists_parts (h : 2 ≤ i.name.length) : ∃ (n : Name) (info value : Component),
    i.name = (n.push info).push value ∧ i.signedName = .ok n ∧ i.name.get? (-2) = some info ∧
      i.signedBytes = (n.push info).encode := by
  obtain ⟨m, value, hname⟩ := Name.exists_eq_push (Nat.lt_of_lt_of_le Nat.two_pos h)
  rw [hname, Name.length_push] at h
  obtain ⟨n, info, rfl⟩ := Name.exists_eq_push (Nat.lt_of_succ_le (Nat.le_of_succ_le_succ h))
  refine ⟨n, info, value, hname, ?_, ?_, ?_⟩
  · unfold signedName
    rw [hname, if_neg (by simp), Name.take_neg_two_push_push]
  · rw [hname, Name.get?_neg_two_push_push]
  · rw [signedBytes, hname, Name.parent_push]

/-- An interest is put together again from what is read of it. -/
theorem exists_of_ofInterest {p : SignedPacket} (h : SignedPacket.ofInterest i = .ok p) :
    ∃ n s, p = .interest n s ∧ i.name = fullName n s ∧ s.info.Fits := by
  obtain ⟨s, hsignature, h⟩ := bind_eq_ok_iff.1 h
  obtain ⟨n, hname, h⟩ := bind_eq_ok_iff.1 h
  cases h
  refine ⟨n, s, rfl, ?_⟩
  have htwo : 2 ≤ i.name.length := by
    unfold signedName at hname
    split at hname
    · cases hname
    · next hlt => exact Nat.le_of_not_lt hlt
  obtain ⟨m, info, value, hparts, hsigned, -, -⟩ := exists_parts htwo
  obtain rfl : n = m := Except.ok.inj (hname.symm.trans hsigned)
  unfold signature at hsignature
  rw [hparts, Name.get?_neg_two_push_push, Name.get?_neg_one_push] at hsignature
  dsimp only at hsignature
  split at hsignature
  · next info' hinfo =>
    cases hsignature
    obtain ⟨hfits, hbytes⟩ := SignatureInfo.canonical_format.decodeAll_eq_ok_iff.1 hinfo
    refine ⟨?_, hfits⟩
    rw [hparts, fullName, coveredName, SignatureInfo.encode, ← hbytes]
  · cases hsignature

end Interest

/-! ## Signed packets -/

/-- A packet of which all that its signature covers can be written. -/
def Packet.PortionFits : Packet → Prop
  | .data d => d.PortionFits
  | .interest i => i.name.Fits

namespace SignedPacket

/-- The packet with another signature value. -/
def withValue (value : List UInt8) : SignedPacket → SignedPacket
  | .data d => .data { d with signature := ⟨d.signature.info, value⟩ }
  | .interest signedName signature => .interest signedName ⟨signature.info, value⟩

/-- What a verifier is given for an interest are the signed bytes of the interest: a name. -/
theorem exists_signedBytes_eq_encode {i : Interest} {p : SignedPacket} (hi : i.name.Fits)
    (h : ofInterest i = .ok p) :
    ∃ n s, p = .interest n s ∧ s.info.Fits ∧ (Interest.coveredName n s.info).Fits ∧
      p.signedBytes = (Interest.coveredName n s.info).encode := by
  obtain ⟨n, s, rfl, hname, hinfo⟩ := Interest.exists_of_ofInterest h
  rw [hname] at hi
  exact ⟨n, s, rfl, hinfo, hi.of_push, rfl⟩

theorem signedBytes_of_ofInterest {i : Interest} {p : SignedPacket} (h : ofInterest i = .ok p) :
    p.signedBytes = i.signedBytes := by
  obtain ⟨n, s, rfl, hname, -⟩ := Interest.exists_of_ofInterest h
  rw [Interest.signedBytes, hname, Interest.fullName, Name.parent_push]
  rfl

/-- Packets with equal signed bytes are equal but for the value of the signature. -/
theorem withValue_eq_of_signedBytes_eq {a b : Packet} {p q : SignedPacket} (ha : a.PortionFits)
    (hb : b.PortionFits) (hp : ofPacket a = .ok p) (hq : ofPacket b = .ok q)
    (h : p.signedBytes = q.signedBytes) (value : List UInt8) :
    p.withValue value = q.withValue value := by
  cases a with
  | data d =>
    cases hp
    cases b with
    | data d' =>
      cases hq
      obtain ⟨hname, hcontent, hinfo⟩ := Data.signedBytes_inj ha hb h
      simp only [withValue, hname, hcontent, hinfo]
    | interest i =>
      obtain ⟨n, s, -, -, hfits, hbytes⟩ := exists_signedBytes_eq_encode hb hq
      exact absurd (h.trans hbytes) (Data.signedBytes_ne_encode ha hfits)
  | interest i =>
    obtain ⟨n, s, rfl, hs, hfits, hbytes⟩ := exists_signedBytes_eq_encode ha hp
    cases b with
    | data d =>
      cases hq
      exact absurd (h.symm.trans hbytes) (Data.signedBytes_ne_encode hb hfits)
    | interest i' =>
      obtain ⟨n', s', rfl, hs', hfits', hbytes'⟩ := exists_signedBytes_eq_encode hb hq
      rw [hbytes, hbytes'] at h
      obtain ⟨rfl, hcomponent⟩ := Name.push_inj.1 (Name.encode_inj hfits hfits' h)
      have hinfo : s.info = s'.info :=
        SignatureInfo.canonical_format.encode_inj hs hs' (Component.mk.inj hcomponent)
      simp only [withValue, hinfo]

/-- **Signed bytes are unambiguous.** Where all that is signed can be written:

- Data packets with equal signed bytes have equal names, contents and signature infos.
- Interests with equal signed bytes have equal signed names and equal components that hold the
  signature info.
- No data packet has the signed bytes of an interest.

What a verifier is given for a packet are these bytes. So a signature that is good for a packet says
nothing about any other: packets for which a verifier is given the same bytes are equal but for the
value of the signature. -/
theorem signedBytes_unambiguous :
    (∀ a b : Data, a.PortionFits → b.PortionFits → a.signedBytes = b.signedBytes →
      a.name = b.name ∧ a.content = b.content ∧ a.signature.info = b.signature.info) ∧
    (∀ a b : Interest, a.name.Fits → b.name.Fits → 2 ≤ a.name.length → 2 ≤ b.name.length →
      a.signedBytes = b.signedBytes → ∃ n info, a.signedName = .ok n ∧ b.signedName = .ok n ∧
        a.name.get? (-2) = some info ∧ b.name.get? (-2) = some info) ∧
    (∀ (d : Data) (i : Interest), d.PortionFits → i.name.Fits → d.signedBytes ≠ i.signedBytes) ∧
    (∀ (i : Interest) (p : SignedPacket), ofInterest i = .ok p →
      p.signedBytes = i.signedBytes) ∧
    (∀ (a b : Packet) (p q : SignedPacket), a.PortionFits → b.PortionFits →
      ofPacket a = .ok p → ofPacket b = .ok q → p.signedBytes = q.signedBytes →
        ∀ value, p.withValue value = q.withValue value) := by
  refine ⟨fun a b => Data.signedBytes_inj, ?_, ?_, fun i p => signedBytes_of_ofInterest, ?_⟩
  · intro a b ha hb hatwo hbtwo h
    obtain ⟨n, info, value, haname, hasigned, hainfo, habytes⟩ := Interest.exists_parts hatwo
    obtain ⟨n', info', value', hbname, hbsigned, hbinfo, hbbytes⟩ := Interest.exists_parts hbtwo
    rw [haname] at ha
    rw [hbname] at hb
    rw [habytes, hbbytes] at h
    obtain ⟨rfl, rfl⟩ := Name.push_inj.1 (Name.encode_inj ha.of_push hb.of_push h)
    exact ⟨n, info, hasigned, hbsigned, hainfo, hbinfo⟩
  · intro d i hd hi
    exact Data.signedBytes_ne_encode hd hi.parent
  · intro a b p q ha hb hp hq h value
    exact withValue_eq_of_signedBytes_eq ha hb hp hq h value

end SignedPacket

namespace Sample

/-- The packet with another signature value. -/
def forgedGreeting : Data := { greeting with signature := ⟨greeting.signature.info, [8]⟩ }

/-- A signed interest. -/
def question (value : UInt8) : Interest :=
  .signed ⟨[⟨[104]⟩]⟩ ⟨.ecdsaSha256, none⟩ fun _ => [value]

/-- With other signature values, the data packet and the interest have the same signed bytes as
before. All that these bytes determine is the same as well; and they are told from each other. -/
theorem greeting_question_signedBytes :
    (greeting ≠ forgedGreeting ∧ greeting.signedBytes = forgedGreeting.signedBytes ∧
      greeting.name = forgedGreeting.name ∧ greeting.content = forgedGreeting.content ∧
        greeting.signature.info = forgedGreeting.signature.info) ∧
    (question 1 ≠ question 2 ∧ (question 1).signedBytes = (question 2).signedBytes ∧
      ∃ n info, (question 1).signedName = .ok n ∧ (question 2).signedName = .ok n ∧
        (question 1).name.get? (-2) = some info ∧ (question 2).name.get? (-2) = some info) ∧
    greeting.signedBytes ≠ (question 1).signedBytes ∧
    (∃ p, SignedPacket.ofInterest (question 1) = .ok p ∧
      p.signedBytes = (question 1).signedBytes) ∧
    ∀ value, (SignedPacket.data greeting).withValue value =
      (SignedPacket.data forgedGreeting).withValue value := by
  obtain ⟨hdata, hinterest, hkinds, hread, hvalue⟩ := SignedPacket.signedBytes_unambiguous
  have hforged : forgedGreeting.PortionFits := { greeting_portionFits with }
  have hone : (question 1).name.Fits := ⟨by decide, by decide⟩
  have htwo : (question 2).name.Fits := ⟨by decide, by decide⟩
  refine ⟨⟨by decide, rfl, ?_⟩, ⟨by decide, rfl, ?_⟩, ?_, ?_, ?_⟩
  · exact hdata greeting forgedGreeting greeting_portionFits hforged rfl
  · exact hinterest (question 1) (question 2) hone htwo (by decide) (by decide) rfl
  · exact hkinds greeting (question 1) greeting_portionFits hone
  · exact ⟨_, rfl, hread (question 1) _ rfl⟩
  · exact hvalue (.data greeting) (.data forgedGreeting) _ _ greeting_portionFits hforged rfl rfl
      rfl

end Sample

end TrustSchema
