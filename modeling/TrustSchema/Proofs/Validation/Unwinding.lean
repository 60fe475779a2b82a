import TrustSchema.Proofs.Validation.Judgement

/-!
# Unwinding a chain

Once the first certificate of a chain is trusted, the packets in line (this certificate, followed by
those that wait) are verified from the front. Each is put into the cache just before it is used on
the next one. So the cache gets the front of the line, up to where this stops (`Judge.Unwinds`):

- at a packet that cannot be used as a certificate, which is left out;
- at a packet that the one before it does not bear out, of which the one before it is the last to be
  put into the cache;
- at the end of the line. The last packet, to be validated, is no one's signer and is left out.

This is all that `Judge.verifyChain` does, whatever the cache holds
(`Judge.exists_unwinds_verifyChain`). It rests on the order of the packets in line, each filed under
the key that the next one names (`SignedPacket.Precedes`): an interest would end the verification
early, but it can only stand at the end.
-/

namespace TrustSchema

/-! ## The packets in line -/

/-- One packet stands before another in a chain: it is a data packet, filed under the key that the
other one names. -/
def SignedPacket.Precedes (a b : SignedPacket) : Prop :=
  ∃ d, a = .data d ∧ b.keyLocator = some d.name.parent

/-- Puts certificates into the cache, in order. -/
def Cache.insertAll (cache : Cache) (cs : List Certificate) : Cache := cs.foldl insert cache

@[simp] theorem Cache.insertAll_nil {cache : Cache} : cache.insertAll [] = cache := rfl

@[simp] theorem Cache.insertAll_cons {cache : Cache} {c : Certificate} {cs : List Certificate} :
    cache.insertAll (c :: cs) = (cache.insert c).insertAll cs := rfl

/-- Certificates that are read from packets, one from each. -/
structure Certificate.AreReadFrom (cs : List Certificate) (packets : List SignedPacket) : Prop where
  packets_eq : packets = cs.map fun c => .data c.data
  decoded : ∀ c ∈ cs, ofData c.data = .ok c

theorem Certificate.AreReadFrom.cons {c : Certificate} {cs : List Certificate} {d : Data}
    {packets : List SignedPacket} (h : AreReadFrom cs packets) (hd : ofData d = .ok c) :
    AreReadFrom (c :: cs) (.data d :: packets) where
  packets_eq := by rw [List.map_cons, data_of_ofData hd, h.packets_eq]
  decoded := List.forall_mem_cons.2 ⟨by rw [data_of_ofData hd, hd], h.decoded⟩

/-- The last certificate is what the last packet is read as. -/
theorem Certificate.AreReadFrom.exists_eq_concat {c : Certificate} {cs : List Certificate}
    {d : Data} {packets : List SignedPacket} (h : AreReadFrom cs (packets ++ [.data d]))
    (hd : ofData d = .ok c) : ∃ before, cs = before ++ [c] := by
  obtain ⟨before, rest, rfl, -, hrest⟩ := List.map_eq_append_iff.1 h.packets_eq.symm
  obtain ⟨c', tail, rfl, hdata, htail⟩ := List.map_eq_cons_iff.1 hrest
  obtain rfl := List.map_eq_nil_iff.1 htail
  have hmem : c' ∈ before ++ [c'] := List.mem_append_right _ (List.mem_singleton_self c')
  have hdecoded := h.decoded c' hmem
  rw [SignedPacket.data.inj hdata, hd] at hdecoded
  obtain rfl := Except.ok.inj hdecoded
  exact ⟨before, rfl⟩

/-- A packet cannot be used as a certificate. -/
inductive Data.Unusable (now : Instant) (d : Data) : Rejection → Prop
  | malformed {reason : Certificate.Malformed} (unread : Certificate.ofData d = .error reason) :
      Unusable now d (.certificateMalformed d.name reason)
  | expired {c : Certificate} (read : Certificate.ofData d = .ok c) (invalid : ¬ c.isValidAt now) :
      Unusable now d (.certificateExpired d.name)

namespace Judge

variable {j : Judge} {now : Instant} {d : Data} {waiting : List SignedPacket} {cache : Cache}
  {outcome : Outcome}

/-- The packets in line are verified from the front. This is what it comes to, and how many of them
are put into the cache. -/
inductive Unwinds (j : Judge) (now : Instant) (packets : List SignedPacket) : Outcome → Nat → Prop
  /-- Each packet bears out the next one. -/
  | accepted (verified : packets.IsChain (j.Endorses now)) :
      Unwinds j now packets .accepted (packets.length - 1)
  /-- The packet at `i` is verified, but it is no certificate, or none that is valid. -/
  | unusable {i : Nat} {signer : Data} {reason : Rejection}
      (verified : (packets.take (i + 1)).IsChain (j.Endorses now))
      (signer_eq : packets[i]? = some (.data signer)) (waits : i + 1 < packets.length)
      (unusable : signer.Unusable now reason) : Unwinds j now packets (.rejected reason) i
  /-- The packet at `i` is verified and is a certificate, but it does not bear out the next one. -/
  | unverified {i : Nat} {signer : Data} {c : Certificate} {p : SignedPacket} {reason : Rejection}
      (verified : (packets.take (i + 1)).IsChain (j.Endorses now))
      (signer_eq : packets[i]? = some (.data signer)) (read : Certificate.ofData signer = .ok c)
      (valid : c.isValidAt now) (next_eq : packets[i + 1]? = some p)
      (refused : j.verifier.checkSignature p c = .error reason) :
      Unwinds j now packets (.rejected reason) (i + 1)

theorem isChain_take_cons {a b : SignedPacket} {packets : List SignedPacket} {i : Nat}
    (hab : j.Endorses now a b) (h : ((b :: packets).take (i + 1)).IsChain (j.Endorses now)) :
    ((a :: b :: packets).take (i + 1 + 1)).IsChain (j.Endorses now) := by
  rw [List.take_succ_cons] at h ⊢
  exact List.isChain_cons_cons.2 ⟨hab, h⟩

/-- Before a packet that bears out the first one in line, it goes on in the same way, with one
certificate more. -/
theorem Unwinds.cons {a b : SignedPacket} {packets : List SignedPacket} {n : Nat}
    (hab : j.Endorses now a b) (h : j.Unwinds now (b :: packets) outcome n) :
    j.Unwinds now (a :: b :: packets) outcome (n + 1) := by
  cases h with
  | accepted verified => exact .accepted (List.isChain_cons_cons.2 ⟨hab, verified⟩)
  | unusable verified signer_eq waits unusable =>
    refine .unusable (isChain_take_cons hab verified) ?_ ?_ unusable
    · rw [List.getElem?_cons_succ, signer_eq]
    · rw [List.length_cons]
      exact Nat.succ_lt_succ waits
  | unverified verified signer_eq read valid next_eq refused =>
    refine .unverified (isChain_take_cons hab verified) ?_ read valid ?_ refused
    · rw [List.getElem?_cons_succ, signer_eq]
    · rw [List.getElem?_cons_succ, next_eq]

theorem Unwinds.of_accepted {packets : List SignedPacket} {n : Nat}
    (h : j.Unwinds now packets .accepted n) :
    n = packets.length - 1 ∧ packets.IsChain (j.Endorses now) := by
  cases h with
  | accepted verified => exact ⟨rfl, verified⟩

/-! ## What unwinding comes to -/

/-- A packet is no usable certificate, and nothing enters the cache; or it is one, which is put into
the cache before it is used. -/
theorem endorse_cases (j : Judge) (now : Instant) (d : Data) (p : SignedPacket) :
    (∃ reason, d.Unusable now reason ∧
        ∀ cache, j.endorse now d p cache = (.error reason, cache)) ∨
      ∃ c, Certificate.ofData d = .ok c ∧ c.isValidAt now ∧
        ∀ cache, j.endorse now d p cache = (j.verifier.checkSignature p c, cache.insert c) := by
  unfold endorse
  cases hread : Certificate.ofData d with
  | error reason => exact Or.inl ⟨_, .malformed hread, fun cache => rfl⟩
  | ok c =>
    by_cases hvalid : c.isValidAt now
    · exact Or.inr ⟨c, rfl, hvalid, fun cache => if_pos hvalid⟩
    · exact Or.inl ⟨_, .expired hread hvalid, fun cache => if_neg hvalid⟩

/-- **The front of the line enters the cache**, whatever the cache holds: an induction on the
packets that wait. An interest ends it early, but nothing waits behind an interest. -/
theorem exists_unwinds_verifyChain (j : Judge) (now : Instant) (d : Data)
    {waiting : List SignedPacket} (linked : waiting.IsChain SignedPacket.Precedes) :
    ∃ outcome used, j.Unwinds now (.data d :: waiting) outcome used.length ∧
      Certificate.AreReadFrom used ((SignedPacket.data d :: waiting).take used.length) ∧
      used.length ≤ waiting.length ∧
      ∀ cache, j.verifyChain now d waiting cache = (outcome, cache.insertAll used) := by
  induction waiting generalizing d with
  | nil =>
    exact ⟨.accepted, [], .accepted (.singleton _), ⟨rfl, nofun⟩, Nat.le_refl _, fun cache => rfl⟩
  | cons p waiting ih =>
    have hfront : ((SignedPacket.data d :: p :: waiting).take 1).IsChain (j.Endorses now) :=
      .singleton _
    have hwaits : 0 + 1 < (SignedPacket.data d :: p :: waiting).length :=
      Nat.succ_lt_succ (Nat.succ_pos _)
    obtain ⟨reason, hunusable, hendorse⟩ | ⟨c, hread, hvalid, hendorse⟩ := j.endorse_cases now d p
    · simp only [verifyChain_cons, hendorse]
      exact ⟨_, [], .unusable hfront rfl hwaits hunusable, ⟨rfl, nofun⟩, Nat.zero_le _,
        fun cache => rfl⟩
    · have hfrom : Certificate.AreReadFrom [c] [SignedPacket.data d] :=
        Certificate.AreReadFrom.cons ⟨rfl, nofun⟩ hread
      simp only [verifyChain_cons, hendorse]
      cases hcheck : j.verifier.checkSignature p c with
      | error reason =>
        exact ⟨_, [c], .unverified hfront rfl hread hvalid rfl hcheck, hfrom,
          Nat.le_add_left _ _, fun cache => rfl⟩
      | ok _ =>
        have hsigned : j.Endorses now (.data d) p :=
          ⟨d, c, rfl, hread, hvalid, Verifier.checkSignature_eq_ok_iff.1 hcheck⟩
        cases p with
        | data d' =>
          -- The certificate is in the cache by now, which makes no difference to the rest.
          obtain ⟨outcome, used, hunwinds, hreads, hlength, heq⟩ := ih d' linked.of_cons
          exact ⟨outcome, c :: used, hunwinds.cons hsigned, hreads.cons hread,
            Nat.succ_le_succ hlength, fun cache => heq _⟩
        | interest signedName signature =>
          -- What stands before another packet is a data packet.
          obtain rfl : waiting = [] := by
            cases waiting with
            | nil => rfl
            | cons q rest =>
              obtain ⟨⟨_, hdata, _⟩, -⟩ := List.isChain_cons_cons.1 linked
              cases hdata
          exact ⟨.accepted, [c], .accepted (List.isChain_pair.2 hsigned), hfrom, Nat.le_refl _,
            fun cache => rfl⟩

/-- **Nothing that waits is passed over**: where every packet stands before the next one, a chain
that is verified to its end has every packet signed by the one before it. -/
theorem isChain_endorses_of_verifyChain (hw : waiting.IsChain SignedPacket.Precedes)
    (h : (j.verifyChain now d waiting cache).1 = .accepted) :
    (SignedPacket.data d :: waiting).IsChain (j.Endorses now) := by
  obtain ⟨outcome, used, hunwinds, -, -, heq⟩ := j.exists_unwinds_verifyChain now d hw
  rw [heq] at h
  obtain rfl : outcome = .accepted := h
  exact hunwinds.of_accepted.2

/-! ## What passes along a chain -/

/-- **What passes from signer to signed passes along a chain**: if it holds of the first
certificate, it holds of every packet of a chain that is verified to its end. -/
theorem forall_mem_of_verifyChain {T : SignedPacket → Prop}
    (hw : waiting.IsChain SignedPacket.Precedes)
    (hstep : (SignedPacket.data d :: waiting).IsChain fun a b => j.Endorses now a b → T a → T b)
    (hd : T (.data d)) (h : (j.verifyChain now d waiting cache).1 = .accepted) :
    ∀ p ∈ waiting, T p := by
  have hends := isChain_endorses_of_verifyChain hw h
  have hpass : (SignedPacket.data d :: waiting).IsChain fun a b => T a → T b := by
    rw [List.isChain_iff_forall_rel_of_append_cons_cons] at hends hstep ⊢
    exact fun a b l₁ l₂ heq => hstep heq (hends heq)
  exact hpass.cons_induction T waiting (fun _ _ hab => hab) hd

/-- It holds as well of every certificate that the verification puts into the cache, however far the
chain gets: a signer is put there only after it has been verified itself. -/
theorem mem_or_of_mem_verifyChain {T : SignedPacket → Prop} {c : Certificate}
    (hstep : (SignedPacket.data d :: waiting).IsChain fun a b => j.Endorses now a b → T a → T b)
    (hd : T (.data d)) (hc : c ∈ (j.verifyChain now d waiting cache).2) :
    c ∈ cache ∨ (Certificate.ofData c.data = .ok c ∧ T (.data c.data)) := by
  induction waiting generalizing d cache with
  | nil => exact Or.inl hc
  | cons p rest ih =>
    obtain ⟨hp, hrest⟩ := List.isChain_cons_cons.1 hstep
    have hadded : c ∈ (j.endorse now d p cache).2 →
        c ∈ cache ∨ (Certificate.ofData c.data = .ok c ∧ T (.data c.data)) := by
      intro hmem
      rcases eq_or_mem_of_mem_endorse hmem with ⟨hof, -⟩ | hmem
      · rw [Certificate.data_of_ofData hof]
        exact Or.inr ⟨hof, hd⟩
      · exact Or.inl hmem
    rw [verifyChain_cons] at hc
    split at hc
    · next heq => exact hadded (by rwa [heq])
    · next heq =>
      rw [heq] at hadded
      split at hc
      · rcases ih hrest (hp (endorses_of_endorse heq) hd) hc with hmem | htrusted
        · exact hadded hmem
        · exact Or.inr htrusted
      · exact hadded hc

end Judge

end TrustSchema
