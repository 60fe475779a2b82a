import TrustSchema.Proofs.Policy.WellFormed
import TrustSchema.Proofs.Validation.Isolation

/-!
# Signature types are not confused

Whoever makes a packet chooses the type of its signature. The type is looked at in four places: it
selects a checker, it bars digests from the certificates of a policy and of the cache, it sends them
to the comparison with the digest, and the verifier asks for it once more together with the type of
the key. With a verifier for ECDSA on P-256, and policies that are loaded from configurations, each
type leaves only one way to be accepted:

- a digest, if the policy expects one (`Policy.ExpectsDigest`) and the value is the digest of the
  signed bytes (`SignedPacket.BearsDigest`);
- an ECDSA signature, if it is good for the key of a certificate that is meant for ECDSA
  (`SignedPacket.SignedWith`);
- an RSA signature in no way.

An accepted packet has been verified with certificates, some of them long ago. `History.Authentic`
says that all of them have been borne out in one of these ways, back to the policies and to what was
in the cache at first. It is handed on along a run (`History.handsOn_backed`), and within a chain
from the certificate that is accepted to all that waits for it (`History.handsOn_authentic`).
-/

namespace TrustSchema

/-! ## One packet -/

/-- The signature is a digest, and it is the one of the signed bytes. -/
structure SignedPacket.BearsDigest (p : SignedPacket) : Prop where
  type : p.signatureType = .digestSha256
  value : p.signature.value = Sha256.digest p.signedBytes

/-- The signature is made with ECDSA, the key of the certificate is for ECDSA, and it bears the
signature out. -/
structure SignedPacket.SignedWith (p : SignedPacket) (c : Certificate) : Prop where
  type : p.signatureType = .ecdsaSha256
  keyType : c.publicKey.keyType = .ecdsa
  verified : P256.verify c.publicKey.bits p.signedBytes p.signature.value

/-- A checker has no condition on the key locator, or the packet has one that satisfies it. -/
def Checker.AdmitsLocator (p : SignedPacket) : Checker → Prop
  | .customized _ (some check) =>
    ∃ keyName, p.keyLocator = some keyName ∧ check.accepts keyName p.signedName
  | _ => True

/-- A policy expects the digest of a packet: the first rule that covers the packet has a checker for
digests, and the first one of them admits the key locator of the packet, or that it has none. -/
def Policy.ExpectsDigest (policy : Policy) (p : SignedPacket) : Prop :=
  ∃ rule checker, policy.ruleFor? p = some rule ∧
    rule.checkerFor? .digestSha256 = some checker ∧ checker.AdmitsLocator p

/-- A policy has a certificate for the key that a packet names, as that of a fixed signer or as a
trust anchor. -/
inductive Policy.Pins (policy : Policy) (p : SignedPacket) (c : Certificate) : Prop
  | fixedSigner {t : SignatureType} {signers : Keyring} {keyName : Name}
      (checker : policy.checkerFor? p = some (.fixedSigner t signers))
      (located : p.keyLocator = some keyName) (held : signers.find? keyName = some c)
  | anchor {keyName : Name} (located : p.keyLocator = some keyName)
      (anchored : policy.anchors.find? keyName = some c)

section Policy

variable {policy : Policy} {v : Verifier} {p : SignedPacket} {c : Certificate} {checker : Checker}

/-- The types of the signature and of the key have to fit. -/
theorem Verifier.confirms_ecdsaP256_iff : ecdsaP256.Confirms p c ↔ p.SignedWith c := by
  constructor
  · rintro ⟨hsupported, hverified⟩
    simp only [ecdsaP256, Bool.and_eq_true, beq_iff_eq] at hsupported hverified
    exact ⟨hsupported.1, hsupported.2, hverified.2⟩
  · rintro ⟨htype, hkey, hverified⟩
    have htype' : p.signature.signatureType = .ecdsaSha256 := htype
    exact ⟨by simp [ecdsaP256, htype, hkey], by simp [ecdsaP256, htype', hkey, hverified]⟩

/-- A checker for digests only looks at the key locator. -/
theorem Checker.WellFormed.check_eq_undecided_iff (wellFormed : checker.WellFormed)
    (unkeyed : checker.signatureType = .digestSha256) :
    checker.check v p = .undecided ↔ checker.AdmitsLocator p := by
  cases wellFormed with
  | unconditioned => exact iff_of_true rfl trivial
  | @conditioned t check =>
    unfold Checker.check AdmitsLocator
    cases p.keyLocator with
    | none => simp
    | some keyName => simp
  | hierarchical keyed => exact absurd unkeyed keyed
  | fixedSigner keyed => exact absurd unkeyed keyed

/-- A well-formed policy leaves a digest open if it expects one. -/
theorem Policy.WellFormed.exists_undecided_iff (wellFormed : policy.WellFormed)
    (unkeyed : p.signatureType = .digestSha256) :
    (∃ checker, policy.checkerFor? p = some checker ∧ checker.check v p = .undecided) ↔
      policy.ExpectsDigest p := by
  have hadmits : ∀ {checker}, policy.checkerFor? p = some checker →
      (checker.check v p = .undecided ↔ checker.AdmitsLocator p) := by
    intro checker found
    obtain ⟨rule, hrule, hchecker, htype⟩ := mem_of_checkerFor? found
    exact ((wellFormed.rules rule hrule).checkers checker hchecker).check_eq_undecided_iff
      (htype.trans unkeyed)
  constructor
  · rintro ⟨checker, found, undecided⟩
    obtain ⟨rule, hrule, hchecker⟩ := Option.bind_eq_some_iff.1 found
    rw [unkeyed] at hchecker
    exact ⟨rule, checker, hrule, hchecker, (hadmits found).1 undecided⟩
  · rintro ⟨rule, checker, hrule, hchecker, hlocator⟩
    have found : policy.checkerFor? p = some checker :=
      Option.bind_eq_some_iff.2 ⟨rule, hrule, by rwa [unkeyed]⟩
    exact ⟨checker, found, (hadmits found).2 hlocator⟩

/-- **A digest is accepted for its value only**, and only where the policy expects one. -/
theorem Policy.WellFormed.settles_iff_of_digest (wellFormed : policy.WellFormed)
    (unkeyed : p.signatureType = .digestSha256) :
    policy.Settles .ecdsaP256 p ↔ policy.ExpectsDigest p ∧
      p.signature.value = Sha256.digest p.signedBytes := by
  constructor
  · intro settles
    cases settles with
    | fixedSigner _ _ _ confirmed =>
      have htype := (Verifier.confirms_ecdsaP256_iff.1 confirmed).type
      rw [unkeyed] at htype
      cases htype
    | digest found undecided _ good =>
      exact ⟨(wellFormed.exists_undecided_iff unkeyed).1 ⟨_, found, undecided⟩,
        verifiesDigest_iff.1 good⟩
    | anchor _ _ keyed => exact absurd unkeyed keyed
  · rintro ⟨expected, good⟩
    obtain ⟨checker, found, undecided⟩ := (wellFormed.exists_undecided_iff unkeyed).2 expected
    exact .digest found undecided unkeyed (verifiesDigest_iff.2 good)

/-- Any other signature that a policy accepts by itself is one of ECDSA, good for the key of a
certificate that the policy has. -/
theorem Policy.Settles.exists_pins (settles : policy.Settles .ecdsaP256 p)
    (keyed : p.signatureType ≠ .digestSha256) : ∃ c, policy.Pins p c ∧ p.SignedWith c := by
  cases settles with
  | fixedSigner checker located held confirmed =>
    exact ⟨_, .fixedSigner checker located held, Verifier.confirms_ecdsaP256_iff.1 confirmed⟩
  | digest _ _ unkeyed => exact absurd unkeyed keyed
  | anchor _ _ _ located anchored confirmed =>
    exact ⟨_, .anchor located anchored, Verifier.confirms_ecdsaP256_iff.1 confirmed⟩

/-- Nothing is fetched or looked up for a digest, so a check settles it at once. -/
theorem Judge.check_eq_accepted_iff_of_digest {j : Judge} {now : Instant} {packet : Packet}
    {step : Nat} {cache : Cache} (read : SignedPacket.ofPacket packet = .ok p)
    (unkeyed : p.signatureType = .digestSha256) :
    (j.check now policy packet step cache).1 = .accepted ↔
      step < j.stepLimit ∧ policy.Settles j.verifier p := by
  rw [← assess_eq_accept_iff]
  cases hstep : j.overLimit? step with
  | some reason =>
    have hge : j.stepLimit ≤ step := by
      by_contra hlt
      rw [overLimit?_eq_none_iff.2 (Nat.not_le.1 hlt)] at hstep
      cases hstep
    rw [check, hstep, assess_of_stepLimit_le hge]
    simp
  | none =>
    rw [check, hstep, read]
    dsimp only
    rw [judge_eq_consult]
    cases hassess : j.assess policy p step with
    | accept => simp [consult, outcome]
    | reject reason => simp [consult, outcome]
    | need keyName => exact absurd unkeyed (assess_eq_need_iff.1 hassess).2.keyed

end Policy

/-! ## Chains of packets -/

namespace History

/-- A packet is authentic at an event in the chain of a check: it bears the digest that the policy of
the chain expects, or it is signed with a certificate that this policy has, that was in the cache at
first, or that is authentic itself at an event of some chain. -/
inductive Authentic (h : History) (atFirst : Cache) : Event → Event → SignedPacket → Prop
  | digest {o e : Event} {p : SignedPacket} (first : e.operation.packets.head? = some p)
      (expected : o.before.policy.ExpectsDigest p) (good : p.BearsDigest) : Authentic h atFirst o e p
  | pinned {o e : Event} {p : SignedPacket} {c : Certificate}
      (first : e.operation.packets.head? = some p) (pinned : o.before.policy.Pins p c)
      (good : p.SignedWith c) : Authentic h atFirst o e p
  | held {o e : Event} {p : SignedPacket} {c : Certificate}
      (verifies : Event.Verifies o e .ecdsaP256 c p) (good : p.SignedWith c) (member : c ∈ atFirst) :
      Authentic h atFirst o e p
  | signed {o e o' e' : Event} {p : SignedPacket} {c : Certificate}
      (verifies : Event.Verifies o e .ecdsaP256 c p) (good : p.SignedWith c)
      (belongs : h.Belongs o' e') (signer : Authentic h atFirst o' e' (.data c.data)) :
      Authentic h atFirst o e p

/-- A packet was in the cache at first, as a certificate, or is authentic at some event. -/
def Backed (h : History) (atFirst : Cache) (p : SignedPacket) : Prop :=
  (∃ c ∈ atFirst, p = .data c.data) ∨ ∃ o e, h.Belongs o e ∧ h.Authentic atFirst o e p

/-- All policies that are loaded come from configurations. -/
def Configured (h : History) : Prop :=
  ∀ e ∈ h, ∀ policy, e.operation.loaded? = some policy → policy.Loaded

variable {h : History} {atFirst : Cache} {o e : Event} {p : SignedPacket} {c : Certificate}

theorem Authentic.bearsDigest_or_signedWith (authentic : h.Authentic atFirst o e p) :
    p.BearsDigest ∨ ∃ c, p.SignedWith c := by
  cases authentic with
  | digest _ _ good => exact Or.inl good
  | pinned _ _ good => exact Or.inr ⟨_, good⟩
  | held _ good _ => exact Or.inr ⟨_, good⟩
  | signed _ good _ _ => exact Or.inr ⟨_, good⟩

theorem Authentic.ne_rsaSha256 (authentic : h.Authentic atFirst o e p) :
    p.signatureType ≠ .rsaSha256 := by
  rcases authentic.bearsDigest_or_signedWith with hdigest | ⟨c, hsigned⟩
  · rw [hdigest.type]
    nofun
  · rw [hsigned.type]
    nofun

/-- What the policy of the chain accepts by itself is authentic. -/
theorem Authentic.of_settles (wellFormed : o.before.policy.WellFormed)
    (first : e.operation.packets.head? = some p)
    (settles : o.before.policy.Settles .ecdsaP256 p) : h.Authentic atFirst o e p := by
  by_cases unkeyed : p.signatureType = .digestSha256
  · obtain ⟨expected, good⟩ := (wellFormed.settles_iff_of_digest unkeyed).1 settles
    exact .digest first expected ⟨unkeyed, good⟩
  · obtain ⟨c, hpins, good⟩ := settles.exists_pins unkeyed
    exact .pinned first hpins good

/-- What is verified with a backed certificate is authentic. -/
theorem Authentic.of_verifies (decoded : ∀ c ∈ atFirst, Certificate.ofData c.data = .ok c)
    (verifies : Event.Verifies o e .ecdsaP256 c p) (backed : h.Backed atFirst (.data c.data)) :
    h.Authentic atFirst o e p := by
  have good := Verifier.confirms_ecdsaP256_iff.1 verifies.confirmed
  rcases backed with ⟨c', hc', heq⟩ | ⟨o', e', hb, signer⟩
  · -- A certificate is determined by the packet that it is read from.
    have hread := decoded c' hc'
    rw [← SignedPacket.data.inj heq, verifies.decoded] at hread
    obtain rfl := Except.ok.inj hread
    exact .held verifies good hc'
  · exact .signed verifies good hb signer

theorem handsOn_authentic (hb : h.Belongs o e) (verifier : e.before.judge.verifier = .ecdsaP256)
    (wellFormed : o.before.policy.WellFormed)
    (decoded : ∀ c ∈ atFirst, Certificate.ofData c.data = .ok c) :
    Event.HandsOn o e (h.Authentic atFirst o e) where
  root := by
    intro p first settles
    rw [verifier] at settles
    exact .of_settles wellFormed first settles
  link := by
    intro p c verifies signer
    rw [verifier] at verifies
    exact .of_verifies decoded verifies (Or.inr ⟨o, e, hb, signer⟩)

theorem handsOn_backed (hb : h.Belongs o e) (verifier : e.before.judge.verifier = .ecdsaP256)
    (wellFormed : o.before.policy.WellFormed)
    (decoded : ∀ c ∈ atFirst, Certificate.ofData c.data = .ok c) :
    Event.HandsOn o e (h.Backed atFirst) where
  root := fun p first settles => Or.inr ⟨o, e, hb,
    (handsOn_authentic hb verifier wellFormed decoded).root p first settles⟩
  link := by
    intro p c verifies signer
    rw [verifier] at verifies
    exact Or.inr ⟨o, e, hb, .of_verifies decoded verifies signer⟩

end History

/-! ## Runs -/

namespace Validator

variable {j : Judge} {v₀ v : Validator} {atFirst : Cache} {h : History} {e o : Event}

/-- Every policy in force is well formed, the empty one of the beginning included. -/
theorem Run.policy_wellFormed (run : (ofJudge j atFirst).Run h v) (configured : h.Configured) :
    v.policy.WellFormed := by
  rw [run.policy_eq_lastLoaded]
  cases hlast : h.lastLoaded? with
  | none => exact Policy.wellFormed_empty
  | some policy =>
    obtain ⟨e, he, hloaded⟩ := List.exists_of_findSome?_eq_some hlast
    exact (configured e he policy hloaded).wellFormed

theorem Run.policy_before_wellFormed (run : (ofJudge j atFirst).Run h v)
    (configured : h.Configured) (he : e ∈ h) : e.before.policy.WellFormed := by
  obtain ⟨earlier, hsub, hrun, -⟩ := run.of_mem he
  exact hrun.policy_wellFormed fun e' he' => configured e' (hsub (List.mem_cons_of_mem _ he'))

/-- An outcome that does not reject is about one of the packets in hand. -/
theorem Run.exists_subject (run : v₀.Run h v) (he : e ∈ h)
    (hopen : e.outcome? = some .accepted ∨ ∃ rs, e.outcome? = some (.pending rs)) :
    ∃ p ∈ e.operation.packets, e.operation.subject? = some p := by
  rcases e.isCheck_or_resume_or with ⟨now, packet, step, hop⟩ | ⟨now, r, d, hop⟩ |
    ⟨hnot, hnone, -⟩
  · rw [Event.outcome?_of_check hop] at hopen
    have hchecked := e.before.judge.checked now e.before.policy packet step e.before.cache
    generalize e.before.judge.check now e.before.policy packet step e.before.cache = result
      at hchecked hopen
    cases hchecked with
    | barred reason => simp at hopen
    | @judged p verdict cache' read judged =>
      refine ⟨p, ?_, ?_⟩
      · rw [hop, Operation.packets, read]
        exact List.mem_cons_self
      · rw [hop, Operation.subject?, read]
        rfl
  · obtain ⟨o, subject, start, -, hr⟩ := run.exists_formed_of_resume he hop
    refine ⟨subject, ?_, ?_⟩
    · rw [hop]
      exact List.mem_cons_of_mem _ (List.mem_of_getLast? hr.last_eq)
    · rw [hop]
      exact hr.last_eq
  · rcases hopen with haccepted | ⟨rs, hpending⟩
    · exact absurd haccepted hnot
    · exact absurd hpending (hnone rs)

/-- No digest waits, since the packets in hand of a pending outcome are left to keys. -/
theorem Run.keyed_of_pending (run : v₀.Run h v) (he : e ∈ h) {rs : List Request}
    (pending : e.outcome? = some (.pending rs)) {p : SignedPacket}
    (hp : p ∈ e.operation.packets) : p.signatureType ≠ .digestSha256 := by
  obtain ⟨o, hb⟩ := run.exists_belongs he (Event.isCheck_or_resume_of_pending pending)
  obtain ⟨now, packet, start, hcheck⟩ := hb.isCheck
  obtain ⟨subject, r, -, rfl, hr⟩ :=
    hb.exists_formed (fun e he => run.judge_before he) pending hcheck
  have hrequest : r ∈ e.requests := Event.mem_requests_of_pending pending List.mem_cons_self
  rw [← Event.waiting_of_mem_requests hrequest] at hp
  obtain ⟨keyName, hdefers⟩ := hr.deferred p hp
  exact hdefers.keyed

section Authentic

variable (run : (ofJudge j atFirst).Run h v) (verifier : j.verifier = .ecdsaP256)
  (decoded : ∀ c ∈ atFirst, Certificate.ofData c.data = .ok c) (configured : h.Configured)

include run verifier decoded configured

/-- The certificates in the cache are backed, at every event of a run. -/
theorem Run.holds_backed (he : e ∈ h) : e.before.cache.Holds (h.Backed atFirst) := by
  obtain ⟨earlier, hsub, hrun, -⟩ := run.of_mem he
  have hearlier : earlier ⊆ h := fun e' he' => hsub (List.mem_cons_of_mem _ he')
  refine hrun.holds (fun o e' hb => ?_) fun c hc => ⟨decoded c hc, Or.inl ⟨c, hc, rfl⟩⟩
  have hb' := hb.mono hearlier
  have hverifier : e'.before.judge.verifier = .ecdsaP256 := by
    rw [run.judge_before hb'.mem.2]
    exact verifier
  exact History.handsOn_backed hb' hverifier
    (run.policy_before_wellFormed configured hb'.mem.1) decoded

/-- What is accepted at once, in the chain of a check, is authentic. -/
theorem Run.authentic_of_judge (hb : h.Belongs o e) {now : Instant} {p : SignedPacket}
    {step : Nat} {cache : Cache} (hhead : e.operation.packets.head? = some p)
    (htime : e.operation.time? = some now)
    (judged : e.before.judge.judge now o.before.policy p step e.before.cache = (.accept, cache)) :
    h.Authentic atFirst o e p := by
  have hheld := run.holds_backed verifier decoded configured hb.mem.2
  have hj : e.before.judge = j := run.judge_before hb.mem.2
  rcases Event.settles_or_verifies_of_judge hheld hhead htime judged with
    hsettles | ⟨c, hc, hverifies⟩
  · rw [hj, verifier] at hsettles
    exact .of_settles (run.policy_before_wellFormed configured hb.mem.1) hhead hsettles
  · rw [hj, verifier] at hverifies
    exact .of_verifies decoded hverifies (hheld c hc).2

/-- **All packets in hand are authentic when one is accepted.** -/
theorem Run.authentic_of_accepted (he : e ∈ h) (accepted : e.outcome? = some .accepted) :
    ∃ o, h.Belongs o e ∧ ∀ p ∈ e.operation.packets, h.Authentic atFirst o e p := by
  have hj : e.before.judge = j := run.judge_before he
  rcases e.isCheck_or_resume_or with ⟨now, packet, step, hop⟩ | ⟨now, r, d, hop⟩ | ⟨hnot, -, -⟩
  · -- The packet is the only one in hand, and it is accepted at once.
    have hb : h.Belongs e e := .began he ⟨now, packet, step, hop⟩
    obtain ⟨p, cache', -, hhead, judged⟩ := Event.exists_judge_of_check hop accepted
    have hp := run.authentic_of_judge verifier decoded configured hb hhead (by rw [hop]; rfl) judged
    refine ⟨e, hb, fun q hq => ?_⟩
    rw [hop, Operation.packets, Option.head?_toList] at hhead
    rw [hop, Operation.packets, hhead] at hq
    rwa [List.mem_singleton.1 hq]
  · obtain ⟨o, subject, start, hb, hr⟩ := run.exists_formed_of_resume he hop
    rw [← hj] at hr
    have hresumed := e.before.judge.resumed now r d e.before.cache
    rw [Event.outcome?_of_resume hop] at accepted
    generalize e.before.judge.resume now r d e.before.cache = result at hresumed accepted
    cases hresumed with
    | barred reason => cases accepted
    | refused named judged => cases accepted
    | passedOn named judged => cases accepted
    | trusted named judged =>
      -- The certificate is accepted at once, and hands it on to all that waits.
      rw [hr.policy_eq] at judged
      have hd := run.authentic_of_judge verifier decoded configured hb (by rw [hop]; rfl)
        (by rw [hop]; rfl) judged
      have hhands : Event.HandsOn o e (h.Authentic atFirst o e) :=
        History.handsOn_authentic hb (by rw [hj, verifier])
          (run.policy_before_wellFormed configured hb.mem.1) decoded
      have hwaiting := Judge.forall_mem_of_verifyChain hr.linked (hhands.isChain hop hr named) hd
        (Option.some.inj accepted)
      refine ⟨o, hb, ?_⟩
      rw [hop]
      exact List.forall_mem_cons.2 ⟨hd, hwaiting⟩
  · exact absurd accepted hnot

end Authentic

/-- **Signature types are not confused.** Take any run of a validator that verifies with ECDSA on
P-256, in which all policies are loaded from configurations. The certificates in the cache at first,
if any, are read from data packets. Nothing is assumed about the rules and anchors, nor about what
is fetched.

- When a packet is accepted, all packets in hand are authentic (`History.Authentic`), and so are the
  certificates behind them: a digest is right, whatever the key locator names, and any other
  signature is one of ECDSA, made with an ECDSA key. No packet has an RSA signature.
- When an outcome is pending, no packet in hand has a digest for a signature.
- A check accepts a packet with a digest if and only if the step is below the limit, the policy
  expects the digest and the value is, byte for byte, the digest of the signed bytes. -/
theorem Run.no_signature_type_confusion {limit retries : Nat}
    (run : (ofJudge ⟨.ecdsaP256, limit, retries⟩ atFirst).Run h v)
    (decoded : ∀ c ∈ atFirst, Certificate.ofData c.data = .ok c) (configured : h.Configured)
    (he : e ∈ h) :
    (e.outcome? = some .accepted →
      (∃ p ∈ e.operation.packets, e.operation.subject? = some p) ∧
        ∃ o, h.Belongs o e ∧ ∀ p ∈ e.operation.packets,
          p.signatureType ≠ .rsaSha256 ∧ h.Authentic atFirst o e p) ∧
      (∀ rs, e.outcome? = some (.pending rs) →
        (∃ p ∈ e.operation.packets, e.operation.subject? = some p) ∧
          ∀ p ∈ e.operation.packets, p.signatureType ≠ .digestSha256) ∧
      ∀ now packet step p, e.operation = .check now packet step →
        SignedPacket.ofPacket packet = .ok p → p.signatureType = .digestSha256 →
          (e.outcome? = some .accepted ↔ step < limit ∧ e.before.policy.ExpectsDigest p ∧
            p.signature.value = Sha256.digest p.signedBytes) := by
  refine ⟨fun accepted => ?_, fun rs pending => ?_, ?_⟩
  · obtain ⟨o, hb, hauthentic⟩ :=
      run.authentic_of_accepted rfl decoded configured he accepted
    refine ⟨run.exists_subject he (Or.inl accepted), o, hb, fun p hp => ?_⟩
    exact ⟨(hauthentic p hp).ne_rsaSha256, hauthentic p hp⟩
  · exact ⟨run.exists_subject he (Or.inr ⟨rs, pending⟩), fun p hp =>
      run.keyed_of_pending he pending hp⟩
  · intro now packet step p hop read unkeyed
    have hj : e.before.judge = ⟨.ecdsaP256, limit, retries⟩ := run.judge_before he
    have hpolicy := run.policy_before_wellFormed configured he
    rw [Event.outcome?_of_check hop, Option.some_inj, hj,
      Judge.check_eq_accepted_iff_of_digest read unkeyed, hpolicy.settles_iff_of_digest unkeyed]

end Validator

namespace Sample

/-- A validator for the guest book. -/
def reception : Validator := .ofJudge ⟨.ecdsaP256, 5, 1⟩ .empty

/-- The policy of the guest book is put in force. -/
def opened : Event := ⟨reception, .load (.ok guestPolicy)⟩

/-- An answer of one component, `/a`, with its digest. -/
def reply : Data :=
  ⟨name [97], [], ⟨⟨.digestSha256, none⟩,
    [121, 114, 32, 138, 64, 201, 19, 213, 26, 115, 186, 83, 198, 152, 187, 110, 196, 34, 124, 225,
      239, 56, 68, 150, 20, 11, 173, 228, 48, 236, 52, 28]⟩⟩

def replied : Event := ⟨opened.after, .check 5 (.data reply) 0⟩

set_option maxRecDepth 4000 in
theorem reply_value : reply.signature.value = Sha256.digest reply.signedBytes := by decide +kernel

theorem run_replied : reception.Run [replied, opened] replied.after :=
  (Validator.Run.start.next opened.operation nofun).next replied.operation nofun

theorem replied_configured : History.Configured [replied, opened] := by
  intro e he policy hloaded
  simp only [List.mem_cons, List.not_mem_nil, or_false] at he
  rcases he with rfl | rfl
  · cases hloaded
  · cases hloaded
    exact ⟨guestFiles, "guests.conf", [askingEntry, answeringEntry], guestPolicy_eq⟩

theorem replied_expected : replied.before.policy.ExpectsDigest (.data reply) :=
  ⟨answering, .customized .digestSha256 none, rfl, rfl, trivial⟩

/-- The answer is accepted, with its digest. -/
theorem reply_not_confused :
    reception.Run [replied, opened] replied.after ∧ History.Configured [replied, opened] ∧
      replied.outcome? = some .accepted ∧
      ∃ o, History.Belongs [replied, opened] o replied ∧ ∀ p ∈ replied.operation.packets,
        p.signatureType ≠ .rsaSha256 ∧
          History.Authentic [replied, opened] .empty o replied p := by
  have decoded : ∀ c ∈ Cache.empty, Certificate.ofData c.data = .ok c :=
    fun c hc => absurd hc (Cache.not_mem_of_empty rfl)
  have run : (Validator.ofJudge ⟨.ecdsaP256, 5, 1⟩ .empty).Run [replied, opened] replied.after :=
    run_replied
  obtain ⟨haccepted, -, hcheck⟩ :=
    run.no_signature_type_confusion decoded replied_configured List.mem_cons_self
  have accepted : replied.outcome? = some .accepted :=
    (hcheck 5 (.data reply) 0 (.data reply) rfl rfl rfl).2
      ⟨by decide, replied_expected, reply_value⟩
  exact ⟨run_replied, replied_configured, accepted, (haccepted accepted).2⟩

end Sample

end TrustSchema
