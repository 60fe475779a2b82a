import Mathlib.Data.List.Chain
import TrustSchema.Validation.Judge

/-!
# What a judgement rests on

A judgement about a packet has two parts. The policy says what it can by itself (`Judge.assess`): it
accepts, it rejects, or it names the key whose certificate decides. Only in the last case does the
cache matter (`Judge.judge_eq_consult`). So there are exactly two grounds on which a packet is
accepted at once:

- `Policy.Settles`: a digest, a fixed signer or a trust anchor bears the packet out;
- `Policy.Defers`: the policy leaves the packet to a key, and a cached certificate of that key bears
  it out.

Once a fetched certificate is accepted, it is put to use on the packets that wait, one after the
other. One such use is `Judge.endorse`, and `Judge.verifyChain` is nothing but a row of them
(`Judge.verifyChain_cons`).
-/

namespace TrustSchema

variable {v : Verifier} {policy : Policy} {p : SignedPacket} {c : Certificate}

/-! ## Signatures and signers -/

/-- A signature that can be checked with the key of a certificate, and is good. -/
structure Verifier.Confirms (v : Verifier) (p : SignedPacket) (c : Certificate) : Prop where
  supported : v.supports p.signatureType c.publicKey.keyType
  verified : v.verify p.signedBytes p.signature c.publicKey

theorem Verifier.checkSignature_eq_ok_iff : v.checkSignature p c = .ok () ↔ v.Confirms p c := by
  unfold checkSignature
  constructor
  · intro h
    split at h
    · cases h
    · next hs =>
      split at h
      · next hv => exact ⟨by simpa using hs, hv⟩
      · cases h
  · rintro ⟨hs, hv⟩
    simp [hs, hv]

/-- The checker that judges the signer of a packet: in the first rule that covers the packet, the
first checker for its type of signature. -/
def Policy.checkerFor? (policy : Policy) (p : SignedPacket) : Option Checker :=
  (policy.ruleFor? p).bind fun rule => rule.checkerFor? p.signatureType

/-- A policy leaves a packet to a key: its checker finds the signer acceptable and leaves the
signature open, which is no digest, and the key that it names is not that of a trust anchor. -/
structure Policy.Defers (policy : Policy) (v : Verifier) (p : SignedPacket) (keyName : Name) :
    Prop where
  undecided : ∃ checker, policy.checkerFor? p = some checker ∧ checker.check v p = .undecided
  keyed : p.signatureType ≠ .digestSha256
  located : p.keyLocator = some keyName
  unanchored : policy.anchors.find? keyName = none

/-- A policy accepts a packet by itself. -/
inductive Policy.Settles (policy : Policy) (v : Verifier) (p : SignedPacket) : Prop
  /-- The checker holds the certificate of the key. -/
  | fixedSigner {t : SignatureType} {signers : Keyring} {keyName : Name} {c : Certificate}
      (checker : policy.checkerFor? p = some (.fixedSigner t signers))
      (located : p.keyLocator = some keyName) (held : signers.find? keyName = some c)
      (confirmed : v.Confirms p c)
  /-- The checker leaves the signature open, and it is the digest of what it signs. -/
  | digest {checker : Checker} (found : policy.checkerFor? p = some checker)
      (undecided : checker.check v p = .undecided) (unkeyed : p.signatureType = .digestSha256)
      (good : verifiesDigest p.signedBytes p.signature.value)
  /-- The checker leaves the signature open, and the key is that of a trust anchor. -/
  | anchor {checker : Checker} {keyName : Name} {c : Certificate}
      (found : policy.checkerFor? p = some checker) (undecided : checker.check v p = .undecided)
      (keyed : p.signatureType ≠ .digestSha256) (located : p.keyLocator = some keyName)
      (anchored : policy.anchors.find? keyName = some c) (confirmed : v.Confirms p c)

/-- What a checker says that verifies the signature itself. -/
def Ruling.ofSignature : Except Rejection Unit → Ruling
  | .ok () => .accept
  | .error reason => .reject reason

/-- A fixed-signer checker that holds the certificate of the key verifies the signature, in the same
way as it is verified with any certificate that is trusted. -/
theorem Checker.check_fixedSigner {t : SignatureType} {signers : Keyring} {keyName : Name}
    (located : p.keyLocator = some keyName) (held : signers.find? keyName = some c) :
    (Checker.fixedSigner t signers).check v p = .ofSignature (v.checkSignature p c) := by
  simp only [Checker.check, located, held, Verifier.checkSignature]
  split
  · rfl
  · split <;> rfl

/-- Only a fixed-signer checker accepts outright: it holds the certificate of the key. -/
theorem Checker.check_eq_accept_iff {checker : Checker} :
    checker.check v p = .accept ↔ ∃ t signers keyName c, checker = .fixedSigner t signers ∧
      p.keyLocator = some keyName ∧ signers.find? keyName = some c ∧ v.Confirms p c := by
  constructor
  · intro h
    unfold Checker.check at h
    split at h
    · cases h
    · split at h
      · cases h
      · split at h <;> cases h
    · split at h
      · cases h
      · split at h <;> cases h
    · next t signers =>
      split at h
      · cases h
      · next keyName hk =>
        split at h
        · cases h
        · next c hc =>
          split at h
          · cases h
          · next hsupported =>
            split at h
            · next hverified =>
              exact ⟨t, signers, keyName, c, rfl, hk, hc, by simpa using hsupported, hverified⟩
            · cases h
  · rintro ⟨t, signers, keyName, c, rfl, hk, hc, hconf⟩
    rw [check_fixedSigner hk hc, Verifier.checkSignature_eq_ok_iff.2 hconf]
    rfl

namespace Judge

variable {j : Judge} {now : Instant} {step : Nat} {cache cache' : Cache} {keyName : Name}

/-! ## The verdict without a cache -/

/-- A verdict once the cache has been asked: a certificate that is needed may be there. -/
def consult (j : Judge) (now : Instant) (p : SignedPacket) (cache : Cache) :
    Verdict → Verdict × Cache
  | .need keyName =>
    match cache.lookup now keyName with
    | (some c, cache) => (j.judgeWith p c, cache)
    | (none, cache) => (.need keyName, cache)
  | verdict => (verdict, cache)

theorem judgeWith_ne_need (n : Name) : j.judgeWith p c ≠ .need n := by
  unfold judgeWith
  split <;> nofun

theorem judgeWith_eq_accept_iff : j.judgeWith p c = .accept ↔ j.verifier.Confirms p c := by
  rw [← Verifier.checkSignature_eq_ok_iff]
  unfold judgeWith
  split <;> simp_all

/-- **The cache matters only where the policy leaves a packet to a key.** -/
theorem judge_eq_consult :
    j.judge now policy p step cache = j.consult now p cache (j.assess policy p step) := by
  unfold assess judge
  split
  · rfl
  · split
    · rfl
    · split
      · rfl
      · rfl
      · unfold judgeSignature
        split
        · split <;> rfl
        · split
          · rfl
          · split
            · next anchor _ =>
              cases hw : j.judgeWith p anchor with
              | need n => exact absurd hw (judgeWith_ne_need n)
              | accept => rfl
              | reject reason => rfl
            · rfl

/-- A step that is not allowed any more is refused before anything else. -/
theorem assess_of_stepLimit_le (h : j.stepLimit ≤ step) :
    j.assess policy p step = .reject (.stepLimitReached j.stepLimit) := by
  simp [assess, judge, overLimit?, h]

/-- A signature that is left open goes to the cache if it names a key without an anchor. -/
theorem judgeSignature_eq_need_iff :
    (j.judgeSignature now policy p .empty).1 = .need keyName ↔
      p.signatureType ≠ .digestSha256 ∧ p.keyLocator = some keyName ∧
        policy.anchors.find? keyName = none := by
  unfold judgeSignature
  split
  · next hd =>
    constructor
    · intro h
      split at h <;> cases h
    · rintro ⟨hne, -⟩
      exact absurd hd hne
  · next hne =>
    split
    · next hk => simp [hk]
    · next locator hk =>
      split
      · next anchor ha =>
        constructor
        · intro h
          exact absurd h (judgeWith_ne_need _)
        · rintro ⟨-, hk', hnone⟩
          rw [Option.some.inj (hk.symm.trans hk'), hnone] at ha
          cases ha
      · next ha =>
        constructor
        · rintro ⟨⟩
          exact ⟨hne, hk, ha⟩
        · rintro ⟨-, hk', -⟩
          rw [Option.some.inj (hk.symm.trans hk')]
          rfl

/-- A signature that is left open is good if it is a digest or that of an anchor's key. -/
theorem judgeSignature_eq_accept_iff :
    (j.judgeSignature now policy p .empty).1 = .accept ↔
      (p.signatureType = .digestSha256 ∧ verifiesDigest p.signedBytes p.signature.value) ∨
      (p.signatureType ≠ .digestSha256 ∧ ∃ keyName c, p.keyLocator = some keyName ∧
        policy.anchors.find? keyName = some c ∧ j.verifier.Confirms p c) := by
  unfold judgeSignature
  split
  · next hd =>
    split <;> simp_all
  · next hne =>
    split
    · next hk => simp [hk, hne]
    · next locator hk =>
      split
      · next anchor ha => simp [judgeWith_eq_accept_iff, hk, ha, hne]
      · next ha => simp [hk, ha, hne, Cache.lookup, Cache.empty]

/-- Where the policy does not reject a packet, its checker accepts or leaves the signature open. -/
theorem assess_eq_iff {verdict : Verdict} (hv : ∀ reason, verdict ≠ .reject reason) :
    j.assess policy p step = verdict ↔
      step < j.stepLimit ∧ ∃ checker, policy.checkerFor? p = some checker ∧
        (checker.check j.verifier p = .accept ∧ verdict = .accept ∨
          checker.check j.verifier p = .undecided ∧
            (j.judgeSignature 0 policy p .empty).1 = verdict) := by
  have hne : ∀ reason, Verdict.reject reason ≠ verdict := fun reason h => hv reason h.symm
  rcases Nat.lt_or_ge step j.stepLimit with hlt | hge
  · simp only [hlt, true_and, assess, judge, overLimit?_eq_none_iff.2 hlt, Policy.checkerFor?]
    cases policy.ruleFor? p with
    | none => simp [hne]
    | some rule =>
      simp only [Rule.check, Option.bind_some]
      cases rule.checkerFor? p.signatureType with
      | none => simp [hne]
      | some checker =>
        cases hc : checker.check j.verifier p with
        | accept => simp [hc, eq_comm]
        | reject reason => simp [hc, hne]
        | undecided => simp [hc]
  · rw [assess_of_stepLimit_le hge]
    simp [hne, Nat.not_lt.2 hge]

theorem assess_eq_need_iff :
    j.assess policy p step = .need keyName ↔
      step < j.stepLimit ∧ policy.Defers j.verifier p keyName := by
  have hv : ∀ reason, Verdict.need keyName ≠ .reject reason := nofun
  rw [assess_eq_iff hv]
  refine and_congr_right fun _ => ⟨?_, ?_⟩
  · rintro ⟨checker, hf, ⟨-, h⟩ | ⟨hu, h⟩⟩
    · cases h
    · obtain ⟨hne, hk, ha⟩ := judgeSignature_eq_need_iff.1 h
      exact ⟨⟨checker, hf, hu⟩, hne, hk, ha⟩
  · rintro ⟨⟨checker, hf, hu⟩, hne, hk, ha⟩
    exact ⟨checker, hf, Or.inr ⟨hu, judgeSignature_eq_need_iff.2 ⟨hne, hk, ha⟩⟩⟩

theorem assess_eq_accept_iff :
    j.assess policy p step = .accept ↔
      step < j.stepLimit ∧ policy.Settles j.verifier p := by
  have hv : ∀ reason, Verdict.accept ≠ .reject reason := nofun
  rw [assess_eq_iff hv]
  refine and_congr_right fun _ => ⟨?_, ?_⟩
  · rintro ⟨checker, hf, ⟨ha, -⟩ | ⟨hu, h⟩⟩
    · obtain ⟨t, signers, n, c, rfl, hk, hheld, hc⟩ := Checker.check_eq_accept_iff.1 ha
      exact .fixedSigner hf hk hheld hc
    · rcases judgeSignature_eq_accept_iff.1 h with ⟨hd, hgood⟩ | ⟨hne, n, c, hk, hc, hconf⟩
      · exact .digest hf hu hd hgood
      · exact .anchor hf hu hne hk hc hconf
  · intro h
    cases h with
    | fixedSigner hf hk hheld hc =>
      exact ⟨_, hf, Or.inl ⟨Checker.check_eq_accept_iff.2 ⟨_, _, _, _, rfl, hk, hheld, hc⟩, rfl⟩⟩
    | digest hf hu hd hgood =>
      exact ⟨_, hf, Or.inr ⟨hu, judgeSignature_eq_accept_iff.2 (Or.inl ⟨hd, hgood⟩)⟩⟩
    | anchor hf hu hne hk hc hconf =>
      exact ⟨_, hf, Or.inr ⟨hu,
        judgeSignature_eq_accept_iff.2 (Or.inr ⟨hne, _, _, hk, hc, hconf⟩)⟩⟩

/-! ## The verdict with a cache -/

/-- A certificate from the cache decides about a packet that the policy leaves to its key. -/
theorem judge_of_mem (hassess : j.assess policy p step = .need c.keyName) (held : c ∈ cache)
    (valid : c.isValidAt now) :
    j.judge now policy p step cache = (j.judgeWith p c, cache) := by
  have hlookup : cache.lookup now c.keyName = (some c, cache) :=
    Cache.lookup_eq_some_iff.2 ⟨held, valid, rfl⟩
  rw [judge_eq_consult, hassess]
  unfold consult
  dsimp only
  rw [hlookup]

/-- A certificate is asked for if the policy leaves the packet to its key and the cache has none. -/
theorem defers_of_judge_eq_need
    (h : j.judge now policy p step cache = (.need keyName, cache')) :
    step < j.stepLimit ∧ policy.Defers j.verifier p keyName := by
  rw [judge_eq_consult] at h
  cases ha : j.assess policy p step with
  | accept => simp [ha, consult] at h
  | reject reason => simp [ha, consult] at h
  | need n =>
    rw [ha] at h
    unfold consult at h
    dsimp only at h
    split at h
    · next c _ _ => exact absurd (congrArg Prod.fst h) (judgeWith_ne_need _)
    · next =>
      obtain ⟨⟨⟩, -⟩ := Prod.mk.inj h
      exact assess_eq_need_iff.1 ha

/-- A packet is accepted at once by its policy, or by a valid certificate in the cache of the key
that its policy leaves it to. -/
theorem settles_or_cached_of_judge_eq_accept
    (h : j.judge now policy p step cache = (.accept, cache')) :
    policy.Settles j.verifier p ∨
      ∃ c ∈ cache, policy.Defers j.verifier p c.keyName ∧ c.isValidAt now ∧
        j.verifier.Confirms p c := by
  rw [judge_eq_consult] at h
  cases ha : j.assess policy p step with
  | accept => exact Or.inl (assess_eq_accept_iff.1 ha).2
  | reject reason => simp [ha, consult] at h
  | need n =>
    rw [ha] at h
    unfold consult at h
    dsimp only at h
    split at h
    · next c _ hl =>
      obtain ⟨hfound, hvalid, -⟩ := Cache.lookup_eq_some_iff.1 hl
      have hkey := Keyring.keyName_of_find? hfound
      refine Or.inr ⟨c, Cache.mem_of_find? hfound, ?_, hvalid, ?_⟩
      · rw [hkey]
        exact (assess_eq_need_iff.1 ha).2
      · exact judgeWith_eq_accept_iff.1 (congrArg Prod.fst h)
    · cases h

/-- A judgement adds nothing to the cache. -/
theorem mem_of_mem_judge (h : c ∈ (j.judge now policy p step cache).2) : c ∈ cache := by
  rw [judge_eq_consult] at h
  cases ha : j.assess policy p step with
  | accept => simpa [ha, consult] using h
  | reject reason => simpa [ha, consult] using h
  | need n =>
    have hlookup : c ∈ (cache.lookup now n).2 := by
      rw [ha] at h
      unfold consult at h
      dsimp only at h
      split at h <;> simp_all
    exact Cache.mem_of_mem_lookup hlookup

/-! ## Using a certificate -/

/-- Uses a data packet that is trusted as a certificate on a packet that waits for it. -/
def endorse (j : Judge) (now : Instant) (signer : Data) (p : SignedPacket) (cache : Cache) :
    Except Rejection Unit × Cache :=
  match Certificate.ofData signer with
  | .error reason => (.error (.certificateMalformed signer.name reason), cache)
  | .ok c =>
    if c.isValidAt now then (j.verifier.checkSignature p c, cache.insert c)
    else (.error (.certificateExpired signer.name), cache)

/-- One packet is signed by the one before it, which is a certificate that is valid now. -/
def Endorses (j : Judge) (now : Instant) (a b : SignedPacket) : Prop :=
  ∃ d c, a = .data d ∧ Certificate.ofData d = .ok c ∧ c.isValidAt now ∧ j.verifier.Confirms b c

theorem endorses_of_endorse {signer : Data}
    (h : j.endorse now signer p cache = (.ok (), cache')) : j.Endorses now (.data signer) p := by
  unfold endorse at h
  split at h
  · cases h
  · next c hc =>
    split at h
    · next hvalid =>
      exact ⟨signer, c, rfl, hc, hvalid,
        Verifier.checkSignature_eq_ok_iff.1 (congrArg Prod.fst h)⟩
    · cases h

/-- Nothing enters the cache but the signer, and this only if it is a certificate. -/
theorem eq_or_mem_of_mem_endorse {signer : Data} (h : c ∈ (j.endorse now signer p cache).2) :
    (Certificate.ofData signer = .ok c ∧ c.isValidAt now) ∨ c ∈ cache := by
  unfold endorse at h
  split at h
  · exact Or.inr h
  · next d hd =>
    split at h
    · next hvalid =>
      rcases Cache.eq_or_mem_of_mem_insert h with rfl | hmem
      · exact Or.inl ⟨hd, hvalid⟩
      · exact Or.inr hmem
    · exact Or.inr h

/-- **A chain is verified by one use of a certificate after the other.** -/
theorem verifyChain_cons (signer : Data) (p : SignedPacket) (waiting : List SignedPacket)
    (cache : Cache) :
    j.verifyChain now signer (p :: waiting) cache =
      match j.endorse now signer p cache with
      | (.error reason, cache) => (.rejected reason, cache)
      | (.ok (), cache) =>
        match p with
        | .data d => j.verifyChain now d waiting cache
        | .interest .. => (.accepted, cache) := by
  unfold endorse
  rw [verifyChain]
  cases Certificate.ofData signer with
  | error reason => rfl
  | ok c =>
    dsimp only
    cases c.isValidAt now with
    | false => rfl
    | true =>
      simp only [if_true]
      cases j.verifier.checkSignature p c with
      | error reason => rfl
      | ok _ => cases p <;> rfl

/-- Once the first certificate is trusted, nothing more is waited for. -/
theorem verifyChain_ne_pending (signer : Data) (waiting : List SignedPacket) (cache : Cache)
    (rs : List Request) : (j.verifyChain now signer waiting cache).1 ≠ .pending rs := by
  induction waiting generalizing signer cache with
  | nil => nofun
  | cons p waiting ih =>
    rw [verifyChain_cons]
    split
    · nofun
    · split
      · exact ih _ _
      · nofun

/-! ## What a check and a resumption can do -/

/-- All that a check can come to. -/
inductive Checked (j : Judge) (now : Instant) (policy : Policy) (packet : Packet) (step : Nat)
    (cache : Cache) : Outcome × Cache → Prop
  /-- The step is not allowed any more, or an interest carries no signature. -/
  | barred (reason : Rejection) : Checked j now policy packet step cache (.rejected reason, cache)
  | judged {p : SignedPacket} {verdict : Verdict} {cache' : Cache}
      (read : SignedPacket.ofPacket packet = .ok p)
      (judged : j.judge now policy p step cache = (verdict, cache')) :
      Checked j now policy packet step cache (j.outcome policy [p] step verdict, cache')

theorem checked (j : Judge) (now : Instant) (policy : Policy) (packet : Packet) (step : Nat)
    (cache : Cache) :
    Checked j now policy packet step cache (j.check now policy packet step cache) := by
  unfold check
  split
  · exact .barred _
  · split
    · exact .barred _
    · next p hp => exact .judged hp rfl

/-- A packet that is read, at a step that may be taken, is judged. -/
theorem check_of_judge {packet : Packet} {verdict : Verdict}
    (allowed : step < j.stepLimit) (read : SignedPacket.ofPacket packet = .ok p)
    (judged : j.judge now policy p step cache = (verdict, cache')) :
    j.check now policy packet step cache = (j.outcome policy [p] step verdict, cache') := by
  unfold check
  rw [overLimit?_eq_none_iff.2 allowed, read]
  dsimp only
  rw [judged]

/-- All that the answer to a request can come to. -/
inductive Resumed (j : Judge) (now : Instant) (r : Request) (d : Data) (cache : Cache) :
    Outcome × Cache → Prop
  /-- The step is not allowed any more, or the certificate is for another key. -/
  | barred (reason : Rejection) : Resumed j now r d cache (.rejected reason, cache)
  | trusted {cache' : Cache} (named : d.name.parent = r.certificateName)
      (judged : j.judge now r.policy (.data d) r.step cache = (.accept, cache')) :
      Resumed j now r d cache (j.verifyChain now d r.waiting cache')
  | refused {reason : Rejection} {cache' : Cache} (named : d.name.parent = r.certificateName)
      (judged : j.judge now r.policy (.data d) r.step cache = (.reject reason, cache')) :
      Resumed j now r d cache (.rejected reason, cache')
  | passedOn {keyName : Name} {cache' : Cache} (named : d.name.parent = r.certificateName)
      (judged : j.judge now r.policy (.data d) r.step cache = (.need keyName, cache')) :
      Resumed j now r d cache
        (.pending [⟨keyName, r.step + 1, j.fetchRetries, .data d :: r.waiting, r.policy⟩], cache')

theorem resumed (j : Judge) (now : Instant) (r : Request) (d : Data) (cache : Cache) :
    Resumed j now r d cache (j.resume now r d cache) := by
  unfold resume
  split
  · exact .barred _
  · split
    · exact .barred _
    · next hn =>
      have named : d.name.parent = r.certificateName := not_not.1 hn
      split
      · next cache' hj => exact .trusted named hj
      · next verdict cache' hne hj =>
        cases verdict with
        | accept => exact absurd rfl hne
        | reject reason => exact .refused named hj
        | need keyName => exact .passedOn named hj

end Judge

end TrustSchema
