import TrustSchema.Proofs.Success
import TrustSchema.Proofs.Validation.StepLimit

/-!
# Honest chains are accepted as far as the steps reach

The other results about validation say what is behind a packet that is accepted. Here it is the
other way round: a packet is given, and a chain of certificates that leads from it to one that its
policy accepts by itself (`Policy.HonestChain`). The fetcher answers with these certificates, all of
them are valid, and each bears out what it signed.

**Such a packet is accepted exactly if the chain is shorter than the step limit**
(`Judge.validateOn_of_honestChain`). Each certificate is fetched once, and none that no step is left
for, but for one: the limit is tested when an answer is there, so the last fetch may be in vain.

As validation is the recursion, this is an induction along the chain (`Judge.resolve_of_honestChain`):
each step up has the next certificate fetched, and each step back uses it on the packet below.
-/

namespace TrustSchema

variable {σ : Type}

/-! ## Chains of certificates -/

/-- The policy leaves a packet to the key of a certificate. The certificate is what is answered for
this key, is valid at the time, and bears the packet out. -/
structure Policy.HonestLink (policy : Policy) (v : Verifier) (now : Instant)
    (answers : Name → Except FetchFailure Data) (p : SignedPacket) (c : Certificate) : Prop where
  defers : policy.Defers v p c.keyName
  answered : answers c.keyName = .ok c.data
  read : Certificate.ofData c.data = .ok c
  valid : c.isValidAt now
  confirmed : v.Confirms p c

/-- The certificates lead from a packet to one that the policy accepts by itself: the packet is
signed with the key of the first, each certificate with the key of the next one. -/
def Policy.HonestChain (policy : Policy) (v : Verifier) (now : Instant)
    (answers : Name → Except FetchFailure Data) : SignedPacket → List Certificate → Prop
  | p, [] => policy.Settles v p
  | p, c :: cs =>
    policy.HonestLink v now answers p c ∧ policy.HonestChain v now answers (.data c.data) cs

/-- An answer that comes at once is fetched with one call. -/
theorem Fetcher.Gives.exists_fetch_recording {fetcher : Fetcher σ}
    {answers : Name → Except FetchFailure Data} (gives : fetcher.Gives answers) {name : Name}
    {d : Data} (answered : answers name = .ok d) (retries : Nat) (s : List Name × σ) :
    ∃ state, fetcher.recording.fetch name retries s = (.ok d, (s.1 ++ [name], state)) := by
  have hcall : fetcher.recording name s = (.ok d, (s.1 ++ [name], (fetcher name s.2).2)) :=
    Prod.ext ((gives name s.2).trans answered) rfl
  refine ⟨(fetcher name s.2).2, ?_⟩
  cases retries with
  | zero => exact hcall
  | succ retries => rw [Fetcher.fetch, hcall]

namespace Judge

variable {j : Judge} {policy : Policy} {fetcher : Fetcher σ}
  {answers : Name → Except FetchFailure Data} {clock : σ → Instant} {p : SignedPacket}
  {c : Certificate} {signers : List Certificate} {step : Nat}

/-! ## Climbing and coming back -/

/-- A certificate of the chain bears out the packet below it, whatever is cached by then. -/
theorem exists_endorseBy_of_honestLink {s : FetchState σ}
    (link : policy.HonestLink j.verifier (clock s.fetcher) answers p c) :
    ∃ cache, j.endorseBy (.ofTime clock) c.data p s = (.ok (), { s with cache }) := by
  refine ⟨s.cache.insert c, ?_⟩
  rw [endorseBy_ofTime, FetchState.onCache_of_eq (endorse_of_ofData link.read link.valid),
    Verifier.checkSignature_eq_ok_iff.2 link.confirmed]

/-- With an empty cache, a packet that the policy leaves to a key waits for its certificate. -/
theorem judgeBy_of_defers {clock : Clock σ} {s : FetchState σ}
    (defers : policy.Defers j.verifier p c.keyName) (hstep : step < j.stepLimit)
    (hempty : s.cache.ring = .empty) :
    j.judgeBy clock policy p step s = (.need c.keyName, s) := by
  have hmiss : s.cache.ring.find? c.keyName = none := by
    rw [hempty]
    rfl
  exact judgeBy_of_find?_eq_none (assess_eq_need_iff.2 ⟨hstep, defers⟩) hmiss

/-- **From any packet on, the recursion goes as far as the steps reach.** The induction is on the
certificates that lead on from the packet. Each turn takes the first of them off, so that one
certificate less and one step less are left. -/
theorem resolve_of_honestChain (gives : fetcher.Gives answers)
    (honest : ∀ state, policy.HonestChain j.verifier (clock state) answers p signers)
    (hstep : step < j.stepLimit) (s : FetchState (List Name × σ)) (hempty : s.cache.ring = .empty) :
    let result := j.resolve (.ofTime (clock ∘ Prod.snd)) policy fetcher.recording p step s
    result.1 = (if step + signers.length < j.stepLimit then .ok ()
      else .error (.stepLimitReached j.stepLimit)) ∧
    result.2.fetcher.1 =
      s.fetcher.1 ++ (signers.map Certificate.keyName).take (j.stepLimit - step) := by
  induction signers generalizing p step s with
  | nil =>
    have settles : policy.Settles j.verifier p := honest s.fetcher.2
    rw [resolve_of_accept (assess_eq_accept_iff.2 ⟨hstep, settles⟩), List.map_nil, List.take_nil,
      List.append_nil]
    exact ⟨(if_pos hstep).symm, rfl⟩
  | cons c signers ih =>
    have link := fun state => (honest state).1
    have hneed : j.judgeBy (.ofTime (clock ∘ Prod.snd)) policy p step s = (.need c.keyName, s) :=
      judgeBy_of_defers (link s.fetcher.2).defers hstep hempty
    obtain ⟨state, hfetch⟩ :=
      gives.exists_fetch_recording (link s.fetcher.2).answered j.fetchRetries s.fetcher
    rcases Nat.lt_or_eq_of_le (Nat.succ_le_of_lt hstep) with hnext | hlast
    · obtain ⟨hverdict, hcalls⟩ := ih (fun state => (honest state).2) hnext
        ⟨s.cache, (s.fetcher.1 ++ [c.keyName], state)⟩ hempty
      have hlength : step + (c :: signers).length = step + 1 + signers.length := by
        rw [List.length_cons]
        omega
      have hleft : j.stepLimit - step = j.stepLimit - (step + 1) + 1 := by omega
      have hjudged : j.refusal? c.keyName (step + 1) (.ok c.data) = none :=
        refusal?_ok_eq_none_iff.2 ⟨hnext, rfl⟩
      rw [resolve_of_answer hneed hfetch hjudged, hlength, hleft, List.map_cons,
        List.take_succ_cons]
      generalize j.resolve (.ofTime (clock ∘ Prod.snd)) policy fetcher.recording (.data c.data)
        (step + 1) ⟨s.cache, (s.fetcher.1 ++ [c.keyName], state)⟩ = result at hverdict hcalls ⊢
      obtain ⟨verdict, s'⟩ := result
      have hcalls' := hcalls.trans (List.append_cons ..).symm
      cases verdict with
      | error reason => exact ⟨hverdict, hcalls'⟩
      | ok _ =>
        -- The certificate is used on the packet at the time when the climb is over.
        obtain ⟨cache, hendorse⟩ : ∃ cache,
            j.endorseBy (.ofTime (clock ∘ Prod.snd)) c.data p s' = (.ok (), { s' with cache }) :=
          exists_endorseBy_of_honestLink (link s'.fetcher.2)
        dsimp only
        rw [hendorse]
        exact ⟨hverdict, hcalls'⟩
    · -- With the last step, the certificate is fetched in vain.
      have hrefused : j.refusal? c.keyName (step + 1) (.ok c.data) =
          some (.stepLimitReached j.stepLimit) := if_pos (Nat.le_of_eq hlast.symm)
      have hlong : ¬ step + (c :: signers).length < j.stepLimit := by
        rw [List.length_cons]
        omega
      have hleft : j.stepLimit - step = 1 := by omega
      rw [resolve_of_refusal hneed hfetch hrefused, hleft]
      exact ⟨(if_neg hlong).symm, rfl⟩

theorem validateOn_eq_resolve {packet : Packet} (read : SignedPacket.ofPacket packet = .ok p)
    (hstep : 0 < j.stepLimit) (s : FetchState σ) :
    j.validateOn clock policy fetcher packet s =
      j.resolve (.ofTime clock) policy fetcher p 0 s := by
  unfold validateOn
  rw [validateBy_eq_validateDirectly, validateDirectly, overLimit?_eq_none_iff.2 hstep, read]

/-- Where no step is allowed, nothing is even looked at. -/
theorem validateOn_of_no_step {packet : Packet} (hzero : j.stepLimit = 0) (s : FetchState σ) :
    j.validateOn clock policy fetcher packet s = (.error (.stepLimitReached j.stepLimit), s) := by
  unfold validateOn
  rw [validateBy_eq_validateDirectly, validateDirectly, overLimit?, if_pos (Nat.le_of_eq hzero)]

/-- **A packet with an honest chain is accepted exactly if the chain is shorter than the step
limit**; otherwise the limit ends its validation. The certificates of the chain are fetched one
after the other with one call each, as many as the limit says. This holds for data packets and
interests, whatever the number of certificates, if nothing is cached at first, and whatever the
clock says, as long as the certificates are valid at all of its readings. If it stands still this is
about `Judge.validate`. -/
theorem validateOn_of_honestChain (gives : fetcher.Gives answers) {packet : Packet}
    (read : SignedPacket.ofPacket packet = .ok p)
    (honest : ∀ state, policy.HonestChain j.verifier (clock state) answers p signers)
    (s : FetchState σ) (hempty : s.cache.ring = .empty) :
    let result := j.validateOn clock policy fetcher packet s
    result.1 = (if signers.length < j.stepLimit then .ok ()
      else .error (.stepLimitReached j.stepLimit)) ∧
    (∃ calls,
      j.validateOn (clock ∘ Prod.snd) policy fetcher.recording packet (s.withRecord []) =
        (result.1, result.2.withRecord calls) ∧
      calls = (signers.map Certificate.keyName).take j.stepLimit ∧
      calls.length = min signers.length j.stepLimit) ∧
    ∀ now, clock = (fun _ => now) → result = j.validate now policy fetcher packet s := by
  intro result
  obtain ⟨calls, hrecord⟩ := exists_validateOn_recording j clock policy fetcher packet s
  have hcourse : result.1 = (if signers.length < j.stepLimit then .ok ()
      else .error (.stepLimitReached j.stepLimit)) ∧
      calls = (signers.map Certificate.keyName).take j.stepLimit := by
    rcases Nat.eq_zero_or_pos j.stepLimit with hzero | hpos
    · have hnone : (result.1, result.2.withRecord calls) = _ :=
        hrecord.symm.trans (validateOn_of_no_step hzero (s.withRecord []))
      obtain ⟨hverdict, hstate⟩ := Prod.mk.inj hnone
      rw [hverdict, hzero, if_neg (Nat.not_lt_zero _), List.take_zero]
      exact ⟨rfl, congrArg (fun state => state.fetcher.1) hstate⟩
    · have hresolve := resolve_of_honestChain gives honest hpos (s.withRecord []) hempty
      rw [← validateOn_eq_resolve read hpos, hrecord, Nat.zero_add, Nat.sub_zero] at hresolve
      exact hresolve
  obtain ⟨hverdict, hcalls⟩ := hcourse
  refine ⟨hverdict, ⟨calls, hrecord, hcalls, ?_⟩, ?_⟩
  · rw [hcalls, List.length_take, List.length_map, Nat.min_comm]
  · rintro now rfl
    exact validateOn_const

end Judge

namespace Sample

/-- The certificate of a key, read from its packet. -/
def signer (key issuer : UInt8) : Certificate := ⟨certificate key issuer, ⟨.ecdsa, [key]⟩, 0, 10⟩

/-- Two certificates lead from the packet to the anchor's key. -/
def signers : List Certificate := [signer 3 2, signer 2 1]

theorem signer_read : ∀ c ∈ signers, Certificate.ofData c.data = .ok c := by
  simp only [← toOption_eq_some_iff]
  decide +kernel

theorem signers_honest : policy.HonestChain verifier 5 answers (.data packet) signers := by
  have hpacket : policy.HonestLink verifier 5 answers (.data packet) (signer 3 2) :=
    ⟨⟨⟨_, rfl, rfl⟩, nofun, rfl, rfl⟩, rfl, signer_read _ (by decide), rfl, ⟨rfl, rfl⟩⟩
  have hthird : policy.HonestLink verifier 5 answers (.data (certificate 3 2)) (signer 2 1) :=
    ⟨⟨⟨_, rfl, rfl⟩, nofun, rfl, rfl⟩, rfl, signer_read _ (by decide), rfl, ⟨rfl, rfl⟩⟩
  have hsecond : policy.Settles verifier (.data (certificate 2 1)) :=
    .anchor rfl rfl nofun rfl rfl ⟨rfl, rfl⟩
  exact ⟨hpacket, hthird, hsecond⟩

/-- The packet is accepted if three steps are allowed. If two are, the second certificate is
fetched, but too late. -/
theorem signers_suffice :
    (Fetcher.ofAnswers answers).Gives answers ∧
      policy.HonestChain verifier 5 answers (.data packet) signers ∧
      ((judge.withLimit 3).validate 5 policy (Fetcher.ofAnswers answers) (.data packet)
        ⟨.empty, ()⟩).1 = .ok () ∧
      ((judge.withLimit 2).validate 5 policy (Fetcher.ofAnswers answers) (.data packet)
        ⟨.empty, ()⟩).1 = .error (.stepLimitReached 2) ∧
      ((judge.withLimit 2).validateOn (fun _ => 5) policy (Fetcher.ofAnswers answers).recording
        (.data packet) ⟨.empty, [], ()⟩).2.fetcher.1 = [name [3], name [2]] := by
  have gives := Fetcher.gives_ofAnswers answers
  have read : SignedPacket.ofPacket (.data packet) = .ok (.data packet) := rfl
  obtain ⟨haccepted, -, hclock⟩ := Judge.validateOn_of_honestChain (j := judge.withLimit 3)
    gives read (fun _ => signers_honest) ⟨.empty, ()⟩ rfl
  obtain ⟨hlimited, ⟨calls, hrecord, hcalls, -⟩, hclock'⟩ :=
    Judge.validateOn_of_honestChain (j := judge.withLimit 2)
      gives read (fun _ => signers_honest) ⟨.empty, ()⟩ rfl
  rw [hclock 5 rfl] at haccepted
  rw [hclock' 5 rfl] at hlimited
  refine ⟨gives, signers_honest, haccepted, hlimited, ?_⟩
  exact (congrArg (fun result => result.2.fetcher.1) hrecord).trans hcalls

end Sample

end TrustSchema
