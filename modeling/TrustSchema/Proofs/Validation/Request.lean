import TrustSchema.Proofs.Validation.History
import TrustSchema.Proofs.Validation.Unwinding

/-!
# Requests are well-formed chains

A request is put together over many operations: the check of a packet, and then one answer after the
other, each by a certificate that turns out to need another one. What is verified about a waiting
packet is verified when it comes in, and nothing of it is looked at again when the chain is finally
unwound. So unwinding relies on what this module proves (`Request.Formed`, an invariant of chains):
the waiting packets lead from key to key, all of them are left open by the policy of the chain, and
only the last can be an interest.

The invariant is kept by each answer (`Request.Formed.of_resume`) and begins with each check
(`Request.formed_of_check`); no assumption is made about the order of the operations in between, nor
about the certificates that are fetched.
-/

namespace TrustSchema

/-- A request as it is handed out in the chain of a packet, checked at some step under a policy. -/
structure Request.Formed (j : Judge) (policy : Policy) (subject : SignedPacket) (start : Nat)
    (r : Request) : Prop where
  policy_eq : r.policy = policy
  waiting_ne_nil : r.waiting ≠ []
  step_eq : r.step = start + r.waiting.length
  step_le : r.step ≤ j.stepLimit
  awaited : r.waiting.head?.bind SignedPacket.keyLocator = some r.certificateName
  linked : r.waiting.IsChain SignedPacket.Precedes
  last_eq : r.waiting.getLast? = some subject
  deferred : ∀ p ∈ r.waiting, ∃ keyName, r.policy.Defers j.verifier p keyName

namespace Request

variable {j : Judge} {policy : Policy} {subject : SignedPacket} {start : Nat} {now : Instant}
  {cache : Cache}

/-- The request of a check. -/
theorem formed_of_check {packet : Packet} {step : Nat} {rs : List Request}
    (h : (j.check now policy packet step cache).1 = .pending rs) :
    ∃ p r, SignedPacket.ofPacket packet = .ok p ∧ rs = [r] ∧ r.Formed j policy p step := by
  have hchecked := j.checked now policy packet step cache
  generalize j.check now policy packet step cache = result at h hchecked
  cases hchecked with
  | barred reason => cases h
  | @judged p verdict cache' read judged =>
    cases verdict with
    | accept => cases h
    | reject reason => cases h
    | need keyName =>
      cases h
      obtain ⟨hlt, hdefers⟩ := Judge.defers_of_judge_eq_need judged
      refine ⟨p, _, read, rfl, ?_⟩
      exact {
        policy_eq := rfl
        waiting_ne_nil := List.cons_ne_nil _ _
        step_eq := rfl
        step_le := hlt
        awaited := hdefers.located
        linked := .singleton p
        last_eq := rfl
        deferred := by
          intro q hq
          rw [List.mem_singleton.1 hq]
          exact ⟨keyName, hdefers⟩ }

/-- A certificate that answers a well-formed request stands before all that waits for it. -/
theorem Formed.isChain_cons {r : Request} {d : Data} (hr : r.Formed j policy subject start)
    (named : d.name.parent = r.certificateName) :
    (SignedPacket.data d :: r.waiting).IsChain SignedPacket.Precedes := by
  refine hr.linked.cons fun q hq => ⟨d, rfl, ?_⟩
  have hawaited := hr.awaited
  rw [Option.mem_def.1 hq] at hawaited
  rw [named]
  exact hawaited

/-- **An answer to a well-formed request leads to a well-formed request of the same chain**, unless
it ends the chain. -/
theorem Formed.of_resume {r : Request} {d : Data} {rs : List Request}
    (hr : r.Formed j policy subject start)
    (h : (j.resume now r d cache).1 = .pending rs) :
    ∃ next, rs = [next] ∧ next.Formed j policy subject start := by
  have hresumed := j.resumed now r d cache
  generalize j.resume now r d cache = result at h hresumed
  cases hresumed with
  | barred reason => cases h
  | trusted named judged => exact absurd h (Judge.verifyChain_ne_pending _ _ _ _)
  | refused named judged => cases h
  | @passedOn keyName cache' named judged =>
    cases h
    obtain ⟨hlt, hdefers⟩ := Judge.defers_of_judge_eq_need judged
    refine ⟨_, rfl, ?_⟩
    exact {
      policy_eq := hr.policy_eq
      waiting_ne_nil := List.cons_ne_nil _ _
      step_eq := by
        show r.step + 1 = start + (r.waiting.length + 1)
        rw [hr.step_eq, Nat.add_assoc]
      step_le := hlt
      awaited := hdefers.located
      linked := hr.isChain_cons named
      last_eq := by
        show (SignedPacket.data d :: r.waiting).getLast? = some subject
        rw [List.getLast?_cons, hr.last_eq]
        rfl
      deferred := by
        intro q hq
        rcases List.mem_cons.1 hq with rfl | hq
        · exact ⟨keyName, hdefers⟩
        · exact hr.deferred q hq }

end Request

/-- **Every request of a chain is well formed**, by induction along the chain. All events need to
have in common is what judges. -/
theorem History.Belongs.exists_formed {h : History} {o e : Event} {j : Judge} {rs : List Request}
    (hj : ∀ e ∈ h, e.before.judge = j) (hb : h.Belongs o e)
    (ho : e.outcome? = some (.pending rs)) {now : Instant} {packet : Packet} {start : Nat}
    (hcheck : o.operation = .check now packet start) :
    ∃ p r, SignedPacket.ofPacket packet = .ok p ∧ rs = [r] ∧
      r.Formed j o.before.policy p start := by
  induction hb generalizing rs with
  | began here _ =>
    rw [Event.outcome?_of_check hcheck, hj o here] at ho
    exact Request.formed_of_check (Option.some.inj ho)
  | @wentOn e e' now' r certificate hb asked here answer ih =>
    obtain ⟨rs', ho', hr'⟩ := Event.pending_of_mem_requests asked
    obtain ⟨p, r', hp, rfl, hformed⟩ := ih ho'
    obtain rfl := List.mem_singleton.1 hr'
    rw [Event.outcome?_of_resume answer, hj e' here] at ho
    obtain ⟨next, rfl, hnext⟩ := hformed.of_resume (Option.some.inj ho)
    exact ⟨p, next, hp, rfl, hnext⟩

/-- A request that is answered in a run is well formed, in a chain that the answer belongs to. -/
theorem Validator.Run.exists_formed_of_resume {v₀ v : Validator} {h : History} (run : v₀.Run h v)
    {e : Event} (he : e ∈ h) {now : Instant} {r : Request} {d : Data}
    (hop : e.operation = .resume now r d) :
    ∃ o subject start, h.Belongs o e ∧ r.Formed v₀.judge o.before.policy subject start := by
  obtain ⟨earlier, hsub, -, granted⟩ := run.of_mem he
  obtain ⟨e', he', hr⟩ := granted r (by rw [hop]; rfl)
  have he' : e' ∈ h := hsub (List.mem_cons_of_mem _ he')
  obtain ⟨rs, pending, hrs⟩ := Event.pending_of_mem_requests hr
  obtain ⟨o, hb⟩ := run.exists_belongs he' (Event.isCheck_or_resume_of_pending pending)
  obtain ⟨now', packet, start, hcheck⟩ := hb.isCheck
  obtain ⟨subject, r', -, rfl, hformed⟩ :=
    hb.exists_formed (fun e he => run.judge_before he) pending hcheck
  obtain rfl := List.mem_singleton.1 hrs
  exact ⟨o, subject, start, .wentOn hb hr he hop, hformed⟩

/-- **Every request that is handed out is a well-formed chain.** In any run, a pending outcome holds
exactly one request. It belongs to a chain, and for every check that it goes back to it is well
formed (`Request.Formed`): the packets that wait lead from the key that is asked for to the packet
of the check, the step counts them and is within the limit, and the policy in force at the check
leaves each of them to a key. So when the chain is unwound with success, no waiting packet is left
unverified. -/
theorem Validator.Run.request_formed {v₀ v : Validator} {h : History} (run : v₀.Run h v) {e : Event}
    (he : e ∈ h) {rs : List Request} (pending : e.outcome? = some (.pending rs)) :
    ∃ r, rs = [r] ∧ (∃ o, h.Belongs o e) ∧
      (∀ o, h.Belongs o e → ∃ now packet start subject, o.operation = .check now packet start ∧
        SignedPacket.ofPacket packet = .ok subject ∧
        r.Formed v₀.judge o.before.policy subject start) ∧
      ∀ now d cache, (v₀.judge.verifyChain now d r.waiting cache).1 = .accepted →
        (SignedPacket.data d :: r.waiting).IsChain (v₀.judge.Endorses now) := by
  have hj : ∀ e ∈ h, e.before.judge = v₀.judge := fun e he => run.judge_before he
  have hformed : ∀ o, h.Belongs o e → ∃ now packet start subject r,
      o.operation = .check now packet start ∧ SignedPacket.ofPacket packet = .ok subject ∧
        rs = [r] ∧ r.Formed v₀.judge o.before.policy subject start := by
    intro o hb
    obtain ⟨now, packet, start, hcheck⟩ := hb.isCheck
    obtain ⟨subject, r, hread, hrs, hr⟩ := hb.exists_formed hj pending hcheck
    exact ⟨now, packet, start, subject, r, hcheck, hread, hrs, hr⟩
  obtain ⟨o, hb⟩ := run.exists_belongs he (Event.isCheck_or_resume_of_pending pending)
  obtain ⟨_, _, _, _, r, _, _, rfl, hr⟩ := hformed o hb
  refine ⟨r, rfl, ⟨o, hb⟩, ?_, ?_⟩
  · intro o' hb'
    obtain ⟨now, packet, start, subject, r', hcheck, hread, hrs, hr'⟩ := hformed o' hb'
    obtain rfl := (List.singleton_inj.1 hrs).symm
    exact ⟨now, packet, start, subject, hcheck, hread, hr'⟩
  · intro now d cache haccepted
    exact Judge.isChain_endorses_of_verifyChain hr.linked haccepted

namespace Sample

/-- Two packets wait for the certificate that is asked for, while the policy they began under is no
longer in force. -/
theorem secondRequest_formed :
    start.Run [answered, reloaded, checked, installed] answered.after ∧
      answered.outcome? = some (.pending [secondRequest]) ∧
      ∃ r, [secondRequest] = [r] ∧
        (∃ o, History.Belongs [answered, reloaded, checked, installed] o answered) ∧
        (∀ o, History.Belongs [answered, reloaded, checked, installed] o answered →
          ∃ now packet first subject, o.operation = .check now packet first ∧
            SignedPacket.ofPacket packet = .ok subject ∧
            r.Formed judge o.before.policy subject first) ∧
        ∀ now d cache, (judge.verifyChain now d r.waiting cache).1 = .accepted →
          (SignedPacket.data d :: r.waiting).IsChain (judge.Endorses now) :=
  ⟨run_answered, answered_pending,
    run_answered.request_formed List.mem_cons_self answered_pending⟩

end Sample

end TrustSchema
