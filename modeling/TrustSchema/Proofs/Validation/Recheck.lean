import TrustSchema.Proofs.Validation.CacheEffect

/-!
# What has been resolved stays so

Once the answer to a request has settled a validation with success, the packet is accepted at once
when it is checked again, with no request (`Validator.Run.accepted_again`). The certificate that its
signature needs is then in the cache, under the key name that it names.

This is not plain, as the packets in line may be of many kinds: several may have one key name, and a
certificate that is put into the cache takes the place of any other one with its key name. What
counts is the last one, which is put there right before the packet is accepted. It is the
certificate that the packet was verified with, since each packet that waits names the key of the one
before it (`Judge.exists_signer_of_isChain`).
-/

namespace TrustSchema

variable {v₀ v : Validator} {h : History} {o e : Event} {now : Instant} {r : Request} {d : Data}

/-! ## The origin of a request -/

/-- The chain of a request that is answered begins with the check of the packet that waits last. -/
theorem History.Belongs.exists_formed_of_resume {j : Judge} (hj : ∀ e ∈ h, e.before.judge = j)
    (hb : h.Belongs o e) (hop : e.operation = .resume now r d) :
    ∃ now' packet start subject, o.operation = .check now' packet start ∧
      SignedPacket.ofPacket packet = .ok subject ∧
      r.Formed j o.before.policy subject start := by
  obtain ⟨now', packet, start, hcheck⟩ := hb.isCheck
  cases hb with
  | began here check =>
    rw [hop] at hcheck
    cases hcheck
  | @wentOn e' _ _ r' d' belongs asked here answer =>
    -- The request was handed out earlier in the chain.
    obtain rfl : r' = r := by
      rw [hop] at answer
      cases answer
      rfl
    obtain ⟨rs, pending, hrs⟩ := Event.pending_of_mem_requests asked
    obtain ⟨subject, r'', read, rfl, hr⟩ := belongs.exists_formed hj pending hcheck
    obtain rfl := List.mem_singleton.1 hrs
    exact ⟨now', packet, start, subject, hcheck, read, hr⟩

/-! ## The cache after a chain -/

namespace Judge

variable {j : Judge} {policy : Policy} {p subject : SignedPacket} {step : Nat} {cache : Cache}
  {c : Certificate}

/-- A packet that a policy leaves to a key is accepted at once with a certificate from the cache. -/
theorem accepted_of_mem (allowed : step < j.stepLimit)
    (deferred : policy.Defers j.verifier p c.keyName) (held : c ∈ cache)
    (valid : c.isValidAt now) (confirmed : j.verifier.Confirms p c) :
    j.judge now policy p step cache = (.accept, cache) := by
  have hassess : j.assess policy p step = .need c.keyName :=
    assess_eq_need_iff.2 ⟨allowed, deferred⟩
  rw [judge_of_mem hassess held valid, judgeWith_eq_accept_iff.2 confirmed]

/-- The last packet in line is verified with the certificate that was put into the cache last, if
the packets before it are those that were. -/
theorem exists_signer_of_isChain {waiting : List SignedPacket} {used : List Certificate}
    (last : waiting.getLast? = some subject)
    (linked : (SignedPacket.data d :: waiting).IsChain SignedPacket.Precedes)
    (verified : (SignedPacket.data d :: waiting).IsChain (j.Endorses now))
    (readFrom :
      Certificate.AreReadFrom used ((SignedPacket.data d :: waiting).take waiting.length)) :
    ∃ before c, used = before ++ [c] ∧ subject.keyLocator = some c.keyName ∧ c.isValidAt now ∧
      j.verifier.Confirms subject c := by
  obtain ⟨front, rfl⟩ := List.getLast?_eq_some_iff.1 last
  -- At least the answer to the request stands before the last packet.
  obtain ⟨earlier, signer, hsplit⟩ : ∃ earlier signer,
      SignedPacket.data d :: front = earlier ++ [signer] := by
    obtain hnil | ⟨earlier, signer, hconcat⟩ := List.eq_nil_or_concat (SignedPacket.data d :: front)
    · cases hnil
    · exact ⟨earlier, signer, by rw [hconcat, List.concat_eq_append]⟩
  have hline : SignedPacket.data d :: (front ++ [subject]) = earlier ++ signer :: [subject] := by
    rw [← List.cons_append, hsplit, List.append_assoc]
    rfl
  rw [List.isChain_iff_forall_rel_of_append_cons_cons] at linked verified
  obtain ⟨signerData, rfl, hlocator⟩ := linked hline
  obtain ⟨d', c, heq, hread, hvalid, hconfirmed⟩ := verified hline
  obtain rfl := SignedPacket.data.inj heq
  -- The certificates that were used are read from what stands before the last packet.
  have htake : (SignedPacket.data d :: (front ++ [subject])).take (front ++ [subject]).length =
      earlier ++ [.data signerData] := by
    rw [← hsplit, List.length_append, ← List.cons_append]
    exact List.take_left' rfl
  rw [htake] at readFrom
  obtain ⟨before, rfl⟩ := readFrom.exists_eq_concat hread
  refine ⟨before, c, rfl, ?_, hvalid, hconfirmed⟩
  rw [hlocator, Certificate.keyName_of_ofData hread]

end Judge

namespace Validator

/-- Whether the cache keeps anything does not change. -/
theorem Run.retains_eq (run : v₀.Run h v) : v.cache.retains = v₀.cache.retains := by
  induction run with
  | start => rfl
  | @next h v run operation granted ih =>
    rw [← ih]
    have hrun := run.next operation granted
    have hevent : (⟨v, operation⟩ : Event) ∈ ⟨v, operation⟩ :: h := List.mem_cons_self
    cases operation with
    | install policy => rfl
    | load policy => cases policy <;> rfl
    | fail r reason => rfl
    | forget keyName => rfl
    | check now packet step =>
      have hcheck : (⟨v, .check now packet step⟩ : Event).IsCheck := ⟨now, packet, step, rfl⟩
      exact (Event.leaves_of_check hcheck).retains_eq
    | resume now r d =>
      obtain ⟨outcome, kept, used, heffect⟩ := hrun.exists_answerEffect hevent rfl
      have hretains : (kept.insertAll used).retains = v.cache.retains :=
        Cache.retains_insertAll.trans heffect.leaves.retains_eq
      rw [← heffect.cache_eq] at hretains
      exact hretains

/-- After an answer with which a packet is accepted, the certificate that bears the packet out is in
the cache, and the policy of the chain leaves the packet to its key. -/
theorem Run.exists_signer_of_accepted (run : v₀.Run h v) (he : e ∈ h)
    (hop : e.operation = .resume now r d) (accepted : e.outcome? = some .accepted)
    (retains : v₀.cache.retains) {subject : SignedPacket}
    (last : r.waiting.getLast? = some subject) :
    ∃ c ∈ e.after.cache, r.policy.Defers v₀.judge.verifier subject c.keyName ∧ c.isValidAt now ∧
      v₀.judge.verifier.Confirms subject c := by
  have hj : e.before.judge = v₀.judge := run.judge_before he
  obtain ⟨o, subject', start, -, hr⟩ := run.exists_formed_of_resume he hop
  obtain ⟨outcome, kept, used, heffect⟩ := run.exists_answerEffect he hop
  obtain rfl : outcome = .accepted :=
    Option.some.inj (heffect.outcome_eq.symm.trans accepted)
  have admits : e.before.judge.Admits now r d e.before.cache := by
    by_contra hnot
    exact (heffect.barred hnot).2 rfl
  have hlength := heffect.accepted rfl
  have hreadFrom := heffect.readFrom
  have hunwinds := heffect.unwinds admits
  rw [hlength] at hreadFrom
  have hverified := hunwinds.of_accepted.2
  rw [hj] at hverified
  obtain ⟨before, c, rfl, hlocator, hvalid, hconfirmed⟩ :=
    Judge.exists_signer_of_isChain last (hr.isChain_cons admits.named) hverified hreadFrom
  refine ⟨c, ?_, ?_, hvalid, hconfirmed⟩
  · -- It is the last one that is put into the cache, so nothing takes its place.
    have hretains : (kept.insertAll before).retains := by
      obtain ⟨earlier, -, hrun, -⟩ := run.of_mem he
      rw [Cache.retains_insertAll, heffect.leaves.retains_eq, hrun.retains_eq, retains]
    rw [heffect.cache_eq, Cache.insertAll_concat]
    show ((kept.insertAll before).insert c).ring.find? c.keyName = some c
    rw [Cache.find?_insert, if_pos ⟨hretains, rfl⟩]
  · -- The policy left it to the key that it names.
    obtain ⟨keyName, hdefers⟩ := hr.deferred subject (List.mem_of_getLast? last)
    have hkey : keyName = c.keyName := Option.some.inj (hdefers.located.symm.trans hlocator)
    rwa [hkey] at hdefers

/-- **What has been resolved stays accepted.** In any run, with whatever packets in the chain: when
the answer to a request is accepted, and later on the policy of the chain is in force, the cache has
kept its entries and the clock has not moved, then the packet whose check began the chain is
accepted at once if it is checked again, at any step below the limit. The validator is left as it
is. -/
theorem Run.accepted_again {recent : History} (run : v₀.Run (recent ++ e :: h) v)
    (hop : e.operation = .resume now r d) (accepted : e.outcome? = some .accepted)
    (retains : v₀.cache.retains) (policy : v.policy = r.policy)
    (kept : ∀ c ∈ e.after.cache, c ∈ v.cache) :
    ∃ subject, r.waiting.getLast? = some subject ∧
      (∃ o, History.Belongs (recent ++ e :: h) o e) ∧
      (∀ o, History.Belongs (recent ++ e :: h) o e → ∃ now' packet start,
        o.operation = .check now' packet start ∧ SignedPacket.ofPacket packet = .ok subject) ∧
      ∀ packet step, SignedPacket.ofPacket packet = .ok subject → step < v₀.judge.stepLimit →
        v.check now packet step = (.accepted, v) := by
  have he : e ∈ recent ++ e :: h := List.mem_append_right _ List.mem_cons_self
  have hj : v.judge = v₀.judge := run.judge_eq
  obtain ⟨o, subject, start, hb, hr⟩ := run.exists_formed_of_resume he hop
  obtain ⟨c, hc, hdefers, hvalid, hconfirmed⟩ :=
    run.exists_signer_of_accepted he hop accepted retains hr.last_eq
  refine ⟨subject, hr.last_eq, ⟨o, hb⟩, fun o' hb' => ?_, fun packet step read allowed => ?_⟩
  · obtain ⟨now', packet, start', subject', hcheck, read, hr'⟩ :=
      hb'.exists_formed_of_resume (fun e' he' => run.judge_before he') hop
    obtain rfl : subject' = subject := Option.some.inj (hr'.last_eq.symm.trans hr.last_eq)
    exact ⟨now', packet, start', hcheck, read⟩
  · rw [← hj] at allowed hdefers hconfirmed
    rw [← policy] at hdefers
    have hjudged : v.judge.judge now v.policy subject step v.cache = (.accept, v.cache) :=
      Judge.accepted_of_mem allowed hdefers (kept c hc) hvalid hconfirmed
    have hchecked := Judge.check_of_judge allowed read hjudged
    show v.withCache (v.judge.check now v.policy packet step v.cache) = (.accepted, v)
    rw [hchecked]
    rfl

end Validator

namespace Sample

/-- Another certificate for the second key name, with another key in it. It is signed with the third
key, which goes back to the first certificate for the second key name. -/
def successor : Data :=
  ⟨name [2, 1], CertificateContent.encode ⟨0, 10, ⟨.ecdsa, [7]⟩⟩, signature 3⟩

/-- A packet that is signed with this other key. -/
def note : Data := ⟨name [9, 7], [], ⟨⟨.ecdsaSha256, some (name [2])⟩, [7]⟩⟩

/-- The request for this other certificate, that for the third key, and that for the first
certificate. -/
def noteRequest : Request := ⟨name [2], 1, 1, [.data note], policy⟩

def successorRequest : Request := ⟨name [3], 2, 1, [.data successor, .data note], policy⟩

def originRequest : Request :=
  ⟨name [2], 3, 1, [.data (certificate 3 2), .data successor, .data note], policy⟩

def noted : Event := ⟨installed.after, .check 5 (.data note) 0⟩

def succeeded : Event := ⟨noted.after, .resume 6 noteRequest successor⟩

def traced : Event := ⟨succeeded.after, .resume 6 successorRequest (certificate 3 2)⟩

def resolved : Event := ⟨traced.after, .resume 7 originRequest (certificate 2 1)⟩

theorem resolved_accepted : resolved.outcome? = some .accepted := rfl

theorem run_resolved :
    start.Run [resolved, traced, succeeded, noted, installed] resolved.after := by
  have hnoted : start.Run [noted, installed] noted.after :=
    (Validator.Run.start.next (.install policy) nofun).next (.check 5 (.data note) 0) nofun
  have hsucceeded : start.Run [succeeded, noted, installed] succeeded.after :=
    hnoted.answer (r := noteRequest) List.mem_cons_self rfl 6 successor
  have htraced : start.Run [traced, succeeded, noted, installed] traced.after :=
    hsucceeded.answer (r := successorRequest) List.mem_cons_self rfl 6 (certificate 3 2)
  exact htraced.answer (r := originRequest) List.mem_cons_self rfl 7 (certificate 2 1)

/-- Two certificates for the second key name have been put into the cache one after the other. The
packet is accepted again, at the last step that is allowed, since the one that it is signed with
came last. -/
theorem note_accepted_again :
    start.Run [resolved, traced, succeeded, noted, installed] resolved.after ∧
      resolved.outcome? = some .accepted ∧ start.cache.retains ∧
      resolved.after.policy = originRequest.policy ∧
      resolved.after.check 7 (.data note) 4 = (.accepted, resolved.after) := by
  have run : start.Run ([] ++ resolved :: [traced, succeeded, noted, installed])
      resolved.after := run_resolved
  obtain ⟨subject, hlast, -, -, hagain⟩ :=
    run.accepted_again rfl resolved_accepted rfl rfl fun c hc => hc
  obtain rfl : SignedPacket.data note = subject := Option.some.inj hlast
  exact ⟨run_resolved, resolved_accepted, rfl, rfl, hagain (.data note) 4 rfl (by decide)⟩

end Sample

end TrustSchema
