import TrustSchema.Proofs.Validation.History
import TrustSchema.Validation.Clock

/-!
# What a clock changes

On any clock, a packet waits for a certificate only if its policy leaves it to the key
(`Judge.defers_of_judgeBy_eq_need`). The clock decides how long a certificate can be used.

On a clock that shows the time of the state, everything that is done about one packet or one answer
happens at one time: nothing but a fetch changes the state. So each operation on such a clock is the
operation at that time (`Judge.checkBy_ofTime`, `Judge.answerBy_ofTime`), and on a clock that stands
still, validation is `Judge.validate` (`Judge.validateBy_still`).
-/

namespace TrustSchema

variable {σ : Type}

namespace FetchState

variable {α : Type} {time : σ → Instant} {s s' : FetchState σ}

@[simp] theorem read_ofTime : s.read (.ofTime time) = (time s.fetcher, s) := rfl

theorem onCache_of_eq {f : Cache → α × Cache} {a : α} {cache : Cache} (h : f s.cache = (a, cache)) :
    s.onCache f = (a, { s with cache }) := by
  unfold onCache
  rw [h]

theorem onCache_eq_iff {f : Cache → α × Cache} {a : α} :
    s.onCache f = (a, s') ↔ f s.cache = (a, s'.cache) ∧ s'.fetcher = s.fetcher := by
  constructor
  · intro h
    obtain ⟨hresult, hstate⟩ := Prod.mk.inj h
    rw [← hstate]
    exact ⟨Prod.ext hresult rfl, rfl⟩
  · rintro ⟨hcache, hfetcher⟩
    rw [onCache_of_eq hcache, ← hfetcher]

theorem lookup_ofTime (keyName : Name) :
    s.lookup (.ofTime time) keyName =
      s.onCache fun cache => cache.lookup (time s.fetcher) keyName := by
  unfold lookup
  split
  · next hnone =>
    have hmiss : s.cache.lookup (time s.fetcher) keyName = (none, s.cache) := by
      unfold Cache.lookup
      rw [hnone]
    rw [onCache_of_eq hmiss]
  · rfl

end FetchState

namespace Judge

variable {j : Judge} {time : σ → Instant} {now : Instant} {clock : Clock σ} {policy : Policy}
  {fetcher : Fetcher σ} {packet : Packet} {p : SignedPacket} {waiting : List SignedPacket}
  {step : Nat} {s s' : FetchState σ} {name : Name} {requests : List Request} {r : Request} {d : Data}

/-! ## Any clock -/

/-- Without a certificate in the cache the clock is not read. -/
theorem judgeBy_of_find?_eq_none {keyName : Name} (ha : j.assess policy p step = .need keyName)
    (hmiss : s.cache.ring.find? keyName = none) :
    j.judgeBy clock policy p step s = (.need keyName, s) := by
  unfold judgeBy FetchState.lookup
  rw [ha]
  dsimp only
  rw [hmiss]

/-- A certificate is asked for if the policy leaves the packet to its key. -/
theorem defers_of_judgeBy_eq_need {keyName : Name}
    (h : j.judgeBy clock policy p step s = (.need keyName, s')) :
    step < j.stepLimit ∧ policy.Defers j.verifier p keyName := by
  unfold judgeBy at h
  split at h
  · next n ha =>
    split at h
    · exact absurd (congrArg Prod.fst h) (judgeWith_ne_need _)
    · obtain ⟨⟨⟩, -⟩ := Prod.mk.inj h
      exact assess_eq_need_iff.1 ha
  · next hne => exact absurd (congrArg Prod.fst h) (hne _)

/-- One turn of the loop. -/
theorem settleBy_cons (queue : List Request) :
    j.settleBy clock fetcher name (r :: queue) s =
      j.concludeBy clock fetcher name ((j.answerBy clock fetcher r s).1.behind queue)
        (j.answerBy clock fetcher r s).2 := by
  rw [settleBy]
  split
  · next h => rw [h]; rfl
  · next h => rw [h]; rfl
  · next h => rw [h]; rfl

/-! ## One operation at one time -/

theorem judgeBy_ofTime :
    j.judgeBy (.ofTime time) policy p step s =
      s.onCache (j.judge (time s.fetcher) policy p step) := by
  unfold judgeBy FetchState.onCache
  rw [judge_eq_consult]
  cases j.assess policy p step with
  | accept => rfl
  | reject reason => rfl
  | need keyName =>
    cases hl : s.cache.lookup (time s.fetcher) keyName with
    | mk found cache =>
      dsimp only [consult]
      rw [FetchState.lookup_ofTime, FetchState.onCache_of_eq hl, hl]
      cases found <;> rfl

theorem judgeBy_still_eq_iff {verdict : Verdict} :
    j.judgeBy (.still now) policy p step s = (verdict, s') ↔
      j.judge now policy p step s.cache = (verdict, s'.cache) ∧ s'.fetcher = s.fetcher := by
  rw [Clock.still, judgeBy_ofTime]
  exact FetchState.onCache_eq_iff

theorem checkBy_ofTime :
    j.checkBy (.ofTime time) policy packet step s =
      s.onCache (j.check (time s.fetcher) policy packet step) := by
  unfold checkBy check FetchState.onCache
  cases j.overLimit? step with
  | some reason => rfl
  | none =>
    cases SignedPacket.ofPacket packet with
    | error reason => rfl
    | ok p =>
      dsimp only
      rw [judgeBy_ofTime]
      rfl

theorem checkBy_still :
    j.checkBy (.still now) policy packet step s = s.onCache (j.check now policy packet step) :=
  checkBy_ofTime

theorem endorseBy_ofTime :
    j.endorseBy (.ofTime time) d p s = s.onCache (j.endorse (time s.fetcher) d p) := by
  unfold endorseBy endorse FetchState.onCache
  cases Certificate.ofData d with
  | error reason => rfl
  | ok c =>
    dsimp only [FetchState.read_ofTime]
    split <;> rfl

theorem endorseBy_still :
    j.endorseBy (.still now) d p s = s.onCache (j.endorse now d p) := endorseBy_ofTime

theorem verifyChainBy_ofTime :
    j.verifyChainBy (.ofTime time) d waiting s =
      s.onCache (j.verifyChain (time s.fetcher) d waiting) := by
  induction waiting generalizing d s with
  | nil => rfl
  | cons p waiting ih =>
    unfold FetchState.onCache
    rw [verifyChainBy, verifyChain_cons, endorseBy_ofTime]
    unfold FetchState.onCache
    obtain ⟨result, cache⟩ := j.endorse (time s.fetcher) d p s.cache
    cases result with
    | error reason => rfl
    | ok _ =>
      cases p with
      | data d => exact ih
      | interest signedName signature => rfl

theorem resumeBy_ofTime :
    j.resumeBy (.ofTime time) r d s = s.onCache (j.resume (time s.fetcher) r d) := by
  unfold resumeBy resume FetchState.onCache
  cases j.overLimit? r.step with
  | some reason => rfl
  | none =>
    dsimp only
    split
    · rfl
    · rw [judgeBy_ofTime]
      unfold FetchState.onCache
      obtain ⟨verdict, cache⟩ := j.judge (time s.fetcher) r.policy (.data d) r.step s.cache
      cases verdict with
      | accept => exact verifyChainBy_ofTime
      | reject reason => rfl
      | need keyName => rfl

/-- The answer to a request is dealt with at the time when it has come. -/
theorem answerBy_ofTime :
    j.answerBy (.ofTime time) fetcher r s =
      j.answer (time (fetcher.fetch r.certificateName r.retries s.fetcher).2) fetcher r s := by
  unfold answerBy answer
  obtain ⟨answer, state⟩ := fetcher.fetch r.certificateName r.retries s.fetcher
  cases answer with
  | error reason => rfl
  | ok d => exact resumeBy_ofTime

theorem answerBy_still :
    j.answerBy (.still now) fetcher r s = j.answer now fetcher r s := answerBy_ofTime

/-! ## Validation at one time -/

theorem settleBy_still :
    j.settleBy (.still now) fetcher name requests s = j.settle now fetcher name requests s := by
  fun_induction settle j now fetcher name requests s with
  | case1 s => rw [settleBy]
  | case2 s r queue s' h =>
    rw [settleBy_cons, answerBy_still, h]
    rfl
  | case3 s r queue reason s' h =>
    rw [settleBy_cons, answerBy_still, h]
    rfl
  | case4 s r queue more s' h ih =>
    rw [settleBy_cons, answerBy_still, h]
    exact ih

/-- **With a clock that stands still, this is validation.** -/
theorem validateBy_still :
    j.validateBy (.still now) policy fetcher packet s =
      j.validate now policy fetcher packet s := by
  unfold validateBy validate
  rw [checkBy_still]
  unfold FetchState.onCache
  obtain ⟨outcome, cache⟩ := j.check now policy packet 0 s.cache
  cases outcome with
  | accepted => rfl
  | rejected reason => rfl
  | pending requests => exact settleBy_still

theorem validateOn_const :
    j.validateOn (fun _ => now) policy fetcher packet s = j.validate now policy fetcher packet s :=
  validateBy_still

end Judge

namespace Sample

/-- A clock that goes on with every reading. -/
def ticking : Clock Instant := fun t => (t, t + 1)

/-- The certificate that comes is used at its last moment. The one that it bears out is used after
that, when it has expired. On a clock that stands still both are used in time. -/
example :
    (judge.resumeBy (.still 10) secondRequest (certificate 2 1) ⟨.empty, ()⟩).1 = .accepted ∧
      (judge.resumeBy ticking secondRequest (certificate 2 1) ⟨.empty, 10⟩).1 =
        .rejected (.certificateExpired (certificate 3 2).name) := ⟨rfl, rfl⟩

end Sample

end TrustSchema
