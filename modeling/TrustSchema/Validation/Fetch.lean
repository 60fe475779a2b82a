import TrustSchema.Validation.Judge

/-!
# Validation with fetching

A fetcher answers requests for certificates by key name. It may change its state with each answer,
so nothing is assumed about what it answers when asked again. Validation fetches what is waited for
until there is a verdict; only an answer that does not come in time is asked for again.

- `Judge.validate`: validates a packet, as if no time went by; `Judge.validateBy` does so on a clock.
  Each certificate is judged one step further than what it was needed for, so the step limit ends
  every validation.
-/

namespace TrustSchema

/-- Why a certificate is not fetched. -/
inductive FetchFailure
  /-- No answer came in time. -/
  | timeout (name : Name)
  | notFound (name : Name)
  | failed (name : Name) (reason : String)
  deriving DecidableEq

/-- The wording of the error. -/
def FetchFailure.message : FetchFailure → String
  | .timeout name => "timed out fetching " ++ name.toUri
  | .notFound name => "no certificate published under " ++ name.toUri
  | .failed name reason => "fetching " ++ name.toUri ++ " failed: " ++ reason

/-- A source of certificates by key name, with a state. -/
abbrev Fetcher (σ : Type) := Name → σ → Except FetchFailure Data × σ

variable {σ : Type}

/-- Fetches a certificate. If no answer comes in time, this is tried again as often as allowed. -/
def Fetcher.fetch (fetcher : Fetcher σ) (name : Name) : Nat → σ → Except FetchFailure Data × σ
  | 0, s => fetcher name s
  | retries + 1, s =>
    match fetcher name s with
    | (.error (.timeout _), s) => fetcher.fetch name retries s
    | answer => answer

/-- What may change in the course of a validation. -/
structure FetchState (σ : Type) where
  cache : Cache
  fetcher : σ

namespace Judge

variable (j : Judge)

/-- Fetches the certificate of a request and goes on with the answer. -/
def answer (now : Instant) (fetcher : Fetcher σ) (r : Request) (s : FetchState σ) :
    Outcome × FetchState σ :=
  match fetcher.fetch r.certificateName r.retries s.fetcher with
  | (.ok certificate, state) =>
    let (outcome, cache) := j.resume now r certificate s.cache
    (outcome, ⟨cache, state⟩)
  | (.error reason, state) => (r.fail reason.message, ⟨s.cache, state⟩)

/-- How many steps a request may still lead to. -/
def stepsLeft (r : Request) : Nat := j.stepLimit + 1 - r.step

/-- How many steps some requests may still lead to. -/
def stepsLeftOfAll : List Request → Nat
  | [] => 0
  | r :: requests => j.stepsLeft r + stepsLeftOfAll requests

theorem stepsLeftOfAll_append (rs ss : List Request) :
    j.stepsLeftOfAll (rs ++ ss) = j.stepsLeftOfAll rs + j.stepsLeftOfAll ss := by
  induction rs with
  | nil => simp [stepsLeftOfAll]
  | cons r rs ih => simp [stepsLeftOfAll, ih, Nat.add_assoc]

/-- What comes of an answer brings validation closer to its end. -/
theorem stepsLeftOfAll_lt_of_continues {j : Judge} {r : Request} {more : List Request}
    (h : j.Continues r more) : j.stepsLeftOfAll more < j.stepsLeft r ∨ more = [] := by
  rcases h with hnone | ⟨hstep, next, rfl, hnext⟩
  · exact Or.inr hnone
  · simp only [stepsLeftOfAll, stepsLeft, hnext]
    exact Or.inl (by omega)

/-- With an answer, fewer steps are left, or as many and fewer requests. -/
theorem measure_lt_of_continues {j : Judge} {r : Request} {more : List Request}
    (queue : List Request) (h : j.Continues r more) :
    Prod.Lex (· < ·) (· < ·) (j.stepsLeftOfAll (queue ++ more), (queue ++ more).length)
      (j.stepsLeftOfAll (r :: queue), (r :: queue).length) := by
  simp only [stepsLeftOfAll_append, stepsLeftOfAll, List.length_append, List.length_cons]
  rcases stepsLeftOfAll_lt_of_continues h with h | h
  · exact Prod.Lex.left _ _ (by omega)
  · subst h
    rcases Nat.eq_zero_or_pos (j.stepsLeft r) with hz | hz
    · simp only [stepsLeftOfAll, hz, Nat.add_zero, Nat.zero_add, List.length_nil]
      exact Prod.Lex.right _ (by omega)
    · simp only [stepsLeftOfAll]
      exact Prod.Lex.left _ _ (by omega)

theorem continues_of_answer {j : Judge} {now : Instant} {fetcher : Fetcher σ} {r : Request}
    {s s' : FetchState σ} {more : List Request}
    (h : j.answer now fetcher r s = (.pending more, s')) : j.Continues r more := by
  unfold answer at h
  split at h
  · next certificate state _ =>
    have hpending : (j.resume now r certificate s.cache).1 = .pending more := congrArg Prod.fst h
    have hresumed := continues_resume j now r certificate s.cache
    rwa [hpending] at hresumed
  · cases h

/-- Answers requests in order until there is a verdict about the packet with a name. -/
def settle (now : Instant) (fetcher : Fetcher σ) (name : Name) (requests : List Request)
    (s : FetchState σ) : Except Rejection Unit × FetchState σ :=
  match requests with
  | [] => (.error (.undecided name), s)
  | r :: queue =>
    match _h : j.answer now fetcher r s with
    | (.accepted, s) => (.ok (), s)
    | (.rejected reason, s) => (.error reason, s)
    | (.pending more, s) => settle now fetcher name (queue ++ more) s
termination_by (j.stepsLeftOfAll requests, requests.length)
decreasing_by exact measure_lt_of_continues queue (continues_of_answer _h)

/-- The verdict that an outcome leads to. -/
def conclude (now : Instant) (fetcher : Fetcher σ) (name : Name) (outcome : Outcome)
    (s : FetchState σ) : Except Rejection Unit × FetchState σ :=
  match outcome with
  | .accepted => (.ok (), s)
  | .rejected reason => (.error reason, s)
  | .pending requests => j.settle now fetcher name requests s

/-- Validates a packet under a policy. -/
def validate (now : Instant) (policy : Policy) (fetcher : Fetcher σ) (packet : Packet)
    (s : FetchState σ) : Except Rejection Unit × FetchState σ :=
  let (outcome, cache) := j.check now policy packet 0 s.cache
  j.conclude now fetcher packet.name outcome ⟨cache, s.fetcher⟩

end Judge

end TrustSchema
