import TrustSchema.Proofs.Validation.History
import TrustSchema.Proofs.Validation.Recursion

/-!
# Every validation ends

Nothing is assumed about a fetcher. It may answer each call with another certificate, invented on
the spot and signed with a key that nobody has heard of, or with one whose signers go round in a
circle; what ends a validation is the step limit alone. This module counts what a validation does
before it is ended.

- `Judge.Course`: the loop, one request after the other. Other validations may go on in the
  meantime, so that for each request the clock and the cache may be any.
- `Outcome.Orderly`: what the loop relies on. A request that is handed out at a step is the only
  one, is for the next step, and this is within the limit.
- `Judge.Course.orderly`: the loop finds this at each of its turns. So the steps of the requests
  count up from 1, no more requests are answered than the limit says, and the loop never runs out
  of requests before there is a verdict (`Judge.validate_terminates`).
-/

namespace TrustSchema

variable {σ : Type}

/-! ## Outcomes that the loop can go on with -/

/-- The verdict, if the packet is accepted or rejected. -/
def Outcome.verdict? : Outcome → Option (Except Rejection Unit)
  | .accepted => some (.ok ())
  | .rejected reason => some (.error reason)
  | .pending _ => none

/-- An outcome at a step is orderly if it is a verdict for a reason, or waits for one certificate
that is needed one step further, within the limit. -/
inductive Outcome.Orderly (j : Judge) (step : Nat) : Outcome → Prop
  | accepted : Orderly j step .accepted
  | rejected {reason : Rejection} (decided : ∀ name, reason ≠ .undecided name) :
      Orderly j step (.rejected reason)
  | pending {r : Request} (step_eq : r.step = step + 1) (step_le : r.step ≤ j.stepLimit)
      (retries_eq : r.retries = j.fetchRetries) : Orderly j step (.pending [r])

variable {v : Verifier} {p : SignedPacket} {c : Certificate} {name : Name}

theorem Verifier.checkSignature_ne_undecided :
    v.checkSignature p c ≠ .error (.undecided name) := by
  unfold checkSignature
  split
  · nofun
  · split <;> nofun

theorem Checker.check_ne_undecided (checker : Checker) :
    checker.check v p ≠ .reject (.undecided name) := by
  unfold check
  split
  · nofun
  · split
    · nofun
    · split <;> nofun
  · split
    · nofun
    · split <;> nofun
  · split
    · nofun
    · split
      · nofun
      · split
        · nofun
        · split <;> nofun

theorem Rule.check_ne_undecided (rule : Rule) :
    rule.check v p ≠ .reject (.undecided name) := by
  unfold check
  split
  · next checker _ => exact checker.check_ne_undecided
  · nofun

namespace Judge

variable {j : Judge} {now : Instant} {clock : Clock σ} {policy : Policy} {fetcher : Fetcher σ}
  {packet : Packet} {waiting : List SignedPacket} {step : Nat} {cache : Cache} {s : FetchState σ}

theorem judgeWith_ne_undecided : j.judgeWith p c ≠ .reject (.undecided name) := by
  unfold judgeWith
  split
  · nofun
  · next reason hreason =>
    rintro ⟨⟩
    exact Verifier.checkSignature_ne_undecided hreason

theorem judgeSignature_ne_undecided :
    (j.judgeSignature now policy p cache).1 ≠ .reject (.undecided name) := by
  unfold judgeSignature
  split
  · split <;> nofun
  · split
    · nofun
    · split
      · exact judgeWith_ne_undecided
      · split
        · exact judgeWith_ne_undecided
        · nofun

theorem overLimit?_ne_undecided : j.overLimit? step ≠ some (.undecided name) := by
  unfold overLimit?
  split <;> nofun

/-- A packet is never rejected because nothing is decided about it. -/
theorem judge_ne_undecided :
    (j.judge now policy p step cache).1 ≠ .reject (.undecided name) := by
  unfold judge
  split
  · next reason hreason =>
    rintro ⟨⟩
    exact overLimit?_ne_undecided hreason
  · split
    · nofun
    · next rule _ =>
      split
      · nofun
      · next reason hreason =>
        rintro ⟨⟩
        exact rule.check_ne_undecided hreason
      · exact judgeSignature_ne_undecided

theorem judgeBy_ne_undecided :
    (j.judgeBy clock policy p step s).1 ≠ .reject (.undecided name) := by
  unfold judgeBy
  split
  · split
    · exact judgeWith_ne_undecided
    · nofun
  · exact judge_ne_undecided

theorem endorseBy_ne_undecided {d : Data} :
    (j.endorseBy clock d p s).1 ≠ .error (.undecided name) := by
  unfold endorseBy
  split
  · nofun
  · dsimp only
    split
    · exact Verifier.checkSignature_ne_undecided
    · nofun

theorem refusal?_ne_undecided {keyName : Name} {answer : Except FetchFailure Data} :
    j.refusal? keyName step answer ≠ some (.undecided name) := by
  unfold refusal?
  split
  · nofun
  · split
    · nofun
    · split <;> nofun

/-- The packets that wait are accepted or rejected for a reason. -/
theorem orderly_afterwards : (j.afterwards clock waiting p s).1.Orderly j step := by
  induction waiting generalizing p s with
  | nil =>
    rw [afterwards_nil]
    exact .accepted
  | cons q waiting ih =>
    cases p with
    | interest signedName signature => exact .accepted
    | data d =>
      rw [afterwards_cons]
      split
      · next reason s' hendorse =>
        refine .rejected fun name hundecided => ?_
        rw [hundecided] at hendorse
        exact endorseBy_ne_undecided (congrArg Prod.fst hendorse)
      · exact ih

/-- **A judgement at a step leads to an orderly outcome**, whatever waits for it. -/
theorem orderly_proceed : (j.proceed clock policy p waiting step s).1.Orderly j step := by
  unfold proceed
  split
  · exact orderly_afterwards
  · next verdict s' _ hj =>
    cases verdict with
    | accept => exact .accepted
    | reject reason =>
      refine .rejected fun name hundecided => ?_
      rw [hundecided] at hj
      exact judgeBy_ne_undecided (congrArg Prod.fst hj)
    | need keyName => exact .pending rfl (defers_of_judgeBy_eq_need hj).1 rfl

theorem orderly_checkBy : (j.checkBy clock policy packet step s).1.Orderly j step := by
  cases hstep : j.overLimit? step with
  | some reason =>
    rw [checkBy, hstep]
    refine .rejected fun name hundecided => ?_
    rw [hundecided] at hstep
    exact overLimit?_ne_undecided hstep
  | none =>
    cases hp : SignedPacket.ofPacket packet with
    | error reason =>
      rw [checkBy, hstep, hp]
      refine .rejected ?_
      rintro name ⟨⟩
    | ok p =>
      rw [checkBy_eq_proceed hstep hp]
      exact orderly_proceed

/-- **An answer leads to an orderly outcome** at the step of the request, whatever it is. -/
theorem orderly_answerBy (r : Request) : (j.answerBy clock fetcher r s).1.Orderly j r.step := by
  cases hf : fetcher.fetch r.certificateName r.retries s.fetcher with
  | mk answer state =>
    cases hr : j.refusal? r.certificateName r.step answer with
    | some reason =>
      rw [answerBy_of_refusal hf hr]
      refine .rejected fun name hundecided => ?_
      rw [hundecided] at hr
      exact refusal?_ne_undecided hr
    | none =>
      cases answer with
      | error failure => cases hr
      | ok d =>
        rw [answerBy_eq_proceed hf hr]
        exact orderly_proceed

theorem orderly_check : (j.check now policy packet step cache).1.Orderly j step := by
  have horderly : (j.checkBy (.still now) policy packet step ⟨cache, ()⟩).1.Orderly j step :=
    orderly_checkBy
  rwa [checkBy_still] at horderly

theorem orderly_answer (r : Request) : (j.answer now fetcher r s).1.Orderly j r.step := by
  rw [← answerBy_still]
  exact orderly_answerBy r

end Judge

/-! ## The loop -/

/-- The courses that the validation of a packet can take: the requests that have been answered, what
this has come to, and the state of the fetcher. At each turn the first request that is waited for is
answered. For the check and for every answer, the time and what is cached may be any. -/
inductive Judge.Course (j : Judge) (policy : Policy) (fetcher : Fetcher σ) (packet : Packet)
    (s : σ) : List Request → Outcome → σ → Prop
  | check (now : Instant) (cache : Cache) :
      Course j policy fetcher packet s [] (j.check now policy packet 0 cache).1 s
  | answer {answered queue : List Request} {r : Request} {state : σ}
      (course : Course j policy fetcher packet s answered (.pending (r :: queue)) state)
      (now : Instant) (cache : Cache) :
      Course j policy fetcher packet s (answered ++ [r])
        ((j.answer now fetcher r ⟨cache, state⟩).1.behind queue)
        (j.answer now fetcher r ⟨cache, state⟩).2.fetcher

namespace Judge

variable {j : Judge} {policy : Policy} {fetcher : Fetcher σ} {packet : Packet} {s s' : σ}
  {answered : List Request} {outcome : Outcome}

/-- What is found at each turn of the loop. -/
structure Course.Counted (j : Judge) (answered : List Request) (outcome : Outcome) : Prop where
  orderly : outcome.Orderly j answered.length
  steps_eq : answered.map Request.step = List.range' 1 answered.length
  length_le : answered.length ≤ j.stepLimit

/-- **Along every course the steps count up from 1**, by induction along the course. The request
that is answered is the only one, so what comes next is what its answer leads to. -/
theorem Course.counted (course : j.Course policy fetcher packet s answered outcome s') :
    Counted j answered outcome := by
  induction course with
  | check now cache => exact ⟨orderly_check, rfl, Nat.zero_le _⟩
  | @answer answered queue r state course now cache ih =>
    obtain ⟨horderly, hsteps, -⟩ := ih
    -- An orderly outcome waits for one request, so nothing is left in the queue.
    cases horderly with
    | pending step_eq step_le retries_eq =>
      have hlength : (answered ++ [r]).length = r.step := by
        rw [List.length_append, List.length_singleton, step_eq]
      refine ⟨?_, ?_, ?_⟩
      · rw [Outcome.behind_nil, hlength]
        exact orderly_answer r
      · rw [List.map_append, hsteps, List.length_append, List.length_singleton,
          List.range'_concat, List.map_singleton, step_eq]
        simp [Nat.add_comm]
      · rw [hlength]
        exact step_le

/-- An answer asks for the certificate of the request, once and once more for each retry at most. -/
theorem exists_answer_recording (j : Judge) (fetcher : Fetcher σ) (now : Instant) (r : Request)
    (cache : Cache) (calls : List Name) (state : σ) : ∃ count, 1 ≤ count ∧ count ≤ r.retries + 1 ∧
      (j.answer now fetcher.recording r ⟨cache, (calls, state)⟩).2.fetcher.1 =
        calls ++ List.replicate count r.certificateName := by
  obtain ⟨count, hpos, hcount, hcalls⟩ :=
    fetcher.exists_fetch_recording_replicate r.certificateName r.retries state
  refine ⟨count, hpos, hcount, ?_⟩
  unfold answer
  rw [hcalls calls]
  split
  · next heq => rw [← (Prod.mk.inj heq).2]
  · next heq => rw [← (Prod.mk.inj heq).2]

/-- Along a course the fetcher is asked at least once for each request, and at most as often as the
request may be tried. -/
theorem Course.length_calls {record : List Name × σ}
    (course : j.Course policy fetcher.recording packet ([], s) answered outcome record) :
    answered.length ≤ record.1.length ∧
      record.1.length ≤ answered.length * (j.fetchRetries + 1) := by
  induction course with
  | check now cache => exact ⟨Nat.le_refl 0, Nat.zero_le _⟩
  | @answer answered queue r record course now cache ih =>
    cases course.counted.orderly with
    | pending step_eq step_le retries_eq =>
      obtain ⟨hlow, hhigh⟩ := ih
      obtain ⟨count, hpos, hcount, hcalls⟩ :=
        exists_answer_recording j fetcher now r cache record.1 record.2
      -- Each turn adds at least one call, and at most `fetchRetries + 1`.
      rw [retries_eq] at hcount
      simp only [hcalls, List.length_append, List.length_replicate, List.length_singleton,
        Nat.add_mul, Nat.one_mul]
      omega

/-- A loop that has come to some requests goes on to a verdict. -/
theorem Course.exists_settle {now : Instant} {name : Name} {requests : List Request}
    {state : FetchState σ}
    (course : j.Course policy fetcher packet s answered (.pending requests) state.fetcher) :
    ∃ answered' outcome,
      j.Course policy fetcher packet s answered' outcome
        (j.settle now fetcher name requests state).2.fetcher ∧
      outcome.verdict? = some (j.settle now fetcher name requests state).1 := by
  fun_induction settle j now fetcher name requests state generalizing answered with
  | case1 state =>
    -- The loop would run out of requests here, but no course comes to this.
    cases course.counted.orderly
  | case2 state r queue state' h =>
    have hnext := course.answer now state.cache
    rw [h] at hnext
    exact ⟨_, _, hnext, rfl⟩
  | case3 state r queue reason state' h =>
    have hnext := course.answer now state.cache
    rw [h] at hnext
    exact ⟨_, _, hnext, rfl⟩
  | case4 state r queue more state' h ih =>
    have hnext := course.answer now state.cache
    rw [h] at hnext
    exact ih hnext

/-- Validation takes one of these courses, at one time and with its own cache, and ends with the
verdict that the course comes to. -/
theorem exists_course_validate (j : Judge) (now : Instant) (policy : Policy) (fetcher : Fetcher σ)
    (packet : Packet) (state : FetchState σ) : ∃ answered outcome,
      j.Course policy fetcher packet state.fetcher answered outcome
        (j.validate now policy fetcher packet state).2.fetcher ∧
      outcome.verdict? = some (j.validate now policy fetcher packet state).1 := by
  have hcourse : j.Course policy fetcher packet state.fetcher [] _ state.fetcher :=
    .check now state.cache
  unfold validate
  generalize j.check now policy packet 0 state.cache = result at hcourse
  obtain ⟨outcome, cache⟩ := result
  cases outcome with
  | accepted => exact ⟨[], _, hcourse, rfl⟩
  | rejected reason => exact ⟨[], _, hcourse, rfl⟩
  | pending requests =>
    have hpending : j.Course policy fetcher packet state.fetcher [] (.pending requests)
        (FetchState.mk cache state.fetcher).fetcher := hcourse
    exact hpending.exists_settle

/-- **Every validation ends.** Whatever the policy and the packet are, and whatever the fetcher
answers:

- Validation answers requests one after the other and comes to a verdict, which is never that
  nothing has been decided.
- Whatever the clock says and the cache holds in the meantime, the requests that are answered have
  the steps 1, 2, 3 and so on. There are no more of them than the step limit says, so the loop
  cannot go on for ever. Each costs one call of the fetcher at least, and one for each attempt at
  most. At each turn there is a verdict for a reason, or just one request. -/
theorem validate_terminates (j : Judge) (policy : Policy) (fetcher : Fetcher σ) (packet : Packet)
    (s : σ) :
    (∀ now cache, ∃ answered outcome calls,
      j.validate now policy fetcher.recording packet ⟨cache, ([], s)⟩ =
        ((j.validate now policy fetcher packet ⟨cache, s⟩).1,
          (j.validate now policy fetcher packet ⟨cache, s⟩).2.withRecord calls) ∧
      j.Course policy fetcher.recording packet ([], s) answered outcome
        (calls, (j.validate now policy fetcher packet ⟨cache, s⟩).2.fetcher) ∧
      outcome.verdict? = some (j.validate now policy fetcher packet ⟨cache, s⟩).1 ∧
      ∀ name, (j.validate now policy fetcher packet ⟨cache, s⟩).1 ≠ .error (.undecided name)) ∧
    ∀ answered outcome calls s',
      j.Course policy fetcher.recording packet ([], s) answered outcome (calls, s') →
        answered.map Request.step = List.range' 1 answered.length ∧
        answered.length ≤ j.stepLimit ∧ answered.length ≤ calls.length ∧
        calls.length ≤ j.stepLimit * (j.fetchRetries + 1) ∧
        (outcome = .accepted ∨
          (∃ reason, outcome = .rejected reason ∧ ∀ name, reason ≠ .undecided name) ∨
          ∃ r, outcome = .pending [r]) := by
  constructor
  · intro now cache
    obtain ⟨calls, hcalls⟩ := exists_validate_recording j now policy fetcher packet ⟨cache, s⟩
    have hrecord := hcalls []
    rw [List.nil_append] at hrecord
    obtain ⟨answered, outcome, course, hverdict⟩ :=
      exists_course_validate j now policy fetcher.recording packet
        (FetchState.withRecord ⟨cache, s⟩ [])
    rw [hrecord] at course hverdict
    refine ⟨answered, outcome, calls, hrecord, course, hverdict, ?_⟩
    intro name hundecided
    rw [hundecided] at hverdict
    have horderly := course.counted.orderly
    cases horderly with
    | accepted => cases hverdict
    | rejected decided =>
      cases hverdict
      exact decided name rfl
    | pending => cases hverdict
  · intro answered outcome calls s' course
    obtain ⟨horderly, hsteps, hlength⟩ := course.counted
    obtain ⟨hlow, hcalls⟩ := course.length_calls
    refine ⟨hsteps, hlength, hlow, ?_, ?_⟩
    · exact Nat.le_trans hcalls (Nat.mul_le_mul_right _ hlength)
    · cases horderly with
      | accepted => exact Or.inl rfl
      | rejected decided => exact Or.inr (Or.inl ⟨_, rfl, decided⟩)
      | pending => exact Or.inr (Or.inr ⟨_, rfl⟩)

end Judge

namespace Sample

/-- A fetcher that keeps everyone waiting at every other call, and then makes up a certificate that
is signed with yet another key. -/
def inventor : Fetcher Nat := fun keyName n =>
  if n % 2 = 0 then (.error (.timeout keyName), n + 1)
  else (.ok ⟨keyName.push ⟨[0]⟩, [], signature (.ofNat (n + 10))⟩, n + 1)

/-- The inventor is asked ten times, which is twice for each of the five steps. -/
theorem inventor_terminates : ∃ answered calls,
    judge.Course policy inventor.recording (.data packet) ([], 0) answered
      (.rejected (.stepLimitReached 5)) (calls, 10) ∧
    answered.map Request.step = [1, 2, 3, 4, 5] ∧ calls.length = 10 ∧
    answered.map Request.step = List.range' 1 answered.length ∧
    answered.length ≤ 5 ∧ answered.length ≤ calls.length ∧ calls.length ≤ 5 * (1 + 1) := by
  have check : judge.Course policy inventor.recording (.data packet) ([], 0) [] _ _ :=
    .check 5 .empty
  have first := check.answer 6 .empty
  have second := first.answer 7 .empty
  have third := second.answer 8 .empty
  have fourth := third.answer 9 .empty
  have course := fourth.answer 10 .empty
  obtain ⟨hsteps, hlength, hlow, hcalls, -⟩ :=
    (Judge.validate_terminates judge policy inventor (.data packet) 0).2 _ _ _ _ course
  exact ⟨_, _, course, rfl, rfl, hsteps, hlength, hlow, hcalls⟩

end Sample

end TrustSchema
