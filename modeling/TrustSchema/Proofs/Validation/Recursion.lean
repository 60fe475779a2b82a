import TrustSchema.Proofs.Validation.Recording

/-!
# Validation as a recursion

Validation with fetching answers requests one after the other. The packets that wait are handed from
request to request; they are a stack, of which `Judge.verifyChainBy` takes the packets off once the
certificate at its top is trusted. Without requests the same would be a recursion: a packet is
judged; if its judgement needs a certificate, this is fetched and validated, one step further, and
is then used on the packet.

- `Judge.resolve` is that recursion for one packet at a step, and `Judge.validateDirectly` begins
  it. The clock is read at each look-up that finds something, on the way up, and at each use of a
  certificate, on the way back.
- `Judge.resolve_induction`: what holds of the recursion is proved in four cases. It ends with a
  packet that is accepted or rejected or with an answer that is refused, or it goes on.
- `Judge.conclude_proceed`: the loop comes to what the recursion comes to, followed by the packets
  that wait. This holds at every step and with any packets on the stack.
- **Validation is the recursion**: `Judge.validateBy_eq_validateDirectly` says so for every clock and
  every fetcher, so in particular for a fetcher that keeps a record of what it is asked for. With a
  clock that stands still, this is `Judge.validate_eq_validateDirectly`.
-/

namespace TrustSchema

variable {σ : Type}

namespace Judge

/-! ## The recursion -/

/-- Judges a packet at a step. A certificate that this needs is fetched, judged in the same way one
step further, and then used on the packet. -/
def resolve (j : Judge) (clock : Clock σ) (policy : Policy) (fetcher : Fetcher σ)
    (p : SignedPacket) (step : Nat) (s : FetchState σ) : Except Rejection Unit × FetchState σ :=
  match j.judgeBy clock policy p step s with
  | (.accept, s) => (.ok (), s)
  | (.reject reason, s) => (.error reason, s)
  | (.need keyName, s) =>
    match fetcher.fetch keyName j.fetchRetries s.fetcher with
    | (.error reason, state) =>
      (.error (.certificateUnresolved keyName reason.message), { s with fetcher := state })
    | (.ok d, state) =>
      if _h : j.stepLimit ≤ step + 1 then
        (.error (.stepLimitReached j.stepLimit), { s with fetcher := state })
      else if d.name.parent ≠ keyName then
        (.error (.certificateUnresolved keyName
          ("fetched data " ++ d.name.toUri ++ " does not belong to this key")),
          { s with fetcher := state })
      else
        match resolve j clock policy fetcher (.data d) (step + 1) { s with fetcher := state } with
        | (.error reason, s) => (.error reason, s)
        | (.ok (), s) => j.endorseBy clock d p s
termination_by j.stepLimit - step
decreasing_by omega

/-- Validates a packet by the recursion, which begins at step 0. The signature of an interest is
read first, if any step is allowed at all. -/
def validateDirectly (j : Judge) (clock : Clock σ) (policy : Policy) (fetcher : Fetcher σ)
    (packet : Packet) (s : FetchState σ) : Except Rejection Unit × FetchState σ :=
  match j.overLimit? 0 with
  | some reason => (.error reason, s)
  | none =>
    match SignedPacket.ofPacket packet with
    | .error reason => (.error (.malformedInterest reason), s)
    | .ok p => j.resolve clock policy fetcher p 0 s

variable {j : Judge} {clock : Clock σ} {now : Instant} {policy : Policy} {fetcher : Fetcher σ}
  {packet : Packet} {p : SignedPacket} {waiting : List SignedPacket} {step : Nat}
  {s s' : FetchState σ} {keyName : Name} {answer : Except FetchFailure Data} {state : σ} {d : Data}
  {reason : Rejection}

/-! ## One turn of the recursion -/

/-- Why the answer to a request is refused before it is judged: it did not come, the step at which
it would be judged is not allowed, or it is for another key. -/
def refusal? (j : Judge) (keyName : Name) (step : Nat) :
    Except FetchFailure Data → Option Rejection
  | .error reason => some (.certificateUnresolved keyName reason.message)
  | .ok d =>
    if j.stepLimit ≤ step then some (.stepLimitReached j.stepLimit)
    else if d.name.parent ≠ keyName then
      some (.certificateUnresolved keyName
        ("fetched data " ++ d.name.toUri ++ " does not belong to this key"))
    else none

theorem refusal?_ok_eq_none_iff :
    j.refusal? keyName step (.ok d) = none ↔ step < j.stepLimit ∧ d.name.parent = keyName := by
  unfold refusal?
  dsimp only
  constructor
  · intro h
    split at h
    · cases h
    · next hstep =>
      split at h
      · cases h
      · next hname => exact ⟨Nat.lt_of_not_le hstep, not_not.1 hname⟩
  · rintro ⟨hstep, hname⟩
    rw [if_neg (Nat.not_le_of_lt hstep), if_neg (not_not.2 hname)]

theorem resolve_of_refusal (hj : j.judgeBy clock policy p step s = (.need keyName, s'))
    (hf : fetcher.fetch keyName j.fetchRetries s'.fetcher = (answer, state))
    (hr : j.refusal? keyName (step + 1) answer = some reason) :
    j.resolve clock policy fetcher p step s = (.error reason, { s' with fetcher := state }) := by
  rw [resolve, hj]
  dsimp only
  rw [hf]
  cases answer with
  | error failure => rw [← Option.some.inj hr]
  | ok d =>
    unfold refusal? at hr
    dsimp only at hr ⊢
    split at hr
    · next hstep => rw [dif_pos hstep, ← Option.some.inj hr]
    · next hstep =>
      split at hr
      · next hname => rw [dif_neg hstep, if_pos hname, ← Option.some.inj hr]
      · cases hr

/-- An answer that is not refused is judged one step further, and then used on the packet. -/
theorem resolve_of_answer (hj : j.judgeBy clock policy p step s = (.need keyName, s'))
    (hf : fetcher.fetch keyName j.fetchRetries s'.fetcher = (.ok d, state))
    (hr : j.refusal? keyName (step + 1) (.ok d) = none) :
    j.resolve clock policy fetcher p step s =
      match j.resolve clock policy fetcher (.data d) (step + 1) { s' with fetcher := state } with
      | (.error reason, s) => (.error reason, s)
      | (.ok (), s) => j.endorseBy clock d p s := by
  obtain ⟨hstep, hname⟩ := refusal?_ok_eq_none_iff.1 hr
  rw [resolve, hj]
  dsimp only
  rw [hf]
  dsimp only
  rw [dif_neg (Nat.not_le_of_lt hstep), if_neg (not_not.2 hname)]

/-- Induction along the recursion. It ends with the verdict about a packet or with an answer that is
refused, and goes on with one that is not. -/
theorem resolve_induction (j : Judge) (clock : Clock σ) (policy : Policy) (fetcher : Fetcher σ)
    {motive : SignedPacket → Nat → FetchState σ → Prop}
    (accepted : ∀ p step s s', j.judgeBy clock policy p step s = (.accept, s') → motive p step s)
    (rejected : ∀ p step s s' reason,
      j.judgeBy clock policy p step s = (.reject reason, s') → motive p step s)
    (refused : ∀ p step s s' keyName answer state reason,
      j.judgeBy clock policy p step s = (.need keyName, s') →
      fetcher.fetch keyName j.fetchRetries s'.fetcher = (answer, state) →
      j.refusal? keyName (step + 1) answer = some reason → motive p step s)
    (answered : ∀ p step s s' keyName d state,
      j.judgeBy clock policy p step s = (.need keyName, s') →
      fetcher.fetch keyName j.fetchRetries s'.fetcher = (.ok d, state) →
      j.refusal? keyName (step + 1) (.ok d) = none →
      motive (.data d) (step + 1) { s' with fetcher := state } → motive p step s)
    (p : SignedPacket) (step : Nat) (s : FetchState σ) : motive p step s := by
  cases hj : j.judgeBy clock policy p step s with
  | mk verdict s' =>
    cases verdict with
    | accept => exact accepted p step s s' hj
    | reject reason => exact rejected p step s s' reason hj
    | need keyName =>
      cases hf : fetcher.fetch keyName j.fetchRetries s'.fetcher with
      | mk answer state =>
        cases hr : j.refusal? keyName (step + 1) answer with
        | some reason => exact refused p step s s' keyName answer state reason hj hf hr
        | none =>
          cases answer with
          | error failure => cases hr
          | ok d =>
            have hstep : step + 1 < j.stepLimit := (refusal?_ok_eq_none_iff.1 hr).1
            exact answered p step s s' keyName d state hj hf hr
              (resolve_induction j clock policy fetcher accepted rejected refused answered (.data d)
                (step + 1) { s' with fetcher := state })
termination_by j.stepLimit - step

/-- Keeping a record changes neither the verdict nor what is cached nor what is answered. The calls
that are made do not depend on what has been recorded before. -/
theorem exists_resolve_recording (j : Judge) (clock : Clock σ) (policy : Policy)
    (fetcher : Fetcher σ) (p : SignedPacket) (step : Nat) (s : FetchState σ) :
    ∃ calls, ∀ record,
      j.resolve clock.recording policy fetcher.recording p step (s.withRecord record) =
        ((j.resolve clock policy fetcher p step s).1,
          (j.resolve clock policy fetcher p step s).2.withRecord (record ++ calls)) := by
  induction p, step, s using resolve_induction j clock policy fetcher with
  | accepted p step s s' hj =>
    refine ⟨[], fun record => ?_⟩
    rw [resolve, resolve, judgeBy_recording, hj, List.append_nil]
  | rejected p step s s' reason hj =>
    refine ⟨[], fun record => ?_⟩
    rw [resolve, resolve, judgeBy_recording, hj, List.append_nil]
  | refused p step s s' keyName answer state reason hj hf hr =>
    obtain ⟨calls, hcalls⟩ := fetcher.exists_fetch_recording keyName j.fetchRetries s'.fetcher
    refine ⟨calls, fun record => ?_⟩
    have hj' : j.judgeBy clock.recording policy p step (s.withRecord record) =
        (.need keyName, s'.withRecord record) := by rw [judgeBy_recording, hj]
    have hf' : fetcher.recording.fetch keyName j.fetchRetries (s'.withRecord record).fetcher =
        (answer, (record ++ calls, state)) := (hcalls record).trans (by rw [hf])
    rw [resolve_of_refusal hj hf hr, resolve_of_refusal hj' hf' hr]
    rfl
  | answered p step s s' keyName d state hj hf hr ih =>
    obtain ⟨calls, hcalls⟩ := fetcher.exists_fetch_recording keyName j.fetchRetries s'.fetcher
    obtain ⟨more, hmore⟩ := ih
    refine ⟨calls ++ more, fun record => ?_⟩
    have hj' : j.judgeBy clock.recording policy p step (s.withRecord record) =
        (.need keyName, s'.withRecord record) := by rw [judgeBy_recording, hj]
    have hf' : fetcher.recording.fetch keyName j.fetchRetries (s'.withRecord record).fetcher =
        (.ok d, (record ++ calls, state)) := (hcalls record).trans (by rw [hf])
    have hmore' := hmore (record ++ calls)
    rw [FetchState.withRecord, List.append_assoc] at hmore'
    rw [resolve_of_answer hj hf hr, resolve_of_answer hj' hf' hr]
    dsimp only [FetchState.withRecord] at hmore' ⊢
    rw [hmore']
    obtain ⟨result, s''⟩ :=
      j.resolve clock policy fetcher (.data d) (step + 1) { s' with fetcher := state }
    cases result with
    | error reason => rfl
    | ok _ => exact endorseBy_recording (record ++ (calls ++ more))

/-! ## One turn of the loop -/

/-- What follows once a packet is accepted: a data packet is used on the packets that wait for it.
-/
def afterwards (j : Judge) (clock : Clock σ) (waiting : List SignedPacket) (p : SignedPacket)
    (s : FetchState σ) : Outcome × FetchState σ :=
  match p with
  | .data d => j.verifyChainBy clock d waiting s
  | .interest .. => (.accepted, s)

/-- Judges a packet that others wait for. A check and the answer to a request both come to this. -/
def proceed (j : Judge) (clock : Clock σ) (policy : Policy) (p : SignedPacket)
    (waiting : List SignedPacket) (step : Nat) (s : FetchState σ) : Outcome × FetchState σ :=
  match j.judgeBy clock policy p step s with
  | (.accept, s) => j.afterwards clock waiting p s
  | (verdict, s) => (j.outcome policy (p :: waiting) step verdict, s)

theorem afterwards_nil : j.afterwards clock [] p s = (.accepted, s) := by
  cases p <;> rfl

/-- The use of a certificate, and then what follows for the packet that it is used on. -/
theorem afterwards_cons :
    j.afterwards clock (p :: waiting) (.data d) s =
      match j.endorseBy clock d p s with
      | (.error reason, s) => (.rejected reason, s)
      | (.ok (), s) => j.afterwards clock waiting p s := by
  show j.verifyChainBy clock d (p :: waiting) s = _
  rw [verifyChainBy]
  cases p <;> rfl

theorem checkBy_eq_proceed (hstep : j.overLimit? step = none)
    (hp : SignedPacket.ofPacket packet = .ok p) :
    j.checkBy clock policy packet step s = j.proceed clock policy p [] step s := by
  unfold checkBy proceed
  rw [hstep, hp]
  dsimp only
  split
  · next s' hj =>
    rw [hj, afterwards_nil]
    rfl
  · next verdict s' _ hj =>
    rw [hj]

theorem answerBy_of_refusal {r : Request}
    (hf : fetcher.fetch r.certificateName r.retries s.fetcher = (answer, state))
    (hr : j.refusal? r.certificateName r.step answer = some reason) :
    j.answerBy clock fetcher r s = (.rejected reason, { s with fetcher := state }) := by
  unfold answerBy
  rw [hf]
  cases answer with
  | error failure =>
    rw [← Option.some.inj hr]
    rfl
  | ok d =>
    unfold refusal? at hr
    dsimp only at hr ⊢
    unfold resumeBy overLimit?
    split at hr
    · next hstep =>
      rw [if_pos hstep, ← Option.some.inj hr]
    · next hstep =>
      split at hr
      · next hname =>
        rw [if_neg hstep, ← Option.some.inj hr]
        dsimp only
        rw [if_pos hname]
      · cases hr

theorem answerBy_eq_proceed {r : Request}
    (hf : fetcher.fetch r.certificateName r.retries s.fetcher = (.ok d, state))
    (hr : j.refusal? r.certificateName r.step (.ok d) = none) :
    j.answerBy clock fetcher r s =
      j.proceed clock r.policy (.data d) r.waiting r.step { s with fetcher := state } := by
  obtain ⟨hstep, hname⟩ := refusal?_ok_eq_none_iff.1 hr
  unfold answerBy resumeBy proceed
  rw [hf, overLimit?_eq_none_iff.2 hstep]
  dsimp only
  rw [if_neg (not_not.2 hname)]
  rfl

/-- There is never more than one request, so its answer decides what comes next. -/
theorem settleBy_singleton (name : Name) (r : Request) :
    j.settleBy clock fetcher name [r] s =
      j.concludeBy clock fetcher name (j.answerBy clock fetcher r s).1
        (j.answerBy clock fetcher r s).2 := by
  rw [settleBy_cons, Outcome.behind_nil]

/-- Where a certificate is needed, the loop goes on with the answer to a request for it. -/
theorem conclude_proceed_of_need (name : Name) (waiting : List SignedPacket)
    (hj : j.judgeBy clock policy p step s = (.need keyName, s')) :
    let a := j.answerBy clock fetcher ⟨keyName, step + 1, j.fetchRetries, p :: waiting, policy⟩ s'
    j.concludeBy clock fetcher name (j.proceed clock policy p waiting step s).1
        (j.proceed clock policy p waiting step s).2 =
      j.concludeBy clock fetcher name a.1 a.2 := by
  unfold proceed
  rw [hj]
  exact settleBy_singleton name _

/-- **The loop is the recursion, followed by the packets that wait.** The induction is along the
recursion, for any packets that wait: one step further, the packet itself is the first of them. -/
theorem conclude_proceed (name : Name) :
    j.concludeBy clock fetcher name (j.proceed clock policy p waiting step s).1
        (j.proceed clock policy p waiting step s).2 =
      match j.resolve clock policy fetcher p step s with
      | (.error reason, s) => (.error reason, s)
      | (.ok (), s) =>
        j.concludeBy clock fetcher name (j.afterwards clock waiting p s).1
          (j.afterwards clock waiting p s).2 := by
  induction p, step, s using resolve_induction j clock policy fetcher generalizing waiting with
  | accepted p step s s' hj =>
    unfold proceed resolve
    rw [hj]
  | rejected p step s s' reason hj =>
    unfold proceed resolve
    rw [hj]
    rfl
  | refused p step s s' keyName answer state reason hj hf hr =>
    rw [conclude_proceed_of_need name waiting hj, answerBy_of_refusal hf hr,
      resolve_of_refusal hj hf hr]
    rfl
  | answered p step s s' keyName d state hj hf hr ih =>
    rw [conclude_proceed_of_need name waiting hj, answerBy_eq_proceed hf hr, ih,
      resolve_of_answer hj hf hr]
    obtain ⟨result, s''⟩ :=
      j.resolve clock policy fetcher (.data d) (step + 1) { s' with fetcher := state }
    cases result with
    | error reason => rfl
    | ok _ =>
      -- The certificate is trusted now, and the packet is the first that waits for it.
      dsimp only
      rw [afterwards_cons]
      obtain ⟨result, s'''⟩ := j.endorseBy clock d p s''
      cases result <;> rfl

/-- Validation is the recursion, whatever the clock shows and the fetcher answers. -/
theorem validateBy_eq_validateDirectly :
    j.validateBy clock policy fetcher packet s =
      j.validateDirectly clock policy fetcher packet s := by
  unfold validateBy validateDirectly
  cases hstep : j.overLimit? 0 with
  | some reason =>
    simp only [checkBy, hstep]
    rfl
  | none =>
    cases hp : SignedPacket.ofPacket packet with
    | error reason =>
      simp only [checkBy, hstep, hp]
      rfl
    | ok p =>
      dsimp only
      rw [checkBy_eq_proceed hstep hp, conclude_proceed]
      split
      · next hr => rw [hr]
      · next s' hr =>
        rw [hr, afterwards_nil]
        rfl

/-- At one time, too, validation is the recursion. -/
theorem validate_eq_validateDirectly :
    j.validate now policy fetcher packet s =
      j.validateDirectly (.still now) policy fetcher packet s :=
  validateBy_still.symm.trans validateBy_eq_validateDirectly

/-- A record of a validation changes nothing else either. -/
theorem exists_validate_recording (j : Judge) (now : Instant) (policy : Policy)
    (fetcher : Fetcher σ) (packet : Packet) (s : FetchState σ) :
    ∃ calls, ∀ record,
      j.validate now policy fetcher.recording packet (s.withRecord record) =
        ((j.validate now policy fetcher packet s).1,
          (j.validate now policy fetcher packet s).2.withRecord (record ++ calls)) := by
  simp only [← validateBy_still, ← Clock.recording_still]
  exact exists_validateBy_recording ..

/-- **Validation refines the recursion.** For every clock and every fetcher, the verdict, the cache
and the state of clock and fetcher are those of the recursion, and both make the same calls in the
same order: there is one list of names that a record of the validation and a record of the recursion
both come to, and keeping it changes nothing else. The clock may show another time at each reading.
If it is moved by nothing but the fetches this is about `Judge.validateOn`, and if it stands still
about `Judge.validate`. -/
theorem validate_refines_recursion (j : Judge) (clock : Clock σ) (policy : Policy)
    (fetcher : Fetcher σ) (packet : Packet) (s : FetchState σ) :
    j.validateBy clock policy fetcher packet s =
        j.validateDirectly clock policy fetcher packet s ∧
      (∃ calls,
        j.validateBy clock.recording policy fetcher.recording packet (s.withRecord []) =
          ((j.validateBy clock policy fetcher packet s).1,
            (j.validateBy clock policy fetcher packet s).2.withRecord calls) ∧
        j.validateDirectly clock.recording policy fetcher.recording packet (s.withRecord []) =
          ((j.validateDirectly clock policy fetcher packet s).1,
            (j.validateDirectly clock policy fetcher packet s).2.withRecord calls)) ∧
      (∀ time, j.validateOn time policy fetcher packet s =
        j.validateDirectly (.ofTime time) policy fetcher packet s) ∧
      ∀ now, j.validate now policy fetcher packet s =
        j.validateDirectly (.still now) policy fetcher packet s := by
  refine ⟨validateBy_eq_validateDirectly, ?_, fun time => validateBy_eq_validateDirectly,
    fun now => validate_eq_validateDirectly⟩
  obtain ⟨calls, hcalls⟩ := exists_validateBy_recording j clock policy fetcher packet s
  have hrecord := hcalls []
  rw [List.nil_append] at hrecord
  refine ⟨calls, hrecord, ?_⟩
  rw [← validateBy_eq_validateDirectly, ← validateBy_eq_validateDirectly, hrecord]

end Judge

end TrustSchema
