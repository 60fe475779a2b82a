import TrustSchema.Proofs.Validation.Clock

/-!
# Keeping a record of the calls

A fetcher that keeps a record puts each name that it is asked for at the end of a list
(`Fetcher.recording`). Nobody reads the record, and a clock leaves it alone. So it does not change
what is done about a packet or an answer, and a validation with a record is the validation without
one, with the calls put behind what has been recorded before (`Judge.exists_validateBy_recording`).
-/

namespace TrustSchema

variable {σ : Type}

/-- A fetcher that keeps a record of the names it is asked for, the last one at the end. -/
def Fetcher.recording (fetcher : Fetcher σ) : Fetcher (List Name × σ) := fun name s =>
  ((fetcher name s.2).1, (s.1 ++ [name], (fetcher name s.2).2))

/-- The same state for a fetcher that keeps a record. -/
def FetchState.withRecord (s : FetchState σ) (record : List Name) : FetchState (List Name × σ) :=
  ⟨s.cache, (record, s.fetcher)⟩

/-- A fetch asks for one name, at least once and once more for each retry at most. This is put
behind the record, and nothing else changes. -/
theorem Fetcher.exists_fetch_recording_replicate (fetcher : Fetcher σ) (name : Name)
    (retries : Nat) (s : σ) : ∃ count, 1 ≤ count ∧ count ≤ retries + 1 ∧
      ∀ record, fetcher.recording.fetch name retries (record, s) =
        ((fetcher.fetch name retries s).1,
          (record ++ List.replicate count name, (fetcher.fetch name retries s).2)) := by
  induction retries generalizing s with
  | zero => exact ⟨1, Nat.le_refl 1, Nat.le_refl 1, fun _ => rfl⟩
  | succ retries ih =>
    have hbudget : 1 ≤ retries + 1 + 1 := Nat.le_add_left 1 (retries + 1)
    obtain ⟨count, hpos, hcount, hcalls⟩ := ih (fetcher name s).2
    cases hf : fetcher name s with
    | mk answer s' =>
      rw [hf] at hcalls
      have hr : ∀ record, fetcher.recording name (record, s) = (answer, (record ++ [name], s')) :=
        fun record => by rw [recording, hf]
      cases answer with
      | ok d =>
        refine ⟨1, Nat.le_refl 1, hbudget, fun record => ?_⟩
        rw [fetch, fetch, hr, hf, List.replicate_one]
      | error reason =>
        cases reason with
        | timeout n =>
          -- Only here the fetch goes on, with the calls of the next attempt behind this one.
          refine ⟨count + 1, Nat.le_add_left 1 count, Nat.succ_le_succ hcount, fun record => ?_⟩
          rw [fetch, fetch, hr, hf]
          dsimp only
          rw [hcalls, List.append_assoc]
          rfl
        | notFound n =>
          refine ⟨1, Nat.le_refl 1, hbudget, fun record => ?_⟩
          rw [fetch, fetch, hr, hf, List.replicate_one]
        | failed n text =>
          refine ⟨1, Nat.le_refl 1, hbudget, fun record => ?_⟩
          rw [fetch, fetch, hr, hf, List.replicate_one]

theorem Fetcher.exists_fetch_recording (fetcher : Fetcher σ) (name : Name) (retries : Nat)
    (s : σ) : ∃ calls, ∀ record, fetcher.recording.fetch name retries (record, s) =
      ((fetcher.fetch name retries s).1, (record ++ calls, (fetcher.fetch name retries s).2)) := by
  obtain ⟨count, -, -, hcalls⟩ := fetcher.exists_fetch_recording_replicate name retries s
  exact ⟨List.replicate count name, hcalls⟩

/-- The same clock beside a record. -/
def Clock.recording (clock : Clock σ) : Clock (List Name × σ) := fun s =>
  ((clock s.2).1, (s.1, (clock s.2).2))

theorem Clock.recording_still (now : Instant) : (still now : Clock σ).recording = .still now := rfl

theorem FetchState.lookup_recording (clock : Clock σ) (keyName : Name) (s : FetchState σ)
    (record : List Name) :
    (s.withRecord record).lookup clock.recording keyName =
      ((s.lookup clock keyName).1, (s.lookup clock keyName).2.withRecord record) := by
  unfold lookup
  dsimp only [withRecord]
  cases s.cache.ring.find? keyName <;> rfl

namespace Judge

variable {j : Judge} {clock : Clock σ} {policy : Policy} {packet : Packet} {p : SignedPacket}
  {d : Data} {waiting : List SignedPacket} {step : Nat} {s : FetchState σ} {r : Request}
  {fetcher : Fetcher σ} {name : Name} {outcome : Outcome}

/-! ## Operations that fetch nothing -/

theorem judgeBy_recording (record : List Name) :
    j.judgeBy clock.recording policy p step (s.withRecord record) =
      ((j.judgeBy clock policy p step s).1,
        (j.judgeBy clock policy p step s).2.withRecord record) := by
  unfold judgeBy
  cases j.assess policy p step with
  | accept => rfl
  | reject reason => rfl
  | need keyName =>
    dsimp only
    rw [FetchState.lookup_recording]
    obtain ⟨found, s'⟩ := s.lookup clock keyName
    cases found <;> rfl

theorem checkBy_recording (record : List Name) :
    j.checkBy clock.recording policy packet step (s.withRecord record) =
      ((j.checkBy clock policy packet step s).1,
        (j.checkBy clock policy packet step s).2.withRecord record) := by
  unfold checkBy
  split
  · rfl
  · split
    · rfl
    · rw [judgeBy_recording]

theorem endorseBy_recording (record : List Name) :
    j.endorseBy clock.recording d p (s.withRecord record) =
      ((j.endorseBy clock d p s).1, (j.endorseBy clock d p s).2.withRecord record) := by
  unfold endorseBy
  cases Certificate.ofData d with
  | error reason => rfl
  | ok c =>
    dsimp only [FetchState.read, FetchState.withRecord, Clock.recording]
    split <;> rfl

theorem verifyChainBy_recording (record : List Name) :
    j.verifyChainBy clock.recording d waiting (s.withRecord record) =
      ((j.verifyChainBy clock d waiting s).1,
        (j.verifyChainBy clock d waiting s).2.withRecord record) := by
  induction waiting generalizing d s with
  | nil => rfl
  | cons p waiting ih =>
    rw [verifyChainBy, verifyChainBy, endorseBy_recording]
    obtain ⟨result, s'⟩ := j.endorseBy clock d p s
    cases result with
    | error reason => rfl
    | ok _ =>
      cases p with
      | data d => exact ih
      | interest signedName signature => rfl

theorem resumeBy_recording (record : List Name) :
    j.resumeBy clock.recording r d (s.withRecord record) =
      ((j.resumeBy clock r d s).1, (j.resumeBy clock r d s).2.withRecord record) := by
  unfold resumeBy
  split
  · rfl
  · split
    · rfl
    · rw [judgeBy_recording]
      obtain ⟨verdict, s'⟩ := j.judgeBy clock r.policy (.data d) r.step s
      cases verdict with
      | accept => exact verifyChainBy_recording record
      | reject reason => rfl
      | need keyName => rfl

theorem exists_answerBy_recording (j : Judge) (clock : Clock σ) (fetcher : Fetcher σ)
    (r : Request) (s : FetchState σ) : ∃ calls, ∀ record,
      j.answerBy clock.recording fetcher.recording r (s.withRecord record) =
        ((j.answerBy clock fetcher r s).1,
          (j.answerBy clock fetcher r s).2.withRecord (record ++ calls)) := by
  obtain ⟨calls, hcalls⟩ := fetcher.exists_fetch_recording r.certificateName r.retries s.fetcher
  refine ⟨calls, fun record => ?_⟩
  have hfetch : fetcher.recording.fetch r.certificateName r.retries (s.withRecord record).fetcher =
      _ := hcalls record
  unfold answerBy
  rw [hfetch]
  obtain ⟨answer, state⟩ := fetcher.fetch r.certificateName r.retries s.fetcher
  cases answer with
  | error reason => rfl
  | ok d => exact resumeBy_recording (s := ⟨s.cache, state⟩) (record ++ calls)

theorem exists_settleBy_recording (j : Judge) (clock : Clock σ) (fetcher : Fetcher σ)
    (name : Name) (requests : List Request) (s : FetchState σ) : ∃ calls, ∀ record,
      j.settleBy clock.recording fetcher.recording name requests (s.withRecord record) =
        ((j.settleBy clock fetcher name requests s).1,
          (j.settleBy clock fetcher name requests s).2.withRecord (record ++ calls)) := by
  fun_induction settleBy j clock fetcher name requests s with
  | case1 s => exact ⟨[], fun record => by rw [settleBy, List.append_nil]⟩
  | case2 s r queue s' h =>
    obtain ⟨calls, hcalls⟩ := exists_answerBy_recording j clock fetcher r s
    refine ⟨calls, fun record => ?_⟩
    rw [settleBy_cons, hcalls, h]
    rfl
  | case3 s r queue reason s' h =>
    obtain ⟨calls, hcalls⟩ := exists_answerBy_recording j clock fetcher r s
    refine ⟨calls, fun record => ?_⟩
    rw [settleBy_cons, hcalls, h]
    rfl
  | case4 s r queue more s' h ih =>
    obtain ⟨first, hfirst⟩ := exists_answerBy_recording j clock fetcher r s
    obtain ⟨rest, hrest⟩ := ih
    refine ⟨first ++ rest, fun record => ?_⟩
    rw [settleBy_cons, hfirst, h, ← List.append_assoc]
    exact hrest (record ++ first)

theorem exists_concludeBy_recording (j : Judge) (clock : Clock σ) (fetcher : Fetcher σ)
    (name : Name) (outcome : Outcome) (s : FetchState σ) : ∃ calls, ∀ record,
      j.concludeBy clock.recording fetcher.recording name outcome (s.withRecord record) =
        ((j.concludeBy clock fetcher name outcome s).1,
          (j.concludeBy clock fetcher name outcome s).2.withRecord (record ++ calls)) := by
  cases outcome with
  | accepted => exact ⟨[], fun record => by rw [List.append_nil]; rfl⟩
  | rejected reason => exact ⟨[], fun record => by rw [List.append_nil]; rfl⟩
  | pending requests => exact exists_settleBy_recording j clock fetcher name requests s

/-- Keeping a record of a validation changes nothing else. -/
theorem exists_validateBy_recording (j : Judge) (clock : Clock σ) (policy : Policy)
    (fetcher : Fetcher σ) (packet : Packet) (s : FetchState σ) : ∃ calls, ∀ record,
      j.validateBy clock.recording policy fetcher.recording packet (s.withRecord record) =
        ((j.validateBy clock policy fetcher packet s).1,
          (j.validateBy clock policy fetcher packet s).2.withRecord (record ++ calls)) := by
  unfold validateBy
  simp only [checkBy_recording]
  exact exists_concludeBy_recording ..

theorem exists_validateOn_recording (j : Judge) (time : σ → Instant) (policy : Policy)
    (fetcher : Fetcher σ) (packet : Packet) (s : FetchState σ) : ∃ calls,
      j.validateOn (time ∘ Prod.snd) policy fetcher.recording packet (s.withRecord []) =
        ((j.validateOn time policy fetcher packet s).1,
          (j.validateOn time policy fetcher packet s).2.withRecord calls) := by
  obtain ⟨calls, hcalls⟩ := exists_validateBy_recording j (.ofTime time) policy fetcher packet s
  exact ⟨calls, hcalls []⟩

end Judge

end TrustSchema
