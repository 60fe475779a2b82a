import TrustSchema.Proofs.Validation.History
import TrustSchema.Proofs.Validation.Recursion

/-!
# The cache is transparent

Validation with a warm cache stops climbing at the first certificate that is cached. Here this is
compared with validation that begins with an empty cache and climbs to the end. The fetcher always
gives the same answer for the same name, and the clock stands still.

- `Judge.Provable`: what the answers of the fetcher prove about a packet, without a cache, an order
  of events or a limit on the number of steps.
- `Judge.Vetted`: a cached certificate is the fetcher's own answer for its key, and the answers
  prove it. Validation puts nothing else into a cache (`Judge.vetted_of_resolve`), not even if the
  packet is refused in the end.
- `Judge.resolve_of_provable`: what the answers prove is accepted without a cache, unless the steps
  run out.
- **The cache is transparent**: `Validator.validate_eq_cold`. If validation with an empty cache does
  not run out of steps, earlier validations change neither its verdict nor, but for the end that is
  left out, the names that are fetched.
-/

namespace TrustSchema

variable {σ : Type}

/-- The fetcher that gives the same answer for a name every time. -/
def Fetcher.ofAnswers (answers : Name → Except FetchFailure Data) : Fetcher Unit := fun name s =>
  (answers name, s)

/-- A fetcher gives these answers, whatever its state. -/
def Fetcher.Gives (fetcher : Fetcher σ) (answers : Name → Except FetchFailure Data) : Prop :=
  ∀ name s, (fetcher name s).1 = answers name

theorem Fetcher.gives_ofAnswers (answers : Name → Except FetchFailure Data) :
    (ofAnswers answers).Gives answers := fun _ _ => rfl

theorem Fetcher.Gives.recording {fetcher : Fetcher σ} {answers : Name → Except FetchFailure Data}
    (h : fetcher.Gives answers) : fetcher.recording.Gives answers := fun name s => h name s.2

/-- Asking again changes nothing. -/
theorem Fetcher.Gives.fetch {fetcher : Fetcher σ} {answers : Name → Except FetchFailure Data}
    (h : fetcher.Gives answers) (name : Name) (retries : Nat) (s : σ) :
    (fetcher.fetch name retries s).1 = answers name := by
  induction retries generalizing s with
  | zero => exact h name s
  | succ retries ih =>
    unfold Fetcher.fetch
    split
    · exact ih _
    · exact h name s

namespace Judge

/-! ## What the answers prove -/

/-- The answers of a fetcher prove that a packet may be trusted: its policy accepts it, or leaves it
to a key whose certificate is the answer for it, is valid, bears the packet out and is itself proved
by the answers. -/
inductive Provable (j : Judge) (now : Instant) (policy : Policy)
    (answers : Name → Except FetchFailure Data) : SignedPacket → Prop
  | settled {p : SignedPacket} (settles : policy.Settles j.verifier p) :
      Provable j now policy answers p
  | signed {p : SignedPacket} {c : Certificate} (defers : policy.Defers j.verifier p c.keyName)
      (answered : answers c.keyName = .ok c.data) (read : Certificate.ofData c.data = .ok c)
      (valid : c.isValidAt now) (confirmed : j.verifier.Confirms p c)
      (signer : Provable j now policy answers (.data c.data)) : Provable j now policy answers p

/-- A certificate that the answers bear out: it is the answer for its own key and provable. -/
structure Vetted (j : Judge) (now : Instant) (policy : Policy)
    (answers : Name → Except FetchFailure Data) (c : Certificate) : Prop where
  answered : answers c.keyName = .ok c.data
  read : Certificate.ofData c.data = .ok c
  valid : c.isValidAt now
  provable : j.Provable now policy answers (.data c.data)

/-- Everything in a cache is vetted. -/
def VettedCache (j : Judge) (now : Instant) (policy : Policy)
    (answers : Name → Except FetchFailure Data) (cache : Cache) : Prop :=
  ∀ c ∈ cache, j.Vetted now policy answers c

variable {j : Judge} {now : Instant} {policy : Policy} {fetcher : Fetcher σ}
  {answers : Name → Except FetchFailure Data} {p : SignedPacket} {step : Nat} {s : FetchState σ}
  {c : Certificate} {cache cache' : Cache} {keyName : Name} {clock : Clock σ}

theorem Vetted.provable_of_confirms (h : j.Vetted now policy answers c)
    (hdefers : policy.Defers j.verifier p c.keyName) (hc : j.verifier.Confirms p c) :
    j.Provable now policy answers p :=
  .signed hdefers h.answered h.read h.valid hc h.provable

theorem VettedCache.of_judge {verdict : Verdict} (h : j.VettedCache now policy answers cache)
    (hj : j.judge now policy p step cache = (verdict, cache')) :
    j.VettedCache now policy answers cache' := by
  intro c hc
  have hmem : c ∈ (j.judge now policy p step cache).2 := by
    rw [hj]
    exact hc
  exact h c (mem_of_mem_judge hmem)

/-- A data packet that is the answer for its key and provable may be used as a certificate. -/
theorem VettedCache.of_endorse {d : Data} {result : Except Rejection Unit}
    (h : j.VettedCache now policy answers cache) (hd : answers d.name.parent = .ok d)
    (hprovable : j.Provable now policy answers (.data d))
    (he : j.endorse now d p cache = (result, cache')) :
    j.VettedCache now policy answers cache' := by
  intro c hc
  have hmem : c ∈ (j.endorse now d p cache).2 := by
    rw [he]
    exact hc
  rcases eq_or_mem_of_mem_endorse hmem with ⟨hread, hvalid⟩ | hold
  · have hdata := Certificate.data_of_ofData hread
    subst hdata
    exact ⟨hd, hread, hvalid, hprovable⟩
  · exact h c hold

/-- **Validation keeps the cache vetted, and accepts only what is provable.** The induction is along
the recursion: a certificate is put into the cache after it has been accepted, so it is provable by
then, whatever becomes of the packet that it signed. -/
theorem vetted_of_resolve (hf : fetcher.Gives answers)
    (hcache : j.VettedCache now policy answers s.cache) :
    j.VettedCache now policy answers (j.resolve (.still now) policy fetcher p step s).2.cache ∧
      ((j.resolve (.still now) policy fetcher p step s).1 = .ok () → j.Provable now policy answers p) := by
  induction p, step, s using resolve_induction j (.still now) policy fetcher with
  | accepted p step s s' hj =>
    obtain ⟨hjudge, -⟩ := judgeBy_still_eq_iff.1 hj
    rw [resolve, hj]
    refine ⟨hcache.of_judge hjudge, fun _ => ?_⟩
    rcases settles_or_cached_of_judge_eq_accept hjudge with hs | ⟨c, hc, hd, -, hconf⟩
    · exact .settled hs
    · exact (hcache c hc).provable_of_confirms hd hconf
  | rejected p step s s' reason hj =>
    obtain ⟨hjudge, -⟩ := judgeBy_still_eq_iff.1 hj
    rw [resolve, hj]
    refine ⟨hcache.of_judge hjudge, ?_⟩
    rintro ⟨⟩
  | refused p step s s' keyName answer state reason hj hfetch hr =>
    obtain ⟨hjudge, -⟩ := judgeBy_still_eq_iff.1 hj
    rw [resolve_of_refusal hj hfetch hr]
    refine ⟨hcache.of_judge hjudge, ?_⟩
    rintro ⟨⟩
  | answered p step s s' keyName d state hj hfetch hr ih =>
    obtain ⟨hjudge, -⟩ := judgeBy_still_eq_iff.1 hj
    obtain ⟨-, hname⟩ := refusal?_ok_eq_none_iff.1 hr
    have hanswer : answers d.name.parent = .ok d := by
      rw [hname, ← hf.fetch keyName j.fetchRetries s'.fetcher, hfetch]
    have hdefers := (defers_of_judge_eq_need hjudge).2
    rw [← hname] at hdefers
    have hsigner := ih (hcache.of_judge hjudge)
    rw [resolve_of_answer hj hfetch hr]
    generalize j.resolve (.still now) policy fetcher (.data d) (step + 1)
      { s' with fetcher := state } = r at hsigner ⊢
    obtain ⟨result, s''⟩ := r
    obtain ⟨hvetted, hprovable⟩ := hsigner
    cases result with
    | error reason =>
      refine ⟨hvetted, ?_⟩
      rintro ⟨⟩
    | ok _ =>
      dsimp only
      rw [endorseBy_still]
      -- The certificate enters the cache even if the packet that it signed is refused.
      refine ⟨hvetted.of_endorse hanswer (hprovable rfl) rfl, fun hok => ?_⟩
      obtain ⟨_, c, ⟨⟩, hread, hvalid, hconf⟩ := endorses_of_endorse (Prod.ext hok rfl)
      have hdata := Certificate.data_of_ofData hread
      subst hdata
      exact .signed hdefers hanswer hread hvalid hconf (hprovable rfl)

/-! ## Validation with an empty cache -/

theorem resolve_of_accept (ha : j.assess policy p step = .accept) :
    j.resolve clock policy fetcher p step s = (.ok (), s) := by
  rw [resolve, judgeBy, ha]

theorem resolve_of_reject {reason : Rejection} (ha : j.assess policy p step = .reject reason) :
    j.resolve clock policy fetcher p step s = (.error reason, s) := by
  rw [resolve, judgeBy, ha]

theorem endorse_of_ofData (hread : Certificate.ofData c.data = .ok c) (hvalid : c.isValidAt now) :
    j.endorse now c.data p cache = (j.verifier.checkSignature p c, cache.insert c) := by
  unfold endorse
  rw [hread]
  dsimp only
  rw [if_pos hvalid]

/-- If the signer of a packet is the answer for its key and is accepted where the steps suffice, the
packet gets the verdict about its signature, unless the steps run out. -/
theorem resolve_of_signer (hf : fetcher.Gives answers) (hempty : s.cache.ring = .empty)
    (ha : j.assess policy p step = .need c.keyName) (hanswer : answers c.keyName = .ok c.data)
    (hread : Certificate.ofData c.data = .ok c) (hvalid : c.isValidAt now)
    (hsigner : ∀ state : σ,
      (j.resolve (.still now) policy fetcher (.data c.data) (step + 1) ⟨s.cache, state⟩).1 = .ok () ∨
      (j.resolve (.still now) policy fetcher (.data c.data) (step + 1) ⟨s.cache, state⟩).1 =
        .error (.stepLimitReached j.stepLimit)) :
    (j.resolve (.still now) policy fetcher p step s).1 = j.verifier.checkSignature p c ∨
      (j.resolve (.still now) policy fetcher p step s).1 = .error (.stepLimitReached j.stepLimit) := by
  have hmiss : s.cache.ring.find? c.keyName = none := by
    rw [hempty]
    rfl
  obtain ⟨state, hfetch⟩ :
      ∃ state, fetcher.fetch c.keyName j.fetchRetries s.fetcher = (.ok c.data, state) :=
    ⟨_, Prod.ext ((hf.fetch ..).trans hanswer) rfl⟩
  have hj : j.judgeBy (.still now) policy p step s = (.need c.keyName, s) :=
    judgeBy_of_find?_eq_none ha hmiss
  rcases Nat.lt_or_ge (step + 1) j.stepLimit with hstep | hstep
  · have hd := hsigner state
    rw [resolve_of_answer hj hfetch (refusal?_ok_eq_none_iff.2 ⟨hstep, rfl⟩)]
    generalize j.resolve (.still now) policy fetcher (.data c.data) (step + 1) ⟨s.cache, state⟩ = r at hd ⊢
    obtain ⟨result, s'⟩ := r
    rcases hd with rfl | rfl
    · dsimp only
      rw [endorseBy_still, FetchState.onCache_of_eq (endorse_of_ofData hread hvalid)]
      exact Or.inl rfl
    · exact Or.inr rfl
  · -- The name is right, so that only the limit can be a reason to refuse the answer.
    have hr : j.refusal? c.keyName (step + 1) (.ok c.data) =
        some (.stepLimitReached j.stepLimit) := if_pos hstep
    rw [resolve_of_refusal hj hfetch hr]
    exact Or.inr rfl

/-- **What the answers prove is accepted without a cache, unless the steps run out.** -/
theorem resolve_of_provable (hf : fetcher.Gives answers) (hp : j.Provable now policy answers p)
    (hempty : s.cache.ring = .empty) :
    (j.resolve (.still now) policy fetcher p step s).1 = .ok () ∨
      (j.resolve (.still now) policy fetcher p step s).1 = .error (.stepLimitReached j.stepLimit) := by
  induction hp generalizing step s with
  | @settled p hsettles =>
    rcases Nat.lt_or_ge step j.stepLimit with hlt | hge
    · rw [resolve_of_accept (assess_eq_accept_iff.2 ⟨hlt, hsettles⟩)]
      exact Or.inl rfl
    · rw [resolve_of_reject (assess_of_stepLimit_le hge)]
      exact Or.inr rfl
  | @signed p c hdefers hanswer hread hvalid hconf _ ih =>
    rcases Nat.lt_or_ge step j.stepLimit with hlt | hge
    · have ha := assess_eq_need_iff.2 ⟨hlt, hdefers⟩
      rw [← Verifier.checkSignature_eq_ok_iff.2 hconf]
      exact resolve_of_signer hf hempty ha hanswer hread hvalid fun state => ih hempty
    · rw [resolve_of_reject (assess_of_stepLimit_le hge)]
      exact Or.inr rfl

/-! ## A warm cache and an empty one -/

/-- A run agrees with a longer one: the verdict is the same, and the names that it asks for are the
first ones of those that the longer one asks for. -/
structure Agrees {σ : Type} (warm cold : Except Rejection Unit × FetchState (List Name × σ)) :
    Prop where
  verdict : warm.1 = cold.1
  calls : warm.2.fetcher.1 <+: cold.2.fetcher.1

theorem record_prefix_resolve (s : FetchState (List Name × σ)) :
    s.fetcher.1 <+: (j.resolve (.still now) policy fetcher.recording p step s).2.fetcher.1 := by
  obtain ⟨calls, hcalls⟩ :=
    exists_resolve_recording j (.still now) policy fetcher p step ⟨s.cache, s.fetcher.2⟩
  refine ⟨calls, ?_⟩
  have hrecord := hcalls s.fetcher.1
  exact (congrArg (fun r => r.2.fetcher.1) hrecord).symm

theorem endorse_fst_eq (d : Data) :
    (j.endorse now d p cache).1 = (j.endorse now d p cache').1 := by
  unfold endorse
  split
  · rfl
  · split <;> rfl

/-- A vetted certificate in the cache gives the verdict that its chain would lead to. -/
theorem agrees_of_hit (hf : fetcher.Gives answers) (s : FetchState (List Name × σ))
    (hempty : s.cache.ring = .empty) (ha : j.assess policy p step = .need keyName)
    (hhit : cache.ring.find? keyName = some c) (hc : j.Vetted now policy answers c)
    (hne : (j.resolve (.still now) policy fetcher.recording p step s).1 ≠
      .error (.stepLimitReached j.stepLimit)) :
    Agrees (j.resolve (.still now) policy fetcher.recording p step { s with cache })
      (j.resolve (.still now) policy fetcher.recording p step s) := by
  have hkey : c.keyName = keyName := Keyring.keyName_of_find? hhit
  subst hkey
  have hj : j.judgeBy (.still now) policy p step { s with cache } =
      (j.judgeWith p c, { s with cache }) :=
    judgeBy_still_eq_iff.2 ⟨judge_of_mem ha hhit hc.valid, rfl⟩
  have hwarm : j.resolve (.still now) policy fetcher.recording p step { s with cache } =
      (j.verifier.checkSignature p c, { s with cache }) := by
    rw [resolve, hj]
    unfold judgeWith
    cases j.verifier.checkSignature p c <;> rfl
  rw [hwarm]
  refine ⟨?_, record_prefix_resolve s⟩
  have hcold := resolve_of_signer hf.recording hempty ha hc.answered hc.read hc.valid
    fun state => resolve_of_provable hf.recording hc.provable hempty
  exact (hcold.resolve_right hne).symm

/-- Where the cache does not help, both runs fetch the same certificate, and agree if they agree
about it. -/
theorem agrees_of_miss (s : FetchState (List Name × σ)) (hempty : s.cache.ring = .empty)
    (ha : j.assess policy p step = .need keyName) (hmiss : cache.ring.find? keyName = none)
    (hne : (j.resolve (.still now) policy fetcher.recording p step s).1 ≠
      .error (.stepLimitReached j.stepLimit))
    (ih : ∀ d state, step + 1 < j.stepLimit →
      (j.resolve (.still now) policy fetcher.recording (.data d) (step + 1) ⟨s.cache, state⟩).1 ≠
        .error (.stepLimitReached j.stepLimit) →
      Agrees (j.resolve (.still now) policy fetcher.recording (.data d) (step + 1) ⟨cache, state⟩)
        (j.resolve (.still now) policy fetcher.recording (.data d) (step + 1) ⟨s.cache, state⟩)) :
    Agrees (j.resolve (.still now) policy fetcher.recording p step { s with cache })
      (j.resolve (.still now) policy fetcher.recording p step s) := by
  have hcold : j.judgeBy (.still now) policy p step s = (.need keyName, s) :=
    judgeBy_of_find?_eq_none ha (by rw [hempty]; rfl)
  have hwarm : j.judgeBy (.still now) policy p step { s with cache } =
      (.need keyName, { s with cache }) := judgeBy_of_find?_eq_none ha hmiss
  obtain ⟨⟨answer, state⟩, hfetch⟩ :
      ∃ r, fetcher.recording.fetch keyName j.fetchRetries s.fetcher = r := ⟨_, rfl⟩
  -- The fetcher is in the same state in both runs, so both get this answer.
  cases hr : j.refusal? keyName (step + 1) answer with
  | some reason =>
    rw [resolve_of_refusal hcold hfetch hr,
      resolve_of_refusal hwarm hfetch hr]
    exact ⟨rfl, List.prefix_rfl⟩
  | none =>
    cases answer with
    | error failure => cases hr
    | ok d =>
      have hagrees := ih d state (refusal?_ok_eq_none_iff.1 hr).1
      rw [resolve_of_answer hcold hfetch hr] at hne ⊢
      rw [resolve_of_answer hwarm hfetch hr]
      generalize j.resolve (.still now) policy fetcher.recording (.data d) (step + 1) ⟨s.cache, state⟩ =
        cold at hagrees hne ⊢
      generalize j.resolve (.still now) policy fetcher.recording (.data d) (step + 1) ⟨cache, state⟩ =
        warm at hagrees ⊢
      obtain ⟨coldResult, coldState⟩ := cold
      obtain ⟨warmResult, warmState⟩ := warm
      cases coldResult with
      | error reason =>
        obtain ⟨rfl, hcalls⟩ := hagrees hne
        exact ⟨rfl, hcalls⟩
      | ok _ =>
        have hok : (Except.ok () : Except Rejection Unit) ≠
            .error (.stepLimitReached j.stepLimit) := by
          rintro ⟨⟩
        obtain ⟨rfl, hcalls⟩ := hagrees hok
        -- The caches differ, but what a certificate says about a packet does not depend on them.
        dsimp only
        rw [endorseBy_still, endorseBy_still]
        exact ⟨endorse_fst_eq d, hcalls⟩

/-- **A vetted cache changes neither the verdict nor the order of what is fetched.** The induction
is on the steps that are left: the runs go together until the cache has a certificate. -/
theorem agrees_of_resolve (hf : fetcher.Gives answers)
    (hcache : j.VettedCache now policy answers cache) (p : SignedPacket) (step : Nat)
    (s : FetchState (List Name × σ)) (hempty : s.cache.ring = .empty)
    (hne : (j.resolve (.still now) policy fetcher.recording p step s).1 ≠
      .error (.stepLimitReached j.stepLimit)) :
    Agrees (j.resolve (.still now) policy fetcher.recording p step { s with cache })
      (j.resolve (.still now) policy fetcher.recording p step s) := by
  cases ha : j.assess policy p step with
  | accept =>
    rw [resolve_of_accept ha, resolve_of_accept ha]
    exact ⟨rfl, List.prefix_rfl⟩
  | reject reason =>
    rw [resolve_of_reject ha, resolve_of_reject ha]
    exact ⟨rfl, List.prefix_rfl⟩
  | need keyName =>
    cases hfind : cache.ring.find? keyName with
    | some c => exact agrees_of_hit hf s hempty ha hfind (hcache c (Cache.mem_of_find? hfind)) hne
    | none =>
      exact agrees_of_miss s hempty ha hfind hne fun d state _ hne' =>
        agrees_of_resolve hf hcache (.data d) (step + 1) ⟨s.cache, state⟩ hempty hne'
termination_by j.stepLimit - step


/-! ## Whole validations -/

theorem vettedCache_validate (hf : fetcher.Gives answers)
    (hcache : j.VettedCache now policy answers s.cache) (packet : Packet) :
    j.VettedCache now policy answers (j.validate now policy fetcher packet s).2.cache := by
  rw [validate_eq_validateDirectly]
  unfold validateDirectly
  split
  · exact hcache
  · split
    · exact hcache
    · exact (vetted_of_resolve hf hcache).1

theorem agrees_of_validate (hf : fetcher.Gives answers)
    (hcache : j.VettedCache now policy answers cache) (packet : Packet)
    (s : FetchState (List Name × σ)) (hempty : s.cache.ring = .empty)
    (hne : (j.validate now policy fetcher.recording packet s).1 ≠
      .error (.stepLimitReached j.stepLimit)) :
    Agrees (j.validate now policy fetcher.recording packet { s with cache })
      (j.validate now policy fetcher.recording packet s) := by
  simp only [validate_eq_validateDirectly] at hne ⊢
  unfold validateDirectly at hne ⊢
  cases hstep : j.overLimit? 0 with
  | some reason => exact ⟨rfl, List.prefix_rfl⟩
  | none =>
    cases hp : SignedPacket.ofPacket packet with
    | error reason => exact ⟨rfl, List.prefix_rfl⟩
    | ok p =>
      rw [hstep, hp] at hne
      exact agrees_of_resolve hf hcache p 0 s hempty hne

end Judge

namespace Validator

/-- Validates packets one after the other. -/
def validateAll (v : Validator) (now : Instant) (fetcher : Fetcher σ) :
    List Packet → σ → Validator × σ
  | [], s => (v, s)
  | packet :: packets, s =>
    let (_, v, s) := v.validate now fetcher packet s
    v.validateAll now fetcher packets s

/-- Validations change nothing but the cache, and keep it vetted. -/
theorem exists_vetted_validateAll {v : Validator} {now : Instant} {fetcher : Fetcher σ}
    {answers : Name → Except FetchFailure Data} (hf : fetcher.Gives answers)
    (hcache : v.judge.VettedCache now v.policy answers v.cache) (packets : List Packet) (s : σ) :
    ∃ cache, (v.validateAll now fetcher packets s).1 = { v with cache } ∧
      v.judge.VettedCache now v.policy answers cache := by
  induction packets generalizing v s with
  | nil => exact ⟨v.cache, rfl, hcache⟩
  | cons packet packets ih =>
    have hvetted := Judge.vettedCache_validate (s := ⟨v.cache, s⟩) hf hcache packet
    exact ih (v := (v.validate now fetcher packet s).2.1) hvetted _

/-- **The cache is transparent.** A validator begins with an empty cache and validates packets one
after the other, with a fetcher that always gives the same answers. If it would not have run out of
steps with a packet at the beginning, then it gives the same verdict about the packet now. Of the
names that it would have fetched it now fetches the first ones, perhaps none, and no others. -/
theorem validate_eq_cold {v : Validator} (hempty : v.cache.ring = .empty) (now : Instant)
    (answers : Name → Except FetchFailure Data) (earlier : List Packet) (packet : Packet)
    (hne : (v.validate now (Fetcher.ofAnswers answers).recording packet ([], ())).1 ≠
      .error (.stepLimitReached v.judge.stepLimit)) :
    let cold := v.validate now (Fetcher.ofAnswers answers).recording packet ([], ())
    let warm := (v.validateAll now (Fetcher.ofAnswers answers) earlier ()).1.validate now
      (Fetcher.ofAnswers answers).recording packet ([], ())
    warm.1 = cold.1 ∧ warm.2.2.1 <+: cold.2.2.1 := by
  have hf := Fetcher.gives_ofAnswers answers
  have hnone : v.judge.VettedCache now v.policy answers v.cache := fun c hc =>
    absurd hc (Cache.not_mem_of_empty hempty)
  obtain ⟨cache, hwarm, hcache⟩ := exists_vetted_validateAll hf hnone earlier ()
  dsimp only
  rw [hwarm]
  have hagrees := Judge.agrees_of_validate hf hcache packet ⟨v.cache, [], ()⟩ hempty hne
  exact ⟨hagrees.verdict, hagrees.calls⟩

end Validator

namespace Sample

/-- The certificates of two keys. -/
def answers (keyName : Name) : Except FetchFailure Data :=
  if keyName = name [3] then .ok (certificate 3 2)
  else if keyName = name [2] then .ok (certificate 2 1)
  else .error (.notFound keyName)

/-- A validator that has seen nothing yet. -/
def fresh : Validator := start.install policy

theorem fresh_accepts :
    (fresh.validate 5 (Fetcher.ofAnswers answers).recording (.data (certificate 3 2)) ([], ())).1 =
      .ok () := by
  have hneed : judge.assess policy (.data (certificate 3 2)) 0 = .need (name [2]) := rfl
  have haccept : judge.assess policy (.data (certificate 2 1)) 1 = .accept := rfl
  show (judge.validate 5 policy (Fetcher.ofAnswers answers).recording (.data (certificate 3 2))
    ⟨.empty, [], ()⟩).1 = _
  rw [Judge.validate_eq_validateDirectly]
  show (judge.resolve (.still 5) policy (Fetcher.ofAnswers answers).recording (.data (certificate 3 2)) 0
    ⟨.empty, [], ()⟩).1 = _
  rw [Judge.resolve_of_answer (d := certificate 2 1)
    (Judge.judgeBy_of_find?_eq_none hneed rfl) rfl rfl, Judge.resolve_of_accept haccept]
  rfl

theorem fresh_ne_stepLimitReached :
    (fresh.validate 5 (Fetcher.ofAnswers answers).recording (.data (certificate 3 2)) ([], ())).1 ≠
      .error (.stepLimitReached fresh.judge.stepLimit) := by
  rw [fresh_accepts]
  rintro ⟨⟩

/-- A certificate is validated after the packet that it signs, and so when it is cached. -/
theorem cached_certificate_eq_cold :
    fresh.cache.ring = .empty ∧
      (fresh.validate 5 (Fetcher.ofAnswers answers).recording (.data (certificate 3 2))
        ([], ())).1 ≠ .error (.stepLimitReached fresh.judge.stepLimit) ∧
      let cold := fresh.validate 5 (Fetcher.ofAnswers answers).recording
        (.data (certificate 3 2)) ([], ())
      let warm := (fresh.validateAll 5 (Fetcher.ofAnswers answers) [.data packet] ()).1.validate 5
        (Fetcher.ofAnswers answers).recording (.data (certificate 3 2)) ([], ())
      warm.1 = cold.1 ∧ warm.2.2.1 <+: cold.2.2.1 :=
  ⟨rfl, fresh_ne_stepLimitReached,
    Validator.validate_eq_cold rfl 5 answers [.data packet] (.data (certificate 3 2))
      fresh_ne_stepLimitReached⟩

end Sample

end TrustSchema
