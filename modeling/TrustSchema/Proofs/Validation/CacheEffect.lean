import TrustSchema.Proofs.Validation.Commutation
import TrustSchema.Proofs.Validation.Request

/-!
# What enters the cache

A certificate in the cache is trusted for all packets to come, so it matters which ones get there,
and when. Only the answer to a request puts any there, and only once it is trusted itself
(`Judge.Admits`). Then the packets in line (the answer, followed by those that wait) are verified
from the front, and the cache gets those that are used on the next one (`Judge.Unwinds`).

Apart from this, an entry that is looked up for the packet that comes in is dropped if it is not
valid (`Event.Leaves`). `Validator.Run.cache_effect` says this of every operation of a run.
-/

namespace TrustSchema

/-! ## The cache by itself -/

namespace Cache

variable {cache : Cache} {c : Certificate} {cs : List Certificate}

theorem insertAll_concat : cache.insertAll (cs ++ [c]) = (cache.insertAll cs).insert c := by
  rw [insertAll, List.foldl_append]
  rfl

theorem retains_insertAll : (cache.insertAll cs).retains = cache.retains := by
  induction cs generalizing cache with
  | nil => rfl
  | cons c cs ih => rw [insertAll_cons, ih, retains_insert]

/-- Under each key name, the certificate that was put there last is found. -/
theorem find?_insertAll (retains : cache.retains) (n : Name) :
    (cache.insertAll cs).ring.find? n = (Keyring.last? cs n).or (cache.ring.find? n) := by
  induction cs generalizing cache with
  | nil => rfl
  | cons c cs ih =>
    have hinsert : (cache.insert c).retains := retains_insert.trans retains
    rw [insertAll_cons, ih hinsert, find?_insert, Keyring.last?_cons, Option.or_assoc]
    simp only [retains, true_and]
    split <;> rfl

/-- A look-up changes nothing, but that it drops the entry that it finds if this is not valid. -/
theorem lookup_snd_eq_or (cache : Cache) (now : Instant) (n : Name) :
    (cache.lookup now n).2 = cache ∨ ∃ c, cache.ring.find? n = some c ∧ ¬ c.isValidAt now ∧
      (cache.lookup now n).2 = cache.erase n := by
  unfold lookup
  split
  · exact Or.inl rfl
  · next c hfound =>
    split
    · exact Or.inl rfl
    · next hinvalid => exact Or.inr ⟨c, hfound, hinvalid, rfl⟩

end Cache

/-! ## One judgement and one answer -/

namespace Judge

variable {j : Judge} {now : Instant} {policy : Policy} {p : SignedPacket} {step : Nat}
  {cache cache' : Cache} {r : Request} {d : Data} {verdict : Verdict}

/-- The certificate that answers a request is the one that was asked for, and is trusted at once. So
the packets that wait are verified with it. -/
structure Admits (j : Judge) (now : Instant) (r : Request) (d : Data) (cache : Cache) : Prop where
  named : d.name.parent = r.certificateName
  accepted : (j.judge now r.policy (.data d) r.step cache).1 = .accept

/-- A judgement changes nothing in the cache, but that it drops the certificate of the key that the
policy leaves the packet to, if it is not valid. -/
theorem eq_or_dropped_of_judge (h : j.judge now policy p step cache = (verdict, cache')) :
    cache' = cache ∨ ∃ n c, policy.Defers j.verifier p n ∧ cache.ring.find? n = some c ∧
      ¬ c.isValidAt now ∧ cache' = cache.erase n := by
  rw [judge_eq_consult] at h
  cases hassess : j.assess policy p step with
  | accept =>
    rw [hassess] at h
    exact Or.inl (congrArg Prod.snd h).symm
  | reject reason =>
    rw [hassess] at h
    exact Or.inl (congrArg Prod.snd h).symm
  | need n =>
    have hcache : cache' = (cache.lookup now n).2 := by
      rw [hassess] at h
      unfold consult at h
      dsimp only at h
      split at h <;> next hlookup => rw [hlookup]; exact (congrArg Prod.snd h).symm
    rw [hcache]
    rcases cache.lookup_snd_eq_or now n with hsame | ⟨c, hfound, hinvalid, hdropped⟩
    · exact Or.inl hsame
    · exact Or.inr ⟨n, c, (assess_eq_need_iff.1 hassess).2, hfound, hinvalid, hdropped⟩

/-- What is accepted at a step is so at a step that may be taken. -/
theorem overLimit?_eq_none_of_judge (h : (j.judge now policy p step cache).1 = .accept) :
    j.overLimit? step = none := by
  cases hstep : j.overLimit? step with
  | none => rfl
  | some reason =>
    unfold judge at h
    rw [hstep] at h
    cases h

/-- With an answer that is admitted, the packets that wait are verified. -/
theorem Admits.resume_eq (h : j.Admits now r d cache) :
    ∃ cache', j.judge now r.policy (.data d) r.step cache = (.accept, cache') ∧
      j.resume now r d cache = j.verifyChain now d r.waiting cache' := by
  have haccepted := h.accepted
  have hheed : j.resume now r d cache =
      j.heed now r d (j.judge now r.policy (.data d) r.step cache).1
        (j.judge now r.policy (.data d) r.step cache).2 :=
    resume_eq_heed (overLimit?_eq_none_of_judge haccepted) h.named cache
  generalize j.judge now r.policy (.data d) r.step cache = judged at haccepted hheed ⊢
  obtain ⟨verdict, cache'⟩ := judged
  obtain rfl : verdict = .accept := haccepted
  exact ⟨cache', rfl, hheed⟩

end Judge

/-! ## Events -/

/-- What an event leaves of the cache, before it puts anything there: all of it, or all but the
certificate of the key that a policy leaves the packet to that comes in. This is looked up, and
dropped if it is not valid. -/
inductive Event.Leaves (e : Event) (policy : Policy) : Cache → Prop
  | all : Leaves e policy e.before.cache
  | dropped {now : Instant} {p : SignedPacket} {keyName : Name} {c : Certificate}
      (time : e.operation.time? = some now) (arrival : e.operation.arrival? = some p)
      (deferred : policy.Defers e.before.judge.verifier p keyName)
      (found : e.before.cache.ring.find? keyName = some c) (invalid : ¬ c.isValidAt now) :
      Leaves e policy (e.before.cache.erase keyName)

/-- What the answer to a request does to the cache. The packets in line are the certificate that
answers the request, and those that wait for it. -/
structure Event.AnswerEffect (e : Event) (now : Instant) (r : Request) (d : Data)
    (outcome : Outcome) (kept : Cache) (used : List Certificate) : Prop where
  outcome_eq : e.outcome? = some outcome
  leaves : e.Leaves r.policy kept
  /-- The certificates are put into the cache in order. -/
  cache_eq : e.after.cache = kept.insertAll used
  /-- They are what the first packets in line are read as. -/
  readFrom : Certificate.AreReadFrom used ((SignedPacket.data d :: r.waiting).take used.length)
  /-- The last packet in line is not one of them. -/
  length_le : used.length ≤ r.waiting.length
  /-- Each is found under its own name without the last component, unless a later one is. -/
  find?_eq : e.before.cache.retains → ∀ n, e.after.cache.ring.find? n =
    (used.filter fun c => c.name.parent == n).getLast?.or (kept.ring.find? n)
  /-- There are none if the answer is not trusted at once. -/
  barred : ¬ e.before.judge.Admits now r d e.before.cache → used = [] ∧ outcome ≠ .accepted
  /-- There are none if another certificate is waited for. -/
  pending : ∀ rs, outcome = .pending rs → used = []
  /-- If the packet to be validated is accepted, they are all packets in line but the last. -/
  accepted : outcome = .accepted → used.length = r.waiting.length
  /-- Otherwise they go as far as the packets in line are verified. -/
  unwinds : e.before.judge.Admits now r d e.before.cache →
    e.before.judge.Unwinds now (.data d :: r.waiting) outcome used.length

namespace Event

variable {e : Event} {policy : Policy} {now : Instant} {kept : Cache}

theorem Leaves.retains_eq (h : e.Leaves policy kept) : kept.retains = e.before.cache.retains := by
  cases h <;> rfl

theorem leaves_of_judge {p : SignedPacket} {step : Nat} {verdict : Judge.Verdict}
    (time : e.operation.time? = some now) (arrival : e.operation.arrival? = some p)
    (h : e.before.judge.judge now policy p step e.before.cache = (verdict, kept)) :
    e.Leaves policy kept := by
  rcases Judge.eq_or_dropped_of_judge h with rfl | ⟨n, c, hdefers, hfound, hinvalid, rfl⟩
  · exact .all
  · exact .dropped time arrival hdefers hfound hinvalid

/-- A check puts nothing into the cache. -/
theorem leaves_of_check (check : e.IsCheck) : e.Leaves e.before.policy e.after.cache := by
  obtain ⟨now, packet, step, hop⟩ := check
  rw [cache_after_check hop]
  have hchecked := e.before.judge.checked now e.before.policy packet step e.before.cache
  generalize e.before.judge.check now e.before.policy packet step e.before.cache = result
    at hchecked
  cases hchecked with
  | barred reason => exact .all
  | judged read judged =>
    refine leaves_of_judge (by rw [hop]; rfl) ?_ judged
    rw [hop, Operation.arrival?, Operation.packets, read]
    rfl

/-- What is found under a key name after certificates have been put into the cache. -/
theorem find?_of_insertAll {used : List Certificate} (leaves : e.Leaves policy kept)
    (hafter : e.after.cache = kept.insertAll used) (retains : e.before.cache.retains) (n : Name) :
    e.after.cache.ring.find? n =
      (used.filter fun c => c.name.parent == n).getLast?.or (kept.ring.find? n) := by
  rw [hafter]
  exact Cache.find?_insertAll (leaves.retains_eq.trans retains) n

/-- An answer that is not trusted at once puts nothing into the cache. -/
theorem exists_answerEffect_of_not_admits {r : Request} {d : Data}
    (hop : e.operation = .resume now r d)
    (hnot : ¬ e.before.judge.Admits now r d e.before.cache) :
    ∃ outcome kept, e.AnswerEffect now r d outcome kept [] := by
  have hresumed := e.before.judge.resumed now r d e.before.cache
  have houtcome := outcome?_of_resume hop
  have hcache := cache_after_resume hop
  generalize e.before.judge.resume now r d e.before.cache = result at hresumed houtcome hcache
  -- Whatever else it comes to, it is no acceptance, and the cache is what the judgement left.
  have heffect : ∀ {outcome kept}, e.outcome? = some outcome → outcome ≠ .accepted →
      e.Leaves r.policy kept → e.after.cache = kept →
        e.AnswerEffect now r d outcome kept [] := by
    intro outcome kept houtcome hne hleaves hcache
    exact {
      outcome_eq := houtcome
      leaves := hleaves
      cache_eq := hcache
      readFrom := ⟨rfl, nofun⟩
      length_le := Nat.zero_le _
      find?_eq := find?_of_insertAll hleaves hcache
      barred := fun _ => ⟨rfl, hne⟩
      pending := fun _ _ => rfl
      accepted := fun haccepted => absurd haccepted hne
      unwinds := fun hadmits => absurd hadmits hnot }
  have hleaves : ∀ {verdict kept}, e.before.judge.judge now r.policy (.data d) r.step
      e.before.cache = (verdict, kept) → e.Leaves r.policy kept :=
    fun judged => leaves_of_judge (by rw [hop]; rfl) (by rw [hop]; rfl) judged
  cases hresumed with
  | barred reason => exact ⟨_, _, heffect houtcome nofun .all hcache⟩
  | trusted named judged => exact absurd ⟨named, congrArg Prod.fst judged⟩ hnot
  | refused named judged => exact ⟨_, _, heffect houtcome nofun (hleaves judged) hcache⟩
  | passedOn named judged => exact ⟨_, _, heffect houtcome nofun (hleaves judged) hcache⟩

/-- An answer that is trusted at once puts the front of the line into the cache. -/
theorem exists_answerEffect_of_admits {r : Request} {d : Data}
    (hop : e.operation = .resume now r d) (linked : r.waiting.IsChain SignedPacket.Precedes)
    (admits : e.before.judge.Admits now r d e.before.cache) :
    ∃ outcome kept used, e.AnswerEffect now r d outcome kept used := by
  obtain ⟨kept, judged, hresume⟩ := admits.resume_eq
  obtain ⟨outcome, used, hunwinds, hread, hlength, heq⟩ :=
    e.before.judge.exists_unwinds_verifyChain now d linked
  have hleaves : e.Leaves r.policy kept :=
    leaves_of_judge (by rw [hop]; rfl) (by rw [hop]; rfl) judged
  have houtcome : e.outcome? = some outcome := by
    rw [outcome?_of_resume hop, hresume, heq]
  have hcache : e.after.cache = kept.insertAll used := by
    rw [cache_after_resume hop, hresume, heq]
  refine ⟨outcome, kept, used, ?_⟩
  exact {
    outcome_eq := houtcome
    leaves := hleaves
    cache_eq := hcache
    readFrom := hread
    length_le := hlength
    find?_eq := find?_of_insertAll hleaves hcache
    barred := fun hnot => absurd admits hnot
    pending := by
      rintro rs rfl
      cases hunwinds
    accepted := by
      rintro rfl
      exact hunwinds.of_accepted.1
    unwinds := fun _ => hunwinds }

end Event

/-! ## Runs -/

namespace Validator

variable {v₀ v : Validator} {h : History} {e : Event}

/-- What the answer to a request does to the cache, in any run. -/
theorem Run.exists_answerEffect (run : v₀.Run h v) (he : e ∈ h) {now : Instant} {r : Request}
    {d : Data} (hop : e.operation = .resume now r d) :
    ∃ outcome kept used, e.AnswerEffect now r d outcome kept used := by
  by_cases admits : e.before.judge.Admits now r d e.before.cache
  · -- Only of a request that is well formed do the packets stand before each other.
    obtain ⟨o, subject, start, -, hr⟩ := run.exists_formed_of_resume he hop
    exact Event.exists_answerEffect_of_admits hop hr.linked admits
  · obtain ⟨outcome, kept, heffect⟩ := Event.exists_answerEffect_of_not_admits hop admits
    exact ⟨outcome, kept, [], heffect⟩

/-- **The exact effect of every operation on the cache.** In any run, whatever the cache holds at
first:

- What ends a validation and what puts a policy in force leaves the cache as it is.
- A check puts nothing into the cache.
- The answer to a request puts a front of the packets in line into the cache, in order
  (`Event.AnswerEffect`): nothing if another certificate is waited for, or if the answer is refused
  before the packets that wait are verified; all but the last if the last is accepted; otherwise
  those up to the packet where the verification stops, without this one if it cannot be used as a
  certificate, and with it if it does not bear out the next one (`Judge.Unwinds`).

Apart from this, an entry is dropped at most, which is looked up for the packet that comes in and is
not valid (`Event.Leaves`). -/
theorem Run.cache_effect (run : v₀.Run h v) (he : e ∈ h) :
    (∀ r reason, e.operation = .fail r reason → e.after.cache = e.before.cache) ∧
      (¬ e.operation.KeepsPolicy → e.after.cache = e.before.cache) ∧
      (e.IsCheck → e.Leaves e.before.policy e.after.cache) ∧
      ∀ now r d, e.operation = .resume now r d →
        ∃ outcome kept used, e.AnswerEffect now r d outcome kept used := by
  refine ⟨?_, ?_, Event.leaves_of_check, fun now r d hop => run.exists_answerEffect he hop⟩
  · intro r reason hop
    rw [Event.after, hop]
    rfl
  · intro load
    obtain ⟨before, operation⟩ := e
    cases operation with
    | install policy => rfl
    | load policy => cases policy <;> rfl
    | _ => exact absurd trivial load

end Validator

namespace Sample

/-- A certificate for the key that the packet names, but with another key in it. -/
def impostor : Data :=
  ⟨name [3, 0], CertificateContent.encode ⟨0, 10, ⟨.ecdsa, [4]⟩⟩, signature 2⟩

def impostorRequest : Request := ⟨name [2], 2, 1, [.data impostor, .data packet], policy⟩

def misled : Event := ⟨checked.after, .resume 6 firstRequest impostor⟩

def exposed : Event := ⟨misled.after, .resume 7 impostorRequest (certificate 2 1)⟩

theorem misled_pending : misled.outcome? = some (.pending [impostorRequest]) := rfl

theorem run_exposed : start.Run [exposed, misled, checked, installed] exposed.after := by
  have run : start.Run [misled, checked, installed] misled.after :=
    run_checked.answer List.mem_cons_self checked_pending 6 impostor
  exact run.answer List.mem_cons_self misled_pending 7 (certificate 2 1)

/-- The other key is put into the cache, although the packet turns out not to be signed with it: it
is signed as it should be, and it is not to blame for what it does not bear out. -/
theorem impostor_cached :
    start.Run [exposed, misled, checked, installed] exposed.after ∧
      exposed.outcome? = some (.rejected (.signatureInvalid packet.name)) ∧
      exposed.after.cache.ring.certificates.map Certificate.data = [impostor, certificate 2 1] ∧
      ∃ outcome kept used,
        exposed.AnswerEffect 7 impostorRequest (certificate 2 1) outcome kept used := by
  obtain ⟨-, -, -, hanswer⟩ := run_exposed.cache_effect List.mem_cons_self
  refine ⟨run_exposed, rfl, by decide +kernel, ?_⟩
  exact hanswer 7 impostorRequest (certificate 2 1) rfl

end Sample

end TrustSchema
