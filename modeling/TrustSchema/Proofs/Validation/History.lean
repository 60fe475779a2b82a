import TrustSchema.Proofs.Validation.Judgement
import TrustSchema.Validation.Validator

/-!
# Runs of a validator

A validator is used by many parties in any order: policies come and go, packets are checked,
certificates arrive, and the same request may be answered again and again. A *run*
(`Validator.Run`) is any such order of operations. Its *history* is the list of events, newest
first; an event is an operation together with the validator that it was carried out with.

The only discipline is that a request that is answered was handed out before. Everything else is
open: the step of a check, the time of each operation, the certificates that arrive, and when the
cache lets go of an entry.

A check and the answers to the requests that go back to it make up a *chain*
(`History.Belongs`). The policy of a chain is the one in force at its check. The packets in hand
have all come in with some operation (`Validator.Run.exists_arrival`).
-/

namespace TrustSchema

/-- What can be done with a validator. -/
inductive Operation
  | install (policy : Policy)
  /-- Puts a policy in force if it could be loaded. -/
  | load (policy : Except LoadError Policy)
  | check (now : Instant) (packet : Packet) (step : Nat)
  | resume (now : Instant) (r : Request) (certificate : Data)
  | fail (r : Request) (reason : String)
  /-- The cache lets go of an entry, because its time is over or its room is needed. -/
  | forget (keyName : Name)

namespace Operation

/-- The packets in hand, innermost first: each is signed with the key of the one before it. -/
def packets : Operation → List SignedPacket
  | .check _ packet _ => (SignedPacket.ofPacket packet).toOption.toList
  | .resume _ r certificate => .data certificate :: r.waiting
  | _ => []

/-- The packet that the outcome of the operation is about. -/
def subject? : Operation → Option SignedPacket
  | .check _ packet _ => (SignedPacket.ofPacket packet).toOption
  | .resume _ r _ | .fail r _ => r.waiting.getLast?
  | _ => none

/-- The reading of the clock that the operation goes by. -/
def time? : Operation → Option Instant
  | .check now .. | .resume now .. => some now
  | _ => none

/-- The packet that comes in with the operation: the one that is submitted or fetched. -/
def arrival? (operation : Operation) : Option SignedPacket := operation.packets.head?

/-- Whether the policy in force stays the same. -/
def KeepsPolicy : Operation → Prop
  | .install _ | .load _ => False
  | _ => True

/-- The request that the operation answers. -/
def request? : Operation → Option Request
  | .resume _ r _ | .fail r _ => some r
  | _ => none

end Operation

/-- Carries out an operation. Only those that are about a packet have an outcome. -/
def Validator.perform (v : Validator) : Operation → Option Outcome × Validator
  | .install policy => (none, v.install policy)
  | .load policy => (none, (v.load policy).2)
  | .check now packet step => (v.check now packet step).map some id
  | .resume now r certificate => (v.resume now r certificate).map some id
  | .fail r reason => (v.fail r reason).map some id
  | .forget keyName => (none, { v with cache := v.cache.erase keyName })

/-- An operation and the validator that it is carried out with. -/
structure Event where
  before : Validator
  operation : Operation

namespace Event

/-- What the operation says about a packet. -/
def outcome? (e : Event) : Option Outcome := (e.before.perform e.operation).1

/-- The validator that the operation leaves. -/
def after (e : Event) : Validator := (e.before.perform e.operation).2

/-- The requests that the operation hands out. -/
def requests (e : Event) : List Request := (e.outcome?.map Outcome.requests).getD []

/-- Whether a validation begins with the event. -/
def IsCheck (e : Event) : Prop := ∃ now packet step, e.operation = .check now packet step

end Event

/-- What has happened to a validator, newest first. -/
abbrev History := List Event

/-- The runs that begin with a validator: their history and the validator that they lead to. -/
inductive Validator.Run (v₀ : Validator) : History → Validator → Prop
  | start : Run v₀ [] v₀
  | next {h : History} {v : Validator} (run : Run v₀ h v) (operation : Operation)
      (granted : ∀ r ∈ operation.request?, ∃ e ∈ h, r ∈ e.requests) :
      Run v₀ (⟨v, operation⟩ :: h) (v.perform operation).2

/-- An event belongs to the chain that a check began: it is the check, or it answers a request that
was handed out in the chain. -/
inductive History.Belongs (h : History) (o : Event) : Event → Prop
  | began (here : o ∈ h) (check : o.IsCheck) : Belongs h o o
  | wentOn {e e' : Event} {now : Instant} {r : Request} {certificate : Data}
      (belongs : Belongs h o e) (asked : r ∈ e.requests) (here : e' ∈ h)
      (answer : e'.operation = .resume now r certificate) : Belongs h o e'

namespace History

variable {h h' : History} {o e : Event}

theorem Belongs.isCheck (hb : h.Belongs o e) : o.IsCheck := by
  induction hb with
  | began _ check => exact check
  | wentOn _ _ _ _ ih => exact ih

theorem Belongs.mem (hb : h.Belongs o e) : o ∈ h ∧ e ∈ h := by
  induction hb with
  | began here _ => exact ⟨here, here⟩
  | wentOn _ _ here _ ih => exact ⟨ih.1, here⟩

/-- What belongs to a chain still does so later. -/
theorem Belongs.mono (hb : h.Belongs o e) (hsub : h ⊆ h') : h'.Belongs o e := by
  induction hb with
  | began here check => exact .began (hsub here) check
  | wentOn _ asked here answer ih => exact .wentOn ih asked (hsub here) answer

end History

/-! ## Events -/

namespace Event

variable {e : Event} {now : Instant}

theorem outcome?_of_check {packet : Packet} {step : Nat}
    (hop : e.operation = .check now packet step) :
    e.outcome? = some (e.before.judge.check now e.before.policy packet step e.before.cache).1 := by
  rw [outcome?, hop]
  rfl

theorem outcome?_of_resume {r : Request} {d : Data} (hop : e.operation = .resume now r d) :
    e.outcome? = some (e.before.judge.resume now r d e.before.cache).1 := by
  rw [outcome?, hop]
  rfl

theorem cache_after_check {packet : Packet} {step : Nat}
    (hop : e.operation = .check now packet step) :
    e.after.cache = (e.before.judge.check now e.before.policy packet step e.before.cache).2 := by
  rw [after, hop]
  rfl

theorem cache_after_resume {r : Request} {d : Data} (hop : e.operation = .resume now r d) :
    e.after.cache = (e.before.judge.resume now r d e.before.cache).2 := by
  rw [after, hop]
  rfl

/-- Only checks and answered requests can hand out requests, and only pending outcomes do. -/
theorem pending_of_mem_requests {r : Request} (hr : r ∈ e.requests) :
    ∃ rs, e.outcome? = some (.pending rs) ∧ r ∈ rs := by
  unfold requests at hr
  cases ho : e.outcome? with
  | none => simp [ho] at hr
  | some outcome =>
    cases outcome with
    | accepted => simp [ho, Outcome.requests] at hr
    | rejected reason => simp [ho, Outcome.requests] at hr
    | pending rs => exact ⟨rs, rfl, by simpa [ho, Outcome.requests] using hr⟩

theorem mem_requests_of_pending {r : Request} {rs : List Request}
    (ho : e.outcome? = some (.pending rs)) (hr : r ∈ rs) : r ∈ e.requests := by
  simpa [requests, ho, Outcome.requests] using hr

/-- Apart from checks and the answers to requests, operations accept nothing, wait for nothing and
add nothing to the cache. -/
theorem isCheck_or_resume_or (e : Event) :
    e.IsCheck ∨ (∃ now r d, e.operation = .resume now r d) ∨
      (e.outcome? ≠ some .accepted ∧ (∀ rs, e.outcome? ≠ some (.pending rs)) ∧
        ∀ c ∈ e.after.cache, c ∈ e.before.cache) := by
  obtain ⟨before, operation⟩ := e
  cases operation with
  | check now packet step => exact Or.inl ⟨now, packet, step, rfl⟩
  | resume now r d => exact Or.inr (Or.inl ⟨now, r, d, rfl⟩)
  | install policy => exact Or.inr (Or.inr ⟨nofun, nofun, fun _ hc => hc⟩)
  | load policy =>
    refine Or.inr (Or.inr ⟨nofun, nofun, fun c hc => ?_⟩)
    cases policy <;> exact hc
  | fail r reason => exact Or.inr (Or.inr ⟨nofun, nofun, fun _ hc => hc⟩)
  | forget keyName => exact Or.inr (Or.inr ⟨nofun, nofun, fun _ hc => Cache.mem_of_mem_erase hc⟩)

theorem isCheck_or_resume_of_pending {rs : List Request}
    (ho : e.outcome? = some (.pending rs)) :
    e.IsCheck ∨ ∃ now r d, e.operation = .resume now r d := by
  rcases e.isCheck_or_resume_or with hcheck | hresume | ⟨-, hne, -⟩
  · exact Or.inl hcheck
  · exact Or.inr hresume
  · exact absurd ho (hne rs)

/-- What waits in a request are the packets in hand when it is made. -/
theorem waiting_of_mem_requests {r : Request} (hr : r ∈ e.requests) :
    r.waiting = e.operation.packets := by
  obtain ⟨rs, pending, hrs⟩ := pending_of_mem_requests hr
  rcases isCheck_or_resume_of_pending pending with
    ⟨now, packet, step, hop⟩ | ⟨now, r', d, hop⟩
  · rw [outcome?_of_check hop] at pending
    have hchecked := e.before.judge.checked now e.before.policy packet step e.before.cache
    generalize e.before.judge.check now e.before.policy packet step e.before.cache = result
      at hchecked pending
    cases hchecked with
    | barred reason => cases pending
    | @judged p verdict cache' read judged =>
      cases verdict with
      | accept => cases pending
      | reject reason => cases pending
      | need keyName =>
        cases pending
        rw [List.mem_singleton.1 hrs, hop, Operation.packets, read]
        rfl
  · rw [outcome?_of_resume hop] at pending
    have hresumed := e.before.judge.resumed now r' d e.before.cache
    generalize e.before.judge.resume now r' d e.before.cache = result at hresumed pending
    cases hresumed with
    | barred reason => cases pending
    | trusted named judged =>
      exact absurd (Option.some.inj pending) (Judge.verifyChain_ne_pending _ _ _ _)
    | refused named judged => cases pending
    | passedOn named judged =>
      cases pending
      rw [List.mem_singleton.1 hrs, hop]
      rfl

end Event

/-! ## Runs -/

namespace Validator

variable {v₀ v : Validator} {h : History} {e : Event}

/-- No operation changes what judges. -/
theorem judge_perform (v : Validator) (operation : Operation) :
    (v.perform operation).2.judge = v.judge := by
  cases operation with
  | load policy => cases policy <;> rfl
  | _ => rfl

theorem Run.judge_eq (run : v₀.Run h v) : v.judge = v₀.judge := by
  induction run with
  | start => rfl
  | next _ operation _ ih => rw [judge_perform, ih]

/-- What was run before the last event. -/
theorem Run.tail (run : v₀.Run (e :: h) v) : v₀.Run h e.before := by
  cases run with
  | next run operation granted => exact run

/-- Every event of a run happened at the end of a shorter run. -/
theorem Run.of_mem (run : v₀.Run h v) (he : e ∈ h) :
    ∃ earlier, e :: earlier ⊆ h ∧ v₀.Run earlier e.before ∧
      ∀ r ∈ e.operation.request?, ∃ e' ∈ earlier, r ∈ e'.requests := by
  induction run with
  | start => cases he
  | next run operation granted ih =>
    rcases List.mem_cons.1 he with rfl | he
    · exact ⟨_, List.Subset.refl _, run, granted⟩
    · obtain ⟨earlier, hsub, hrun, hgranted⟩ := ih he
      exact ⟨earlier, List.Subset.trans hsub (List.subset_cons_self _ _), hrun, hgranted⟩

/-- A request that an event handed out can be answered. -/
theorem Run.answer (run : v₀.Run h v) (he : e ∈ h) {r : Request}
    (pending : e.outcome? = some (.pending [r])) (now : Instant) (certificate : Data) :
    v₀.Run (⟨v, .resume now r certificate⟩ :: h) (v.perform (.resume now r certificate)).2 := by
  refine run.next (.resume now r certificate) ?_
  rintro r' ⟨⟩
  exact ⟨e, he, Event.mem_requests_of_pending pending List.mem_cons_self⟩

theorem Run.judge_before (run : v₀.Run h v) (he : e ∈ h) : e.before.judge = v₀.judge := by
  obtain ⟨_, _, hrun, _⟩ := run.of_mem he
  exact hrun.judge_eq

theorem policy_perform {operation : Operation} (kept : operation.KeepsPolicy) :
    (v.perform operation).2.policy = v.policy := by
  cases operation with
  | install policy => cases kept
  | load policy => cases kept
  | _ => rfl

theorem Run.policy_eq (run : v₀.Run h v) (kept : ∀ e ∈ h, e.operation.KeepsPolicy) :
    v.policy = v₀.policy := by
  induction run with
  | start => rfl
  | next run operation granted ih =>
    rw [policy_perform (kept _ List.mem_cons_self), ih]
    exact fun e he => kept e (List.mem_cons_of_mem _ he)

/-- Where no operation replaces the policy, the first one is in force at every event. -/
theorem Run.policy_before (run : v₀.Run h v) (kept : ∀ e ∈ h, e.operation.KeepsPolicy)
    (he : e ∈ h) : e.before.policy = v₀.policy := by
  obtain ⟨earlier, hsub, hrun, -⟩ := run.of_mem he
  exact hrun.policy_eq fun e' he' => kept e' (hsub (List.mem_cons_of_mem _ he'))

/-- **Nothing is in hand that has not come in**: every packet in hand was submitted or fetched with
some operation of the run, by induction along the run. -/
theorem Run.exists_arrival (run : v₀.Run h v) (he : e ∈ h) {p : SignedPacket}
    (hp : p ∈ e.operation.packets) : ∃ e' ∈ h, e'.operation.arrival? = some p := by
  induction run generalizing e with
  | start => cases he
  | next run operation granted ih =>
    rcases List.mem_cons.1 he with rfl | he
    · cases operation with
      | install policy => cases hp
      | load policy => cases hp
      | fail r reason => cases hp
      | forget keyName => cases hp
      | check now packet step =>
        have hread : (SignedPacket.ofPacket packet).toOption = some p := Option.mem_toList.1 hp
        refine ⟨_, List.mem_cons_self, ?_⟩
        rw [Operation.arrival?, Operation.packets, hread]
        rfl
      | resume now r d =>
        rcases List.mem_cons.1 hp with rfl | hp
        · exact ⟨_, List.mem_cons_self, rfl⟩
        · -- What waits was in hand when the request was made, so it came in earlier.
          obtain ⟨e', he', hr⟩ := granted r rfl
          rw [Event.waiting_of_mem_requests hr] at hp
          obtain ⟨e'', he'', harrival⟩ := ih he' hp
          exact ⟨e'', List.mem_cons_of_mem _ he'', harrival⟩
    · obtain ⟨e', he', harrival⟩ := ih he hp
      exact ⟨e', List.mem_cons_of_mem _ he', harrival⟩

/-- **Every chain goes back to a check**: a request can be answered only because it was handed out
before, in a chain that goes on with the answer. -/
theorem Run.exists_belongs (run : v₀.Run h v) (he : e ∈ h)
    (hop : e.IsCheck ∨ ∃ now r d, e.operation = .resume now r d) : ∃ o, h.Belongs o e := by
  induction run generalizing e with
  | start => cases he
  | @next h v run operation granted ih =>
    have hsub : h ⊆ ⟨v, operation⟩ :: h := List.subset_cons_self _ _
    rcases List.mem_cons.1 he with rfl | he
    · rcases hop with hcheck | ⟨now, r, d, hop⟩
      · exact ⟨_, .began List.mem_cons_self hcheck⟩
      · have hanswers : r ∈ operation.request? := by
          rw [show operation = .resume now r d from hop]
          rfl
        obtain ⟨e', he', hr⟩ := granted r hanswers
        obtain ⟨rs, ho, -⟩ := Event.pending_of_mem_requests hr
        obtain ⟨o, hb⟩ := ih he' (Event.isCheck_or_resume_of_pending ho)
        exact ⟨o, .wentOn (hb.mono hsub) hr List.mem_cons_self hop⟩
    · obtain ⟨o, hb⟩ := ih he hop
      exact ⟨o, hb.mono hsub⟩

end Validator

/-! ## A small run

One rule for all data packets, one trust anchor, and a packet two certificates away from it. While
the packet waits, the policy is taken back. -/

namespace Sample

/-- A signature is good if its value is the key. -/
def verifier : Verifier := ⟨fun _ _ => true, fun _ signature key => signature.value == key.bits⟩

/-- A name with components of one byte. -/
def name (bytes : List UInt8) : Name := ⟨bytes.map fun b => ⟨[b]⟩⟩

/-- The signature with a key that consists of one byte and is named by it. -/
def signature (key : UInt8) : Signature := ⟨⟨.ecdsaSha256, some (name [key])⟩, [key]⟩

/-- The certificate of a key, signed with another one. -/
def certificate (key signer : UInt8) : Data :=
  ⟨name [key, 0], CertificateContent.encode ⟨0, 10, ⟨.ecdsa, [key]⟩⟩, signature signer⟩

def packet : Data := ⟨name [9, 9], [], signature 3⟩

def policy : Policy :=
  .ofRules [⟨"any", .data, [], [.customized .ecdsaSha256 none]⟩]
    (.ofList [⟨certificate 1 1, ⟨.ecdsa, [1]⟩, 0, 10⟩])

def judge : Judge := ⟨verifier, 5, 1⟩

def start : Validator := .ofJudge judge .empty

/-- The request for the certificate that the packet is signed with. -/
def firstRequest : Request := ⟨name [3], 1, 1, [.data packet], policy⟩

/-- The request for the certificate that this certificate is signed with. -/
def secondRequest : Request := ⟨name [2], 2, 1, [.data (certificate 3 2), .data packet], policy⟩

def installed : Event := ⟨start, .install policy⟩

def checked : Event := ⟨installed.after, .check 5 (.data packet) 0⟩

def reloaded : Event := ⟨checked.after, .install .empty⟩

def answered : Event := ⟨reloaded.after, .resume 6 firstRequest (certificate 3 2)⟩

def settled : Event := ⟨answered.after, .resume 7 secondRequest (certificate 2 1)⟩

theorem checked_pending : checked.outcome? = some (.pending [firstRequest]) := rfl

theorem answered_pending : answered.outcome? = some (.pending [secondRequest]) := rfl

theorem settled_accepted : settled.outcome? = some .accepted := rfl

theorem run_checked : start.Run [checked, installed] checked.after :=
  (Validator.Run.start.next (.install policy) nofun).next (.check 5 (.data packet) 0) nofun

theorem run_answered : start.Run [answered, reloaded, checked, installed] answered.after :=
  (run_checked.next (.install .empty) nofun).answer (by simp) checked_pending 6 (certificate 3 2)

theorem run_settled :
    start.Run [settled, answered, reloaded, checked, installed] settled.after :=
  run_answered.answer List.mem_cons_self answered_pending 7 (certificate 2 1)

end Sample

end TrustSchema
