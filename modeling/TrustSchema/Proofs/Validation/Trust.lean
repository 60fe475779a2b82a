import Mathlib.Logic.Relation
import TrustSchema.Proofs.Validation.Request

/-!
# What is accepted is trusted

A validator accepts a packet on the strength of certificates, some of which it has seen long ago and
under another policy. This module says what that is worth (`History.Trusted`): in every run, an
accepted packet is the first of a finite chain of packets, each signed with the next one, and the
last one is borne out by a policy alone. Every link of the chain is backed by an event of the run:

- `History.SignedBy`: an event used a certificate on a packet, at a time when the certificate was
  valid, in a chain whose policy leaves the packet to the key of that certificate;
- `History.Rooted`: a packet was judged in a chain whose policy accepts it by itself.

The proof carries an invariant of the cache along the run: every certificate in it is trusted in
this sense (`Cache.Sound`). The packets that wait in a request are not trusted yet; what is known
about them is that the request is well formed (`Request.Formed`), which is just what is needed to
hand trust on to them when the chain is unwound. This step is about any property that events hand on
from a certificate to what it signs (`Event.HandsOn`), and trust is one.
-/

namespace TrustSchema

/-! ## Trust -/

/-- An event has a certificate and a packet side by side: the certificate is the packet before it,
or it is in the cache and the packet is the first in hand. -/
def Event.Uses (e : Event) (c : Certificate) (p : SignedPacket) : Prop :=
  [.data c.data, p] <:+: e.operation.packets ∨
    (e.operation.packets.head? = some p ∧ c ∈ e.before.cache)

/-- An event, in the chain of a check, at which a packet is verified with a certificate. -/
structure Event.Verifies (o e : Event) (v : Verifier) (c : Certificate) (p : SignedPacket) :
    Prop where
  deferred : o.before.policy.Defers v p c.keyName
  used : e.Uses c p
  decoded : Certificate.ofData c.data = .ok c
  valid : ∃ now, e.operation.time? = some now ∧ c.isValidAt now
  confirmed : v.Confirms p c

namespace History

/-- A packet was verified with another one, which is a certificate. -/
def SignedBy (h : History) (v : Verifier) (p q : SignedPacket) : Prop :=
  ∃ o e c, h.Belongs o e ∧ q = .data c.data ∧ Event.Verifies o e v c p

/-- A packet was judged in a chain whose policy accepts it by itself. -/
def Rooted (h : History) (v : Verifier) (p : SignedPacket) : Prop :=
  ∃ o e, h.Belongs o e ∧ e.operation.packets.head? = some p ∧ o.before.policy.Settles v p

/-- A finite chain of signers leads from a packet to one that a policy accepts by itself. -/
def Trusted (h : History) (v : Verifier) (p : SignedPacket) : Prop :=
  ∃ q, Relation.ReflTransGen (h.SignedBy v) p q ∧ h.Rooted v q

variable {h h' : History} {v : Verifier} {p q : SignedPacket}

theorem Trusted.of_rooted (hp : h.Rooted v p) : h.Trusted v p := ⟨p, .refl, hp⟩

/-- What is signed by a trusted packet is trusted. -/
theorem Trusted.of_signedBy (hpq : h.SignedBy v p q) (hq : h.Trusted v q) : h.Trusted v p := by
  obtain ⟨root, hchain, hroot⟩ := hq
  exact ⟨root, hchain.head hpq, hroot⟩

/-- What is trusted remains so. -/
theorem Trusted.mono (hp : h.Trusted v p) (hsub : h ⊆ h') : h'.Trusted v p := by
  obtain ⟨root, hchain, o, e, hb, hroot⟩ := hp
  refine ⟨root, ?_, o, e, hb.mono hsub, hroot⟩
  refine Relation.ReflTransGen.mono ?_ _ _ hchain
  rintro a b ⟨o', e', c, hb', hlink⟩
  exact ⟨o', e', c, hb'.mono hsub, hlink⟩

end History

/-- A cache holds certificates with a property. -/
def Cache.Holds (cache : Cache) (T : SignedPacket → Prop) : Prop :=
  ∀ c ∈ cache, Certificate.ofData c.data = .ok c ∧ T (.data c.data)

theorem Cache.Holds.mono {cache cache' : Cache} {T : SignedPacket → Prop} (hs : cache.Holds T)
    (hcache : ∀ c ∈ cache', c ∈ cache) : cache'.Holds T := fun c hc => hs c (hcache c hc)

/-- Every certificate in a cache is trusted. -/
def Cache.Sound (cache : Cache) (h : History) (v : Verifier) : Prop :=
  ∀ c ∈ cache, Certificate.ofData c.data = .ok c ∧ h.Trusted v (.data c.data)

theorem Cache.Sound.mono {cache cache' : Cache} {h h' : History} {v : Verifier}
    (hs : cache.Sound h v) (hcache : ∀ c ∈ cache', c ∈ cache) (hsub : h ⊆ h') :
    cache'.Sound h' v := by
  intro c hc
  obtain ⟨hof, htrusted⟩ := hs c (hcache c hc)
  exact ⟨hof, htrusted.mono hsub⟩

/-! ## What is handed on

Trust is not the only thing that goes from a certificate to the packets that it signs. What follows
is about any property of packets that an event of a chain hands on (`Event.HandsOn`). -/

namespace Event

variable {o e : Event} {now : Instant} {p : SignedPacket} {T : SignedPacket → Prop}

/-- An event of a chain gives a property to what the policy of the chain accepts by itself, and
hands it on from a certificate to what is verified with it. -/
structure HandsOn (o e : Event) (T : SignedPacket → Prop) : Prop where
  root : ∀ p, e.operation.packets.head? = some p →
    o.before.policy.Settles e.before.judge.verifier p → T p
  link : ∀ p c, Verifies o e e.before.judge.verifier c p → T (.data c.data) → T p

/-- What an event has to uphold: the certificates in the cache have the property, and so has what is
accepted. -/
structure Upholds (e : Event) (T : SignedPacket → Prop) : Prop where
  held : e.after.cache.Holds T
  granted : e.outcome? = some .accepted → ∃ p, e.operation.subject? = some p ∧ T p

/-- What is accepted at once, in an event of a chain, is accepted by the policy of the chain or
verified with a certificate from the cache. -/
theorem settles_or_verifies_of_judge {step : Nat} {cache' : Cache} (hs : e.before.cache.Holds T)
    (hhead : e.operation.packets.head? = some p) (htime : e.operation.time? = some now)
    (hj : e.before.judge.judge now o.before.policy p step e.before.cache = (.accept, cache')) :
    o.before.policy.Settles e.before.judge.verifier p ∨
      ∃ c ∈ e.before.cache, Verifies o e e.before.judge.verifier c p := by
  rcases Judge.settles_or_cached_of_judge_eq_accept hj with
    hsettles | ⟨c, hc, hdefers, hvalid, hconf⟩
  · exact Or.inl hsettles
  · refine Or.inr ⟨c, hc, ?_⟩
    exact {
      deferred := hdefers
      used := Or.inr ⟨hhead, hc⟩
      decoded := (hs c hc).1
      valid := ⟨now, htime, hvalid⟩
      confirmed := hconf }

/-- What is accepted at once, in an event of a chain, has what the event hands on. -/
theorem HandsOn.of_judge (hT : HandsOn o e T) {step : Nat} {cache' : Cache}
    (hs : e.before.cache.Holds T) (hhead : e.operation.packets.head? = some p)
    (htime : e.operation.time? = some now)
    (hj : e.before.judge.judge now o.before.policy p step e.before.cache = (.accept, cache')) :
    T p := by
  rcases settles_or_verifies_of_judge hs hhead htime hj with hsettles | ⟨c, hc, hverifies⟩
  · exact hT.root p hhead hsettles
  · exact hT.link p c hverifies (hs c hc).2

/-- When a well-formed request is answered, the property is handed on from each packet to the next
one, if the one signed the other. -/
theorem HandsOn.isChain (hT : HandsOn o e T) {r : Request} {d : Data} {subject : SignedPacket}
    {start : Nat} (hop : e.operation = .resume now r d)
    (hr : r.Formed e.before.judge o.before.policy subject start)
    (named : d.name.parent = r.certificateName) :
    (SignedPacket.data d :: r.waiting).IsChain fun a b =>
      e.before.judge.Endorses now a b → T a → T b := by
  have hchain := hr.isChain_cons named
  rw [List.isChain_iff_forall_rel_of_append_cons_cons] at hchain ⊢
  rintro a b l₁ l₂ heq ⟨a', c, rfl, hof, hvalid, hconf⟩ ha
  obtain ⟨a'', ha'', hlocator⟩ := hchain heq
  cases ha''
  have hdata := Certificate.data_of_ofData hof
  -- The packet waits, so the policy leaves it to a key, which is the one of the signer.
  have hwaits : b ∈ r.waiting := by
    have htail := congrArg List.tail heq
    rw [List.tail_cons] at htail
    rw [htail]
    cases l₁ <;> simp
  obtain ⟨keyName, hdefers⟩ := hr.deferred b hwaits
  have hkey : keyName = c.keyName := by
    rw [Certificate.keyName_of_ofData hof]
    exact Option.some.inj (hdefers.located.symm.trans hlocator)
  rw [hr.policy_eq, hkey] at hdefers
  refine hT.link b c ?_ (by rwa [hdata])
  exact {
    deferred := hdefers
    used := by
      refine Or.inl ⟨l₁, l₂, ?_⟩
      rw [hop, Operation.packets, hdata, heq, List.append_assoc]
      rfl
    decoded := by rw [hdata, hof]
    valid := ⟨now, by rw [hop]; rfl, hvalid⟩
    confirmed := hconf }

/-- A packet that is accepted by a check is judged at once. -/
theorem exists_judge_of_check {packet : Packet} {step : Nat}
    (hop : e.operation = .check now packet step) (accepted : e.outcome? = some .accepted) :
    ∃ p cache', e.operation.subject? = some p ∧ e.operation.packets.head? = some p ∧
      e.before.judge.judge now e.before.policy p step e.before.cache = (.accept, cache') := by
  have hchecked := e.before.judge.checked now e.before.policy packet step e.before.cache
  rw [outcome?_of_check hop] at accepted
  generalize e.before.judge.check now e.before.policy packet step e.before.cache = result
    at hchecked accepted
  cases hchecked with
  | barred reason => cases accepted
  | @judged p verdict cache' read judged =>
    cases verdict with
    | reject reason => cases accepted
    | need keyName => cases accepted
    | accept =>
      refine ⟨p, cache', ?_, ?_, judged⟩
      · rw [hop, Operation.subject?, read]
        rfl
      · rw [hop, Operation.packets, read]
        rfl

/-- A check upholds what it hands on. -/
theorem HandsOn.upholds_check (hT : HandsOn e e T) {packet : Packet} {step : Nat}
    (hop : e.operation = .check now packet step) (hs : e.before.cache.Holds T) : e.Upholds T := by
  refine ⟨hs.mono fun c hc => ?_, fun accepted => ?_⟩
  · rw [cache_after_check hop] at hc
    have hchecked := e.before.judge.checked now e.before.policy packet step e.before.cache
    generalize e.before.judge.check now e.before.policy packet step e.before.cache = result
      at hchecked hc
    cases hchecked with
    | barred reason => exact hc
    | judged read judged => exact Judge.mem_of_mem_judge (by rwa [judged])
  · obtain ⟨p, cache', hsubject, hhead, judged⟩ := exists_judge_of_check hop accepted
    exact ⟨p, hsubject, hT.of_judge hs hhead (by rw [hop]; rfl) judged⟩

/-- The answer to a well-formed request upholds what it hands on. -/
theorem HandsOn.upholds_resume (hT : HandsOn o e T) {r : Request} {d : Data}
    {subject : SignedPacket} {start : Nat} (hop : e.operation = .resume now r d)
    (hr : r.Formed e.before.judge o.before.policy subject start)
    (hs : e.before.cache.Holds T) : e.Upholds T := by
  have hresumed := e.before.judge.resumed now r d e.before.cache
  have houtcome := outcome?_of_resume hop
  have hcache := cache_after_resume hop
  generalize e.before.judge.resume now r d e.before.cache = result at hresumed houtcome hcache
  have hjudged : ∀ {verdict : Judge.Verdict} {cache' : Cache},
      e.before.judge.judge now r.policy (.data d) r.step e.before.cache = (verdict, cache') →
        cache'.Holds T := by
    intro verdict cache' hj
    exact hs.mono fun c hc => Judge.mem_of_mem_judge (by rwa [hj])
  cases hresumed with
  | barred reason =>
    refine ⟨by rwa [hcache], fun haccepted => ?_⟩
    rw [houtcome] at haccepted
    cases haccepted
  | refused named judged =>
    refine ⟨by rw [hcache]; exact hjudged judged, fun haccepted => ?_⟩
    rw [houtcome] at haccepted
    cases haccepted
  | passedOn named judged =>
    refine ⟨by rw [hcache]; exact hjudged judged, fun haccepted => ?_⟩
    rw [houtcome] at haccepted
    cases haccepted
  | trusted named judged =>
    have hstep := hT.isChain hop hr named
    have hd : T (.data d) := by
      rw [hr.policy_eq] at judged
      exact hT.of_judge hs (by rw [hop]; rfl) (by rw [hop]; rfl) judged
    refine ⟨?_, fun haccepted => ?_⟩
    · rw [hcache]
      intro c hc
      rcases Judge.mem_or_of_mem_verifyChain hstep hd hc with hmem | hhanded
      · exact hjudged judged c hmem
      · exact hhanded
    · rw [houtcome] at haccepted
      have hsubject : e.operation.subject? = some subject := by
        rw [hop]
        exact hr.last_eq
      have hall := Judge.forall_mem_of_verifyChain hr.linked hstep hd (Option.some.inj haccepted)
      exact ⟨subject, hsubject, hall subject (List.mem_of_getLast? hr.last_eq)⟩

/-- Trust is handed on. -/
theorem handsOn_trusted {h : History} (hb : h.Belongs o e) :
    HandsOn o e (h.Trusted e.before.judge.verifier) where
  root := fun _ hhead hsettles => .of_rooted ⟨o, e, hb, hhead, hsettles⟩
  link := fun _ c hverifies htrusted => .of_signedBy ⟨o, e, c, hb, rfl, hverifies⟩ htrusted

/-- What an event has to keep: the cache stays trusted, and what is accepted is trusted. -/
structure Keeps (e : Event) (h : History) : Prop where
  sound : e.after.cache.Sound h e.before.judge.verifier
  trusted : e.outcome? = some .accepted →
    ∃ p, e.operation.subject? = some p ∧ h.Trusted e.before.judge.verifier p

end Event

/-! ## Runs and trust -/

namespace Validator

variable {v₀ v : Validator} {h : History} {e : Event}

/-- Every operation of a run upholds what it hands on. -/
theorem Run.upholds (run : v₀.Run (e :: h) v) {T : SignedPacket → Prop}
    (hT : ∀ o, History.Belongs (e :: h) o e → Event.HandsOn o e T)
    (hs : e.before.cache.Holds T) : e.Upholds T := by
  have hj : e.before.judge = v₀.judge := run.judge_before List.mem_cons_self
  rcases e.isCheck_or_resume_or with ⟨now, packet, step, hop⟩ | ⟨now, r, d, hop⟩ | hquiet
  · exact (hT e (.began List.mem_cons_self ⟨now, packet, step, hop⟩)).upholds_check hop hs
  · obtain ⟨o, subject, start, hb, hr⟩ := run.exists_formed_of_resume List.mem_cons_self hop
    rw [← hj] at hr
    exact (hT o hb).upholds_resume hop hr hs
  · obtain ⟨hne, -, hcache⟩ := hquiet
    exact ⟨hs.mono hcache, fun haccepted => absurd haccepted hne⟩

/-- Every operation of a run keeps the cache trusted, and accepts what is trusted. -/
theorem Run.keeps (run : v₀.Run (e :: h) v) (hs : e.before.cache.Sound h v₀.judge.verifier) :
    e.Keeps (e :: h) := by
  have hj : e.before.judge = v₀.judge := run.judge_before List.mem_cons_self
  have hs : e.before.cache.Sound (e :: h) e.before.judge.verifier := by
    rw [hj]
    exact hs.mono (fun _ hc => hc) (List.subset_cons_self _ _)
  obtain ⟨held, granted⟩ := run.upholds (fun _ => Event.handsOn_trusted) hs
  exact ⟨held, granted⟩

/-- **A property that is handed on holds along a run**, of all certificates in the cache, from where
it holds first. The induction is on the events since. -/
theorem Run.holds_of_append {recent h₁ : History} {T : SignedPacket → Prop}
    (run : v₀.Run (recent ++ h₁) v)
    (hT : ∀ o, ∀ e ∈ recent, History.Belongs (recent ++ h₁) o e → Event.HandsOn o e T)
    (hs : ∀ v₁, v₀.Run h₁ v₁ → v₁.cache.Holds T) : v.cache.Holds T := by
  induction recent generalizing v with
  | nil => exact hs v run
  | cons e recent ih =>
    have hheld : e.before.cache.Holds T := by
      refine ih run.tail fun o e' he' hb => hT o e' (List.mem_cons_of_mem _ he') ?_
      exact hb.mono (List.subset_cons_self _ _)
    have hupholds := run.upholds (fun o => hT o e List.mem_cons_self) hheld
    cases run with
    | next run operation granted => exact hupholds.held

theorem Run.holds {T : SignedPacket → Prop} (run : v₀.Run h v)
    (hT : ∀ o e, h.Belongs o e → Event.HandsOn o e T) (hs : v₀.cache.Holds T) :
    v.cache.Holds T := by
  rw [← List.append_nil h] at run hT
  refine run.holds_of_append (fun o e _ hb => hT o e hb) fun v₁ run₁ => ?_
  cases run₁ with
  | start => exact hs

/-- **Along every run that begins with an empty cache, the cache is trusted.** -/
theorem Run.sound (run : v₀.Run h v) (empty : v₀.cache.ring = .empty) :
    v.cache.Sound h v₀.judge.verifier := by
  refine run.holds (fun o e hb => ?_) fun c hc => absurd hc (Cache.not_mem_of_empty empty)
  rw [← run.judge_before hb.mem.2]
  exact Event.handsOn_trusted hb

/-- **Acceptance is sound.** In every run of a validator whose cache is empty at first, whatever
policies come and go, whichever requests are answered in whatever order and however often, and
whatever certificates arrive: when an operation accepts a packet, a finite chain of signers leads
from the packet to one that is accepted by itself, by a digest, a fixed signer or a trust anchor
(`History.Trusted`). All of it is backed by events up to this operation. -/
theorem Run.trusted_of_accepted (run : v₀.Run (e :: h) v) (empty : v₀.cache.ring = .empty)
    (accepted : e.outcome? = some .accepted) :
    ∃ p, e.operation.subject? = some p ∧ History.Trusted (e :: h) v₀.judge.verifier p := by
  have hj : e.before.judge = v₀.judge := run.judge_before List.mem_cons_self
  cases run with
  | next run operation granted =>
    rw [← hj]
    exact ((run.next operation granted).keeps (run.sound empty)).trusted accepted

end Validator

namespace Sample

/-- The packet is accepted on the strength of two certificates and an anchor of the policy that it
was checked under, which has been taken back since. -/
theorem settled_trusted :
    start.Run [settled, answered, reloaded, checked, installed] settled.after ∧
      start.cache.ring = .empty ∧ settled.outcome? = some .accepted ∧
      ∃ p, settled.operation.subject? = some p ∧
        History.Trusted [settled, answered, reloaded, checked, installed] verifier p :=
  ⟨run_settled, rfl, settled_accepted, run_settled.trusted_of_accepted rfl settled_accepted⟩

end Sample

end TrustSchema
