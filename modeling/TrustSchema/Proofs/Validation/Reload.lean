import TrustSchema.Proofs.Validation.Namespace

/-!
# What a reload withdraws

After a load, new checks go by the new policy: its rules, its signers and its trust anchors. The
cache stays. It holds certificates that were verified under other policies, and old chains, which go
on under the policies they began with, may still add some. So what is accepted after a load is not
always borne out by the new policy alone (`Sample.letter_not_vouched`): its chain of signers follows
the new policy either to the end, or up to a certificate that has outlived the load
(`Validator.Run.upheld_after_load`).

This property is handed on by all events since the load (`Validator.Run.holds_since`): by those of
chains that began since because their policy is the new one, and by those of older chains because
what they verify has outlived the load.
-/

namespace TrustSchema

/-! ## Loading -/

/-- The policy that the operation puts in force, if it does. -/
def Operation.loaded? : Operation → Option Policy
  | .install policy | .load (.ok policy) => some policy
  | _ => none

/-- No check loads a policy. -/
theorem Event.IsCheck.loaded?_eq {e : Event} (check : e.IsCheck) : e.operation.loaded? = none := by
  obtain ⟨now, packet, step, hop⟩ := check
  rw [hop]
  rfl

/-- A policy is in force until the next one is loaded. -/
theorem Validator.policy_perform_eq (v : Validator) (operation : Operation) :
    (v.perform operation).2.policy = operation.loaded?.getD v.policy := by
  cases operation with
  | load policy => cases policy <;> rfl
  | _ => rfl

/-- Loading leaves the cache alone. -/
theorem Validator.cache_perform_of_loaded {v : Validator} {operation : Operation} {policy : Policy}
    (loaded : operation.loaded? = some policy) : (v.perform operation).2.cache = v.cache := by
  cases operation with
  | install policy => rfl
  | load result => cases result <;> rfl
  | check now packet step => cases loaded
  | resume now r d => cases loaded
  | fail r reason => cases loaded
  | forget keyName => cases loaded

/-- The policy that was loaded last is in force since. -/
theorem Validator.Run.policy_since {v₀ v : Validator} {recent earlier : History} {load : Event}
    {policy : Policy} (run : v₀.Run (recent ++ load :: earlier) v)
    (loaded : load.operation.loaded? = some policy)
    (kept : ∀ e ∈ recent, e.operation.loaded? = none) :
    v.policy = policy ∧ ∀ e ∈ recent, e.before.policy = policy := by
  induction recent generalizing v with
  | nil =>
    cases run with
    | next run operation granted =>
      refine ⟨?_, List.forall_mem_nil _⟩
      rw [policy_perform_eq, show operation.loaded? = some policy from loaded]
      rfl
  | cons e recent ih =>
    cases run with
    | @next _ v run operation granted =>
      obtain ⟨hpolicy, hbefore⟩ := ih run fun e he => kept e (List.mem_cons_of_mem _ he)
      have hnone : operation.loaded? = none := kept _ List.mem_cons_self
      refine ⟨?_, List.forall_mem_cons.2 ⟨hpolicy, hbefore⟩⟩
      rw [policy_perform_eq, hnone]
      exact hpolicy

/-! ## Trust under one policy -/

namespace Policy

/-- The policy lets a packet be verified with another one, which is a certificate. -/
def Links (policy : Policy) (v : Verifier) (p q : SignedPacket) : Prop :=
  ∃ c, q = .data c.data ∧ Certificate.ofData c.data = .ok c ∧ policy.Defers v p c.keyName ∧
    v.Confirms p c

/-- There is a chain of signers that follows the policy from the packet to one that the policy
accepts by itself. -/
def Vouches (policy : Policy) (v : Verifier) (p : SignedPacket) : Prop :=
  ∃ q, Relation.ReflTransGen (policy.Links v) p q ∧ policy.Settles v q

/-- Without anchors a loaded hierarchical policy vouches for nothing. -/
theorem not_vouches_of_unanchored {policy : Policy} {v : Verifier} {p : SignedPacket}
    (loaded : policy.Loaded) (hierarchical : policy.Hierarchical)
    (unanchored : ∀ n, policy.anchors.find? n = none) : ¬ policy.Vouches v p := by
  rintro ⟨q, -, hsettles⟩
  obtain ⟨_, keyName, c, -, -, -, hanchored⟩ := hsettles.exists_anchor loaded hierarchical
  rw [unanchored] at hanchored
  cases hanchored

end Policy

namespace History

/-- In a chain under the policy, a packet was verified with another one, which is a certificate. -/
def SignedUnder (h : History) (v : Verifier) (policy : Policy) (p q : SignedPacket) : Prop :=
  ∃ o e c, h.Belongs o e ∧ o.before.policy = policy ∧ q = .data c.data ∧ Event.Verifies o e v c p

/-- In a chain under the policy, a packet was judged, and the policy accepts it by itself. -/
def RootedUnder (h : History) (v : Verifier) (policy : Policy) (p : SignedPacket) : Prop :=
  ∃ o e, h.Belongs o e ∧ o.before.policy = policy ∧ e.operation.packets.head? = some p ∧
    policy.Settles v p

/-- A packet is trusted (`History.Trusted`), and all of it rests on one policy. -/
def TrustedUnder (h : History) (v : Verifier) (policy : Policy) (p : SignedPacket) : Prop :=
  ∃ q, Relation.ReflTransGen (h.SignedUnder v policy) p q ∧ h.RootedUnder v policy q

/-- What outlives a load: certificates that are in the cache at the load, and packets that are
verified since in chains that began earlier. -/
inductive Outlives (h : History) (v : Verifier) (load : Event) (earlier since : History) :
    SignedPacket → Prop
  | cached {c : Certificate} (held : c ∈ load.before.cache) :
      Outlives h v load earlier since (.data c.data)
  | rooted {o e : Event} {p : SignedPacket} (began : o ∈ earlier) (here : e ∈ since)
      (belongs : h.Belongs o e) (head : e.operation.packets.head? = some p)
      (settles : o.before.policy.Settles v p) : Outlives h v load earlier since p
  | signed {o e : Event} {c : Certificate} {p : SignedPacket} (began : o ∈ earlier)
      (here : e ∈ since) (belongs : h.Belongs o e) (verifies : Event.Verifies o e v c p) :
      Outlives h v load earlier since p

/-- A packet is trusted under a policy that was loaded, or its chain of signers follows the policy
up to a certificate that has outlived the load; where the run began afresh, this one is trusted for
other reasons. -/
def Upheld (h : History) (v : Verifier) (policy : Policy) (load : Event) (earlier since : History)
    (fresh : Prop) (p : SignedPacket) : Prop :=
  h.TrustedUnder v policy p ∨ ∃ q, Relation.ReflTransGen (h.SignedUnder v policy) p q ∧
    Outlives h v load earlier since q ∧ (fresh → h.Trusted v q)

variable {h : History} {v : Verifier} {policy : Policy} {load : Event} {earlier since : History}
  {fresh : Prop} {p q : SignedPacket}

/-- What is trusted under a policy in some run is vouched for by it. -/
theorem TrustedUnder.vouches (hp : h.TrustedUnder v policy p) : policy.Vouches v p := by
  obtain ⟨root, hchain, _, _, _, _, _, hsettles⟩ := hp
  refine ⟨root, Relation.ReflTransGen.mono ?_ _ _ hchain, hsettles⟩
  rintro a b ⟨o, e, c, hb, rfl, rfl, hverifies⟩
  exact ⟨c, rfl, hverifies.decoded, hverifies.deferred, hverifies.confirmed⟩

theorem Trusted.of_signedUnder (hchain : Relation.ReflTransGen (h.SignedUnder v policy) p q)
    (hq : h.Trusted v q) : h.Trusted v p := by
  induction hchain using Relation.ReflTransGen.head_induction_on with
  | refl => exact hq
  | head hlink _ ih =>
    obtain ⟨o, e, c, hb, -, heq, hverifies⟩ := hlink
    exact ih.of_signedBy ⟨o, e, c, hb, heq, hverifies⟩

theorem TrustedUnder.trusted (hp : h.TrustedUnder v policy p) : h.Trusted v p := by
  obtain ⟨root, hchain, o, e, hb, rfl, hhead, hsettles⟩ := hp
  exact .of_signedUnder hchain (.of_rooted ⟨o, e, hb, hhead, hsettles⟩)

theorem Upheld.trusted (hp : h.Upheld v policy load earlier since fresh p) (hfresh : fresh) :
    h.Trusted v p := by
  rcases hp with hunder | ⟨q, hchain, -, hq⟩
  · exact hunder.trusted
  · exact .of_signedUnder hchain (hq hfresh)

/-- What is signed, in a chain under the policy, with what is upheld. -/
theorem Upheld.extend (hq : h.Upheld v policy load earlier since fresh q)
    (hlink : h.SignedUnder v policy p q) : h.TrustedUnder v policy p ∨
      ∃ r, Relation.TransGen (h.SignedUnder v policy) p r ∧ Outlives h v load earlier since r ∧
        (fresh → h.Trusted v r) := by
  rcases hq with ⟨root, hchain, hroot⟩ | ⟨r, hchain, hr⟩
  · exact Or.inl ⟨root, hchain.head hlink, hroot⟩
  · exact Or.inr ⟨r, .head' hlink hchain, hr⟩

theorem Upheld.of_signedUnder (hlink : h.SignedUnder v policy p q)
    (hq : h.Upheld v policy load earlier since fresh q) :
    h.Upheld v policy load earlier since fresh p := by
  rcases hq.extend hlink with hunder | ⟨r, hchain, hr⟩
  · exact Or.inl hunder
  · exact Or.inr ⟨r, hchain.to_reflTransGen, hr⟩

end History

/-! ## The events since a load -/

section Since

variable {h : History} {policy : Policy} {load o e : Event} {earlier since : History} {fresh : Prop}

/-- A chain under the policy hands on what is upheld. -/
theorem Event.handsOn_of_policy (hb : h.Belongs o e) (hpolicy : o.before.policy = policy) :
    HandsOn o e (h.Upheld e.before.judge.verifier policy load earlier since fresh) where
  root := by
    intro p hhead hsettles
    rw [hpolicy] at hsettles
    exact Or.inl ⟨p, .refl, o, e, hb, hpolicy, hhead, hsettles⟩
  link := fun _ c hverifies hc => .of_signedUnder ⟨o, e, c, hb, hpolicy, rfl, hverifies⟩ hc

/-- What an older chain verifies since the load has outlived it. -/
theorem Event.handsOn_of_earlier (hb : h.Belongs o e) (began : o ∈ earlier) (here : e ∈ since) :
    HandsOn o e (h.Upheld e.before.judge.verifier policy load earlier since fresh) where
  root := fun p hhead hsettles =>
    Or.inr ⟨p, .refl, .rooted began here hb hhead hsettles,
      fun _ => .of_rooted ⟨o, e, hb, hhead, hsettles⟩⟩
  link := fun p c hverifies hc =>
    Or.inr ⟨p, .refl, .signed began here hb hverifies,
      fun hfresh => (hc.trusted hfresh).of_signedBy ⟨o, e, c, hb, rfl, hverifies⟩⟩

variable {v₀ v : Validator}

/-- Certificates are read from data packets, and those in the cache remain so. -/
theorem Validator.Run.decoded (run : v₀.Run h v)
    (decoded : ∀ c ∈ v₀.cache, Certificate.ofData c.data = .ok c) :
    ∀ c ∈ v.cache, Certificate.ofData c.data = .ok c := by
  have hT : ∀ o e, h.Belongs o e → Event.HandsOn o e fun _ => True :=
    fun _ _ _ => ⟨fun _ _ _ => trivial, fun _ _ _ _ => trivial⟩
  exact fun c hc => (run.holds hT (fun c hc => ⟨decoded c hc, trivial⟩) c hc).1

/-- **Since a load, the cache holds what is upheld.** -/
theorem Validator.Run.holds_since (run : v₀.Run (since ++ load :: earlier) v)
    (decoded : ∀ c ∈ v₀.cache, Certificate.ofData c.data = .ok c)
    (loaded : load.operation.loaded? = some policy)
    (kept : ∀ e ∈ since, e.operation.loaded? = none) (hsub : since ++ load :: earlier ⊆ h) :
    v.cache.Holds
      (h.Upheld v₀.judge.verifier policy load earlier since (v₀.cache.ring = .empty)) := by
  refine run.holds_of_append (fun o e he hb => ?_) fun v₁ run₁ c hc => ?_
  · rw [← run.judge_before (List.mem_append_left _ he)]
    rcases List.mem_append.1 hb.mem.1 with hmem | hmem
    · exact Event.handsOn_of_policy (hb.mono hsub) ((run.policy_since loaded kept).2 o hmem)
    · rcases List.mem_cons.1 hmem with rfl | hmem
      · -- A load is no check, so no chain begins with it.
        rw [hb.isCheck.loaded?_eq] at loaded
        cases loaded
      · exact Event.handsOn_of_earlier (hb.mono hsub) hmem he
  · have hbefore : c ∈ load.before.cache := by
      cases run₁ with
      | next run₁ operation granted =>
        rw [cache_perform_of_loaded loaded] at hc
        exact hc
    have hearlier : earlier ⊆ h :=
      List.Subset.trans (List.subset_append_of_subset_right _ (List.subset_cons_self _ _)) hsub
    refine ⟨run₁.tail.decoded decoded c hbefore, Or.inr ⟨_, .refl, .cached hbefore, ?_⟩⟩
    exact fun hempty => (run₁.tail.sound hempty c hbefore).2.mono hearlier

end Since

section Accepted

variable {v₀ v : Validator} {h since earlier : History} {e load : Event} {policy : Policy}

/-- A packet that a check accepts after a load is trusted under the policy, or a chain of one or
more signers leads to what has outlived the load. -/
theorem Validator.Run.trustedUnder_or_outlives (run : v₀.Run h v)
    (decoded : ∀ c ∈ v₀.cache, Certificate.ofData c.data = .ok c)
    (order : h = e :: (since ++ load :: earlier))
    (loaded : load.operation.loaded? = some policy)
    (kept : ∀ e' ∈ since, e'.operation.loaded? = none)
    (check : e.IsCheck) (accepted : e.outcome? = some .accepted) :
    ∃ p, e.operation.subject? = some p ∧
      (h.TrustedUnder v₀.judge.verifier policy p ∨
        ∃ q, Relation.TransGen (h.SignedUnder v₀.judge.verifier policy) p q ∧
          History.Outlives h v₀.judge.verifier load earlier since q ∧
          (v₀.cache.ring = .empty → h.Trusted v₀.judge.verifier q)) := by
  have here : e ∈ h := by simp [order]
  have hj : e.before.judge = v₀.judge := run.judge_before here
  have hb : h.Belongs e e := .began here check
  obtain ⟨now, packet, step, hop⟩ := check
  obtain ⟨p, cache', hsubject, hhead, judged⟩ := Event.exists_judge_of_check hop accepted
  have hrun : v₀.Run (since ++ load :: earlier) e.before := (order ▸ run).tail
  have hpolicy : e.before.policy = policy := (hrun.policy_since loaded kept).1
  have hheld := hrun.holds_since decoded loaded kept (show _ ⊆ h by simp [order])
  refine ⟨p, hsubject, ?_⟩
  rcases Event.settles_or_verifies_of_judge hheld hhead (by rw [hop]; rfl) judged with
    hsettles | ⟨c, hc, hverifies⟩
  · rw [hj, hpolicy] at hsettles
    exact Or.inl ⟨p, .refl, e, e, hb, hpolicy, hhead, hsettles⟩
  · rw [hj] at hverifies
    exact (hheld c hc).2.extend ⟨e, e, c, hb, hpolicy, rfl, hverifies⟩

/-- Nothing outlives a load that finds the cache empty, if no older chain goes on. -/
theorem History.not_outlives {v : Verifier} {q : SignedPacket}
    (empty : load.before.cache.ring = .empty)
    (quiet : ∀ o ∈ earlier, ∀ e' ∈ since, ¬ h.Belongs o e') :
    ¬ Outlives h v load earlier since q := by
  intro houtlives
  cases houtlives with
  | cached held => exact Cache.not_mem_of_empty empty held
  | rooted began here belongs => exact quiet _ began _ here belongs
  | signed began here belongs => exact quiet _ began _ here belongs

/-- **What a check accepts after a load.** Take any run in which a policy is loaded and no other one
since; the certificates in the cache at first, if any, are read from data packets. A packet that a
check accepts then is trusted under this policy, or a chain of one or more signers follows the
policy from the packet to a certificate that was in the cache at the load or has been verified since
in a chain that began earlier, and that is itself trusted if the cache was empty at first. If there
is no such certificate, because the cache was empty at the load and no older chain went on, the
packet is trusted under the policy alone. -/
theorem Validator.Run.upheld_after_load (run : v₀.Run h v)
    (decoded : ∀ c ∈ v₀.cache, Certificate.ofData c.data = .ok c)
    (order : h = e :: (since ++ load :: earlier))
    (loaded : load.operation.loaded? = some policy)
    (kept : ∀ e' ∈ since, e'.operation.loaded? = none)
    (check : e.IsCheck) (accepted : e.outcome? = some .accepted) :
    ∃ p, e.operation.subject? = some p ∧
      (h.TrustedUnder v₀.judge.verifier policy p ∨
        ∃ q, Relation.TransGen (h.SignedUnder v₀.judge.verifier policy) p q ∧
          History.Outlives h v₀.judge.verifier load earlier since q ∧
          (v₀.cache.ring = .empty → h.Trusted v₀.judge.verifier q)) ∧
      (load.before.cache.ring = .empty → (∀ o ∈ earlier, ∀ e' ∈ since, ¬ h.Belongs o e') →
        h.TrustedUnder v₀.judge.verifier policy p) := by
  obtain ⟨p, hsubject, hp⟩ :=
    run.trustedUnder_or_outlives decoded order loaded kept check accepted
  refine ⟨p, hsubject, hp, fun hempty hquiet => ?_⟩
  rcases hp with hunder | ⟨q, -, houtlives, -⟩
  · exact hunder
  · exact absurd houtlives (History.not_outlives hempty hquiet)

end Accepted

namespace Sample

/-- The policy of the site without its trust anchor. -/
def withdrawn : Policy := .ofRules [siteRule] .empty

theorem withdrawn_loaded : withdrawn.Loaded := by
  refine ⟨siteSource.files, "site.conf", [ruleEntry], ?_⟩
  refine bind_eq_ok_iff.2 ⟨[.rule siteRule], ?_, rfl⟩
  show [ruleEntry].mapM (Policy.Part.ofEntry siteSource "site.conf") = _
  rw [List.mapM_cons, ruleEntry_eq]
  rfl

theorem withdrawn_hierarchical : withdrawn.Hierarchical := sitePolicy_hierarchical

/-- The letter has been accepted. Now the anchor is taken back, and the letter is checked again. -/
def reconfigured : Event := ⟨delivered.after, .load (.ok withdrawn)⟩

def rechecked : Event := ⟨reconfigured.after, .check 7 (.data letter) 0⟩

theorem reconfigured_loaded : reconfigured.operation.loaded? = some withdrawn := rfl

theorem run_rechecked :
    siteStart.Run [rechecked, reconfigured, delivered, submitted] rechecked.after :=
  (run_delivered.next reconfigured.operation nofun).next rechecked.operation nofun

theorem rechecked_accepted : rechecked.outcome? = some .accepted := rfl

/-- The letter is accepted, though the policy that has just been loaded vouches for nothing: the
certificate that it is signed with is in the cache. -/
theorem letter_not_vouched :
    siteStart.Run [rechecked, reconfigured, delivered, submitted] rechecked.after ∧
      siteStart.cache.ring = .empty ∧ reconfigured.operation.loaded? = some withdrawn ∧
      withdrawn.Loaded ∧ withdrawn = { sitePolicy with anchors := .empty } ∧ rechecked.IsCheck ∧
      rechecked.outcome? = some .accepted ∧
      rechecked.operation.subject? = some (.data letter) ∧
      ¬ withdrawn.Vouches verifier (.data letter) :=
  ⟨run_rechecked, rfl, reconfigured_loaded, withdrawn_loaded, rfl, ⟨_, _, _, rfl⟩,
    rechecked_accepted, rfl,
    Policy.not_vouches_of_unanchored withdrawn_loaded withdrawn_hierarchical fun _ => rfl⟩

/-- Its chain of signers leads to that certificate, and from there to the anchor of the policy
before. -/
theorem letter_upheld :
    siteStart.Run [rechecked, reconfigured, delivered, submitted] rechecked.after ∧
      siteStart.cache.ring = .empty ∧ reconfigured.operation.loaded? = some withdrawn ∧
      rechecked.IsCheck ∧ rechecked.outcome? = some .accepted ∧
      ∃ p, rechecked.operation.subject? = some p ∧ ∃ q,
        Relation.TransGen (History.SignedUnder [rechecked, reconfigured, delivered, submitted]
          verifier withdrawn) p q ∧
        History.Outlives [rechecked, reconfigured, delivered, submitted] verifier reconfigured
          [delivered, submitted] [] q ∧
        History.Trusted [rechecked, reconfigured, delivered, submitted] verifier q := by
  have check : rechecked.IsCheck := ⟨_, _, _, rfl⟩
  refine ⟨run_rechecked, rfl, reconfigured_loaded, check, rechecked_accepted, ?_⟩
  have order : [rechecked, reconfigured, delivered, submitted] =
      rechecked :: ([] ++ reconfigured :: [delivered, submitted]) := rfl
  have decoded : ∀ c ∈ siteStart.cache, Certificate.ofData c.data = .ok c :=
    fun c hc => absurd hc (Cache.not_mem_of_empty rfl)
  obtain ⟨p, hsubject, hunder | ⟨q, hchain, houtlives, htrusted⟩, -⟩ :=
    run_rechecked.upheld_after_load decoded order reconfigured_loaded (List.forall_mem_nil _) check
      rechecked_accepted
  · -- The policy vouches for nothing, so the first case is not the one.
    refine absurd hunder.vouches ?_
    exact Policy.not_vouches_of_unanchored withdrawn_loaded withdrawn_hierarchical fun _ => rfl
  · exact ⟨p, hsubject, q, hchain, houtlives, htrusted rfl⟩

end Sample

end TrustSchema
