import TrustSchema.Proofs.Validation.Reload

/-!
# Chains are isolated from loads

A chain carries the policy that it began under along with its requests, so after its check nothing
that is loaded matters to it. Only new checks look at the policy in force, and this is the one that
was loaded last with success (`Validator.Run.policy_eq_lastLoaded`).

The isolation is about two runs. They share everything up to a check, and from there on they are
made of the same answers to requests, with any loads in between. Where a load stands in only one of
them, the validators differ in their policies from there on, but in nothing else, and the answers
look at nothing else (`Event.agrees_of_eq`). So the second run hands out whatever the first one hands
out, and goes through to the end (`Validator.Run.exists_run_of_operations`, by induction on the
operations). There is only one run of given operations (`Validator.Run.eq_of_operations`).
-/

namespace TrustSchema

/-- The policy that was loaded last, if any has been loaded with success. -/
def History.lastLoaded? (h : History) : Option Policy := h.findSome? fun e => e.operation.loaded?

instance : DecidablePred Operation.KeepsPolicy
  | .install _ | .load _ => isFalse id
  | .check .. | .resume .. | .fail .. | .forget _ => isTrue trivial

/-! ## One operation under two policies -/

namespace Event

variable {e : Event}

/-- A load answers no request, says nothing about any packet and leaves the cache alone. -/
theorem quiet_of_not_keepsPolicy (load : ¬ e.operation.KeepsPolicy) :
    e.operation.request? = none ∧ e.outcome? = none ∧ e.after.cache = e.before.cache := by
  obtain ⟨before, operation⟩ := e
  cases operation with
  | install policy => exact ⟨rfl, rfl, rfl⟩
  | load result => cases result <;> exact ⟨rfl, rfl, rfl⟩
  | check now packet step => exact absurd trivial load
  | resume now r d => exact absurd trivial load
  | fail r reason => exact absurd trivial load
  | forget keyName => exact absurd trivial load

/-- **Other than a check, no operation looks at the policy in force.** With equal caches, and the
same that judges, it has the same outcome and leaves the same cache. -/
theorem agrees_of_eq (e e' : Event) (same : e'.operation = e.operation) (other : ¬ e.IsCheck)
    (judge : e'.before.judge = e.before.judge) (cache : e'.before.cache = e.before.cache) :
    e'.outcome? = e.outcome? ∧ e'.after.cache = e.after.cache := by
  obtain ⟨before, operation⟩ := e
  obtain ⟨before', operation'⟩ := e'
  obtain rfl : operation' = operation := same
  cases operation' with
  | install policy => exact ⟨rfl, cache⟩
  | load result => cases result <;> exact ⟨rfl, cache⟩
  | check now packet step => exact absurd ⟨now, packet, step, rfl⟩ other
  | resume now r d =>
    rw [outcome?_of_resume rfl, outcome?_of_resume rfl, cache_after_resume rfl,
      cache_after_resume rfl, show before'.judge = before.judge from judge,
      show before'.cache = before.cache from cache]
    exact ⟨rfl, rfl⟩
  | fail r reason => exact ⟨rfl, cache⟩
  | forget keyName =>
    refine ⟨rfl, ?_⟩
    show before'.cache.erase keyName = before.cache.erase keyName
    rw [show before'.cache = before.cache from cache]

end Event

/-! ## Two runs -/

namespace Validator

variable {v₀ v v' : Validator} {h recent recent' : History} {e : Event}

/-- **The policy in force is the one that was loaded last**, whatever failed to load since. -/
theorem Run.policy_eq_lastLoaded (run : v₀.Run h v) :
    v.policy = h.lastLoaded?.getD v₀.policy := by
  induction run with
  | start => rfl
  | next run operation granted ih =>
    rw [policy_perform_eq, ih]
    unfold History.lastLoaded?
    rw [List.findSome?_cons]
    cases operation.loaded? <;> rfl

theorem Run.eq_after (run : v₀.Run (e :: h) v) : v = e.after := by
  cases run with
  | next run operation granted => rfl

/-- A request that is answered was handed out before. -/
theorem Run.granted (run : v₀.Run (e :: h) v) :
    ∀ r ∈ e.operation.request?, ∃ e' ∈ h, r ∈ e'.requests := by
  cases run with
  | next run operation granted => exact granted

/-- A history leads to one validator only. -/
theorem Run.unique (run : v₀.Run h v) (run' : v₀.Run h v') : v = v' := by
  cases h with
  | nil =>
    cases run
    cases run'
    rfl
  | cons e h => rw [run.eq_after, run'.eq_after]

/-- Operations have only one history after another one. -/
theorem Run.eq_of_operations (run : v₀.Run (recent ++ h) v) (run' : v₀.Run (recent' ++ h) v')
    (same : recent.map Event.operation = recent'.map Event.operation) :
    recent = recent' ∧ v = v' := by
  induction recent generalizing recent' v v' with
  | nil =>
    obtain rfl : recent' = [] := List.map_eq_nil_iff.1 same.symm
    exact ⟨rfl, run.unique run'⟩
  | cons e recent ih =>
    obtain ⟨e', tail, rfl, heq, htail⟩ := List.map_eq_cons_iff.1 same.symm
    obtain ⟨rfl, hbefore⟩ := ih run.tail run'.tail htail.symm
    have hevent : e = e' := by
      obtain ⟨before, operation⟩ := e
      obtain ⟨before', operation'⟩ := e'
      obtain rfl : before = before' := hbefore
      obtain rfl : operation' = operation := heq
      rfl
    subst hevent
    exact ⟨rfl, run.unique run'⟩

/-- Loads can be left out at the end of a run. -/
theorem Run.exists_of_loads {loads : History} (run : v₀.Run (loads ++ h) v)
    (all : ∀ e ∈ loads, ¬ e.operation.KeepsPolicy) :
    loads.filterMap Event.outcome? = [] ∧ ∃ v₁, v₀.Run h v₁ ∧ v.cache = v₁.cache := by
  induction loads generalizing v with
  | nil => exact ⟨rfl, v, run, rfl⟩
  | cons e loads ih =>
    obtain ⟨hnone, v₁, run₁, hcache⟩ :=
      ih run.tail fun e' he' => all e' (List.mem_cons_of_mem _ he')
    obtain ⟨-, hquiet, hafter⟩ := Event.quiet_of_not_keepsPolicy (all e List.mem_cons_self)
    refine ⟨?_, v₁, run₁, ?_⟩
    · rw [List.filterMap_cons, hquiet]
      exact hnone
    · rw [run.eq_after, hafter, hcache]

/-- A request that was handed out before some operations, or in one of their outcomes, is handed out
wherever these outcomes come up. -/
theorem exists_requests_of_outcomes {r : Request}
    (outcomes : recent'.filterMap Event.outcome? = recent.filterMap Event.outcome?)
    (asked : ∃ e ∈ recent ++ h, r ∈ e.requests) : ∃ e ∈ recent' ++ h, r ∈ e.requests := by
  obtain ⟨e, he, hr⟩ := asked
  rcases List.mem_append.1 he with he | he
  · obtain ⟨rs, pending, hrs⟩ := Event.pending_of_mem_requests hr
    have hmem : Outcome.pending rs ∈ recent'.filterMap Event.outcome? := by
      rw [outcomes]
      exact List.mem_filterMap.2 ⟨e, he, pending⟩
    obtain ⟨e', he', pending'⟩ := List.mem_filterMap.1 hmem
    exact ⟨e', List.mem_append_left _ he', Event.mem_requests_of_pending pending' hrs⟩
  · exact ⟨e, List.mem_append_right _ he, hr⟩

/-- What comes next in one run can come next in another one that has come to the same outcomes and
the same cache, unless it is a check. -/
theorem Run.follow (run : v₀.Run (e :: (recent ++ h)) v) (run' : v₀.Run (recent' ++ h) v')
    (outcomes : recent'.filterMap Event.outcome? = recent.filterMap Event.outcome?)
    (cache : v'.cache = e.before.cache) (other : ¬ e.IsCheck) :
    ∃ e' v'', v₀.Run (e' :: (recent' ++ h)) v'' ∧ e'.operation = e.operation ∧
      e'.outcome? = e.outcome? ∧ v''.cache = v.cache := by
  have hgranted : ∀ r ∈ e.operation.request?, ∃ e' ∈ recent' ++ h, r ∈ e'.requests :=
    fun r hr => exists_requests_of_outcomes outcomes (run.granted r hr)
  have hjudge : v'.judge = e.before.judge := by rw [run'.judge_eq, run.tail.judge_eq]
  obtain ⟨houtcome, hafter⟩ :=
    Event.agrees_of_eq e ⟨v', e.operation⟩ rfl other hjudge cache
  refine ⟨⟨v', e.operation⟩, _, run'.next e.operation hgranted, rfl, houtcome, ?_⟩
  rw [run.eq_after]
  exact hafter

/-- **Loads may come at any time.** After some history, the operations of a run, which include no
check, can be carried out with other loads in between. The outcomes are the same, and so is the
cache at the end. The induction is on the operations with the other loads. -/
theorem Run.exists_run_of_operations {operations : List Operation} (run : v₀.Run (recent ++ h) v)
    (others : ∀ e ∈ recent, ¬ e.IsCheck)
    (same : operations.filter Operation.KeepsPolicy =
      (recent.map Event.operation).filter Operation.KeepsPolicy) :
    ∃ recent' v', v₀.Run (recent' ++ h) v' ∧ recent'.map Event.operation = operations ∧
      recent'.filterMap Event.outcome? = recent.filterMap Event.outcome? ∧
      v'.cache = v.cache := by
  induction operations generalizing recent v with
  | nil =>
    have hloads : ∀ e ∈ recent, ¬ e.operation.KeepsPolicy := by
      intro e he
      have hnone := List.filter_eq_nil_iff.1 same.symm e.operation (List.mem_map_of_mem he)
      simpa using hnone
    obtain ⟨hnone, v₁, run₁, hcache⟩ := run.exists_of_loads hloads
    exact ⟨[], v₁, run₁, rfl, hnone.symm, hcache.symm⟩
  | cons operation operations ih =>
    by_cases keeps : operation.KeepsPolicy
    · -- The operation is next in the first run as well, up to some loads.
      rw [List.filter_cons_of_pos (by simpa using keeps)] at same
      obtain ⟨front, back, hsplit, hfront, -, hback⟩ := List.filter_eq_cons_iff.1 same.symm
      obtain ⟨loads, rest, rfl, rfl, hrest⟩ := List.map_eq_append_iff.1 hsplit
      obtain ⟨e, tail, rfl, rfl, rfl⟩ := List.map_eq_cons_iff.1 hrest
      have hloads : ∀ e ∈ loads, ¬ e.operation.KeepsPolicy := by
        intro e he
        simpa using hfront e.operation (List.mem_map_of_mem he)
      rw [List.append_assoc] at run
      obtain ⟨hnone, v₁, run₁, hcache⟩ := run.exists_of_loads hloads
      obtain ⟨tail', v', run', hoperations, houtcomes, hcache'⟩ := ih run₁.tail
        (fun e' he' => others e' (by simp [he'])) hback.symm
      obtain ⟨e', v'', run'', hoperation, houtcome, hcache''⟩ :=
        run₁.follow run' houtcomes hcache' (others e (by simp))
      refine ⟨e' :: tail', v'', run'', ?_, ?_, hcache''.trans hcache.symm⟩
      · rw [List.map_cons, hoperation, hoperations]
      · rw [List.filterMap_append, hnone, List.nil_append, List.filterMap_cons,
          List.filterMap_cons, houtcome, houtcomes]
    · -- The operation is a load of the second run.
      rw [List.filter_cons_of_neg (by simpa using keeps)] at same
      obtain ⟨recent', v', run', rfl, houtcomes, hcache⟩ := ih run others same
      obtain ⟨hrequest, hquiet, hafter⟩ :=
        Event.quiet_of_not_keepsPolicy (e := ⟨v', operation⟩) keeps
      have hgranted : ∀ r ∈ operation.request?, ∃ e' ∈ recent' ++ h, r ∈ e'.requests := by
        rw [show operation.request? = none from hrequest]
        nofun
      refine ⟨⟨v', operation⟩ :: recent', _, run'.next operation hgranted, rfl, ?_, ?_⟩
      · rw [List.filterMap_cons, hquiet]
        exact houtcomes
      · rw [← hcache]
        exact hafter

/-- **A pending chain is isolated from loads, and failed loads are invisible.** Take any run of a new
validator, with whatever the cache holds at first.

- What follows after the last check, or after any event later than that, consists of answers to
  requests and of loads, if there are any. With any other loads in between instead, whether they
  succeed or fail, the same answers can be given, every outcome is the same, with all that is in the
  requests, and so is the cache that is left.
- A check that comes next is judged under the policy that was loaded last with success, or under
  the empty one if there is none. -/
theorem Run.isolated_from_loads {j : Judge} {cache : Cache} (run : (ofJudge j cache).Run h v) :
    (∀ recent earlier, h = recent ++ earlier → (∀ e ∈ recent, ¬ e.IsCheck) →
      ∀ operations : List Operation, operations.filter Operation.KeepsPolicy =
          (recent.map Event.operation).filter Operation.KeepsPolicy →
        (∃ recent' v', (ofJudge j cache).Run (recent' ++ earlier) v' ∧
          recent'.map Event.operation = operations) ∧
        ∀ recent' v', (ofJudge j cache).Run (recent' ++ earlier) v' →
          recent'.map Event.operation = operations →
            recent'.filterMap Event.outcome? = recent.filterMap Event.outcome? ∧
              v'.cache = v.cache) ∧
      v.policy = h.lastLoaded?.getD .empty ∧
      ∀ now packet step, (v.perform (.check now packet step)).1 =
        some (j.check now (h.lastLoaded?.getD .empty) packet step v.cache).1 := by
  have hpolicy : v.policy = h.lastLoaded?.getD .empty := run.policy_eq_lastLoaded
  refine ⟨?_, hpolicy, fun now packet step => ?_⟩
  · rintro recent earlier rfl others operations same
    obtain ⟨recent', v', run', hoperations, houtcomes, hcache⟩ :=
      run.exists_run_of_operations others same
    refine ⟨⟨recent', v', run', hoperations⟩, fun recent'' v'' run'' hoperations'' => ?_⟩
    obtain ⟨rfl, rfl⟩ := run''.eq_of_operations run' (hoperations''.trans hoperations.symm)
    exact ⟨houtcomes, hcache⟩
  · rw [← hpolicy, show j = v.judge from run.judge_eq.symm]
    rfl

end Validator

namespace Sample

/-- The packet is accepted as it was, with the same request on the way, if its policy is put in force
once more, or a load fails, instead of the policy being taken back. -/
theorem settled_isolated :
    start.Run [settled, answered, reloaded, checked, installed] settled.after ∧
      (∃ recent v, start.Run (recent ++ [checked, installed]) v ∧
        recent.map Event.operation = [settled.operation, .load (.error (.noData "site.conf")),
          .install policy, answered.operation]) ∧
      (∀ recent v, start.Run (recent ++ [checked, installed]) v →
        recent.map Event.operation = [settled.operation, .load (.error (.noData "site.conf")),
          .install policy, answered.operation] →
        recent.filterMap Event.outcome? = [.accepted, .pending [secondRequest]] ∧
          v.cache = settled.after.cache) ∧
      (settled.after.perform (.check 8 (.data packet) 0)).1 =
        some (judge.check 8 .empty (.data packet) 0 settled.after.cache).1 := by
  have run : (Validator.ofJudge judge .empty).Run [settled, answered, reloaded, checked, installed]
      settled.after := run_settled
  obtain ⟨hisolated, -, hcheck⟩ := run.isolated_from_loads
  have hothers : ∀ e ∈ [settled, answered, reloaded], ¬ e.IsCheck := by
    simp [settled, answered, reloaded, Event.IsCheck]
  obtain ⟨hexists, hall⟩ := hisolated [settled, answered, reloaded] [checked, installed] rfl hothers
    [settled.operation, .load (.error (.noData "site.conf")), .install policy, answered.operation]
    rfl
  exact ⟨run_settled, hexists, hall, hcheck 8 (.data packet) 0⟩

end Sample

end TrustSchema
