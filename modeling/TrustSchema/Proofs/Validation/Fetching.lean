import Mathlib.Order.Bounds.Basic
import Mathlib.Order.Nat
import TrustSchema.Proofs.Validation.History
import TrustSchema.Proofs.Validation.Recursion

/-!
# Fetching within the budget

A fetcher that is asked for a name again and again gives a sequence of answers, one for each call
(`Fetcher.answer`). A fetch goes along this sequence up to the first answer that is not a timeout,
and no further than its budget reaches: one call, and another one for each retry
(`Fetcher.fetch_eq_first`, `Fetcher.fetch_eq_last`). Nothing is assumed about the fetcher, which may
change its mind with each call.

The main statement, `Judge.fetches_within_budget`, says this of the request that a validation
answers next, together with what was asked for and with what becomes of a failure.
-/

namespace TrustSchema

variable {σ : Type}

/-- No answer came in time. -/
def IsTimeout (answer : Except FetchFailure Data) : Prop := ∃ name, answer = .error (.timeout name)

namespace Fetcher

variable (fetcher : Fetcher σ) (name : Name) (s : σ)

/-- The state of a fetcher that has been asked for a name a number of times. -/
def stateAfter : Nat → σ
  | 0 => s
  | calls + 1 => (fetcher name (stateAfter calls)).2

/-- The answers to calls for a name. The first one is number 1. -/
def answer (k : Nat) : Except FetchFailure Data :=
  (fetcher name (fetcher.stateAfter name s (k - 1))).1

/-- The calls that are not answered by a timeout. -/
def settledCalls : Set Nat := {k | 1 ≤ k ∧ ¬ IsTimeout (fetcher.answer name s k)}

/-- The fetcher that gives an infinite sequence of answers, whatever it is asked for. Its state
counts the calls. -/
def ofReplies (replies : Nat → Except FetchFailure Data) : Fetcher Nat := fun _ calls =>
  (replies (calls + 1), calls + 1)

variable {fetcher name s}

theorem answer_ofReplies (replies : Nat → Except FetchFailure Data) (k : Nat) (hk : 1 ≤ k) :
    (ofReplies replies).answer name 0 k = replies k := by
  have hstate : ∀ calls, (ofReplies replies).stateAfter name 0 calls = calls := by
    intro calls
    induction calls with
    | zero => rfl
    | succ calls ih => exact congrArg (· + 1) ih
  show replies ((ofReplies replies).stateAfter name 0 (k - 1) + 1) = replies k
  rw [hstate, Nat.sub_add_cancel hk]

/-! ## With a record -/

/-- The record holds the name once for each call. -/
theorem stateAfter_recording (record : List Name) (calls : Nat) :
    fetcher.recording.stateAfter name (record, s) calls =
      (record ++ List.replicate calls name, fetcher.stateAfter name s calls) := by
  induction calls with
  | zero => simp [stateAfter]
  | succ calls ih =>
    rw [stateAfter, ih, List.replicate_succ', ← List.append_assoc]
    rfl

theorem answer_recording (record : List Name) (k : Nat) :
    fetcher.recording.answer name (record, s) k = fetcher.answer name s k := by
  rw [answer, stateAfter_recording]
  rfl

/-! ## One fetch -/

/-- An answer that is not a timeout is final. -/
theorem fetch_of_not_isTimeout (h : ¬ IsTimeout (fetcher name s).1) (retries : Nat) :
    fetcher.fetch name retries s = fetcher name s := by
  cases retries with
  | zero => rfl
  | succ retries =>
    rw [fetch]
    split
    · next reason s' hcall => exact absurd ⟨reason, by rw [hcall]⟩ h
    · rfl

/-- A timeout costs one retry. -/
theorem fetch_of_isTimeout (h : IsTimeout (fetcher name s).1) (retries : Nat) :
    fetcher.fetch name (retries + 1) s = fetcher.fetch name retries (fetcher name s).2 := by
  obtain ⟨reason, h⟩ := h
  have hcall : fetcher name s = (.error (.timeout reason), (fetcher name s).2) := Prod.ext h rfl
  rw [fetch, hcall]

/-- **Timeouts are passed over one by one**, by induction on their number: behind them the fetch
goes on with what is left of the budget. -/
theorem fetch_of_timeouts {retries calls : Nat} (hcalls : calls ≤ retries)
    (h : ∀ k, 1 ≤ k → k ≤ calls → IsTimeout (fetcher.answer name s k)) :
    fetcher.fetch name retries s =
      fetcher.fetch name (retries - calls) (fetcher.stateAfter name s calls) := by
  induction calls with
  | zero => rfl
  | succ calls ih =>
    have hlast : IsTimeout (fetcher name (fetcher.stateAfter name s calls)).1 :=
      h (calls + 1) (Nat.le_add_left 1 calls) (Nat.le_refl _)
    have hleft : retries - calls = retries - (calls + 1) + 1 := by omega
    rw [ih (Nat.le_of_succ_le hcalls) fun k hk hle => h k hk (Nat.le_succ_of_le hle), hleft,
      fetch_of_isTimeout hlast]
    rfl

/-- Before the first call that is settled there are timeouts only. -/
theorem isTimeout_of_lt {k : Nat} (hk : ∀ i ∈ fetcher.settledCalls name s, k < i) :
    ∀ i, 1 ≤ i → i ≤ k → IsTimeout (fetcher.answer name s i) := by
  intro i hi hle
  by_contra htimeout
  have hlt := hk i ⟨hi, htimeout⟩
  omega

/-- Within the budget, the fetch ends with the first answer that is not a timeout. -/
theorem fetch_eq_first {retries k : Nat} (first : IsLeast (fetcher.settledCalls name s) k)
    (hk : k ≤ retries + 1) :
    fetcher.fetch name retries s = (fetcher.answer name s k, fetcher.stateAfter name s k) := by
  obtain ⟨⟨hpos, hsettled⟩, hleast⟩ := first
  obtain ⟨calls, rfl⟩ := Nat.exists_eq_add_of_le' hpos
  have htimeouts := isTimeout_of_lt (k := calls) fun i hi => hleast hi
  rw [fetch_of_timeouts (Nat.le_of_succ_le_succ hk) htimeouts]
  exact fetch_of_not_isTimeout hsettled _

/-- Where the budget ends first, so does the fetch, with the last timeout. -/
theorem fetch_eq_last {retries : Nat}
    (late : ∀ k, IsLeast (fetcher.settledCalls name s) k → retries + 1 < k) :
    IsTimeout (fetcher.answer name s (retries + 1)) ∧
      fetcher.fetch name retries s =
        (fetcher.answer name s (retries + 1), fetcher.stateAfter name s (retries + 1)) := by
  classical
  have htimeouts : ∀ i, 1 ≤ i → i ≤ retries + 1 → IsTimeout (fetcher.answer name s i) := by
    refine isTimeout_of_lt fun i hi => ?_
    have hfirst : IsLeast (fetcher.settledCalls name s) (Nat.find ⟨i, hi⟩) :=
      Nat.isLeast_find ⟨i, hi⟩
    exact Nat.lt_of_lt_of_le (late _ hfirst) (hfirst.2 hi)
  refine ⟨htimeouts _ (Nat.le_add_left 1 retries) (Nat.le_refl _), ?_⟩
  rw [fetch_of_timeouts (Nat.le_refl retries) fun i hi hle =>
    htimeouts i hi (Nat.le_succ_of_le hle), Nat.sub_self]
  rfl

end Fetcher

/-! ## The request that is answered next -/

/-- Where a fetch fails, so does the validation. -/
theorem Judge.settle_of_fetch_error {j : Judge} {now : Instant} {fetcher : Fetcher σ} {r : Request}
    {s : FetchState σ} {reason : FetchFailure} {state : σ} (name : Name) (queue : List Request)
    (h : fetcher.fetch r.certificateName r.retries s.fetcher = (.error reason, state)) :
    j.settle now fetcher name (r :: queue) s =
      (.error (.certificateUnresolved r.certificateName reason.message), ⟨s.cache, state⟩) := by
  have hanswer : j.answer now fetcher r s =
      (.rejected (.certificateUnresolved r.certificateName reason.message), ⟨s.cache, state⟩) :=
    answerBy_still.symm.trans (answerBy_of_refusal h rfl)
  rw [settle]
  split
  · next s' heq =>
    rw [hanswer] at heq
    cases heq
  · next reason' s' heq =>
    rw [hanswer] at heq
    cases heq
    rfl
  · next more s' heq =>
    rw [hanswer] at heq
    cases heq

/-- **Only timeouts are tried again, and only within the budget.** Take a request, and the answers
that a fetcher gives to calls for its certificate, whatever they are.

- Where the first answer that is not a timeout answers one of the calls that the retries allow, it
  is returned, after just the calls up to it.
- Otherwise all retries are used up, and the timeout that answers the last one is returned.
- Every call asks for the certificate of the request. If a failure is returned, the packet is
  rejected, because this certificate is unresolved, with the wording of the failure. -/
theorem Judge.fetches_within_budget (j : Judge) (now : Instant) (fetcher : Fetcher σ) (r : Request)
    (record : List Name) (s : σ) :
    let keyName := r.certificateName
    let fetched := fetcher.recording.fetch keyName r.retries (record, s)
    let after := fun calls =>
      (record ++ List.replicate calls keyName, fetcher.stateAfter keyName s calls)
    (∀ k, IsLeast (fetcher.settledCalls keyName s) k → k ≤ r.retries + 1 →
      fetched = (fetcher.answer keyName s k, after k)) ∧
    ((∀ k, IsLeast (fetcher.settledCalls keyName s) k → r.retries + 1 < k) →
      IsTimeout (fetcher.answer keyName s (r.retries + 1)) ∧
      fetched = (fetcher.answer keyName s (r.retries + 1), after (r.retries + 1))) ∧
    ∀ name queue cache reason state, fetched = (.error reason, state) →
      j.settle now fetcher.recording name (r :: queue) ⟨cache, (record, s)⟩ =
        (.error (.certificateUnresolved keyName reason.message), ⟨cache, state⟩) := by
  intro keyName fetched after
  have hanswers : fetcher.recording.answer keyName (record, s) = fetcher.answer keyName s :=
    funext fun k => Fetcher.answer_recording record k
  have hcalls : fetcher.recording.settledCalls keyName (record, s) =
      fetcher.settledCalls keyName s := by
    unfold Fetcher.settledCalls
    rw [hanswers]
  have hafter : ∀ calls, fetcher.recording.stateAfter keyName (record, s) calls = after calls :=
    fun calls => Fetcher.stateAfter_recording record calls
  refine ⟨fun k first hk => ?_, fun late => ?_, fun name queue cache reason state h => ?_⟩
  · rw [← hcalls] at first
    rw [← hanswers, ← hafter]
    exact Fetcher.fetch_eq_first first hk
  · rw [← hcalls] at late
    rw [← hanswers, ← hafter]
    exact Fetcher.fetch_eq_last late
  · exact settle_of_fetch_error (s := ⟨cache, (record, s)⟩) name queue h

namespace Sample

/-- Two timeouts, and then the news that there is no such certificate. -/
def slowReplies : Nat → Except FetchFailure Data
  | 1 | 2 => .error (.timeout (name [2]))
  | _ => .error (.notFound (name [2]))

def slowFetcher : Fetcher Nat := .ofReplies slowReplies

theorem slowReplies_first : IsLeast (slowFetcher.settledCalls (name [2]) 0) 3 := by
  have hreplies : ∀ k, 1 ≤ k → slowFetcher.answer (name [2]) 0 k = slowReplies k :=
    Fetcher.answer_ofReplies slowReplies
  have htimeout : ∀ k, 1 ≤ k → k ≤ 2 → IsTimeout (slowFetcher.answer (name [2]) 0 k) := by
    intro k hk hle
    refine ⟨name [2], (hreplies k hk).trans ?_⟩
    obtain rfl | rfl : k = 1 ∨ k = 2 := by omega
    · rfl
    · rfl
  refine ⟨⟨by decide, ?_⟩, fun k hk => ?_⟩
  · rintro ⟨n, hn⟩
    cases (hreplies 3 (by decide)).symm.trans hn
  · by_contra hlt
    exact hk.2 (htimeout k hk.1 (by omega))

/-- With one retry the second timeout is final, and with two the third answer. -/
theorem slowReplies_fetched :
    slowFetcher.recording.fetch (name [2]) 1 ([], 0) =
        (.error (.timeout (name [2])), ([name [2], name [2]], 2)) ∧
      slowFetcher.recording.fetch (name [2]) 2 ([], 0) =
        (.error (.notFound (name [2])), ([name [2], name [2], name [2]], 3)) ∧
      judge.settle 5 slowFetcher.recording packet.name [secondRequest] ⟨.empty, ([], 0)⟩ =
        (.error (.certificateUnresolved (name [2]) (FetchFailure.timeout (name [2])).message),
          ⟨.empty, ([name [2], name [2]], 2)⟩) := by
  obtain ⟨-, hlate, hfails⟩ := judge.fetches_within_budget 5 slowFetcher secondRequest [] 0
  obtain ⟨hfirst, -⟩ :=
    judge.fetches_within_budget 5 slowFetcher { secondRequest with retries := 2 } [] 0
  have htwo := (hlate fun k hk => by rw [hk.unique slowReplies_first]; decide).2
  exact ⟨htwo, hfirst 3 slowReplies_first (by decide), hfails _ _ _ _ _ htwo⟩

end Sample

end TrustSchema
