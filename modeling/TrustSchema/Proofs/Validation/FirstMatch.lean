import Mathlib.Logic.Relation
import TrustSchema.Proofs.Validation.History

/-!
# The first match decides

A policy keeps its rules in two lists, one for each kind of packets, and looks for the first one
that covers a packet, by the first of its filters that matches; in this rule it looks for the first
checker for the type of the signature. This module says that all this amounts to one list, in the
order in which it was written (`Policy.ruleFor?_ofRules`), and that a judgement depends on nothing
but what is found:

- `Policy.decider?`: the first checker of the first rule. Policies with the same anchors and the
  same decider for a packet come to the same verdict about it (`Judge.judge_congr`).
- `Rule.Revises`: a change of the rules behind what is found, in the list or in the rule, or among
  the rules for the other kind of packets. No such change can be seen (`Rule.Revises.decider?_eq`).

The outcome of a check is the same under both policies, but that a request carries the policy that
it was made under (`Outcome.withPolicy`).
-/

namespace TrustSchema

variable {p : SignedPacket} {rules rules' : List Rule} {anchors : Keyring} {rule : Rule}

/-! ## Rules -/

/-- A rule covers a packet: it is for this kind of packets, and it has no filters, or one that
matches the signed name. -/
def Rule.Covers (rule : Rule) (p : SignedPacket) : Prop :=
  rule.kind = p.kind ∧ (rule.filters = [] ∨ ∃ f ∈ rule.filters, f.matchesName p.signedName)

theorem Rule.covers_iff : rule.covers p ↔ rule.Covers p := by
  unfold covers Covers
  rw [Bool.and_eq_true, Bool.or_eq_true, beq_iff_eq, List.isEmpty_iff, List.any_eq_true]
  exact and_congr_left' eq_comm

/-- The rules that follow each other in one list are looked through in their order. -/
theorem Policy.ruleFor?_ofRules :
    (ofRules rules anchors).ruleFor? p = rules.find? fun rule => rule.covers p := by
  have hfilter : ∀ kind, p.kind = kind →
      (rules.filter fun rule => rule.kind == kind).find? (fun rule => rule.covers p) =
        rules.find? fun rule => rule.covers p := by
    rintro kind rfl
    rw [List.find?_filter]
    congr 1
    funext rule
    show decide ((rule.kind == p.kind) = true ∧ rule.covers p = true) = rule.covers p
    rw [Bool.eq_iff_iff, decide_eq_true_iff, and_iff_right_iff_imp]
    -- A rule for the other kind of packets does not cover the packet anyway.
    intro hcovers
    exact beq_iff_eq.2 (Rule.covers_iff.1 hcovers).1
  unfold ruleFor?
  cases hkind : p.kind with
  | data => exact hfilter .data hkind
  | interest => exact hfilter .interest hkind

/-- What decides about a packet: the first rule that covers it, by its id, and the first checker of
this rule for the type of the signature. -/
def Policy.decider? (policy : Policy) (p : SignedPacket) : Option (String × Option Checker) :=
  (policy.ruleFor? p).map fun rule => (rule.id, rule.checkerFor? p.signatureType)

/-- The rules are changed where a packet does not get to. -/
inductive Rule.Revises (p : SignedPacket) : List Rule → List Rule → Prop
  /-- Other rules follow a rule that covers the packet. -/
  | behind {before after after' : List Rule} {rule : Rule} (covering : rule.Covers p) :
      Revises p (before ++ rule :: after) (before ++ rule :: after')
  /-- Rules for the other kind of packets are inserted. -/
  | otherKind {before inserted after : List Rule} (other : ∀ rule ∈ inserted, rule.kind ≠ p.kind) :
      Revises p (before ++ after) (before ++ inserted ++ after)
  /-- In one rule, other checkers follow a checker for the type of the signature. -/
  | checkers {before after : List Rule} {rule : Rule} {front back back' : List Checker}
      {checker : Checker} (split : rule.checkers = front ++ checker :: back)
      (suitable : checker.isFor p.signatureType) :
      Revises p (before ++ rule :: after)
        (before ++ { rule with checkers := front ++ checker :: back' } :: after)

/-- What follows a rule that is found does not matter. -/
theorem find?_append_cons_congr {α : Type} (f : α → Bool) {before after after' : List α} {a : α}
    (h : f a) : (before ++ a :: after).find? f = (before ++ a :: after').find? f := by
  rw [List.find?_append, List.find?_append, List.find?_cons_of_pos h, List.find?_cons_of_pos h]

/-- **What follows the first match cannot be seen.** -/
theorem Rule.Revises.decider?_eq (h : Rule.Revises p rules rules') :
    (Policy.ofRules rules' anchors).decider? p = (Policy.ofRules rules anchors).decider? p := by
  unfold Policy.decider?
  rw [Policy.ruleFor?_ofRules, Policy.ruleFor?_ofRules]
  cases h with
  | @behind before after after' rule covering =>
    have hcovers : rule.covers p := Rule.covers_iff.2 covering
    rw [find?_append_cons_congr (fun rule : Rule => rule.covers p) hcovers]
  | @otherKind before inserted after other =>
    have hnone : inserted.find? (fun rule => rule.covers p) = none := by
      rw [List.find?_eq_none]
      intro rule hrule hcovers
      exact other rule hrule (Rule.covers_iff.1 hcovers).1
    rw [List.append_assoc, List.find?_append, List.find?_append, List.find?_append, hnone]
    rfl
  | @checkers before after rule front back back' checker split suitable =>
    -- The rule covers what it covered, and finds the checker that it found.
    have hcovers : { rule with checkers := front ++ checker :: back' }.covers p =
        rule.covers p := rfl
    have hchecker : { rule with checkers := front ++ checker :: back' }.checkerFor?
        p.signatureType = rule.checkerFor? p.signatureType := by
      unfold Rule.checkerFor?
      rw [split]
      exact find?_append_cons_congr (fun c : Checker => c.isFor p.signatureType) suitable
    rw [List.find?_append, List.find?_append, List.find?_cons, List.find?_cons, hcovers]
    cases before.find? (fun rule => rule.covers p) with
    | some first => rfl
    | none =>
      cases rule.covers p with
      | false => rfl
      | true => exact congrArg (fun found => some (rule.id, found)) hchecker

/-! ## Judgements -/

/-- The outcome as it is under another policy: the requests carry this one instead. -/
def Outcome.withPolicy (policy : Policy) : Outcome → Outcome
  | .accepted => .accepted
  | .rejected reason => .rejected reason
  | .pending requests => .pending (requests.map fun r => { r with policy })

namespace Judge

variable {j : Judge} {now : Instant} {policy policy' : Policy} {step : Nat} {cache : Cache}

/-- **A judgement looks at the anchors and at what decides about the packet, and at nothing else of
a policy.** -/
theorem judge_congr (anchors : policy'.anchors = policy.anchors)
    (decider : policy'.decider? p = policy.decider? p) :
    j.judge now policy' p step cache = j.judge now policy p step cache := by
  have hsignature : j.judgeSignature now policy' p cache = j.judgeSignature now policy p cache := by
    unfold judgeSignature
    rw [anchors]
  unfold Policy.decider? at decider
  unfold judge
  cases j.overLimit? step with
  | some reason => rfl
  | none =>
    cases hrule : policy.ruleFor? p with
    | none =>
      rw [hrule, Option.map_none, Option.map_eq_none_iff] at decider
      rw [decider]
    | some rule =>
      -- The rule may be another one, but its checker is not, nor its id, which stands in a refusal.
      rw [hrule, Option.map_some, Option.map_eq_some_iff] at decider
      obtain ⟨rule', hrule', heq⟩ := decider
      obtain ⟨hid, hchecker⟩ := Prod.mk.inj heq
      have hcheck : rule'.check j.verifier p = rule.check j.verifier p := by
        unfold Rule.check
        rw [hid, hchecker]
      rw [hrule']
      dsimp only
      rw [hcheck, hsignature]

theorem withPolicy_outcome (waiting : List SignedPacket) (verdict : Verdict) :
    (j.outcome policy waiting step verdict).withPolicy policy' =
      j.outcome policy' waiting step verdict := by
  cases verdict <;> rfl

/-- A check comes to the same under both policies, and leaves the same cache. -/
theorem check_congr {packet : Packet} (anchors : policy'.anchors = policy.anchors)
    (decider : ∀ p, SignedPacket.ofPacket packet = .ok p → policy'.decider? p = policy.decider? p) :
    j.check now policy' packet step cache =
      ((j.check now policy packet step cache).1.withPolicy policy',
        (j.check now policy packet step cache).2) := by
  unfold check
  cases j.overLimit? step with
  | some reason => rfl
  | none =>
    cases hread : SignedPacket.ofPacket packet with
    | error reason => rfl
    | ok p =>
      dsimp only
      rw [judge_congr anchors (decider p hread), withPolicy_outcome]

end Judge

/-- **The first match decides, and nothing after it matters.** For all rules, of both kinds, in one
list:

- The rule for a packet is the first one in the list that covers it, which is to say that it is for
  the kind of the packet, and has no filters or one that matches the signed name. There is none if
  and only if no rule covers the packet.
- Any number of changes behind the first match (`Rule.Revises`) leave every check of the packet as
  it is, at any time and step and with any cache, and so the cache that it leaves. Only the policy
  that goes with a request is another one. An interest without a signature is not read as any
  packet, and refused under every policy. -/
theorem Policy.first_match_decides (rules : List Rule) (anchors : Keyring) (p : SignedPacket) :
    (∀ rule, (ofRules rules anchors).ruleFor? p = some rule ↔
      ∃ before after, rules = before ++ rule :: after ∧ rule.Covers p ∧
        ∀ earlier ∈ before, ¬ earlier.Covers p) ∧
      ((ofRules rules anchors).ruleFor? p = none ↔ ∀ rule ∈ rules, ¬ rule.Covers p) ∧
      ∀ rules', Relation.ReflTransGen (Rule.Revises p) rules rules' →
        ∀ (v : Validator) (now : Instant) (packet : Packet) (step : Nat),
          (∀ p', SignedPacket.ofPacket packet = .ok p' → p' = p) →
            ((v.install (ofRules rules' anchors)).check now packet step).1 =
                ((v.install (ofRules rules anchors)).check now packet step).1.withPolicy
                  (ofRules rules' anchors) ∧
              ((v.install (ofRules rules' anchors)).check now packet step).2.cache =
                ((v.install (ofRules rules anchors)).check now packet step).2.cache := by
  refine ⟨fun rule => ?_, ?_, fun rules' revised v now packet step read => ?_⟩
  · rw [ruleFor?_ofRules, List.find?_eq_some_iff_append]
    simp only [← Rule.covers_iff]
    constructor
    · rintro ⟨hcovers, before, after, hsplit, hbefore⟩
      exact ⟨before, after, hsplit, hcovers, fun r hr => by simpa using hbefore r hr⟩
    · rintro ⟨before, after, hsplit, hcovers, hbefore⟩
      exact ⟨hcovers, before, after, hsplit, fun r hr => by simpa using hbefore r hr⟩
  · rw [ruleFor?_ofRules, List.find?_eq_none]
    simp only [← Rule.covers_iff]
  · -- Each change leaves what decides as it is, so any number of them does.
    have hdecider : (ofRules rules' anchors).decider? p = (ofRules rules anchors).decider? p := by
      induction revised with
      | refl => rfl
      | tail _ last ih => exact last.decider?_eq.trans ih
    have hcheck : v.judge.check now (ofRules rules' anchors) packet step v.cache =
        ((v.judge.check now (ofRules rules anchors) packet step v.cache).1.withPolicy
            (ofRules rules' anchors),
          (v.judge.check now (ofRules rules anchors) packet step v.cache).2) := by
      refine Judge.check_congr rfl fun p' read' => ?_
      rw [read p' read']
      exact hdecider
    have hcache := congrArg Prod.snd hcheck
    exact ⟨congrArg Prod.fst hcheck, hcache⟩

namespace Sample

/-- The rule of the policy. -/
def anyRule : Rule := ⟨"any", .data, [], [.customized .ecdsaSha256 none]⟩

/-- A stricter checker behind the one that it has. -/
def stricterRule : Rule :=
  ⟨"any", .data, [], [.customized .ecdsaSha256 none, .hierarchical .ecdsaSha256]⟩

def interestRule : Rule := ⟨"asked", .interest, [], [.hierarchical .ecdsaSha256]⟩

def hopelessRule : Rule := ⟨"never", .data, [], []⟩

def longerRules : List Rule := [interestRule, stricterRule, hopelessRule]

theorem longerRules_revised : Relation.ReflTransGen (Rule.Revises (.data packet)) [anyRule]
    longerRules := by
  have hchecker : Rule.Revises (.data packet) [anyRule] [stricterRule] :=
    @Rule.Revises.checkers _ [] [] anyRule [] [] [.hierarchical .ecdsaSha256] _ rfl rfl
  have hbehind : Rule.Revises (.data packet) [stricterRule] [stricterRule, hopelessRule] :=
    @Rule.Revises.behind _ [] [] [hopelessRule] stricterRule ⟨rfl, Or.inl rfl⟩
  have hinserted : Rule.Revises (.data packet) [stricterRule, hopelessRule] longerRules :=
    @Rule.Revises.otherKind _ [] [interestRule] [stricterRule, hopelessRule] (by decide)
  exact ((Relation.ReflTransGen.single hchecker).tail hbehind).tail hinserted

/-- The packet waits for the same certificate as it did. -/
theorem packet_waits_under_longerRules :
    Relation.ReflTransGen (Rule.Revises (.data packet)) [anyRule] longerRules ∧
      (∀ p, SignedPacket.ofPacket (.data packet) = .ok p → p = .data packet) ∧
      (((start.install (.ofRules longerRules policy.anchors)).check 5 (.data packet) 0).1 =
        .pending [{ firstRequest with policy := .ofRules longerRules policy.anchors }]) := by
  have read : ∀ p, SignedPacket.ofPacket (.data packet) = .ok p → p = .data packet :=
    fun p hp => (Except.ok.inj hp).symm
  obtain ⟨-, -, hsame⟩ := Policy.first_match_decides [anyRule] policy.anchors (.data packet)
  have hcheck := (hsame longerRules longerRules_revised start 5 (.data packet) 0 read).1
  exact ⟨longerRules_revised, read, hcheck⟩

end Sample

end TrustSchema
