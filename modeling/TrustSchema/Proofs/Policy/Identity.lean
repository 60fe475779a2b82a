import Mathlib.Data.List.TakeWhile
import TrustSchema.Policy.Checker
import TrustSchema.Proofs.Name.Prefix

/-!
# Identities and what they cover

Names of keys, and of the certificates that are filed under them, have a component `KEY`. What
stands before the first one is the identity of the key's owner, who is in charge of the names that
begin with it (`Checker.isAncestor_iff`).

The name of a certificate goes on behind the identity, so it is not obvious that who is in charge of
this name is in charge of the identity. It holds because an identity has no component `KEY` itself,
so it cannot reach past the first one (`Name.isPrefixOf_beforeMarker`).
-/

namespace TrustSchema

namespace Name

variable {a m n : Name}

/-- Whether the name has a component `KEY`. -/
def IsMarked (n : Name) : Prop := Component.keyMarker ∈ n.components

instance (n : Name) : Decidable n.IsMarked :=
  inferInstanceAs (Decidable (Component.keyMarker ∈ n.components))

/-- What stands before the first component `KEY`. -/
def beforeMarker (n : Name) : Name := ⟨n.components.takeWhile (· ≠ Component.keyMarker)⟩

/-- A marked name takes apart at its first `KEY`. -/
theorem IsMarked.exists_split (h : n.IsMarked) : ∃ before rest,
    n.components = before ++ Component.keyMarker :: rest ∧ Component.keyMarker ∉ before :=
  List.eq_append_cons_of_mem h

theorem beforeMarker_eq_of_split {before rest : List Component}
    (hsplit : n.components = before ++ Component.keyMarker :: rest)
    (hbefore : Component.keyMarker ∉ before) : n.beforeMarker = ⟨before⟩ := by
  have hne : ∀ c ∈ before, decide (c ≠ Component.keyMarker) = true := by
    intro c hc
    refine decide_eq_true fun heq => hbefore ?_
    rwa [← heq]
  rw [beforeMarker, hsplit, List.takeWhile_append_of_pos hne]
  simp

theorem not_isMarked_beforeMarker (n : Name) : ¬ n.beforeMarker.IsMarked := by
  intro h
  have hne := List.mem_takeWhile_imp (show Component.keyMarker ∈ n.components.takeWhile _ from h)
  exact of_decide_eq_true hne rfl

/-- What follows a marked name does not change what stands before the first `KEY`. -/
theorem IsMarked.beforeMarker_eq (h : m.IsMarked) (hm : m.isPrefixOf n) :
    n.beforeMarker = m.beforeMarker := by
  obtain ⟨before, rest, hsplit, hbefore⟩ := h.exists_split
  obtain ⟨more, hmore⟩ := isPrefixOf_iff.1 hm
  have hlonger : n.components = before ++ Component.keyMarker :: (rest ++ more) := by
    rw [hmore, hsplit, List.append_assoc, List.cons_append]
  rw [beforeMarker_eq_of_split hlonger hbefore, beforeMarker_eq_of_split hsplit hbefore]

/-- **An identity cannot reach past the first `KEY`**: a prefix of a name that is not marked itself
is a prefix of what stands before the first `KEY`. -/
theorem isPrefixOf_beforeMarker (ha : ¬ a.IsMarked) (h : a.isPrefixOf n) :
    a.isPrefixOf n.beforeMarker := by
  obtain ⟨rest, hrest⟩ := isPrefixOf_iff.1 h
  have hne : ∀ c ∈ a.components, decide (c ≠ Component.keyMarker) = true := by
    intro c hc
    refine decide_eq_true fun heq => ha ?_
    rwa [IsMarked, ← heq]
  refine isPrefixOf_iff.2 ⟨rest.takeWhile (· ≠ Component.keyMarker), ?_⟩
  rw [beforeMarker, hrest, List.takeWhile_append_of_pos hne]

/-- The owner of a marked key name is what stands before the first `KEY`, unless nothing does. -/
theorem IsMarked.keyOwner?_eq (h : n.IsMarked) :
    n.keyOwner? = if n.beforeMarker.isEmpty then none else some n.beforeMarker := by
  obtain ⟨before, rest, hsplit, hbefore⟩ := h.exists_split
  have hindex : n.components.idxOf? Component.keyMarker = some before.length := by
    rw [hsplit, List.idxOf?_eq_some_iff]
    refine ⟨by simp, by simp, fun i hi heq => hbefore ?_⟩
    rw [List.getElem_append_left hi] at heq
    rw [← heq]
    exact List.getElem_mem hi
  have htake : n.take before.length = n.beforeMarker := by
    rw [beforeMarker_eq_of_split hsplit hbefore, take_natCast, hsplit, List.take_left]
  rw [keyOwner?, hindex]
  simp only [htake]

end Name

/-- Where the key name is marked, its owner is in charge of a name exactly if there is something
before the first `KEY`, and the name begins with it. -/
theorem Checker.isAncestor_iff {keyName n : Name} (h : keyName.IsMarked) :
    Checker.isAncestor keyName n ↔
      keyName.beforeMarker.isEmpty = false ∧ keyName.beforeMarker.isPrefixOf n := by
  unfold isAncestor
  rw [h.keyOwner?_eq]
  cases keyName.beforeMarker.isEmpty with
  | true => simp
  | false => simp

end TrustSchema
