import Mathlib.Order.Defs.Unbundled
import TrustSchema.Policy.Relation

/-!
# Leading names

A name leads another one if its components come first in the other. There are three ways to say so:
by the test `Name.isPrefixOf`, by what is left behind the leading components, and by cutting the
longer name at the length of the shorter one (`Name.isPrefixOf_iff_take`). Names are partially
ordered in this way, with the root name as the least one.

Cutting takes a count of either sign, and looking up an index of either sign. What they mean is said
here in terms of the length alone (`Name.natCast_length_take`, `Name.get?_eq_some_iff`), without the
two cases in which they are computed. Everything else that works on names, such as relations between
names and the names of keys and their owners, goes through these operations.
-/

namespace TrustSchema

namespace Name

variable {a b c n : Name} {count count' index : Int} {component : Component}

/-! ## The order -/

theorem isPrefixOf_iff_isPrefix : a.isPrefixOf b ↔ a.components <+: b.components :=
  List.isPrefixOf_iff_prefix

theorem isPrefixOf_refl (n : Name) : n.isPrefixOf n :=
  isPrefixOf_iff_isPrefix.2 (List.prefix_refl _)

theorem isPrefixOf_trans (hab : a.isPrefixOf b) (hbc : b.isPrefixOf c) : a.isPrefixOf c :=
  isPrefixOf_iff_isPrefix.2
    ((isPrefixOf_iff_isPrefix.1 hab).trans (isPrefixOf_iff_isPrefix.1 hbc))

theorem length_le_of_isPrefixOf (h : a.isPrefixOf b) : a.length ≤ b.length :=
  (isPrefixOf_iff_isPrefix.1 h).length_le

/-- A name that leads another one and is not shorter is the same name. -/
theorem eq_of_isPrefixOf_of_length_le (h : a.isPrefixOf b) (hlength : b.length ≤ a.length) :
    a = b :=
  congrArg Name.mk ((isPrefixOf_iff_isPrefix.1 h).eq_of_length_le hlength)

theorem isPrefixOf_antisymm (hab : a.isPrefixOf b) (hba : b.isPrefixOf a) : a = b :=
  eq_of_isPrefixOf_of_length_le hab (length_le_of_isPrefixOf hba)

theorem root_isPrefixOf (n : Name) : root.isPrefixOf n :=
  isPrefixOf_iff.2 ⟨n.components, rfl⟩

theorem parent_isPrefixOf (n : Name) : n.parent.isPrefixOf n :=
  isPrefixOf_iff_isPrefix.2 (List.dropLast_prefix n.components)

/-- The root name is the only one that leads all names. -/
theorem isPrefixOf_all_iff : (∀ n : Name, a.isPrefixOf n) ↔ a = root := by
  constructor
  · intro h
    exact isPrefixOf_antisymm (h root) (root_isPrefixOf a)
  · rintro rfl n
    exact root_isPrefixOf n

theorem isPartialOrder_isPrefixOf : IsPartialOrder Name fun a b => a.isPrefixOf b where
  refl := isPrefixOf_refl
  trans _ _ _ := isPrefixOf_trans
  antisymm _ _ := isPrefixOf_antisymm

/-! ## Counts -/

/-- A count says how many components to take, or how many to leave out, as far as there are any. -/
theorem natCast_clampedCount (length : Nat) (count : Int) : (clampedCount length count : Int) =
    if 0 ≤ count then min count length else max (length + count) 0 := by
  unfold clampedCount
  split <;> split <;> omega

theorem clampedCount_le (length : Nat) (count : Int) : clampedCount length count ≤ length := by
  unfold clampedCount
  split <;> omega

/-- Leaving out some components and then others leaves out as many as both. -/
theorem clampedCount_clampedCount (length : Nat) (hcount : count < 0) (hcount' : count' < 0) :
    clampedCount (clampedCount length count) count' = clampedCount length (count + count') := by
  unfold clampedCount
  rw [if_pos hcount, if_pos hcount', if_pos (by omega)]
  omega

theorem length_take (n : Name) (count : Int) :
    (n.take count).length = clampedCount n.length count := by
  rw [take, length, List.length_take]
  exact Nat.min_eq_left (clampedCount_le _ _)

/-- How many components a count selects. -/
theorem natCast_length_take (n : Name) (count : Int) : ((n.take count).length : Int) =
    if 0 ≤ count then min count n.length else max (n.length + count) 0 := by
  rw [length_take, natCast_clampedCount]

theorem take_isPrefixOf (n : Name) (count : Int) : (n.take count).isPrefixOf n :=
  isPrefixOf_iff_isPrefix.2 (List.take_prefix _ _)

theorem take_natCast (n : Name) (k : Nat) : n.take k = ⟨n.components.take k⟩ := by
  have hcount : clampedCount n.length k = min k n.components.length :=
    if_neg (Int.not_lt.2 (Int.natCast_nonneg k))
  rw [take, hcount, ← List.take_eq_take_min]

/-- **A name leads another one exactly if this is what comes of cutting the other to its length.** -/
theorem isPrefixOf_iff_take : a.isPrefixOf b ↔ b.take a.length = a := by
  rw [isPrefixOf_iff_isPrefix, List.prefix_iff_eq_take, take_natCast, eq_comm]
  constructor
  · intro h
    exact congrArg Name.mk h
  · intro h
    exact congrArg Name.components h

theorem take_take_of_neg (n : Name) (hcount : count < 0) (hcount' : count' < 0) :
    (n.take count).take count' = n.take (count + count') := by
  have hfewer := clampedCount_le (clampedCount n.length count) count'
  rw [take, length_take, take, List.take_take, Nat.min_eq_left hfewer,
    clampedCount_clampedCount _ hcount hcount', take]

/-! ## Indices -/

/-- An index finds the component at its place, counted from the front or from the end. -/
theorem get?_eq_some_iff : n.get? index = some component ↔
    ∃ i : Nat, n.components[i]? = some component ∧
      ((i : Int) = index ∨ (i : Int) = n.length + index) := by
  have hbound : ∀ i : Nat, n.components[i]? = some component → i < n.length := fun i hi =>
    (List.getElem?_eq_some_iff.1 hi).1
  unfold get?
  constructor
  · intro h
    split at h
    · next hneg =>
      split at h
      · exact ⟨_, h, .inr (by omega)⟩
      · cases h
    · exact ⟨_, h, .inl (by omega)⟩
  · rintro ⟨i, hi, hplace⟩
    have hlt := hbound i hi
    split
    · next hneg =>
      have hindex : n.length - index.natAbs = i := by omega
      rw [if_pos (by omega), hindex, hi]
    · have hindex : index.toNat = i := by omega
      rw [hindex, hi]

theorem get?_eq_none_iff : n.get? index = none ↔ index < -n.length ∨ n.length ≤ index := by
  unfold get?
  split
  · next hneg =>
    split
    · rw [List.getElem?_eq_none_iff]
      show n.length ≤ n.length - index.natAbs ↔ _
      omega
    · exact iff_of_true rfl (by omega)
  · rw [List.getElem?_eq_none_iff]
    show n.length ≤ index.toNat ↔ _
    omega

end Name

/-! ## Relations -/

/-- One name leads another one strictly if it leads it and is not equal to it. -/
theorem NameRelation.holds_isStrictPrefixOf_iff {a b : Name} : isStrictPrefixOf.holds a b ↔
    isPrefixOf.holds a b ∧ ¬ equal.holds a b := by
  simp only [holds, Bool.and_eq_true, decide_eq_true_eq, beq_iff_eq]
  constructor
  · rintro ⟨hlength, hleads⟩
    refine ⟨hleads, ?_⟩
    rintro rfl
    exact Nat.lt_irrefl _ hlength
  · rintro ⟨hleads, hne⟩
    refine ⟨Nat.lt_of_not_le fun hlength => hne ?_, hleads⟩
    exact Name.eq_of_isPrefixOf_of_length_le hleads hlength

namespace Name

/-- **The operations on names agree with each other.**

- A name leads another one exactly if the other is this name with some components behind it, and
  exactly if it is what comes of cutting the other to its length. It leads it strictly exactly if
  the two are not equal besides.
- Leading is a partial order, and the root name is the only one that leads all names.
- For any count, what it selects leads the name. It has as many components as the count says, or all
  if there are fewer; if the count is negative, it lacks that many, or has none if there are fewer.
- An index finds the component at its place, where a negative one counts from the end, and nothing
  exactly if there is no such place.
- Leaving out components at the end and then others, by two negative counts, is leaving out as many
  as both. Nought is not negative; it selects no components. -/
theorem prefixes_agree :
    (∀ a b : Name,
      (a.isPrefixOf b ↔ ∃ rest, b.components = a.components ++ rest) ∧
      (a.isPrefixOf b ↔ b.take a.length = a) ∧
      (NameRelation.isStrictPrefixOf.holds a b ↔
        NameRelation.isPrefixOf.holds a b ∧ ¬ NameRelation.equal.holds a b) ∧
      (NameRelation.isPrefixOf.holds a b ↔ a.isPrefixOf b) ∧
      (NameRelation.equal.holds a b ↔ a = b)) ∧
    IsPartialOrder Name (fun a b => a.isPrefixOf b) ∧
    (∀ a : Name, (∀ n : Name, a.isPrefixOf n) ↔ a = .root) ∧
    ∀ n : Name,
      (∀ count : Int, (n.take count).isPrefixOf n ∧ ((n.take count).length : Int) =
        if 0 ≤ count then min count n.length else max (n.length + count) 0) ∧
      (∀ (index : Int) (component : Component), n.get? index = some component ↔
        ∃ i : Nat, n.components[i]? = some component ∧
          ((i : Int) = index ∨ (i : Int) = n.length + index)) ∧
      (∀ index : Int, n.get? index = none ↔ index < -n.length ∨ n.length ≤ index) ∧
      ∀ count count' : Int, count < 0 → count' < 0 →
        (n.take count).take count' = n.take (count + count') := by
  refine ⟨fun a b => ?_, isPartialOrder_isPrefixOf, fun a => isPrefixOf_all_iff, fun n => ?_⟩
  · exact ⟨isPrefixOf_iff, isPrefixOf_iff_take, NameRelation.holds_isStrictPrefixOf_iff, .rfl,
      beq_iff_eq⟩
  · exact ⟨fun count => ⟨take_isPrefixOf n count, natCast_length_take n count⟩,
      fun _ _ => get?_eq_some_iff, fun _ => get?_eq_none_iff, fun _ _ => take_take_of_neg n⟩

end Name

namespace Sample

/-- The name `/a/b/c`. -/
def spelled : Name := ⟨[⟨[97]⟩, ⟨[98]⟩, ⟨[99]⟩]⟩

/-- Two components are left out one by one. The least number of 64 bits leaves out all of them, and
there is nothing so far before the end. -/
theorem spelled_cut : (-1 : Int) < 0 ∧
    (spelled.take (-1)).take (-1) = spelled.take (-2) ∧
    spelled.take (-9223372036854775808) = .root ∧
    spelled.get? (-9223372036854775808) = none := by
  obtain ⟨-, -, hleast, hname⟩ := Name.prefixes_agree
  obtain ⟨hcount, -, hnone, hdrop⟩ := hname spelled
  refine ⟨by decide, hdrop (-1) (-1) (by decide) (by decide), ?_, (hnone _).2 (.inl (by decide))⟩
  have hlength : (spelled.take (-9223372036854775808)).length = 0 :=
    Int.ofNat_inj.1 (hcount (-9223372036854775808)).2
  exact congrArg Name.mk (List.length_eq_zero_iff.1 hlength)

end Sample

end TrustSchema
