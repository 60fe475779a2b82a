/-!
# Sets of characters

A set of characters is given by the places, in the order of all code points, where membership
changes. Since these places are ascending, sets that have the same members are the same set, and
equality can be decided however many members there are. Surrogates are no characters, so no set of
characters holds them.

`contains_combine` gives the members of a combination of two sets; union, intersection and the other
operations are instances of it.
-/

namespace TrustSchema

/-- Whether numbers are ascending, from a least one on. -/
def AscendsFrom : Nat → List Nat → Prop
  | _, [] => True
  | low, b :: bs => low ≤ b ∧ AscendsFrom (b + 1) bs

theorem AscendsFrom.nil {low : Nat} : AscendsFrom low [] := trivial

theorem AscendsFrom.mono {low low' : Nat} {bs : List Nat} (h : AscendsFrom low bs)
    (hl : low' ≤ low) : AscendsFrom low' bs := by
  cases bs with
  | nil => exact .nil
  | cons b bs => exact ⟨Nat.le_trans hl h.1, h.2⟩

/-- A set of characters, by the code points at which membership changes: the first member, the first
one behind it that is no member, and so on. -/
structure CharSet where
  boundaries : List Nat
  ascending : AscendsFrom 0 boundaries
  deriving DecidableEq

namespace CharSet

/-- Whether a code point is inside, given where membership changes: it is if it has passed an odd
number of boundaries. -/
def isInside : List Nat → Nat → Bool
  | [], _ => false
  | b :: bs, n => decide (b ≤ n) && !isInside bs n

theorem isInside_eq_false {bs : List Nat} {low n : Nat} (h : AscendsFrom low bs) (hn : n < low) :
    isInside bs n = false := by
  cases bs with
  | nil => rfl
  | cons b bs => simp [isInside, show ¬b ≤ n from by have := h.1; omega]

/-- Whether a character is a member. -/
def contains (s : CharSet) (c : Char) : Bool := isInside s.boundaries c.toNat

/-! ## Combinations -/

/-- Keeps a place as a boundary if membership differs before and behind it. -/
def place (before after : Bool) (b : Nat) (bs : List Nat) : List Nat :=
  if before = after then bs else b :: bs

theorem ascendsFrom_place {before after : Bool} {b low : Nat} {bs : List Nat} (hb : low ≤ b)
    (h : AscendsFrom (b + 1) bs) : AscendsFrom low (place before after b bs) := by
  unfold place
  split
  · exact h.mono (by omega)
  · exact ⟨hb, h⟩

theorem isInside_place {before after : Bool} {b n : Nat} {bs : List Nat}
    (h : AscendsFrom (b + 1) bs) :
    isInside (place before after b bs) n =
      (decide (b ≤ n) && (before ^^ (after ^^ isInside bs n))) := by
  by_cases hb : b ≤ n
  · cases before <;> cases after <;> simp [place, isInside, hb]
  · have := isInside_eq_false h (by omega : n < b + 1)
    cases before <;> cases after <;> simp [place, isInside, hb, this]

/-- The boundaries of a combination. The two flags tell whether the place that is reached is inside
of either set. -/
def merge (f : Bool → Bool → Bool) (inS inT : Bool) : List Nat → List Nat → List Nat
  | [], [] => []
  | s :: ss, [] => place (f inS inT) (f (!inS) inT) s (merge f (!inS) inT ss [])
  | [], t :: ts => place (f inS inT) (f inS (!inT)) t (merge f inS (!inT) [] ts)
  | s :: ss, t :: ts =>
    if s < t then place (f inS inT) (f (!inS) inT) s (merge f (!inS) inT ss (t :: ts))
    else if t < s then place (f inS inT) (f inS (!inT)) t (merge f inS (!inT) (s :: ss) ts)
    else place (f inS inT) (f (!inS) (!inT)) s (merge f (!inS) (!inT) ss ts)
  termination_by ss ts => ss.length + ts.length

theorem ascendsFrom_merge {f : Bool → Bool → Bool} {inS inT : Bool} {ss ts : List Nat} {low : Nat}
    (hs : AscendsFrom low ss) (ht : AscendsFrom low ts) :
    AscendsFrom low (merge f inS inT ss ts) := by
  fun_induction merge f inS inT ss ts generalizing low <;>
    grind [AscendsFrom, ascendsFrom_place]

theorem isInside_merge {f : Bool → Bool → Bool} {inS inT : Bool} {ss ts : List Nat} {low n : Nat}
    (hs : AscendsFrom low ss) (ht : AscendsFrom low ts) :
    isInside (merge f inS inT ss ts) n =
      (f inS inT ^^ f (isInside ss n ^^ inS) (isInside ts n ^^ inT)) := by
  fun_induction merge f inS inT ss ts generalizing low with
  | case1 => simp [isInside]
  | case2 inS inT s ss ih =>
    rw [isInside_place (ascendsFrom_merge hs.2 .nil), ih hs.2 .nil]
    by_cases hb : s ≤ n <;> simp [isInside, hb]
  | case3 inS inT t ts ih =>
    rw [isInside_place (ascendsFrom_merge .nil ht.2), ih .nil ht.2]
    by_cases hb : t ≤ n <;> simp [isInside, hb]
  | case4 inS inT s ss t ts h ih =>
    have ht' : AscendsFrom (s + 1) (t :: ts) := ⟨h, ht.2⟩
    rw [isInside_place (ascendsFrom_merge hs.2 ht'), ih hs.2 ht']
    by_cases hb : s ≤ n
    · simp [isInside, hb]
    · simp [isInside, hb, show ¬t ≤ n by omega]
  | case5 inS inT s ss t ts _ h ih =>
    have hs' : AscendsFrom (t + 1) (s :: ss) := ⟨h, hs.2⟩
    rw [isInside_place (ascendsFrom_merge hs' ht.2), ih hs' ht.2]
    by_cases hb : t ≤ n
    · simp [isInside, hb]
    · simp [isInside, hb, show ¬s ≤ n by omega]
  | case6 inS inT s ss t ts _ _ ih =>
    have hst : s = t := by omega
    subst hst
    rw [isInside_place (ascendsFrom_merge hs.2 ht.2), ih hs.2 ht.2]
    by_cases hb : s ≤ n <;> simp [isInside, hb]

/-- The characters whose membership in two sets has a property; it must not hold of the characters
that are in neither. -/
def combine (f : Bool → Bool → Bool) (s t : CharSet) : CharSet :=
  ⟨merge f false false s.boundaries t.boundaries, ascendsFrom_merge s.ascending t.ascending⟩

@[simp]
theorem contains_combine {f : Bool → Bool → Bool} (hf : f false false = false) (s t : CharSet)
    (c : Char) : (combine f s t).contains c = f (s.contains c) (t.contains c) := by
  simp [combine, contains, isInside_merge s.ascending t.ascending, hf]

/-- The members of either set. -/
def union (s t : CharSet) : CharSet := combine (· || ·) s t

/-- The common members. -/
def inter (s t : CharSet) : CharSet := combine (· && ·) s t

/-- The members of the first set that are not in the second. -/
def diff (s t : CharSet) : CharSet := combine (fun a b => a && !b) s t

/-- The members of exactly one of the sets. -/
def symmDiff (s t : CharSet) : CharSet := combine (· ^^ ·) s t

theorem contains_union (s t : CharSet) (c : Char) :
    (s.union t).contains c = (s.contains c || t.contains c) :=
  contains_combine rfl s t c

theorem contains_inter (s t : CharSet) (c : Char) :
    (s.inter t).contains c = (s.contains c && t.contains c) :=
  contains_combine rfl s t c

theorem contains_diff (s t : CharSet) (c : Char) :
    (s.diff t).contains c = (s.contains c && !t.contains c) :=
  contains_combine rfl s t c

theorem contains_symmDiff (s t : CharSet) (c : Char) :
    (s.symmDiff t).contains c = (s.contains c ^^ t.contains c) :=
  contains_combine rfl s t c

/-! ## Particular sets -/

/-- The set without members. -/
def empty : CharSet := ⟨[], .nil⟩

@[simp]
theorem contains_empty (c : Char) : empty.contains c = false := rfl

/-- The set of all characters: all code points except the surrogates. -/
def all : CharSet := ⟨[0, 0xD800, 0xE000, 0x110000], by simp [AscendsFrom]⟩

theorem contains_all (c : Char) : all.contains c = true := by
  have hc := c.valid
  simp only [UInt32.isValidChar, Nat.isValidChar] at hc
  have hn : c.toNat = c.val.toNat := rfl
  simp only [contains, isInside, all, hn]
  grind

/-- The characters that are no members. -/
def complement (s : CharSet) : CharSet := all.diff s

theorem contains_complement (s : CharSet) (c : Char) :
    s.complement.contains c = !s.contains c := by
  simp [complement, contains_diff, contains_all]

/-- The characters from one code point to another, both included. -/
def run (low high : Nat) : CharSet :=
  if h : low ≤ high then all.inter ⟨[low, high + 1], by simp [AscendsFrom]; omega⟩ else empty

theorem contains_run (low high : Nat) (c : Char) :
    (run low high).contains c = (decide (low ≤ c.toNat) && decide (c.toNat ≤ high)) := by
  unfold run
  split
  · have hpast : isInside [high + 1] c.toNat = decide (high + 1 ≤ c.toNat) := Bool.and_true _
    have hnot : (!decide (high + 1 ≤ c.toNat)) = decide (c.toNat ≤ high) := by
      rw [← decide_not]
      exact decide_eq_decide.2 Nat.not_lt
    rw [contains_inter, contains_all, Bool.true_and, contains, isInside, hpast, hnot]
  · simp only [contains_empty, Bool.false_eq, Bool.and_eq_false_imp, decide_eq_true_eq,
      decide_eq_false_iff_not]
    omega

/-- Unites neighbours in a list of sets. -/
def pairUp : List CharSet → List CharSet
  | s :: t :: sets => s.union t :: pairUp sets
  | sets => sets

theorem length_pairUp_le (sets : List CharSet) : (pairUp sets).length ≤ sets.length := by
  fun_induction pairUp sets with
  | case1 s t sets ih => simp only [List.length_cons]; omega
  | case2 sets => exact Nat.le_refl _

theorem any_contains_pairUp (sets : List CharSet) (c : Char) :
    ((pairUp sets).any fun s => s.contains c) = sets.any fun s => s.contains c := by
  fun_induction pairUp sets with
  | case1 s t sets ih => simp [contains_union, ih, Bool.or_assoc]
  | case2 sets => rfl

/-- The union of a list of sets. Neighbours are united first, so that many small sets make few large
ones. -/
def unionAll : List CharSet → CharSet
  | [] => empty
  | [s] => s
  | s :: t :: sets => unionAll (s.union t :: pairUp sets)
  termination_by sets => sets.length
  decreasing_by
    have := length_pairUp_le sets
    simp only [List.length_cons]
    omega

theorem contains_unionAll (sets : List CharSet) (c : Char) :
    (unionAll sets).contains c = sets.any fun s => s.contains c := by
  fun_induction unionAll sets with
  | case1 => rfl
  | case2 s => simp
  | case3 s t sets ih => simp [ih, contains_union, any_contains_pairUp, Bool.or_assoc]

/-- The characters in some runs. -/
def ofRuns (runs : List (Nat × Nat)) : CharSet := unionAll (runs.map fun r => run r.1 r.2)

/-- The characters from one to another, both included. -/
def range (low high : Char) : CharSet := run low.toNat high.toNat

/-- The set with one member. -/
def single (c : Char) : CharSet := range c c

theorem contains_single (c d : Char) : (single c).contains d = (c == d) := by
  have h : c = d ↔ c.toNat = d.toNat := ⟨congrArg _, Char.toNat_inj.1⟩
  rw [single, range, contains_run, Bool.eq_iff_iff]
  simp only [Bool.and_eq_true, decide_eq_true_eq, beq_iff_eq, h]
  omega

/-- The characters of a text. -/
def ofText (s : String) : CharSet := unionAll (s.toList.map single)

/-- The only member of a set that has one. -/
def member? (s : CharSet) : Option Char :=
  match s.boundaries with
  | [low, past] => if low + 1 = past then some (Char.ofNat low) else none
  | _ => none

/-- Whether all members are ASCII characters. -/
def isAscii (s : CharSet) : Bool := s.boundaries.all fun b => b ≤ 128

end CharSet

end TrustSchema
