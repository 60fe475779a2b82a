import Mathlib.Data.List.Sort
import TrustSchema.Certificate.Keyring

/-!
# Names in ascending order

Components are compared byte by byte, and names component by component (`Name.Precedes`). Of two
where one leads the other the shorter one comes first. Different names are sorted strictly, and
there is only one way to put given names in strictly ascending order (`Name.eq_of_ascending`). So
the key names of a keyring, in this order, depend on nothing but which keys it has.
-/

namespace TrustSchema

/-- To compare lists element by element is to order them like words. -/
theorem compareLex_eq_lt_iff {α : Type} {cmp : α → α → Ordering} [Std.LawfulEqCmp cmp]
    {as bs : List α} :
    as.compareLex cmp bs = .lt ↔ List.Lex (fun a b => cmp a b = .lt) as bs := by
  induction as generalizing bs with
  | nil =>
    cases bs with
    | nil => exact iff_of_false nofun nofun
    | cons b bs => exact iff_of_true rfl .nil
  | cons a as ih =>
    cases bs with
    | nil => exact iff_of_false nofun nofun
    | cons b bs =>
      rw [List.compareLex_cons_cons, Ordering.then_eq_lt, Std.LawfulEqCmp.compare_eq_iff_eq, ih,
        List.cons_lex_cons_iff]

namespace Component

variable {c d : Component}

/-- One component comes before another one: at the first place where they differ it has the lower
byte, or it ends there. -/
def Precedes (c d : Component) : Prop := List.Lex (· < ·) c.bytes d.bytes

instance : Std.TransOrd Component :=
  inferInstanceAs (Std.TransCmp (compareOn Component.bytes))

instance : Std.LawfulEqOrd Component where
  eq_of_compare h := congrArg Component.mk (Std.LawfulEqOrd.eq_of_compare h)

theorem compare_eq_lt_iff : compare c d = .lt ↔ c.Precedes d := by
  have hbytes : (fun a b : UInt8 => compare a b = .lt) = (· < ·) := by
    funext a b
    exact propext Std.compare_eq_lt
  rw [Precedes, ← hbytes]
  exact compareLex_eq_lt_iff

end Component

namespace Name

variable {a b n : Name} {names names' : List Name}

/-- One name comes before another one: at the first place where they differ its component comes
before that of the other, or it ends there. -/
def Precedes (a b : Name) : Prop := List.Lex Component.Precedes a.components b.components

/-- Every name comes before all that stand behind it. -/
def Ascending (names : List Name) : Prop := names.Pairwise Precedes

instance : Std.TransOrd Name :=
  inferInstanceAs (Std.TransCmp (compareOn Name.components))

instance : Std.LawfulEqOrd Name where
  eq_of_compare h := congrArg Name.mk (Std.LawfulEqOrd.eq_of_compare h)

theorem compare_eq_lt_iff : compare a b = .lt ↔ a.Precedes b := by
  have hcomponents : (fun c d : Component => compare c d = .lt) = Component.Precedes := by
    funext c d
    exact propext Component.compare_eq_lt_iff
  rw [Precedes, ← hcomponents]
  exact compareLex_eq_lt_iff

instance : Std.Irrefl Precedes where
  irrefl a h := by
    have hself : compare a a = .eq := Std.ReflOrd.compare_self
    rw [compare_eq_lt_iff.2 h] at hself
    cases hself

instance : Std.Antisymm Precedes where
  antisymm a b hab hba := by
    have hlt := compare_eq_lt_iff.2 hab
    rw [Std.OrientedOrd.eq_swap, compare_eq_lt_iff.2 hba] at hlt
    cases hlt

/-- **Names in strictly ascending order are determined by which names they are.** -/
theorem eq_of_ascending (h : Ascending names) (h' : Ascending names')
    (hmem : ∀ n, n ∈ names ↔ n ∈ names') : names = names' :=
  List.Pairwise.eq_of_mem_iff h h' hmem

theorem sort_perm (names : List Name) : (sort names).Perm names := List.mergeSort_perm names _

/-- Different names are sorted strictly. -/
theorem ascending_sort (h : names.Nodup) : Ascending (sort names) := by
  have hsorted : (sort names).Pairwise fun a b => (compare a b).isLE :=
    List.pairwise_mergeSort (fun _ _ _ => Std.TransCmp.isLE_trans)
      (fun a b => by
        rw [Std.OrientedOrd.eq_swap (a := b)]
        cases compare a b <;> rfl) names
  have hdistinct : (sort names).Nodup := (sort_perm names).nodup_iff.2 h
  refine hsorted.imp₂ (fun a b hle hne => ?_) hdistinct
  rcases Ordering.isLE_iff_eq_lt_or_eq_eq.1 hle with hlt | heq
  · exact compare_eq_lt_iff.1 hlt
  · exact absurd (Std.LawfulEqOrd.eq_of_compare heq) hne

theorem Ascending.nodup (h : Ascending names) : names.Nodup := List.Pairwise.nodup h

/-- Names that can be put in strictly ascending order are sorted into this order. -/
theorem sort_eq_of_ascending (h : Ascending names') (hperm : names'.Perm names) :
    sort names = names' :=
  eq_of_ascending (ascending_sort (hperm.nodup_iff.1 h.nodup)) h fun _ =>
    (sort_perm names).mem_iff.trans hperm.mem_iff.symm

end Name

namespace Keyring

variable {k : Keyring} {cs : List Certificate} {n : Name}

/-- The key names of a keyring are in strictly ascending order. -/
theorem ascending_keyNames (k : Keyring) : Name.Ascending k.keyNames :=
  Name.ascending_sort k.distinct

/-- The names are those under which a certificate is found. -/
theorem mem_keyNames_iff : n ∈ k.keyNames ↔ ∃ c, k.find? n = some c := by
  rw [keyNames, (Name.sort_perm _).mem_iff, List.mem_map]
  constructor
  · rintro ⟨c, hc, rfl⟩
    exact ⟨c, find?_keyName_of_mem hc⟩
  · rintro ⟨c, hc⟩
    exact ⟨c, List.mem_of_find?_eq_some hc, keyName_of_find? hc⟩

/-- The last certificate with a key name is there if there is any. -/
theorem exists_last?_iff : (∃ c, last? cs n = some c) ↔ ∃ c ∈ cs, c.keyName = n := by
  rw [← Option.isSome_iff_exists, last?, List.getLast?_isSome, ne_eq, List.filter_eq_nil_iff]
  simp only [beq_iff_eq, not_forall, not_not, exists_prop]

/-- The order in which the certificates are listed does not matter. -/
theorem sort_eq_keyNames_of_perm (h : cs.Perm k.certificates) :
    Name.sort (cs.map Certificate.keyName) = k.keyNames :=
  Name.sort_eq_of_ascending k.ascending_keyNames ((Name.sort_perm _).trans (h.map _).symm)

end Keyring

end TrustSchema
