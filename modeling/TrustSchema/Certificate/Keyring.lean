import TrustSchema.Certificate.Basic

/-!
# Keyrings

A keyring holds certificates by key name, at most one for each. Every certificate is filed under its
own key name, so what is found under a name is a certificate for that name.

- `Keyring.find?_insert`: an inserted certificate replaces the one with its key name and no other.
- `Keyring.find?_insertAll`: of the certificates inserted with one key name the last is found.
-/

namespace TrustSchema

/-- Certificates with different key names. -/
structure Keyring where
  certificates : List Certificate
  distinct : (certificates.map Certificate.keyName).Nodup

namespace Keyring

/-- The keyring without certificates. -/
def empty : Keyring := ⟨[], List.nodup_nil⟩

instance : Inhabited Keyring := ⟨empty⟩

/-- The certificate with a key name. -/
def find? (k : Keyring) (keyName : Name) : Option Certificate :=
  k.certificates.find? fun c => c.keyName == keyName

/-- The keyring without the certificate with a key name. -/
def erase (k : Keyring) (keyName : Name) : Keyring where
  certificates := k.certificates.filter fun c => c.keyName != keyName
  distinct := k.distinct.sublist (List.filter_sublist.map _)

/-- The keyring with a certificate, in place of any with the same key name. -/
def insert (k : Keyring) (c : Certificate) : Keyring where
  certificates := c :: (k.erase c.keyName).certificates
  distinct := List.nodup_cons.2 ⟨by simp [erase], (k.erase c.keyName).distinct⟩

/-- The keyring with certificates inserted in order. -/
def insertAll (k : Keyring) (cs : List Certificate) : Keyring := cs.foldl insert k

/-- The keyring of some certificates; of those with one key name the last counts. -/
def ofList (cs : List Certificate) : Keyring := empty.insertAll cs

/-- The number of certificates. -/
def size (k : Keyring) : Nat := k.certificates.length

/-- Whether there are no certificates. -/
def isEmpty (k : Keyring) : Bool := k.certificates.isEmpty

/-- The key names in ascending order. -/
def keyNames (k : Keyring) : List Name := Name.sort (k.certificates.map Certificate.keyName)

/-- The certificates in ascending order of their key names. -/
def toList (k : Keyring) : List Certificate :=
  k.certificates.mergeSort fun a b => (compare a.keyName b.keyName).isLE

/-- What is found under a name has that key name. -/
theorem keyName_of_find? {k : Keyring} {n : Name} {c : Certificate} (h : k.find? n = some c) :
    c.keyName = n := by
  simpa using List.find?_some h

/-- A certificate that is there is found under its key name. -/
theorem find?_keyName_of_mem {k : Keyring} {c : Certificate} (h : c ∈ k.certificates) :
    k.find? c.keyName = some c := by
  obtain ⟨cs, distinct⟩ := k
  induction cs with
  | nil => cases h
  | cons d cs ih =>
    rw [List.map_cons, List.nodup_cons] at distinct
    unfold find?
    rcases List.mem_cons.1 h with rfl | h
    · simp
    · have hne : d.keyName ≠ c.keyName := fun heq => distinct.1 (heq ▸ List.mem_map_of_mem h)
      rw [List.find?_cons_of_neg (by simpa using hne)]
      exact ih distinct.2 h

theorem mem_certificates_iff {k : Keyring} {c : Certificate} :
    c ∈ k.certificates ↔ k.find? c.keyName = some c :=
  ⟨find?_keyName_of_mem, List.mem_of_find?_eq_some⟩

@[simp] theorem find?_empty (n : Name) : empty.find? n = none := rfl

theorem find?_erase (k : Keyring) (m n : Name) :
    (k.erase m).find? n = if m = n then none else k.find? n := by
  simp only [find?, erase, List.find?_filter]
  split
  · next h =>
    subst h
    simp
  · next h =>
    congr 1
    funext c
    by_cases hc : c.keyName = n
    · subst hc
      simp [Ne.symm h]
    · simp [hc]

theorem find?_insert (k : Keyring) (c : Certificate) (n : Name) :
    (k.insert c).find? n = if c.keyName = n then some c else k.find? n := by
  by_cases h : c.keyName = n
  · simp [find?, insert, h]
  · have he := find?_erase k c.keyName n
    simp only [find?, if_neg h] at he
    simp [find?, insert, h, he]

/-- The last certificate of a list with a key name. -/
def last? (cs : List Certificate) (keyName : Name) : Option Certificate :=
  (cs.filter fun c => c.keyName == keyName).getLast?

theorem last?_cons (c : Certificate) (cs : List Certificate) (n : Name) :
    last? (c :: cs) n = (last? cs n).or (if c.keyName = n then some c else none) := by
  unfold last?
  by_cases hc : c.keyName = n
  · simp [hc, List.getLast?_cons]
  · simp [hc]

theorem find?_insertAll (k : Keyring) (cs : List Certificate) (n : Name) :
    (k.insertAll cs).find? n = (last? cs n).or (k.find? n) := by
  induction cs generalizing k with
  | nil => rfl
  | cons c cs ih =>
    show ((k.insert c).insertAll cs).find? n = _
    rw [ih, find?_insert, last?_cons, Option.or_assoc]
    split <;> rfl

theorem find?_ofList (cs : List Certificate) (n : Name) : (ofList cs).find? n = last? cs n := by
  rw [ofList, find?_insertAll, find?_empty, Option.or_none]

theorem last?_append (cs ds : List Certificate) (n : Name) :
    last? (cs ++ ds) n = (last? ds n).or (last? cs n) := by
  unfold last?
  rw [List.filter_append, List.getLast?_append]

/-- Insertions add nothing but what is inserted. -/
theorem mem_of_mem_insertAll {k : Keyring} {cs : List Certificate} {c : Certificate}
    (h : c ∈ (k.insertAll cs).certificates) : c ∈ k.certificates ∨ c ∈ cs := by
  induction cs generalizing k with
  | nil => exact Or.inl h
  | cons d cs ih =>
    rcases ih (k := k.insert d) h with h | h
    · rcases List.mem_cons.1 h with rfl | h
      · exact Or.inr List.mem_cons_self
      · exact Or.inl (List.mem_filter.1 h).1
    · exact Or.inr (List.mem_cons_of_mem _ h)

theorem mem_of_mem_ofList {cs : List Certificate} {c : Certificate}
    (h : c ∈ (ofList cs).certificates) : c ∈ cs := by
  rcases mem_of_mem_insertAll h with h | h
  · cases h
  · exact h

/-- The certificate that is inserted last is there. -/
theorem ofList_ne_nil {cs : List Certificate} (h : cs ≠ []) : (ofList cs).certificates ≠ [] := by
  obtain ⟨before, last, rfl⟩ := (List.eq_nil_or_concat cs).resolve_left h
  rw [ofList, insertAll, List.concat_eq_append, List.foldl_append]
  exact List.cons_ne_nil _ _

end Keyring

end TrustSchema
