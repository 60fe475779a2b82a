/-!
# Keywords

Keys and keywords of a configuration are compared without regard to ASCII case. Only the letters
`A` to `Z` are folded; every other character stands for itself.
-/

namespace TrustSchema.Text

/-- The text with `A` to `Z` replaced by `a` to `z`. -/
def lower (s : String) : String :=
  String.ofList (s.toList.map Char.toLower)

/-- Whether two texts are the same keyword: equal up to ASCII case. -/
def sameKeyword (a b : String) : Bool :=
  lower a == lower b

/-- The first entry of a table whose keyword, as `label` spells it, is `word`. -/
def keyword? {α : Type} (table : List α) (label : α → String) (word : String) : Option α :=
  table.find? fun a => sameKeyword (label a) word

theorem sameKeyword_iff {a b : String} : sameKeyword a b ↔ lower a = lower b := by
  simp [sameKeyword]

@[simp] theorem sameKeyword_refl (a : String) : sameKeyword a a := by
  simp [sameKeyword]

theorem sameKeyword_comm (a b : String) : sameKeyword a b = sameKeyword b a := by
  simp [sameKeyword, Bool.beq_comm]

/-- Where the keywords of a table are different and in lower case, the entry that is found is the one
that the word names. -/
theorem keyword?_eq_some_iff {α : Type} {table : List α} {label : α → String} {word : String}
    {a : α} (hlower : ∀ b ∈ table, lower (label b) = label b)
    (hinj : ∀ b ∈ table, ∀ c ∈ table, label b = label c → b = c) :
    keyword? table label word = some a ↔ a ∈ table ∧ lower word = label a := by
  unfold keyword?
  constructor
  · intro h
    have hmem := List.mem_of_find?_eq_some h
    have hsame : sameKeyword (label a) word := by simpa using List.find?_some h
    exact ⟨hmem, (sameKeyword_iff.1 hsame).symm.trans (hlower a hmem)⟩
  · rintro ⟨hmem, hword⟩
    have hsame : sameKeyword (label a) word :=
      sameKeyword_iff.2 ((hlower a hmem).trans hword.symm)
    have hfound : (table.find? fun b => sameKeyword (label b) word).isSome :=
      List.find?_isSome.2 ⟨a, hmem, hsame⟩
    obtain ⟨b, hb⟩ := Option.isSome_iff_exists.1 hfound
    have hmem' := List.mem_of_find?_eq_some hb
    have hsame' : sameKeyword (label b) word := by simpa using List.find?_some hb
    have hlabel : label b = label a :=
      (hlower b hmem').symm.trans ((sameKeyword_iff.1 hsame').trans hword)
    rw [hb, hinj b hmem' a hmem hlabel]

end TrustSchema.Text
