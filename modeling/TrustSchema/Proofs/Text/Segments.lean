import Mathlib.Data.List.TakeWhile
import TrustSchema.Proofs.Runs
import TrustSchema.Text.Blank
import TrustSchema.Text.Pieces

/-!
# Trimming and cutting texts

What is left when a text is trimmed, and which pieces it is cut into, can be said without going
through the text. A text is what was trimmed off on both sides and what is left in between, which
neither begins nor ends with white space (`trims_iff`). It is its pieces with the separator between
them, and there is no separator in a piece (`cuts_iff`).
-/

namespace TrustSchema.Text

/-! ## Trimming -/

/-- A text is another one with white space around it, all of which is left out. -/
structure Trims (cs trimmed : List Char) : Prop where
  around : ∃ before after, cs = before ++ trimmed ++ after ∧ (∀ c ∈ before, isBlank c) ∧
    ∀ c ∈ after, isBlank c
  first : ∀ c ∈ trimmed.head?, isBlank c = false
  last : ∀ c ∈ trimmed.getLast?, isBlank c = false

section Trimming

variable {cs trimmed before rest : List Char}

theorem trimStart_append_eq (hbefore : ∀ c ∈ before, isBlank c)
    (hrest : ∀ c ∈ rest.head?, isBlank c = false) : trimStart (before ++ rest) = rest :=
  dropWhile_append_eq hbefore hrest

theorem exists_append_trimStart (cs : List Char) :
    ∃ before, cs = before ++ trimStart cs ∧ ∀ c ∈ before, isBlank c :=
  ⟨cs.takeWhile isBlank, List.takeWhile_append_dropWhile.symm, fun _ => List.mem_takeWhile_imp⟩

/-- What is trimmed at its end is trimmed at the start of its reverse. -/
theorem exists_trim_append (cs : List Char) :
    ∃ after, trimStart cs = trim cs ++ after ∧ ∀ c ∈ after, isBlank c := by
  obtain ⟨after, hafter, hblank⟩ := exists_append_trimStart (trimStart cs).reverse
  refine ⟨after.reverse, ?_, fun c hc => hblank c (List.mem_reverse.1 hc)⟩
  rw [trim, ← List.reverse_append, ← hafter, List.reverse_reverse]

theorem trims_trim (cs : List Char) : Trims cs (trim cs) := by
  obtain ⟨before, hbefore, hblank⟩ := exists_append_trimStart cs
  obtain ⟨after, hafter, hblank'⟩ := exists_trim_append cs
  refine ⟨⟨before, after, ?_, hblank, hblank'⟩, fun c hc => ?_, fun c hc => ?_⟩
  · rw [List.append_assoc, ← hafter]
    exact hbefore
  · -- The first character that is left is the first one that is not trimmed at the start.
    have hfirst : c ∈ (trimStart cs).head? := by
      rw [hafter, List.head?_append, hc]
      rfl
    exact head_dropWhile_eq_false c hfirst
  · rw [trim, List.getLast?_reverse] at hc
    exact head_dropWhile_eq_false c hc

theorem Trims.eq_trim (h : Trims cs trimmed) : trimmed = trim cs := by
  obtain ⟨⟨before, after, rfl, hbefore, hafter⟩, hfirst, hlast⟩ := h
  cases trimmed with
  | nil =>
    -- The text is blank, and all of it is dropped at the start.
    have hblank : ∀ c ∈ before ++ [] ++ after, isBlank c := by
      intro c hc
      rw [List.append_nil, List.mem_append] at hc
      exact hc.elim (hbefore c) (hafter c)
    have hnil : trimStart (before ++ [] ++ after) = [] := List.dropWhile_eq_nil_iff.2 hblank
    rw [trim, hnil]
    rfl
  | cons d trimmed =>
    have hstart : trimStart (before ++ (d :: trimmed) ++ after) = d :: trimmed ++ after := by
      rw [List.append_assoc]
      exact trimStart_append_eq hbefore hfirst
    have hend : trimStart (d :: trimmed ++ after).reverse = (d :: trimmed).reverse := by
      rw [List.reverse_append]
      refine trimStart_append_eq (fun c hc => hafter c (List.mem_reverse.1 hc)) ?_
      rwa [List.head?_reverse]
    rw [trim, hstart, hend, List.reverse_reverse]

theorem trims_self (h : ∀ c ∈ cs, isBlank c = false) : Trims cs cs where
  around := ⟨[], [], (List.append_nil cs).symm, nofun, nofun⟩
  first := fun c hc => h c (List.mem_of_mem_head? hc)
  last := fun c hc => h c (List.mem_of_mem_getLast? hc)

/-- **Trimming leaves what stands between the white space on both sides.** -/
theorem trims_iff : Trims cs trimmed ↔ trimmed = trim cs :=
  ⟨Trims.eq_trim, fun h => h ▸ trims_trim cs⟩

end Trimming

/-! ## Cutting -/

/-- A text is cut into pieces: they have no separator in them, and with a separator between any two
they are the text. -/
structure Cuts (separator : Char) (cs : List Char) (ps : List (List Char)) : Prop where
  some_piece : ps ≠ []
  whole : ∀ p ∈ ps, separator ∉ p
  joined : [separator].intercalate ps = cs

section Cutting

variable {separator : Char} {cs rest : List Char} {ps : List (List Char)}

theorem pieces_eq_splitOn (separator : Char) (cs : List Char) :
    pieces separator cs = cs.splitOn separator := by
  induction cs with
  | nil => rfl
  | cons c cs ih =>
    rw [pieces, List.splitOn_cons_eq_if_modifyHead, ih]
    split
    · next h => rw [if_pos (beq_iff_eq.2 h)]
    · next h =>
      rw [if_neg (fun hc => h (beq_iff_eq.1 hc))]
      cases hsplit : cs.splitOn separator with
      | nil => exact absurd hsplit (List.splitOn_ne_nil separator cs)
      | cons p ps => rfl

theorem intercalate_cons (p : List Char) (ps : List (List Char)) :
    [separator].intercalate (p :: ps) = p ++ ps.flatMap (separator :: ·) := by
  induction ps generalizing p with
  | nil => simp
  | cons q ps ih =>
    rw [List.intercalate_cons_cons, ih, List.flatMap_cons, List.append_assoc]
    rfl

theorem not_mem_of_mem_pieces : ∀ p ∈ pieces separator cs, separator ∉ p := by
  induction cs with
  | nil => simp [pieces]
  | cons c cs ih =>
    rw [pieces]
    split
    · exact List.forall_mem_cons.2 ⟨List.not_mem_nil, ih⟩
    · next hc =>
      cases hp : pieces separator cs with
      | nil => exact absurd hp (pieces_ne_nil separator cs)
      | cons piece others =>
        rw [hp, List.forall_mem_cons] at ih
        refine List.forall_mem_cons.2 ⟨?_, ih.2⟩
        rw [List.mem_cons, not_or]
        exact ⟨fun heq => hc heq.symm, ih.1⟩

/-- **There is one way to cut a text into pieces.** -/
theorem cuts_iff : Cuts separator cs ps ↔ ps = pieces separator cs := by
  constructor
  · rintro ⟨hne, hwhole, rfl⟩
    rw [pieces_eq_splitOn, List.splitOn_intercalate separator hwhole hne]
  · rintro rfl
    exact ⟨pieces_ne_nil separator cs, not_mem_of_mem_pieces, intercalate_pieces separator cs⟩

end Cutting

end TrustSchema.Text
