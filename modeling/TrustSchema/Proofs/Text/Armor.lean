import Mathlib.Data.List.Chain
import TrustSchema.Proofs.Text.Base64
import TrustSchema.Text.Armor

/-!
# Armored blocks are read back

What is written as an armored block is read as this block, if its tag is not empty and has no dash
in it (`Armor.decode_encode`).

The reader searches for its markers without ever going back. It finds a marker where it stands if
the first character of the marker does not occur before (`cutAt_append`), and only where it stands
(`cutAt_eq_none`). The latter matters for the empty line that would end headers: there is none among
the lines of the data, as each of them begins with a symbol (`isChain_wrap`).
-/

namespace TrustSchema.Text.Armor

/-! ## Searching -/

section Searching

variable {marker pending front text passed rest : List Char} {m : Char} {ms : List Char}

theorem seek_self (marker pending rest : List Char) :
    seek marker pending (pending ++ rest) = some (pending, rest) := by
  induction pending with
  | nil => rw [List.nil_append, seek]
  | cons c pending ih =>
    rw [List.cons_append, seek, if_pos rfl, ih]
    rfl

/-- A marker is found behind characters that it does not begin with. -/
theorem seek_append (hfront : m ∉ front) (ms rest : List Char) :
    seek (m :: ms) (m :: ms) (front ++ (m :: ms ++ rest)) = some (front ++ m :: ms, rest) := by
  induction front with
  | nil => exact seek_self (m :: ms) (m :: ms) rest
  | cons c front ih =>
    obtain ⟨hc, hfront⟩ := List.ne_and_not_mem_of_not_mem_cons hfront
    rw [List.cons_append, seek, if_neg hc.symm, ih hfront]
    rfl

/-- What is found is there. -/
theorem isInfix_of_seek {done : List Char} (h : seek marker pending text = some (passed, rest))
    (hdone : marker = done ++ pending) : marker <:+: done ++ text := by
  induction text generalizing pending passed rest done with
  | nil =>
    cases pending with
    | nil =>
      subst hdone
      exact List.infix_rfl
    | cons => cases h
  | cons c text ih =>
    cases pending with
    | nil =>
      rw [hdone, List.append_nil]
      exact (List.prefix_append done _).isInfix
    | cons d pending =>
      rw [seek] at h
      obtain ⟨⟨passed', rest'⟩, hseek, -⟩ := Option.map_eq_some_iff.1 h
      split at hseek
      · next hc =>
        subst hc
        have hfound : marker <:+: done ++ [c] ++ text :=
          ih hseek (by rw [hdone, List.append_assoc, List.singleton_append])
        rw [List.append_assoc, List.singleton_append] at hfound
        exact hfound
      · have hfound : marker <:+: [] ++ text := ih hseek rfl
        exact hfound.trans ((List.suffix_cons c text).trans (List.suffix_append done _)).isInfix

theorem cutAt_append {marker : String} (hmarker : marker.toList.head? = some '-')
    (hfront : '-' ∉ front) (rest : List Char) :
    cutAt marker (front ++ (marker.toList ++ rest)) = some (front, rest) := by
  obtain ⟨ms, hmarker⟩ := List.head?_eq_some_iff.1 hmarker
  unfold cutAt
  rw [← String.length_toList, hmarker, seek_append hfront]
  simp

theorem cutAt_eq_none {marker : String} (h : ¬ marker.toList <:+: text) :
    cutAt marker text = none := by
  unfold cutAt
  rw [Option.map_eq_none_iff]
  cases hseek : seek marker.toList marker.toList text with
  | none => rfl
  | some found => exact absurd (isInfix_of_seek hseek (List.nil_append _).symm) h

end Searching

/-! ## Lines -/

section Lines

variable {width : Nat} {text : List Char} {c : Char}

theorem mem_of_mem_wrap (h : c ∈ wrap width text) : c ∈ text ∨ c ∈ lineEnd := by
  fun_induction wrap width text with
  | case1 => cases h
  | case2 text hsome ih =>
    rcases List.mem_append.1 h with h | h
    · exact (List.mem_append.1 h).imp_left List.mem_of_mem_take
    · exact (ih h).imp_left List.mem_of_mem_drop

theorem head?_wrap (hwidth : width ≠ 0) : (wrap width text).head? = text.head? := by
  unfold wrap
  split
  · next hnone =>
    rw [hnone.resolve_left hwidth]
  · next hsome =>
    obtain ⟨c, text, rfl⟩ := List.exists_cons_of_ne_nil fun hnil => hsome (Or.inr hnil)
    obtain ⟨width, rfl⟩ := Nat.exists_eq_succ_of_ne_zero hwidth
    rfl

/-- The line ends are all that writing in lines adds. -/
theorem dropBlanks_wrap (hwidth : width ≠ 0) (hblank : ∀ c ∈ text, isBlank c = false) :
    dropBlanks (wrap width text) = text := by
  fun_induction wrap width text with
  | case1 text hnone =>
    rw [hnone.resolve_left hwidth]
    rfl
  | case2 text hsome ih =>
    have hdrop := ih fun c hc => hblank c (List.mem_of_mem_drop hc)
    have htake : dropBlanks (text.take width) = text.take width :=
      List.filter_eq_self.2 fun c hc => by rw [hblank c (List.mem_of_mem_take hc)]; rfl
    have hend : dropBlanks lineEnd = [] := by decide
    unfold dropBlanks at *
    rw [List.filter_append, List.filter_append, hdrop, htake, hend, List.append_nil,
      List.take_append_drop]

/-- A newline is followed by no white space. -/
def Continues (a b : Char) : Prop := a = '\n' → isBlank b = false

/-- Every line begins with a character of the text. -/
theorem isChain_wrap (hwidth : width ≠ 0) (hblank : ∀ c ∈ text, isBlank c = false) :
    (wrap width text).IsChain Continues := by
  fun_induction wrap width text with
  | case1 => exact .nil
  | case2 text hsome ih =>
    have hnewline : ∀ c ∈ text.take width, c ≠ '\n' := by
      rintro c hc rfl
      cases hblank _ (List.mem_of_mem_take hc)
    have hdrop : ∀ c ∈ text.drop width, isBlank c = false := fun c hc =>
      hblank c (List.mem_of_mem_drop hc)
    have htake : (text.take width).IsChain Continues :=
      (List.pairwise_of_forall_mem_list fun a ha b _ h => absurd h (hnewline a ha)).isChain
    have hend : lineEnd.IsChain Continues := by
      simp [lineEnd, Continues]
    refine List.isChain_append.2 ⟨List.isChain_append.2 ⟨htake, hend, ?_⟩, ih hdrop, ?_⟩
    · intro a ha b _ h
      exact absurd h (hnewline a (List.mem_of_getLast? ha))
    · intro a _ b hb _
      rw [head?_wrap hwidth] at hb
      exact hdrop b (List.mem_of_head? hb)

/-- There is no empty line among the lines of a text. -/
theorem not_isInfix_wrap {marker : List Char} (hwidth : width ≠ 0)
    (hblank : ∀ c ∈ text, isBlank c = false) (hmarker : ¬ marker.IsChain Continues) :
    ¬ marker <:+: wrap width text := by
  rintro ⟨front, behind, htext⟩
  have hchain := isChain_wrap hwidth hblank
  rw [← htext] at hchain
  exact hmarker hchain.left_of_append.right_of_append

end Lines

/-! ## Blocks -/

theorem isGap_eq_false {c : Char} (h : isBlank c = false) : isGap c = false := by
  cases hgap : isGap c with
  | false => rfl
  | true =>
    simp only [isGap, Bool.or_eq_true, beq_iff_eq] at hgap
    rcases hgap with ((rfl | rfl) | rfl) | rfl <;> cases h

theorem dropWhile_lineEnd {text : List Char} (h : ∀ c ∈ text.head?, isGap c = false) :
    (lineEnd ++ text).dropWhile isGap = text := by
  have hend : lineEnd.all isGap := by decide
  rw [List.dropWhile_append_of_pos (List.all_eq_true.1 hend)]
  cases text with
  | nil => rfl
  | cons c text => exact List.dropWhile_cons_of_neg (by simp [h c rfl])

section Blocks

variable {block : Block}

/-- The parts of a block are found where they are written. -/
theorem ofText?_encode (hdash : '-' ∉ block.tag.toList) :
    Parts.ofText? (encode block).toList = some ⟨block.tag.toList, [],
      wrap 64 ((Base64.encode block.contents).map Char.ofUInt8), block.tag.toList⟩ := by
  set data := (Base64.encode block.contents).map Char.ofUInt8
  have hdata : ∀ c ∈ data, isBlank c = false ∧ c ≠ '-' :=
    Base64.not_blank_of_mem_encode block.contents
  have hwrap : '-' ∉ wrap 64 data := by
    intro hmem
    rcases mem_of_mem_wrap hmem with hmem | hmem
    · exact (hdata _ hmem).2 rfl
    · revert hmem
      decide
  have htext : (encode block).toList = [] ++ ("-----BEGIN ".toList ++ (block.tag.toList ++
      ("-----".toList ++ (lineEnd ++ (wrap 64 data ++ ("-----END ".toList ++ (block.tag.toList ++
        ("-----".toList ++ lineEnd)))))))) := by
    unfold encode encode.boundary
    simp only [String.toList_ofList, String.toList_append, List.append_assoc]
    rfl
  have hgap : (lineEnd ++ (wrap 64 data ++ ("-----END ".toList ++ (block.tag.toList ++
      ("-----".toList ++ lineEnd))))).dropWhile isGap = wrap 64 data ++ ("-----END ".toList ++
        (block.tag.toList ++ ("-----".toList ++ lineEnd))) := by
    refine dropWhile_lineEnd fun c hc => ?_
    rw [List.head?_append, head?_wrap (by decide)] at hc
    rcases Option.or_eq_some_iff.1 hc with hc | ⟨-, hc⟩
    · exact isGap_eq_false (hdata c (List.mem_of_head? hc)).1
    · obtain rfl : c = '-' := (Option.some.inj hc).symm
      decide
  unfold Parts.ofText?
  rw [htext, cutAt_append (by decide) List.not_mem_nil, Option.bind_eq_bind, Option.bind_some]
  dsimp only
  rw [cutAt_append (by decide) hdash, Option.bind_some]
  dsimp only
  rw [hgap, cutAt_append (by decide) hwrap, Option.bind_some]
  dsimp only
  rw [cutAt_append (by decide) hdash, Option.bind_some]
  dsimp only
  have hblank : ∀ c ∈ data, isBlank c = false := fun c hc => (hdata c hc).1
  rw [cutAt_eq_none (not_isInfix_wrap (by decide) hblank (by unfold Continues; decide)),
    cutAt_eq_none (not_isInfix_wrap (by decide) hblank (by unfold Continues; decide))]
  rfl

/-- **An armored block is read back.** -/
theorem decode_encode (hne : block.tag ≠ "") (hdash : '-' ∉ block.tag.toList) :
    decode (encode block).toList = .ok block := by
  have hsome : block.tag.toList.isEmpty = false := by
    rw [List.isEmpty_eq_false_iff]
    exact fun hnil => hne (String.toList_eq_nil_iff.1 hnil)
  have hdata : Base64.decode (utf8 (dropBlanks
      (wrap 64 ((Base64.encode block.contents).map Char.ofUInt8)))) = .ok block.contents := by
    rw [dropBlanks_wrap (by decide) fun c hc =>
      (Base64.not_blank_of_mem_encode block.contents c hc).1]
    exact Base64.decode_utf8_eq_ok_iff.2 rfl
  unfold decode
  rw [ofText?_encode hdash]
  dsimp only
  rw [hsome, hdata, String.ofList_toList]
  simp only [Bool.false_eq_true, if_false, ne_eq, not_true_eq_false]
  rfl

end Blocks

end TrustSchema.Text.Armor
