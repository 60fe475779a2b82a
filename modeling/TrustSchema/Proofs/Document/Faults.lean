import TrustSchema.Proofs.Document.Composition
import TrustSchema.Proofs.Document.Lexemes

/-!
# Where a document is wrong

A token is out of place (`Document.Offends`) if it closes a block and none is open, if it opens a
block and no key stands before it, or if it is the first of three texts on a line; and the end of
the tokens is, if a block is open. All this is told by the symbols before, without reading any
entries. The reader, which follows the nesting and looks ahead over line ends, reports the first
token that is out of place (`Document.FirstFault`), with its line.

With the lines of tokens that is all there is to an error (`Document.errors_placed`).
-/

namespace TrustSchema.Document

open Token (lineBehind)

/-! ## Tokens out of place -/

/-- A key stands before this place that may have a block here: nothing but line ends follow it or
its value. -/
def KeyWaits (before : List Symbol) : Prop :=
  ∃ front text gap, before = front ++ .text text :: List.replicate gap .newline

/-- The next of some tokens is out of place behind some symbols, which shows on a line. `last` is
the line of the last token of all. -/
inductive Offends (last : Nat) (before : List Symbol) : List Token → ParseError → Prop
  | openBlock (inside : before.count .closing < before.count .opening) :
      Offends last before [] ⟨last, .openBlock⟩
  | unmatchedClosing {line : Nat} {behind : List Token}
      (outside : before.count .opening ≤ before.count .closing) :
      Offends last before (⟨.closing, line⟩ :: behind) ⟨line, .unmatchedClosing⟩
  | blockWithoutKey {line : Nat} {behind : List Token} (alone : ¬ KeyWaits before) :
      Offends last before (⟨.opening, line⟩ :: behind) ⟨line, .blockWithoutKey⟩
  | extraText {key value extra : String} {line line' line'' : Nat} {behind : List Token} :
      Offends last before
        (⟨.text key, line⟩ :: ⟨.text value, line'⟩ :: ⟨.text extra, line''⟩ :: behind)
        ⟨line, .extraText extra key⟩

/-- The first of some tokens that is out of place. -/
inductive FirstFault (last : Nat) : List Symbol → List Token → ParseError → Prop
  | here {before : List Symbol} {tokens : List Token} {e : ParseError}
      (offends : Offends last before tokens e) : FirstFault last before tokens e
  | later {before : List Symbol} {t : Token} {tokens : List Token} {e : ParseError}
      (fine : ∀ e', ¬ Offends last before (t :: tokens) e')
      (rest : FirstFault last (before ++ [t.symbol]) tokens e) :
      FirstFault last before (t :: tokens) e

section Faults

variable {last line : Nat} {before ss : List Symbol} {tokens rest : List Token}
  {e e' : ParseError}

theorem Offends.unique (h : Offends last before tokens e) (h' : Offends last before tokens e') :
    e = e' := by
  cases h <;> cases h' <;> rfl

/-- There is one first fault at most. -/
theorem FirstFault.unique (h : FirstFault last before tokens e)
    (h' : FirstFault last before tokens e') : e = e' := by
  induction h with
  | here offends =>
    cases h' with
    | here offends' => exact offends.unique offends'
    | later fine => exact absurd offends (fine _)
  | later fine _ ih =>
    cases h' with
    | here offends' => exact absurd offends' (fine _)
    | later _ rest' => exact ih rest'

/-- A fault shows on the line of a token, or on the line of the last one. -/
theorem FirstFault.line_eq (h : FirstFault last before tokens e) :
    e.line = last ∨ ∃ t ∈ tokens, e.line = t.line := by
  induction h with
  | here offends =>
    cases offends with
    | openBlock => exact .inl rfl
    | unmatchedClosing => exact .inr ⟨_, List.mem_cons_self, rfl⟩
    | blockWithoutKey => exact .inr ⟨_, List.mem_cons_self, rfl⟩
    | extraText => exact .inr ⟨_, List.mem_cons_self, rfl⟩
  | later _ _ ih =>
    rcases ih with hlast | ⟨t, ht, hline⟩
    · exact .inl hlast
    · exact .inr ⟨t, List.mem_cons_of_mem _ ht, hline⟩

/-! ## Passing over what is in place -/

theorem firstFault_cons_iff {t : Token} (fine : ∀ e', ¬ Offends last before (t :: tokens) e') :
    FirstFault last before (t :: tokens) e ↔ FirstFault last (before ++ [t.symbol]) tokens e := by
  constructor
  · rintro (offends | ⟨-, hrest⟩)
    · exact absurd offends (fine _)
    · exact hrest
  · exact .later fine

theorem firstFault_newline_iff : FirstFault last before (⟨.newline, line⟩ :: tokens) e ↔
    FirstFault last (before ++ [.newline]) tokens e :=
  firstFault_cons_iff nofun

theorem firstFault_closing_iff (h : before.count .closing < before.count .opening) :
    FirstFault last before (⟨.closing, line⟩ :: tokens) e ↔
      FirstFault last (before ++ [.closing]) tokens e := by
  refine firstFault_cons_iff fun e' hoffends => ?_
  cases hoffends with
  | unmatchedClosing outside => exact absurd h (Nat.not_lt.2 outside)

theorem firstFault_opening_iff (h : KeyWaits before) :
    FirstFault last before (⟨.opening, line⟩ :: tokens) e ↔
      FirstFault last (before ++ [.opening]) tokens e := by
  refine firstFault_cons_iff fun e' hoffends => ?_
  cases hoffends with
  | blockWithoutKey alone => exact absurd h alone

/-- A text is in place if not two more follow. -/
theorem firstFault_text_iff {key : String} (h : ∀ value extra line line' behind,
      tokens ≠ ⟨.text value, line⟩ :: ⟨.text extra, line'⟩ :: behind) :
    FirstFault last before (⟨.text key, line⟩ :: tokens) e ↔
      FirstFault last (before ++ [.text key]) tokens e := by
  refine firstFault_cons_iff fun e' hoffends => ?_
  cases hoffends with
  | extraText => exact absurd rfl (h _ _ _ _ _)

variable {key : String} {written : Option String} {gap : Nat} {passed : List Token}
  {cs : List Clause}

/-- The texts at the front of a clause are in place if no other text follows. -/
theorem firstFault_heading_iff (h : symbols passed = heading key written)
    (hrest : ∀ text, .text text ∉ (symbols rest).head?) :
    FirstFault last before (passed ++ rest) e ↔
      FirstFault last (before ++ heading key written) rest e := by
  obtain ⟨⟨symbol, line⟩, others, rfl, rfl, hothers⟩ := List.map_eq_cons_iff.1 h
  have hends {value : String} {line : Nat} {behind : List Token} :
      rest ≠ ⟨.text value, line⟩ :: behind := by
    rintro rfl
    exact hrest value rfl
  cases written with
  | none =>
    obtain rfl := List.map_eq_nil_iff.1 hothers
    exact firstFault_text_iff fun _ _ _ _ _ => hends
  | some value =>
    obtain ⟨⟨symbol, line'⟩, others, rfl, hvalue, hnone⟩ := List.map_eq_cons_iff.1 hothers
    obtain rfl : symbol = .text value := hvalue
    obtain rfl : others = [] := List.map_eq_nil_iff.1 hnone
    refine (firstFault_text_iff fun _ _ _ _ _ heq => hends (List.cons.inj heq).2).trans ?_
    refine (firstFault_text_iff fun _ _ _ _ _ => hends).trans ?_
    rw [List.append_assoc]
    rfl

theorem firstFault_gap_iff (h : symbols passed = List.replicate gap .newline) :
    FirstFault last before (passed ++ rest) e ↔
      FirstFault last (before ++ List.replicate gap .newline) rest e := by
  induction gap generalizing before passed with
  | zero =>
    obtain rfl := List.map_eq_nil_iff.1 h
    rw [List.replicate_zero, List.append_nil, List.nil_append]
  | succ gap ih =>
    obtain ⟨⟨symbol, line⟩, others, rfl, rfl, hothers⟩ := List.map_eq_cons_iff.1 h
    refine firstFault_newline_iff.trans ((ih hothers).trans ?_)
    rw [List.append_assoc]
    rfl

theorem keyWaits_heading_gap (before : List Symbol) (key : String) (written : Option String)
    (gap : Nat) : KeyWaits (before ++ heading key written ++ List.replicate gap .newline) := by
  cases written with
  | none => exact ⟨before, key, gap, by simp [heading]⟩
  | some value => exact ⟨before ++ [.text key], value, gap, by simp [heading]⟩

/-- The front of a clause with a block is in place, its opening brace included. -/
theorem firstFault_front_iff
    (h : symbols passed = heading key written ++ (List.replicate gap .newline ++ [.opening])) :
    FirstFault last before (passed ++ rest) e ↔
      FirstFault last (before ++ symbols passed) rest e := by
  obtain ⟨texts, others, rfl, htexts, hothers⟩ := List.map_eq_append_iff.1 h
  obtain ⟨ends, braces, rfl, hends, hbraces⟩ := List.map_eq_append_iff.1 hothers
  obtain ⟨⟨symbol, line⟩, none, rfl, rfl, hnone⟩ := List.map_eq_cons_iff.1 hbraces
  obtain rfl := List.map_eq_nil_iff.1 hnone
  rw [h, List.append_assoc, List.append_assoc]
  refine (firstFault_heading_iff htexts fun text => ?_).trans ((firstFault_gap_iff hends).trans ?_)
  · rw [symbols_append, show symbols ends = _ from hends]
    exact text_notMem_head_replicate gap text
  · refine (firstFault_opening_iff (keyWaits_heading_gap _ _ _ _)).trans ?_
    rw [List.append_assoc, List.append_assoc]
    rfl

@[simp] theorem count_opening_heading (key : String) (written : Option String) :
    (heading key written).count .opening = 0 := by
  cases written <;> rfl

@[simp] theorem count_closing_heading (key : String) (written : Option String) :
    (heading key written).count .closing = 0 := by
  cases written <;> rfl

/-- A block opens as many blocks as it closes. -/
theorem Block.count_eq (hb : Block ss cs) : ss.count .opening = ss.count .closing := by
  induction hb with
  | empty => rfl
  | newline _ ih => simpa using ih
  | bare _ _ ih => simpa using ih
  | braced gap _ _ ihBlock ihRest =>
    simp only [List.count_append, count_opening_heading, count_closing_heading,
      List.count_replicate, List.count_cons, ihBlock, ihRest]
    simp +arith

/-- **All of a block is in place.** -/
theorem Block.firstFault_iff (hb : Block ss cs) (htokens : symbols tokens = ss)
    (hcount : before.count .closing ≤ before.count .opening)
    (hrest : ∀ text, .text text ∉ (symbols rest).head?) :
    FirstFault last before (tokens ++ rest) e ↔ FirstFault last (before ++ ss) rest e := by
  induction hb generalizing before tokens rest with
  | empty =>
    obtain rfl := List.map_eq_nil_iff.1 htokens
    rw [List.append_nil, List.nil_append]
  | newline _ ih =>
    obtain ⟨⟨symbol, line⟩, others, rfl, rfl, hothers⟩ := List.map_eq_cons_iff.1 htokens
    refine firstFault_newline_iff.trans ((ih hothers (by simpa using hcount) hrest).trans ?_)
    rw [List.append_assoc]
    rfl
  | @bare key value ss cs ends _ ih =>
    obtain ⟨texts, others, rfl, htexts, hothers⟩ := List.map_eq_append_iff.1 htokens
    rw [List.append_assoc]
    refine (firstFault_heading_iff htexts fun text => ?_).trans ((ih hothers ?_ hrest).trans ?_)
    · rw [symbols_append, show symbols others = ss from hothers]
      exact ends.text_notMem_head_append hrest text
    · simpa using hcount
    · rw [List.append_assoc]
  | @braced key value inner ss children cs gap hblock _ ihBlock ihRest =>
    have hsplit : symbols tokens =
        (heading key value ++ (List.replicate gap .newline ++ [.opening])) ++
          (inner ++ .closing :: ss) := by
      simpa using htokens
    obtain ⟨front, behind, rfl, hfront, hbehind⟩ := List.map_eq_append_iff.1 hsplit
    obtain ⟨inside, behind, rfl, hinside, hbehind⟩ := List.map_eq_append_iff.1 hbehind
    obtain ⟨⟨symbol, line⟩, others, rfl, rfl, hothers⟩ := List.map_eq_cons_iff.1 hbehind
    have hsymbols : symbols front = _ := hfront
    have hopening : (symbols front).count .opening = 1 := by
      simp [hsymbols, List.count_replicate]
    have hclosing : (symbols front).count .closing = 0 := by
      simp [hsymbols, List.count_replicate]
    rw [List.append_assoc, List.append_assoc]
    refine (firstFault_front_iff hfront).trans ((ihBlock hinside ?_ ?_).trans
      ((firstFault_closing_iff ?_).trans ((ihRest hothers ?_ hrest).trans ?_)))
    · rw [List.count_append, List.count_append]
      omega
    · nofun
    · simp only [List.count_append, hblock.count_eq]
      omega
    · simp only [List.count_append, hblock.count_eq]
      simp
      omega
    · rw [hsymbols]
      simp

end Faults

/-! ## The reader reports the first fault -/

section Reports

variable {nested opens : Bool} {last line : Nat} {before : List Symbol} {key value : String}
  {tokens rest : List Token} {e : ParseError}

theorem suffix_of_afterKey (h : afterKey key tokens = .ok (value, opens, rest)) :
    rest <:+ tokens := by
  have htake : (takeValue tokens).2 <:+ tokens := by
    unfold takeValue
    split
    · exact List.suffix_cons _ _
    · exact List.suffix_refl _
  rw [afterKey_eq] at h
  unfold afterHeading at h
  split at h
  · cases h
  · split at h
    · next hdrop =>
      cases h
      have hbrace := List.dropWhile_suffix (l := (takeValue tokens).2) isLineEnd
      rw [hdrop] at hbrace
      exact ((List.suffix_cons _ _).trans hbrace).trans htake
    · cases h
      exact htake

theorem suffix_of_read {entries : List Entry} (h : read nested last tokens = .ok (entries, rest)) :
    rest <:+ tokens := by
  induction nested, tokens using block.induct generalizing entries rest with
  | case1 =>
    rw [read_nil] at h
    cases h
  | case2 nested hn =>
    rw [read_nil, if_neg hn] at h
    cases h
    exact List.suffix_refl _
  | case3 nested line tokens ih =>
    rw [read_newline] at h
    exact (ih h).trans (List.suffix_cons _ _)
  | case4 line tokens =>
    rw [read_closing] at h
    cases h
    exact List.suffix_cons _ _
  | case5 nested line tokens hn =>
    rw [read_closing, if_neg hn] at h
    cases h
  | case6 nested line tail =>
    rw [read_opening] at h
    cases h
  | case7 nested key line tokens reason hkey =>
    rw [read_text, hkey] at h
    cases h
  | case8 nested key line tokens value inner hkey _ ihInner ihAfter =>
    rw [read_text, hkey] at h
    obtain ⟨⟨children, after⟩, hinner, h⟩ := bind_eq_ok_iff.1 h
    obtain ⟨⟨others, rest'⟩, hafter, h⟩ := bind_eq_ok_iff.1 h
    cases h
    have hrest := ihAfter ⟨after, length_le_of_read hinner⟩ hafter
    exact ((hrest.trans (ihInner hinner)).trans (suffix_of_afterKey hkey)).trans
      (List.suffix_cons _ _)
  | case9 nested key line tokens value after hkey _ ih =>
    rw [read_text, hkey] at h
    obtain ⟨⟨others, rest'⟩, hafter, h⟩ := bind_eq_ok_iff.1 h
    cases h
    exact ((ih hafter).trans (suffix_of_afterKey hkey)).trans (List.suffix_cons _ _)

/-- The reader refuses what follows a key only if it is one text too many. -/
theorem exists_of_afterKey_error {reason : ParseReason} (h : afterKey key tokens = .error reason) :
    ∃ value line extra line' behind,
      tokens = ⟨.text value, line⟩ :: ⟨.text extra, line'⟩ :: behind ∧
        reason = .extraText extra key := by
  rw [afterKey_eq] at h
  unfold afterHeading takeValue at h
  split at h
  · next extra line' behind heq =>
    cases h
    split at heq
    · next value line rest =>
      exact ⟨value, line, extra, line', behind, congrArg (_ :: ·) heq, rfl⟩
    · next htext => exact absurd heq (htext _ _ _)
  · split at h <;> cases h

/-- Where the reader finds no block behind a key, none begins. -/
theorem opening_notMem_of_afterKey (h : afterKey key tokens = .ok (value, false, rest)) :
    .opening ∉ ((symbols rest).dropWhile (· == .newline)).head? := by
  rw [afterKey_eq] at h
  unfold afterHeading at h
  split at h
  · cases h
  · split at h
    · cases h
    · next hopening =>
      cases h
      rw [← symbols_dropWhile_isLineEnd]
      cases hdrop : (takeValue tokens).2.dropWhile isLineEnd with
      | nil => nofun
      | cons t inner =>
        obtain ⟨symbol, line⟩ := t
        intro hhead
        obtain rfl : symbol = .opening := Option.some.inj hhead
        exact hopening line inner hdrop

/-- A key waits behind a text, and goes on to wait behind the end of a line. -/
theorem keyWaits_concat_iff {s : Symbol} : KeyWaits (before ++ [s]) ↔
    (∃ text, s = .text text) ∨ s = .newline ∧ KeyWaits before := by
  constructor
  · rintro ⟨front, text, gap, h⟩
    cases gap with
    | zero => exact .inl ⟨text, (List.cons.inj (List.append_inj' h rfl).2).1⟩
    | succ gap =>
      rw [List.replicate_succ', ← List.cons_append, ← List.append_assoc] at h
      obtain ⟨hbefore, hs⟩ := List.append_inj' h rfl
      exact .inr ⟨(List.cons.inj hs).1, front, text, gap, hbefore⟩
  · rintro (⟨text, rfl⟩ | ⟨rfl, front, text, gap, rfl⟩)
    · exact ⟨before, text, 0, rfl⟩
    · refine ⟨front, text, gap + 1, ?_⟩
      rw [List.replicate_succ', List.append_assoc, List.cons_append]

theorem not_keyWaits_concat {s : Symbol} (htext : s.text? = none) (hne : s ≠ .newline) :
    ¬ KeyWaits (before ++ [s]) := by
  rw [keyWaits_concat_iff]
  rintro (⟨text, rfl⟩ | ⟨rfl, -⟩)
  · cases htext
  · exact hne rfl

/-- The front of a clause with a block is passed over, and a block is open behind it. -/
theorem exists_front_of_afterKey {inner : List Token}
    (h : afterKey key tokens = .ok (value, true, inner)) : ∃ inside : List Symbol,
      inside.count .opening = before.count .opening + 1 ∧
      inside.count .closing = before.count .closing ∧ ¬ KeyWaits inside ∧
      (FirstFault last before (⟨.text key, line⟩ :: tokens) e ↔
        FirstFault last inside inner e) := by
  obtain ⟨written, gap, -, hheading⟩ := exists_of_afterKey_block h
  obtain ⟨passed, rfl⟩ := suffix_of_afterKey h
  have hsame : symbols (⟨.text key, line⟩ :: passed) ++ symbols inner =
      heading key written ++ (List.replicate gap .newline ++ [.opening]) ++ symbols inner := by
    simpa using hheading
  have hpassed := List.append_cancel_right hsame
  refine ⟨before ++ symbols (⟨.text key, line⟩ :: passed), ?_, ?_, ?_, firstFault_front_iff hpassed⟩
  · simp [hpassed, List.count_replicate]
  · simp [hpassed, List.count_replicate]
  · rw [hpassed, ← List.append_assoc, ← List.append_assoc]
    exact not_keyWaits_concat rfl (by decide)

/-- The front of a clause without a block is passed over. -/
theorem exists_bare_of_afterKey (h : afterKey key tokens = .ok (value, false, rest)) :
    ∃ behind : List Symbol, behind.count .opening = before.count .opening ∧
      behind.count .closing = before.count .closing ∧
      (FirstFault last before (⟨.text key, line⟩ :: tokens) e ↔
        FirstFault last behind rest e) := by
  obtain ⟨written, -, hheading, htext⟩ := exists_of_afterKey_bare h
  obtain ⟨passed, rfl⟩ := suffix_of_afterKey h
  have hsame : symbols (⟨.text key, line⟩ :: passed) ++ symbols rest =
      heading key written ++ symbols rest := by
    simpa using hheading
  have hpassed := List.append_cancel_right hsame
  exact ⟨before ++ heading key written, by simp, by simp, firstFault_heading_iff hpassed htext⟩

/-- A block that is read is passed over with its closing brace, and one block less is open. -/
theorem exists_outside_of_read {inner after : List Token} {children : List Entry}
    (h : read true last inner = .ok (children, after))
    (hcount : before.count .closing < before.count .opening) : ∃ outside : List Symbol,
      outside.count .opening + before.count .closing + 1 =
        outside.count .closing + before.count .opening ∧ ¬ KeyWaits outside ∧
      (FirstFault last before inner e ↔ FirstFault last outside after e) := by
  obtain ⟨ss, cs, hsymbols, hblock, -⟩ := exists_block_of_read h
  obtain ⟨taken, rfl⟩ := suffix_of_read h
  have hsame : symbols taken ++ symbols after = ss ++ [.closing] ++ symbols after := by
    simpa [ending] using hsymbols
  have htaken := List.append_cancel_right hsame
  obtain ⟨inside, braces, rfl, hinside, hbraces⟩ := List.map_eq_append_iff.1 htaken
  obtain ⟨⟨symbol, line⟩, none, rfl, rfl, hnone⟩ := List.map_eq_cons_iff.1 hbraces
  obtain rfl : none = [] := List.map_eq_nil_iff.1 hnone
  refine ⟨before ++ ss ++ [.closing], ?_, not_keyWaits_concat rfl (by decide), ?_⟩
  · simp only [List.count_append, hblock.count_eq]
    simp +arith
  · rw [List.append_assoc]
    refine (hblock.firstFault_iff hinside (Nat.le_of_lt hcount) ?_).trans
      (firstFault_closing_iff ?_)
    · rintro text ⟨⟩
    · rw [List.count_append, List.count_append, hblock.count_eq]
      omega

/-- **What the reader reports is the first fault**, behind symbols that leave it where it is: in a
block or not, and with a key that waits for a block only if none comes. The induction follows the
reader. -/
theorem firstFault_of_read (h : read nested last tokens = .error e)
    (hnested : nested = true ↔ before.count .closing < before.count .opening)
    (hcount : before.count .closing ≤ before.count .opening)
    (hkey : KeyWaits before → .opening ∉ ((symbols tokens).dropWhile (· == .newline)).head?) :
    FirstFault last before tokens e := by
  induction nested, tokens using block.induct generalizing before with
  | case1 =>
    rw [read_nil] at h
    cases h
    exact .here (.openBlock (hnested.1 rfl))
  | case2 nested hn =>
    rw [read_nil, if_neg hn] at h
    cases h
  | case3 nested line tokens ih =>
    rw [read_newline] at h
    refine firstFault_newline_iff.2 (ih h ?_ ?_ fun hwaits => ?_)
    · simpa using hnested
    · simpa using hcount
    · obtain ⟨-, ⟨⟩⟩ | ⟨-, hwaits⟩ := keyWaits_concat_iff.1 hwaits
      simpa using hkey hwaits
  | case4 line tokens =>
    rw [read_closing] at h
    cases h
  | case5 nested line tokens hn =>
    rw [read_closing, if_neg hn] at h
    cases h
    exact .here (.unmatchedClosing (Nat.not_lt.1 fun hlt => hn (hnested.2 hlt)))
  | case6 nested line tail =>
    rw [read_opening] at h
    cases h
    exact .here (.blockWithoutKey fun hwaits => hkey hwaits rfl)
  | case7 nested key line tokens reason hreason =>
    rw [read_text, hreason] at h
    cases h
    obtain ⟨value, line', extra, line'', behind, rfl, rfl⟩ := exists_of_afterKey_error hreason
    exact .here .extraText
  | case8 nested key line tokens value inner hkey' _ ihInner ihAfter =>
    rw [read_text, hkey'] at h
    obtain ⟨inside, hopening, hclosing, halone, hfront⟩ := exists_front_of_afterKey hkey'
    refine hfront.2 ?_
    obtain hinner | ⟨⟨children, after⟩, hinner, h⟩ := bind_eq_error_iff.1 h
    · exact ihInner hinner (iff_of_true rfl (by omega)) (by omega) fun hwaits =>
        absurd hwaits halone
    · have hinside : inside.count .closing < inside.count .opening := by omega
      obtain ⟨outside, hopen, halone', hrest⟩ := exists_outside_of_read hinner hinside
      obtain hafter | ⟨-, -, ⟨⟩⟩ := bind_eq_error_iff.1 h
      refine hrest.2 (ihAfter ⟨after, length_le_of_read hinner⟩ hafter (hnested.trans ?_) ?_
        fun hwaits => absurd hwaits halone')
      · omega
      · omega
  | case9 nested key line tokens value after hkey' _ ih =>
    rw [read_text, hkey'] at h
    obtain ⟨behind, hopening, hclosing, hfront⟩ := exists_bare_of_afterKey hkey'
    obtain hafter | ⟨-, -, ⟨⟩⟩ := bind_eq_error_iff.1 h
    refine hfront.2 (ih hafter (hnested.trans ?_) ?_ fun _ => opening_notMem_of_afterKey hkey')
    · omega
    · omega

/-- The reader fails with the first fault, and does not fail without one. -/
theorem ofTokens_eq_error_iff :
    ofTokens tokens = .error e ↔ FirstFault (lastLine tokens) [] tokens e := by
  have hfault {e : ParseError} (h : ofTokens tokens = .error e) :
      FirstFault (lastLine tokens) [] tokens e := by
    rw [ofTokens_eq] at h
    cases hread : read false (lastLine tokens) tokens with
    | ok p =>
      rw [hread] at h
      cases h
    | error e' =>
      rw [hread] at h
      cases h
      refine firstFault_of_read hread (by simp) (Nat.le_refl _) ?_
      rintro ⟨front, text, gap, hnil⟩
      cases front <;> cases hnil
  refine ⟨hfault, fun h => ?_⟩
  cases hresult : ofTokens tokens with
  | error e' => rw [(hfault hresult).unique h]
  | ok doc =>
    obtain ⟨cs, hblock, -⟩ := ofTokens_eq_ok_iff.1 hresult
    -- Behind the block that the tokens are there is no fault left.
    have hpassed : FirstFault (lastLine tokens) [] (tokens ++ []) e ↔ _ :=
      hblock.firstFault_iff rfl (Nat.le_refl _) nofun
    rw [List.append_nil] at hpassed
    cases hpassed.1 h with
    | here offends =>
      cases offends with
      | openBlock inside =>
        rw [List.nil_append, hblock.count_eq] at inside
        exact absurd inside (Nat.lt_irrefl _)

/-- The last line of some tokens is the line of one of them, or the first line. -/
theorem lastLine_eq (tokens : List Token) :
    lastLine tokens = 1 ∨ ∃ t ∈ tokens, lastLine tokens = t.line := by
  unfold lastLine
  cases hlast : tokens.getLast? with
  | none => exact .inl rfl
  | some t => exact .inr ⟨t, List.mem_of_getLast? hlast, rfl⟩

/-- Every error shows on a line of the text. -/
theorem line_le_of_parse_error {text : String} (h : parse text = .error e) :
    1 ≤ e.line ∧ e.line ≤ lineBehind text.toList := by
  obtain hscan | ⟨tokens, hscan, htokens⟩ := bind_eq_error_iff.1 h
  · exact Token.line_le_of_scan_error hscan
  · have hlines := Token.line_le_of_scan hscan
    obtain hlast | ⟨t, ht, hline⟩ := (ofTokens_eq_error_iff.1 htokens).line_eq
    · rw [hlast]
      obtain hfirst | ⟨t, ht, hline⟩ := lastLine_eq tokens
      · rw [hfirst]
        exact ⟨Nat.le_refl _, Token.one_le_lineBehind⟩
      · rw [hline]
        exact hlines t ht
    · rw [hline]
      exact hlines t ht

/-- **Errors name the right line.**

- The tokens of a text are those of its lexemes, and each has the line of its first character, which
  is 1 and the number of line ends before it.
- What is wrong with a text that has no tokens is a quote that begins no text, and the line is that
  of the quote.
- What is wrong with tokens that form no document is the first of them that is out of place: a
  brace, with its own line, the first of three texts, which is a key, with its line, or the end of
  the tokens in an open block, with the line of the last token.
- A text is wrong for one of these reasons. If it has no tokens, that is what is reported, whatever
  else is wrong.
- So an error names a line that the text has. -/
theorem errors_placed :
    (∀ text tokens, Token.scan text = .ok tokens ↔ ∃ ls, Token.Lexes ls [] ∧
      text.toList = Token.Lexeme.spelling ls ∧ tokens = Token.Lexeme.tokens [] ls) ∧
    (∀ text e, Token.scan text = .error e ↔ ∃ ls behind reason, Token.Lexes ls ('"' :: behind) ∧
      text.toList = Token.Lexeme.spelling ls ++ '"' :: behind ∧
      Token.quoted behind = .error reason ∧
      e = ⟨1 + (Token.Lexeme.spelling ls).count '\n', reason⟩) ∧
    (∀ tokens e, ofTokens tokens = .error e ↔ FirstFault (lastLine tokens) [] tokens e) ∧
    (∀ text e, parse text = .error e ↔ Token.scan text = .error e ∨
      ∃ tokens, Token.scan text = .ok tokens ∧ FirstFault (lastLine tokens) [] tokens e) ∧
    (∀ text e, Token.scan text = .error e → parse text = .error e) ∧
    (∀ text e, parse text = .error e → 1 ≤ e.line ∧ e.line ≤ 1 + text.toList.count '\n') := by
  have hparse (text : String) (e : ParseError) : parse text = .error e ↔
      Token.scan text = .error e ∨
        ∃ tokens, Token.scan text = .ok tokens ∧ FirstFault (lastLine tokens) [] tokens e := by
    unfold parse
    simp only [bind_eq_error_iff, ofTokens_eq_error_iff]
  refine ⟨fun text tokens => Token.scan_eq_ok_iff, fun text e => Token.scan_eq_error_iff,
    fun tokens e => ofTokens_eq_error_iff, hparse, fun text e h => (hparse text e).2 (.inl h),
    fun text e => line_le_of_parse_error⟩

end Reports

end TrustSchema.Document

namespace TrustSchema.Sample

open Document

/-- A brace closes a block on the second line, and none is open. -/
def strayBrace : String := "a b\n\x7d"

/-- The same brace before a quote that ends nowhere. -/
def strayQuote : String := "a b\n\x7d\n\""

/-- The brace is what is wrong, on its own line; but the quote is reported before it. -/
theorem strayBrace_error :
    parse strayBrace = .error ⟨2, .unmatchedClosing⟩ ∧
      parse strayQuote = .error ⟨3, .unterminated⟩ ∧
      3 ≤ 1 + strayQuote.toList.count '\n' := by
  obtain ⟨-, -, -, hparse, hfirst, hlines⟩ := errors_placed
  have hscan : Token.scan strayBrace =
      .ok [⟨.text "a", 1⟩, ⟨.text "b", 1⟩, ⟨.newline, 1⟩, ⟨.closing, 2⟩] := by decide +kernel
  have hquote : parse strayQuote = .error ⟨3, .unterminated⟩ := hfirst _ _ (by decide +kernel)
  refine ⟨(hparse _ _).2 (.inr ⟨_, hscan, ?_⟩), hquote, (hlines _ _ hquote).2⟩
  refine .later ?_ (.later ?_ (.later ?_ (.here (.unmatchedClosing (by decide)))))
  · rintro e ⟨⟩
  · rintro e ⟨⟩
  · rintro e ⟨⟩

end TrustSchema.Sample
