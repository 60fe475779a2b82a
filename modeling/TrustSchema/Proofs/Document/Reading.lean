import Mathlib.Data.List.TakeWhile
import TrustSchema.Document.Parse
import TrustSchema.Proofs.Document.Grammar
import TrustSchema.Proofs.Success

/-!
# Reading follows the grammar

The reader of documents walks over the tokens of a text, looks ahead over line ends for a brace, and
takes a closing brace one way inside of a block and another way outside. It accepts just what the
grammar derives, with the same result (`Document.reads_grammar`).

Both directions follow the nesting. `Document.exists_block_of_read` goes along the reader and
collects a derivation; `Document.exists_read_of_block` goes along a derivation, for whatever stands
behind the block that is derived. What the reader does at a key is settled before, by four lemmas on
headings: two for each direction, with a block and without.
-/

namespace TrustSchema

namespace Document

/-! ## The reader -/

/-- The symbols of some tokens. -/
def symbols (tokens : List Token) : List Symbol := tokens.map Token.symbol

@[simp] theorem symbols_nil : symbols [] = [] := rfl

@[simp] theorem symbols_cons (t : Token) (tokens : List Token) :
    symbols (t :: tokens) = t.symbol :: symbols tokens := rfl

@[simp] theorem symbols_append (tokens tokens' : List Token) :
    symbols (tokens ++ tokens') = symbols tokens ++ symbols tokens' := List.map_append

/-- The entries up to the end of a block and the tokens behind it, without their bound. -/
def read (nested : Bool) (last : Nat) (tokens : List Token) :
    Except ParseError (List Entry × List Token) :=
  (fun p => (p.1, p.2.1)) <$> block nested last tokens

/-- What the reader does behind a heading. -/
def afterHeading (key value : String) (tokens : List Token) :
    Except ParseReason (String × Bool × List Token) :=
  match tokens with
  | ⟨.text extra, _⟩ :: _ => .error (.extraText extra key)
  | tokens =>
    match tokens.dropWhile isLineEnd with
    | ⟨.opening, _⟩ :: inner => .ok (value, true, inner)
    | _ => .ok (value, false, tokens)

theorem afterKey_eq (key : String) (tokens : List Token) :
    afterKey key tokens = afterHeading key (takeValue tokens).1 (takeValue tokens).2 := rfl

/-! ### Headings -/

section Heading

variable {key value : String} {written : Option String} {ss : List Symbol}
  {tokens rest : List Token}

theorem symbols_dropWhile_isLineEnd (tokens : List Token) :
    symbols (tokens.dropWhile isLineEnd) = (symbols tokens).dropWhile (· == .newline) := by
  rw [symbols, symbols, List.dropWhile_map]
  rfl

/-- Line ends that are passed over stand at the front. -/
theorem exists_replicate_append_dropWhile (ss : List Symbol) :
    ∃ gap, ss = List.replicate gap .newline ++ ss.dropWhile (· == .newline) := by
  refine ⟨(ss.takeWhile (· == .newline)).length, ?_⟩
  have hall : ∀ s ∈ ss.takeWhile (· == .newline), s = .newline := by
    intro s hs
    simpa using List.mem_takeWhile_imp hs
  rw [← List.eq_replicate_of_mem hall, List.takeWhile_append_dropWhile]

theorem exists_symbols_eq_of_takeValue (tokens : List Token) :
    ∃ written : Option String, written.getD "" = (takeValue tokens).1 ∧
      symbols tokens = written.toList.map .text ++ symbols (takeValue tokens).2 := by
  unfold takeValue
  split
  · next value line rest => exact ⟨some value, rfl, rfl⟩
  · exact ⟨none, rfl, rfl⟩

theorem exists_takeValue_eq (h : symbols tokens = written.toList.map .text ++ ss)
    (htext : ∀ text, .text text ∉ ss.head?) :
    ∃ rest, symbols rest = ss ∧ takeValue tokens = (written.getD "", rest) := by
  unfold takeValue
  cases written with
  | none =>
    refine ⟨tokens, h, ?_⟩
    split
    · next value line rest =>
      cases h
      exact absurd rfl (htext value)
    · rfl
  | some value =>
    cases tokens with
    | nil => cases h
    | cons t tokens =>
      obtain ⟨symbol, line⟩ := t
      obtain ⟨rfl, hrest⟩ := List.cons.inj h
      exact ⟨tokens, hrest, rfl⟩

/-- Where the reader finds a block behind a key. -/
theorem exists_of_afterKey_block {inner : List Token}
    (h : afterKey key tokens = .ok (value, true, inner)) :
    ∃ (written : Option String) (gap : Nat), written.getD "" = value ∧
      .text key :: symbols tokens =
        heading key written ++ (List.replicate gap .newline ++ .opening :: symbols inner) := by
  obtain ⟨written, hvalue, hsymbols⟩ := exists_symbols_eq_of_takeValue tokens
  rw [afterKey_eq] at h
  unfold afterHeading at h
  split at h
  · cases h
  · split at h
    · next hdrop =>
      cases h
      obtain ⟨gap, hgap⟩ := exists_replicate_append_dropWhile (symbols (takeValue tokens).2)
      rw [← symbols_dropWhile_isLineEnd, hdrop] at hgap
      refine ⟨written, gap, hvalue, ?_⟩
      rw [hsymbols, hgap]
      rfl
    · cases h

/-- Where the reader finds none. -/
theorem exists_of_afterKey_bare (h : afterKey key tokens = .ok (value, false, rest)) :
    ∃ written : Option String, written.getD "" = value ∧
      .text key :: symbols tokens = heading key written ++ symbols rest ∧
        ∀ text, .text text ∉ (symbols rest).head? := by
  obtain ⟨written, hvalue, hsymbols⟩ := exists_symbols_eq_of_takeValue tokens
  rw [afterKey_eq] at h
  unfold afterHeading at h
  split at h
  · cases h
  · next htext =>
    split at h
    · cases h
    · cases h
      refine ⟨written, hvalue, by rw [hsymbols]; rfl, fun text hhead => ?_⟩
      cases hafter : (takeValue tokens).2 with
      | nil => simp [hafter] at hhead
      | cons t behind =>
        obtain ⟨symbol, line⟩ := t
        rw [hafter] at hhead
        obtain rfl : symbol = .text text := Option.some.inj hhead
        exact htext text line behind hafter

theorem exists_afterKey_eq_block (key : String) {gap : Nat}
    (h : symbols tokens =
      written.toList.map .text ++ (List.replicate gap .newline ++ .opening :: ss)) :
    ∃ inner, symbols inner = ss ∧ afterKey key tokens = .ok (written.getD "", true, inner) := by
  obtain ⟨behind, hbehind, htake⟩ := exists_takeValue_eq h (text_notMem_head_replicate gap)
  have hdrop : symbols (behind.dropWhile isLineEnd) = .opening :: ss := by
    rw [symbols_dropWhile_isLineEnd, hbehind]
    simp
  cases hd : behind.dropWhile isLineEnd with
  | nil => simp [hd] at hdrop
  | cons t inner =>
    obtain ⟨symbol, line⟩ := t
    rw [hd] at hdrop
    obtain ⟨rfl, hinner⟩ := List.cons.inj hdrop
    refine ⟨inner, hinner, ?_⟩
    rw [afterKey_eq, htake]
    unfold afterHeading
    split
    · next text line rest heq =>
      have hhead : .text text ∉ (List.replicate gap Symbol.newline ++ .opening :: ss).head? :=
        text_notMem_head_replicate gap text
      rw [← hbehind, show behind = _ from heq] at hhead
      exact absurd rfl hhead
    · rw [hd]

theorem exists_afterKey_eq_bare (key : String)
    (h : symbols tokens = written.toList.map .text ++ ss)
    (htext : ∀ text, .text text ∉ ss.head?)
    (hopening : .opening ∉ (ss.dropWhile (· == .newline)).head?) :
    ∃ behind, symbols behind = ss ∧ afterKey key tokens = .ok (written.getD "", false, behind) := by
  obtain ⟨behind, hbehind, htake⟩ := exists_takeValue_eq h htext
  refine ⟨behind, hbehind, ?_⟩
  rw [← hbehind, ← symbols_dropWhile_isLineEnd] at hopening
  rw [afterKey_eq, htake]
  unfold afterHeading
  split
  · next text line rest heq =>
    rw [← hbehind, show behind = _ from heq] at htext
    exact absurd rfl (htext text)
  · split
    · next hdrop =>
      rw [show behind.dropWhile isLineEnd = _ from hdrop] at hopening
      exact absurd rfl hopening
    · rfl

end Heading

/-! ### Blocks -/

section Reader

variable {nested : Bool} {last line : Nat} {key value : String} {tokens rest : List Token}

theorem read_nil : read nested last [] =
    if nested then .error ⟨last, .openBlock⟩ else .ok ([], []) := by
  unfold read
  rw [block]
  cases nested <;> rfl

theorem read_newline : read nested last (⟨.newline, line⟩ :: tokens) = read nested last tokens := by
  unfold read
  rw [block]
  cases block nested last tokens <;> rfl

theorem read_closing : read nested last (⟨.closing, line⟩ :: tokens) =
    if nested then .ok ([], tokens) else .error ⟨line, .unmatchedClosing⟩ := by
  unfold read
  rw [block]
  cases nested <;> rfl

theorem read_opening :
    read nested last (⟨.opening, line⟩ :: tokens) = .error ⟨line, .blockWithoutKey⟩ := by
  unfold read
  rw [block]
  rfl

theorem read_text : read nested last (⟨.text key, line⟩ :: tokens) =
    match afterKey key tokens with
    | .error reason => .error ⟨line, reason⟩
    | .ok (value, true, inner) => do
      let (children, after) ← read true last inner
      let (entries, rest) ← read nested last after
      return (.mk key value children :: entries, rest)
    | .ok (value, false, after) => do
      let (entries, rest) ← read nested last after
      return (.mk key value [] :: entries, rest) := by
  unfold read
  rw [block]
  split
  · next h => simp only [h]; rfl
  · next inner h =>
    simp only [h]
    cases block true last inner with
    | error e => rfl
    | ok p =>
      obtain ⟨children, after⟩ := p
      simp only [bind, Except.bind, Functor.map, Except.map]
      cases block nested last after.1 <;> rfl
  · next after h =>
    simp only [h]
    cases block nested last after <;> rfl

/-- What is behind a block is part of the tokens. -/
theorem length_le_of_read {entries : List Entry}
    (h : read nested last tokens = .ok (entries, rest)) : rest.length ≤ tokens.length := by
  obtain ⟨p, -, hp⟩ := map_eq_ok_iff.1 h
  cases hp
  exact p.2.2

/-- **What is read is derived**: a block, and what it ends with, stand in front of what is left. The
induction follows the reader; what is left of an inner block is read on in the outer one. -/
theorem exists_block_of_read {entries : List Entry}
    (h : read nested last tokens = .ok (entries, rest)) :
    ∃ ss cs, symbols tokens = ss ++ ending nested (symbols rest) ∧ Block ss cs ∧
      Clause.entries cs = entries := by
  induction nested, tokens using block.induct generalizing entries rest with
  | case1 =>
    rw [read_nil] at h
    cases h
  | case2 nested hn =>
    rw [read_nil, if_neg hn] at h
    cases h
    rw [Bool.not_eq_true] at hn
    subst hn
    exact ⟨[], [], rfl, .empty, rfl⟩
  | case3 nested line tokens ih =>
    rw [read_newline] at h
    obtain ⟨ss, cs, hsymbols, hblock, hentries⟩ := ih h
    exact ⟨.newline :: ss, cs, congrArg _ hsymbols, .newline hblock, hentries⟩
  | case4 line tokens =>
    rw [read_closing] at h
    cases h
    exact ⟨[], [], rfl, .empty, rfl⟩
  | case5 nested line tokens hn =>
    rw [read_closing, if_neg hn] at h
    cases h
  | case6 nested line tail =>
    rw [read_opening] at h
    cases h
  | case7 nested key line tokens reason hkey =>
    rw [read_text, hkey] at h
    cases h
  | case8 nested key line tokens value inner hkey _ ihInner ihAfter =>
    rw [read_text, hkey] at h
    obtain ⟨⟨children, after⟩, hinner, h⟩ := bind_eq_ok_iff.1 h
    obtain ⟨⟨others, rest'⟩, hafter, h⟩ := bind_eq_ok_iff.1 h
    cases h
    obtain ⟨written, gap, rfl, hheading⟩ := exists_of_afterKey_block hkey
    obtain ⟨ss, cs, hss, hblock, rfl⟩ := ihInner hinner
    obtain ⟨ss', cs', hss', hblock', rfl⟩ := ihAfter ⟨after, length_le_of_read hinner⟩ hafter
    refine ⟨_, _, ?_, .braced gap hblock hblock', rfl⟩
    rw [symbols_cons, hheading, hss, show symbols after = _ from hss']
    simp [ending]
  | case9 nested key line tokens value after hkey _ ih =>
    rw [read_text, hkey] at h
    obtain ⟨⟨others, rest'⟩, hafter, h⟩ := bind_eq_ok_iff.1 h
    cases h
    obtain ⟨written, rfl, hheading, htext⟩ := exists_of_afterKey_bare hkey
    obtain ⟨ss, cs, hss, hblock, rfl⟩ := ih hafter
    refine ⟨_, _, ?_, .bare ?_ hblock, rfl⟩
    · rw [symbols_cons, hheading, hss, List.append_assoc]
    · -- A block goes on with a line end or a text, and a text would have been refused.
      intro s hs
      rcases hblock.head_eq s hs with rfl | ⟨text, rfl⟩
      · rfl
      · refine absurd ?_ (htext text)
        rw [hss, List.head?_append, hs]
        rfl

/-- **What is derived is read**, whatever follows the end of the block. -/
theorem exists_read_of_block (nested : Bool) {ss behind : List Symbol} {cs : List Clause}
    (hb : Block ss cs) (h : symbols tokens = ss ++ ending nested behind) :
    ∃ rest, (nested = true → symbols rest = behind) ∧
      read nested last tokens = .ok (Clause.entries cs, rest) := by
  induction hb generalizing nested tokens behind with
  | empty =>
    cases nested with
    | false =>
      obtain rfl : tokens = [] := List.map_eq_nil_iff.1 h
      exact ⟨[], nofun, by rw [read_nil]; rfl⟩
    | true =>
      obtain ⟨⟨symbol, line⟩, rest, rfl, rfl, hrest⟩ := List.map_eq_cons_iff.1 h
      exact ⟨rest, fun _ => hrest, by rw [read_closing]; rfl⟩
  | newline _ ih =>
    obtain ⟨⟨symbol, line⟩, rest, rfl, rfl, hrest⟩ := List.map_eq_cons_iff.1 h
    rw [read_newline]
    exact ih nested hrest
  | @bare key value ss cs ends hblock ih =>
    rw [List.append_assoc] at h
    obtain ⟨⟨symbol, line⟩, others, rfl, rfl, hothers⟩ := List.map_eq_cons_iff.1 h
    obtain ⟨after, hafter, hkey⟩ := exists_afterKey_eq_bare key hothers
      (ends.text_notMem_head nested behind) (hblock.opening_notMem_head nested behind)
    obtain ⟨rest, hrest, hread⟩ := ih nested hafter
    refine ⟨rest, hrest, ?_⟩
    rw [read_text, hkey]
    exact bind_eq_ok_iff.2 ⟨_, hread, rfl⟩
  | @braced key value inner ss children cs gap _ _ ihInner ihAfter =>
    simp only [List.append_assoc, List.cons_append] at h
    obtain ⟨⟨symbol, line⟩, others, rfl, rfl, hothers⟩ := List.map_eq_cons_iff.1 h
    obtain ⟨tokens', htokens, hkey⟩ := exists_afterKey_eq_block key hothers
    obtain ⟨after, hafter, hinner⟩ := ihInner true htokens
    obtain ⟨rest, hrest, hread⟩ := ihAfter nested (hafter rfl)
    refine ⟨rest, hrest, ?_⟩
    rw [read_text, hkey]
    exact bind_eq_ok_iff.2 ⟨_, hinner, bind_eq_ok_iff.2 ⟨_, hread, rfl⟩⟩

theorem ofTokens_eq (tokens : List Token) :
    ofTokens tokens = Prod.fst <$> read false (lastLine tokens) tokens := by
  unfold ofTokens read
  cases block false (lastLine tokens) tokens <;> rfl

/-- The reader accepts what the grammar derives. -/
theorem ofTokens_eq_ok_iff {doc : Document} :
    ofTokens tokens = .ok doc ↔ ∃ cs, Block (symbols tokens) cs ∧ Clause.entries cs = doc := by
  rw [ofTokens_eq, map_eq_ok_iff]
  constructor
  · rintro ⟨⟨entries, rest⟩, h, rfl⟩
    obtain ⟨ss, cs, hsymbols, hblock, hentries⟩ := exists_block_of_read h
    rw [ending, List.append_nil] at hsymbols
    rw [hsymbols]
    exact ⟨cs, hblock, hentries⟩
  · rintro ⟨cs, hblock, rfl⟩
    have hall : symbols tokens = symbols tokens ++ ending false [] := (List.append_nil _).symm
    obtain ⟨rest, -, h⟩ := exists_read_of_block false hblock hall
    exact ⟨_, h, rfl⟩

/-- A text is read as a document exactly if its symbols are derived as one. -/
theorem parse_eq_ok_iff {text : String} {doc : Document} :
    parse text = .ok doc ↔ ∃ tokens cs, Token.scan text = .ok tokens ∧ Block (symbols tokens) cs ∧
      Clause.entries cs = doc := by
  unfold parse
  rw [bind_eq_ok_iff]
  simp only [ofTokens_eq_ok_iff, exists_and_left]

end Reader

/-- **The reader accepts exactly the grammar, and loses no text.**

- Tokens are read as a document exactly if their symbols are derived as a block whose clauses
  describe the document; and a text is, exactly if its tokens are.
- All texts of the input are there, in order: the keys of the document and those values that are
  written, each entry before those of its block, are the texts among the symbols.
- The symbols have no other derivation, so which values are written, and where an entry belongs, is
  determined by them. -/
theorem reads_grammar :
    (∀ tokens doc, ofTokens tokens = .ok doc ↔
      ∃ cs, Block (symbols tokens) cs ∧ Clause.entries cs = doc) ∧
    (∀ text doc, parse text = .ok doc ↔ ∃ tokens cs, Token.scan text = .ok tokens ∧
      Block (symbols tokens) cs ∧ Clause.entries cs = doc) ∧
    (∀ ss cs, Block ss cs → Clause.textsOfAll cs = ss.filterMap Symbol.text?) ∧
    (∀ ss cs cs', Block ss cs → Block ss cs' → cs = cs') := by
  refine ⟨fun tokens doc => ofTokens_eq_ok_iff, fun text doc => parse_eq_ok_iff,
    fun ss cs => Block.texts_eq, fun ss cs cs' hb hb' => ?_⟩
  have hsame : ss ++ ending false [] = ss ++ ending false [] := rfl
  exact (hb.unique false hb' hsame).2

end Document

namespace Sample

open Document

/-- The document is read, with the empty value among its texts; and there is no other way to take
the symbols. -/
theorem outline_read :
    Block outline outlineClauses ∧
      ofTokens (outline.map fun s => ⟨s, 1⟩) =
        .ok [.mk "rule" "" [.mk "id" "x" []], .mk "for" "" []] ∧
      Clause.textsOfAll outlineClauses = ["rule", "id", "x", "for", ""] ∧
      ∀ cs, Block outline cs → cs = outlineClauses := by
  obtain ⟨hread, -, htexts, hunique⟩ := reads_grammar
  refine ⟨block_outline, ?_, htexts _ _ block_outline, fun cs hcs => ?_⟩
  · exact (hread _ _).2 ⟨outlineClauses, block_outline, rfl⟩
  · exact hunique _ _ _ hcs block_outline

end Sample

end TrustSchema
