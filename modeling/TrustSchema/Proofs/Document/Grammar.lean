import TrustSchema.Document.Entry
import TrustSchema.Document.Token

/-!
# The grammar of documents

A document is a block, and a block is a row of line ends and clauses: entries as they are written,
with or without a value, and with or without a block of their own (`Clause`, `Document.Block`).
This module gives the grammar and what can be told from it alone.

A tree of entries does not tell whether an empty value was written or left out, so the grammar
derives clauses, not entries. The texts of the clauses are the texts among the symbols, one by one
and in order (`Document.Block.texts_eq`). And the grammar is unambiguous (`Document.Block.unique`):
where a block ends and what its clauses are can be told from the symbols, although the line ends
before a brace belong to a clause in one place and stand for themselves in another.
-/

namespace TrustSchema

/-! ## Clauses -/

/-- An entry as it is written: with or without a value, with or without a block. -/
inductive Clause where
  | bare (key : String) (value : Option String)
  | braced (key : String) (value : Option String) (children : List Clause)

mutual

/-- The entry that a clause describes. A value that is not written is empty. -/
def Clause.entry : Clause → Entry
  | .bare key value => .mk key (value.getD "") []
  | .braced key value children => .mk key (value.getD "") (Clause.entries children)

/-- The entries that clauses describe, in order. -/
def Clause.entries : List Clause → List Entry
  | [] => []
  | c :: cs => c.entry :: Clause.entries cs

end

mutual

/-- The texts of a clause in order: its key, its value if it is written, and those of its block. -/
def Clause.texts : Clause → List String
  | .bare key value => key :: value.toList
  | .braced key value children => key :: (value.toList ++ Clause.textsOfAll children)

/-- The texts of clauses in order. -/
def Clause.textsOfAll : List Clause → List String
  | [] => []
  | c :: cs => c.texts ++ Clause.textsOfAll cs

end

/-- The text that a symbol is, if it is one. -/
def Symbol.text? : Symbol → Option String
  | .text value => some value
  | _ => none

@[simp] theorem Symbol.text?_text (value : String) : (text value).text? = some value := rfl

@[simp] theorem Symbol.text?_newline : newline.text? = none := rfl

@[simp] theorem Symbol.text?_opening : opening.text? = none := rfl

@[simp] theorem Symbol.text?_closing : closing.text? = none := rfl

namespace Document

/-! ## The grammar -/

/-- The texts at the front of a clause. -/
def heading (key : String) (value : Option String) : List Symbol :=
  .text key :: value.toList.map .text

/-- A clause without a block ends where its line ends, or where there is nothing more in the block
around it. -/
def EndsClause (behind : List Symbol) : Prop := ∀ s ∈ behind.head?, s = .newline

/-- The symbols between the braces of a block, or of a whole document, and its clauses: line ends
and clauses in any order. A block in braces may begin some lines below the heading of its clause,
and the next clause may follow at once behind it. -/
inductive Block : List Symbol → List Clause → Prop
  | empty : Block [] []
  | newline {ss : List Symbol} {cs : List Clause} (rest : Block ss cs) : Block (.newline :: ss) cs
  | bare {key : String} {value : Option String} {ss : List Symbol} {cs : List Clause}
      (ends : EndsClause ss) (rest : Block ss cs) :
      Block (heading key value ++ ss) (.bare key value :: cs)
  | braced {key : String} {value : Option String} {inner ss : List Symbol}
      {children cs : List Clause} (gap : Nat) (block : Block inner children) (rest : Block ss cs) :
      Block (heading key value ++
        (List.replicate gap .newline ++ .opening :: (inner ++ .closing :: ss)))
        (.braced key value children :: cs)

/-- What a block in braces, or a whole document, ends with. -/
def ending : (nested : Bool) → (behind : List Symbol) → List Symbol
  | true, behind => .closing :: behind
  | false, _ => []

section Grammar

variable {ss : List Symbol} {cs : List Clause}

/-- A block begins with a line end or a text, if with anything. -/
theorem Block.head_eq (hb : Block ss cs) :
    ∀ s ∈ ss.head?, s = .newline ∨ ∃ text, s = .text text := by
  cases hb with
  | empty => nofun
  | newline => simp
  | bare => simp [heading]
  | braced => simp [heading]

/-- No brace opens before the first text of a block, nor where the block ends first. -/
theorem Block.opening_notMem_head (hb : Block ss cs) (nested : Bool) (behind : List Symbol) :
    .opening ∉ ((ss ++ ending nested behind).dropWhile (· == .newline)).head? := by
  induction hb with
  | empty => cases nested <;> simp [ending]
  | newline _ ih => simpa using ih
  | bare => simp [heading]
  | braced => simp [heading]

theorem filterMap_text?_heading (key : String) (value : Option String) :
    (heading key value).filterMap Symbol.text? = key :: value.toList := by
  cases value <;> rfl

/-- **No text is lost, added or moved**: the texts of the clauses are those of the symbols. -/
theorem Block.texts_eq (hb : Block ss cs) :
    Clause.textsOfAll cs = ss.filterMap Symbol.text? := by
  induction hb with
  | empty => rfl
  | newline _ ih => simpa [List.filterMap_cons] using ih
  | bare _ _ ih =>
    rw [Clause.textsOfAll, Clause.texts, List.filterMap_append, filterMap_text?_heading, ih]
  | @braced key value inner ss children cs gap _ _ ihBlock ihRest =>
    have hgap : (List.replicate gap Symbol.newline).filterMap Symbol.text? = [] := by simp
    rw [Clause.textsOfAll, Clause.texts, List.filterMap_append, filterMap_text?_heading,
      List.filterMap_append, hgap, ihBlock, ihRest]
    simp [List.filterMap_cons]

theorem text_notMem_head_replicate (gap : Nat) (text : String) :
    .text text ∉ (List.replicate gap Symbol.newline ++ .opening :: ss).head? := by
  cases gap <;> simp [List.replicate_succ]

/-- What stands behind a clause without a block is no text, if none stands behind its block. -/
theorem EndsClause.text_notMem_head_append (he : EndsClause ss) {behind : List Symbol}
    (hbehind : ∀ text, .text text ∉ behind.head?) (text : String) :
    .text text ∉ (ss ++ behind).head? := by
  intro hhead
  cases ss with
  | nil => exact hbehind text hhead
  | cons s ss =>
    obtain rfl : s = .text text := Option.some.inj hhead
    cases he _ rfl

theorem EndsClause.text_notMem_head (he : EndsClause ss) (nested : Bool) (behind : List Symbol) :
    ∀ text, .text text ∉ (ss ++ ending nested behind).head? :=
  he.text_notMem_head_append fun text => by cases nested <;> simp [ending]

/-- A heading ends where no text follows. -/
theorem heading_append_inj {key key' : String} {value value' : Option String}
    {behind behind' : List Symbol} (hbehind : ∀ text, .text text ∉ behind.head?)
    (hbehind' : ∀ text, .text text ∉ behind'.head?)
    (h : heading key value ++ behind = heading key' value' ++ behind') :
    key = key' ∧ value = value' ∧ behind = behind' := by
  obtain ⟨hkey, hothers⟩ := List.cons.inj h
  refine ⟨Symbol.text.inj hkey, ?_⟩
  cases value with
  | none =>
    cases value' with
    | none => exact ⟨rfl, hothers⟩
    | some value' =>
      obtain rfl : behind = .text value' :: behind' := hothers
      exact absurd rfl (hbehind value')
  | some value =>
    cases value' with
    | none =>
      obtain rfl : .text value :: behind = behind' := hothers
      exact absurd rfl (hbehind' value)
    | some value' =>
      obtain ⟨hvalue, hothers⟩ := List.cons.inj hothers
      exact ⟨congrArg some (Symbol.text.inj hvalue), hothers⟩

/-- Line ends before a brace are all that stand before it. -/
theorem replicate_append_opening_inj {gap gap' : Nat} {behind behind' : List Symbol}
    (h : List.replicate gap .newline ++ .opening :: behind =
      List.replicate gap' .newline ++ .opening :: behind') : gap = gap' ∧ behind = behind' := by
  induction gap generalizing gap' with
  | zero =>
    cases gap' with
    | zero => exact ⟨rfl, (List.cons.inj h).2⟩
    | succ gap' => cases h
  | succ gap ih =>
    cases gap' with
    | zero => cases h
    | succ gap' =>
      obtain ⟨rfl, hbehind⟩ := ih (List.cons.inj h).2
      exact ⟨rfl, hbehind⟩

/-- No line end, and no heading without a block, is taken for a heading with one. -/
theorem Block.ne_replicate (hb : Block ss cs) (nested : Bool) (behind behind' : List Symbol)
    (gap : Nat) :
    ss ++ ending nested behind ≠ List.replicate gap .newline ++ .opening :: behind' := by
  intro h
  have hhead := hb.opening_notMem_head nested behind
  rw [h] at hhead
  simp at hhead

/-- **The grammar is unambiguous**: where blocks with the same kind of ending begin with the same
symbols, they end at the same place and have the same clauses. -/
theorem Block.unique (nested : Bool) {behind behind' ss' : List Symbol} {cs' : List Clause}
    (hb : Block ss cs) (hb' : Block ss' cs')
    (h : ss ++ ending nested behind = ss' ++ ending nested behind') : ss = ss' ∧ cs = cs' := by
  induction hb generalizing nested behind behind' ss' cs' with
  | empty =>
    cases hb' with
    | empty => exact ⟨rfl, rfl⟩
    | newline => cases nested <;> cases h
    | bare => cases nested <;> cases h
    | braced => cases nested <;> cases h
  | newline _ ih =>
    cases hb' with
    | empty => cases nested <;> cases h
    | newline rest' =>
      obtain ⟨rfl, rfl⟩ := ih nested rest' (List.cons.inj h).2
      exact ⟨rfl, rfl⟩
    | bare => cases h
    | braced => cases h
  | @bare key value ss cs ends hrest ih =>
    cases hb' with
    | empty => cases nested <;> cases h
    | newline => cases h
    | bare ends' rest' =>
      rw [List.append_assoc, List.append_assoc] at h
      obtain ⟨rfl, rfl, hbehind⟩ := heading_append_inj (ends.text_notMem_head nested behind)
        (ends'.text_notMem_head nested behind') h
      obtain ⟨rfl, rfl⟩ := ih nested rest' hbehind
      exact ⟨rfl, rfl⟩
    | braced gap' block' rest' =>
      simp only [List.append_assoc, List.cons_append] at h
      obtain ⟨-, -, hbehind⟩ := heading_append_inj (ends.text_notMem_head nested behind)
        (text_notMem_head_replicate gap') h
      exact absurd hbehind (hrest.ne_replicate nested behind _ gap')
  | @braced key value inner ss children cs gap _ hrest ihBlock ihRest =>
    simp only [List.append_assoc, List.cons_append] at h
    cases hb' with
    | empty => cases nested <;> cases h
    | newline => cases h
    | bare ends' rest' =>
      rw [List.append_assoc] at h
      obtain ⟨-, -, hbehind⟩ := heading_append_inj (text_notMem_head_replicate gap)
        (ends'.text_notMem_head nested behind') h
      exact absurd hbehind.symm (rest'.ne_replicate nested behind' _ gap)
    | braced gap' block' rest' =>
      simp only [List.append_assoc, List.cons_append] at h
      obtain ⟨rfl, rfl, hgap⟩ := heading_append_inj (text_notMem_head_replicate gap)
        (text_notMem_head_replicate gap') h
      obtain ⟨rfl, hinner⟩ := replicate_append_opening_inj hgap
      obtain ⟨rfl, rfl⟩ := ihBlock true block' hinner
      obtain ⟨rfl, rfl⟩ := ihRest nested rest' (List.cons.inj (List.append_cancel_left hinner)).2
      exact ⟨rfl, rfl⟩

end Grammar

end Document

namespace Sample

open Document

/-- The symbols of a small document: a block below its key, and an entry with an empty value behind
the brace that ends it. -/
def outline : List Symbol :=
  [.text "rule", .newline, .opening, .text "id", .text "x", .newline, .closing, .text "for",
    .text ""]

def outlineClauses : List Clause :=
  [.braced "rule" none [.bare "id" (some "x")], .bare "for" (some "")]

theorem block_outline : Block outline outlineClauses := by
  have hinner : Block (heading "id" (some "x") ++ [.newline]) [.bare "id" (some "x")] :=
    .bare (by simp [EndsClause]) (.newline .empty)
  have hlast : Block (heading "for" (some "") ++ []) [.bare "for" (some "")] :=
    .bare (by simp [EndsClause]) .empty
  have hall : Block (heading "rule" none ++ _) _ := .braced 1 hinner hlast
  exact hall

end Sample

end TrustSchema
