import TrustSchema.Proofs.Document.Reading
import TrustSchema.Proofs.Document.Scanning

/-!
# Documents as texts

A document can be laid out as a text in many ways: texts with or without quotes, any white space,
blank lines and comments between entries and before braces (`Document.Writes`). Every such text is
read back as the document (`Document.parse_of_layout`), and every document has one, whatever
characters its texts hold (`Document.layout_render`).

The grammar of texts is given on characters, apart from the scanner. By induction on how a document
is written, the characters are scanned as symbols that the grammar of documents derives, whatever
text follows (`Document.Writes.exists_block`).
-/

namespace TrustSchema

namespace Document

open Token

/-! ## The grammar of texts -/

/-- White space within a line. A carriage return belongs to it. -/
def Blanks (cs : List Char) : Prop := ∀ c ∈ cs, Text.isBlank c ∧ c ≠ '\n'

theorem blanks_nil : Blanks [] := nofun

theorem blanks_space : Blanks [' '] := by
  intro c hc
  obtain rfl := List.mem_singleton.1 hc
  decide

/-- The end of a line, from behind the last thing on it: white space and perhaps a comment. -/
inductive LineEnd : List Char → Prop
  | blank {blanks : List Char} (hblanks : Blanks blanks) : LineEnd (blanks ++ ['\n'])
  | comment {blanks body : List Char} (hblanks : Blanks blanks) (hbody : '\n' ∉ body) :
      LineEnd (blanks ++ ';' :: (body ++ ['\n']))

/-- What may stand between entries and around braces: line ends and, before the next thing, white
space. -/
inductive Gap : List Char → Prop
  | blanks {cs : List Char} (hblanks : Blanks cs) : Gap cs
  | line {e g : List Char} (hend : LineEnd e) (rest : Gap g) : Gap (e ++ g)

/-- A text in quotes. -/
def quote (text : String) : List Char := '"' :: (text.toList.flatMap escape ++ ['"'])

/-- How a text is spelled: in quotes, or as it is if it is not empty and holds no white space and
none of `{ } ; "`. -/
inductive Spelling (text : String) : List Char → Prop
  | quoted : Spelling text (quote text)
  | bare (hne : text ≠ "")
      (hchars : ∀ c ∈ text.toList, Text.isBlank c = false ∧ c ∉ ['{', '}', ';', '"']) :
      Spelling text text.toList

/-- How entries are written, each with the gap behind it: a key and a value on a line, and the
entries of a block in braces. -/
inductive Writes : Document → List Char → Prop
  | nil : Writes [] []
  | leaf {key value : String} {es : List Entry} {k sep v e g cs : List Char}
      (hkey : Spelling key k) (hsep : Blanks sep) (hne : sep ≠ []) (hvalue : Spelling value v)
      (hend : LineEnd e) (hgap : Gap g) (rest : Writes es cs) :
      Writes (.mk key value [] :: es) (k ++ (sep ++ (v ++ (e ++ (g ++ cs)))))
  | node {key value : String} {children es : List Entry}
      {k sep v before within block e g cs : List Char}
      (hkey : Spelling key k) (hsep : Blanks sep) (hne : sep ≠ []) (hvalue : Spelling value v)
      (hbefore : Gap before) (hwithin : Gap within) (inner : Writes children block)
      (hend : LineEnd e) (hgap : Gap g) (rest : Writes es cs) :
      Writes (.mk key value children :: es)
        (k ++ (sep ++ (v ++ (before ++ '{' :: (within ++ (block ++ '}' :: (e ++ (g ++ cs))))))))

/-- A text that a document is laid out as. -/
def Layout (doc : Document) (text : String) : Prop :=
  ∃ g cs, Gap g ∧ Writes doc cs ∧ text.toList = g ++ cs

/-! ## What is read off its parts -/

section Parts

variable {cs rest : List Char} {ss : List Symbol}

theorem Blanks.stops (hb : Blanks cs) (hrest : Stops rest) : Stops (cs ++ rest) := by
  cases cs with
  | nil => exact hrest
  | cons c cs =>
    rintro d ⟨⟩
    simp [isPlain, (hb c List.mem_cons_self).1]

theorem stops_cons {c : Char} (hc : isPlain c = false) : Stops (c :: rest) := by
  rintro d ⟨⟩
  exact hc

theorem LineEnd.stops (he : LineEnd cs) : Stops (cs ++ rest) := by
  cases he with
  | blank hb =>
    rw [List.append_assoc]
    exact hb.stops (stops_cons (by decide))
  | comment hb =>
    rw [List.append_assoc]
    exact hb.stops (stops_cons (by decide))

theorem LineEnd.scans (he : LineEnd cs) (h : Scans rest ss) :
    Scans (cs ++ rest) (.newline :: ss) := by
  cases he with
  | blank hb =>
    rw [List.append_assoc]
    exact h.newline.blanks hb
  | comment hb hbody =>
    rw [List.append_assoc, List.cons_append, List.append_assoc]
    refine Scans.blanks hb (Scans.comment hbody ?_ h.newline)
    rintro c ⟨⟩
    rfl

theorem Gap.stops (hg : Gap cs) (hrest : Stops rest) : Stops (cs ++ rest) := by
  cases hg with
  | blanks hb => exact hb.stops hrest
  | line he =>
    rw [List.append_assoc]
    exact he.stops

/-- A gap is read as the ends of its lines. -/
theorem Gap.exists_scans (hg : Gap cs) : ∃ n, ∀ {rest ss}, Scans rest ss →
    Scans (cs ++ rest) (List.replicate n .newline ++ ss) := by
  induction hg with
  | blanks hb => exact ⟨0, fun h => h.blanks hb⟩
  | line he _ ih =>
    obtain ⟨n, ih⟩ := ih
    refine ⟨n + 1, fun h => ?_⟩
    rw [List.append_assoc]
    exact he.scans (ih h)

theorem isPlain_iff {c : Char} :
    isPlain c ↔ Text.isBlank c = false ∧ c ∉ ['{', '}', ';', '"'] := by
  simp [isPlain, and_assoc]

theorem Spelling.of_all {text : String} (hne : text ≠ "") (hall : text.toList.all isPlain) :
    Spelling text text.toList :=
  .bare hne fun c hc => isPlain_iff.1 (List.all_eq_true.1 hall c hc)

theorem Spelling.scans {text : String} (hs : Spelling text cs) (hstops : Stops rest)
    (h : Scans rest ss) : Scans (cs ++ rest) (.text text :: ss) := by
  cases hs with
  | quoted =>
    rw [quote, List.cons_append, List.append_assoc]
    exact h.quoted text
  | bare hne hchars => exact h.plain hne (fun c hc => isPlain_iff.2 (hchars c hc)) hstops

/-- A key and its value are read as the heading of a clause. -/
theorem scans_heading {key value : String} {k sep v : List Char} (hkey : Spelling key k)
    (hsep : Blanks sep) (hne : sep ≠ []) (hvalue : Spelling value v) (hstops : Stops rest)
    (h : Scans rest ss) : Scans (k ++ (sep ++ (v ++ rest))) (heading key (some value) ++ ss) := by
  refine hkey.scans ?_ (Scans.blanks hsep (hvalue.scans hstops h))
  obtain ⟨c, sep, rfl⟩ := List.exists_cons_of_ne_nil hne
  exact stops_cons (by simp [isPlain, (hsep c List.mem_cons_self).1])

theorem Block.replicate_newline {clauses : List Clause} (hb : Block ss clauses) (n : Nat) :
    Block (List.replicate n .newline ++ ss) clauses := by
  induction n with
  | zero => exact hb
  | succ n ih => exact ih.newline

end Parts

/-! ## Reading back -/

/-- **What is written is a block**: the characters are scanned as symbols from which clauses are
derived, and those describe the entries. -/
theorem Writes.exists_block {es : List Entry} {cs : List Char} (hw : Writes es cs) :
    ∃ ss clauses, Block ss clauses ∧ Clause.entries clauses = es ∧
      ∀ {rest ss'}, Scans rest ss' → Scans (cs ++ rest) (ss ++ ss') := by
  induction hw with
  | nil => exact ⟨[], [], .empty, rfl, id⟩
  | @leaf key value es k sep v e g cs hkey hsep hne hvalue hend hgap _ ih =>
    obtain ⟨ss, clauses, hblock, rfl, hscans⟩ := ih
    obtain ⟨n, hgap⟩ := hgap.exists_scans
    refine ⟨heading key (some value) ++ .newline :: (List.replicate n .newline ++ ss),
      .bare key (some value) :: clauses, ?_, rfl, fun h => ?_⟩
    · refine .bare ?_ (hblock.replicate_newline n).newline
      rintro s ⟨⟩
      rfl
    · simp only [List.append_assoc, List.cons_append]
      exact scans_heading hkey hsep hne hvalue hend.stops (hend.scans (hgap (hscans h)))
  | @node key value children es k sep v before within block e g cs hkey hsep hne hvalue hbefore
      hwithin _ hend hgap _ ihInner ih =>
    obtain ⟨inner, clauses, hinner, rfl, hscansInner⟩ := ihInner
    obtain ⟨ss, clauses', hblock, rfl, hscans⟩ := ih
    have hstops : ∀ {rest}, Stops (before ++ '{' :: rest) := hbefore.stops (stops_cons (by decide))
    obtain ⟨b, hbefore⟩ := hbefore.exists_scans
    obtain ⟨w, hwithin⟩ := hwithin.exists_scans
    obtain ⟨n, hgap⟩ := hgap.exists_scans
    refine ⟨heading key (some value) ++ (List.replicate b .newline ++ .opening ::
        ((List.replicate w .newline ++ inner) ++ .closing :: .newline ::
          (List.replicate n .newline ++ ss))),
      .braced key (some value) clauses :: clauses', ?_, rfl, fun h => ?_⟩
    · exact .braced b (hinner.replicate_newline w) (hblock.replicate_newline n).newline
    · simp only [List.append_assoc, List.cons_append]
      exact scans_heading hkey hsep hne hvalue hstops
        (hbefore (hwithin (hscansInner (hend.scans (hgap (hscans h))).closing)).opening)

/-- Every way to lay out a document is read as the document. -/
theorem parse_of_layout {doc : Document} {text : String} (h : Layout doc text) :
    parse text = .ok doc := by
  obtain ⟨g, cs, hgap, hwrites, htext⟩ := h
  obtain ⟨ss, clauses, hblock, hentries, hscans⟩ := hwrites.exists_block
  obtain ⟨n, hgap⟩ := hgap.exists_scans
  obtain ⟨tokens, hscan, hsymbols⟩ := hgap (hscans scans_nil) 1
  refine parse_eq_ok_iff.2 ⟨tokens, clauses, ?_, ?_, hentries⟩
  · rw [List.append_nil, ← htext] at hscan
    exact hscan
  · rw [List.append_nil] at hsymbols
    rw [show symbols tokens = _ from hsymbols]
    exact hblock.replicate_newline n

end Document

/-! ## Writing -/

open Document in
mutual

/-- The plain way to write an entry: all texts in quotes, and braces if there is a block. -/
def Entry.render : Entry → List Char
  | .mk key value [] => quote key ++ ' ' :: (quote value ++ ['\n'])
  | .mk key value (e :: es) =>
    quote key ++ ' ' :: (quote value ++ ' ' :: '{' :: '\n' ::
      (e.render ++ (Entry.renderAll es ++ ['}', '\n'])))

/-- The plain way to write entries. -/
def Entry.renderAll : List Entry → List Char
  | [] => []
  | e :: es => e.render ++ Entry.renderAll es

end

namespace Document

/-- The plain way to write a document. -/
def render (doc : Document) : String := String.ofList (Entry.renderAll doc)

theorem writes_renderAll : (es : List Entry) → Writes es (Entry.renderAll es)
  | [] => .nil
  | .mk key value [] :: es => by
    have h : Writes (.mk key value [] :: es) _ :=
      .leaf .quoted blanks_space (List.cons_ne_nil _ _) .quoted (.blank blanks_nil)
        (.blanks blanks_nil) (writes_renderAll es)
    simpa [Entry.renderAll, Entry.render] using h
  | .mk key value (e :: children) :: es => by
    have h : Writes (.mk key value (e :: children) :: es) _ :=
      .node .quoted blanks_space (List.cons_ne_nil _ _) .quoted (.blanks blanks_space)
        (.line (.blank blanks_nil) (.blanks blanks_nil)) (writes_renderAll (e :: children))
        (.blank blanks_nil) (.blanks blanks_nil) (writes_renderAll es)
    simpa [Entry.renderAll, Entry.render] using h

theorem layout_render (doc : Document) : Layout doc (render doc) := by
  refine ⟨[], Entry.renderAll doc, .blanks blanks_nil, writes_renderAll doc, ?_⟩
  rw [render, String.toList_ofList]
  rfl

/-- **Every document can be written and is read back**: all texts that it can be laid out as are
read as the document, and the plain way to write it is one of them. -/
theorem layout_exact :
    (∀ doc text, Layout doc text → parse text = .ok doc) ∧
    (∀ doc, Layout doc (render doc)) :=
  ⟨fun _ _ => parse_of_layout, layout_render⟩

end Document

namespace Sample

open Document

/-- A document with a brace and a backslash in its values. -/
def notice : Document := [.mk "rule" "{1}" [.mk "id" "a\\b" []]]

/-- The document with a comment above it and another before its block. -/
def noticeText : String := "; rules\r\nrule \"\x7b1\x7d\" ; first\r\n\x7b id a\\b\n\x7d\n"

theorem notice_layout : Layout notice noticeText := by
  have hlead : Gap "; rules\r\n".toList :=
    .line (@LineEnd.comment [] " rules\r".toList blanks_nil (by decide)) (.blanks blanks_nil)
  have hbefore : Gap " ; first\r\n".toList :=
    .line (@LineEnd.comment [' '] " first\r".toList blanks_space (by decide)) (.blanks blanks_nil)
  have hid : Writes [.mk "id" "a\\b" []] "id a\\b\n".toList :=
    .leaf (.of_all (by decide) (by decide)) blanks_space (List.cons_ne_nil _ _)
      (.of_all (by decide) (by decide)) (.blank blanks_nil) (.blanks blanks_nil) .nil
  exact ⟨_, _, hlead, .node (.of_all (by decide) (by decide)) blanks_space (List.cons_ne_nil _ _)
    .quoted hbefore (.blanks blanks_space) hid (.blank blanks_nil) (.blanks blanks_nil) .nil,
    by decide⟩

/-- It is read back, and so is the plain way to write it. -/
theorem notice_read :
    Layout notice noticeText ∧ parse noticeText = .ok notice ∧
      parse (render notice) = .ok notice := by
  obtain ⟨hread, hrender⟩ := layout_exact
  exact ⟨notice_layout, hread _ _ notice_layout, hread _ _ (hrender notice)⟩

end Sample

end TrustSchema
