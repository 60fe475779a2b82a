import TrustSchema.Proofs.Document.Reading
import TrustSchema.Proofs.Document.Scanning

/-!
# Documents one below the other

The texts of two documents, with the end of a line between them, are the text of one document: its
entries are those of the first and then those of the second (`Document.parse_append`). Nothing that
stands open at the end of the first text reaches over to the second one.

For the scanner this holds as every mode stops at the end of a line or before
(`Token.scans_append_of_scanFrom`). For the grammar it does because an entry at the end of a block
ends with it, and may as well end with a line (`Document.Block.append`).
-/

namespace TrustSchema

namespace Token

section Scanning

variable {line : Nat} {cs rest : List Char} {tokens : List Token} {ss : List Symbol}

/-- A run that is taken off a text ends where it ended before anything was put behind the text. -/
theorem ends_dropWhile_append {p : Char → Bool} (hends : ∀ c ∈ rest.head?, p c = false) :
    ∀ c ∈ (cs.dropWhile p ++ rest).head?, p c = false := by
  cases hdrop : cs.dropWhile p with
  | nil => exact hends
  | cons d behind =>
    have hd : ∀ c ∈ (cs.dropWhile p).head?, p c = false := head_dropWhile_eq_false
    rw [hdrop] at hd
    exact hd

/-- **Nothing that is read off a text depends on the lines below.** -/
theorem scans_append_of_scanFrom (h : scanFrom line cs = .ok tokens)
    (hends : ∀ c ∈ rest.head?, c = '\n') (hrest : Scans rest ss) :
    Scans (cs ++ rest) (tokens.map symbol ++ ss) := by
  induction line, cs using scanFrom.induct generalizing tokens with
  | case1 line =>
    rw [scanFrom_nil] at h
    cases h
    exact hrest
  | case2 line cs ih =>
    rw [scanFrom_newline] at h
    obtain ⟨behind, hbehind, rfl⟩ := map_eq_ok_iff.1 h
    exact (ih hbehind).newline
  | case3 line cs ih =>
    rw [scanFrom_comment] at h
    have hbody : '\n' ∉ cs.takeWhile (· != '\n') := fun hmem => by
      simpa using List.mem_takeWhile_imp hmem
    have hline : ∀ c ∈ (cs.dropWhile (· != '\n') ++ rest).head?, c = '\n' := fun c hc => by
      simpa using ends_dropWhile_append (fun d hd => by simp [hends d hd]) c hc
    have hcomment := Scans.comment hbody hline (ih h)
    rw [← List.append_assoc, List.takeWhile_append_dropWhile] at hcomment
    exact hcomment
  | case4 line cs ih =>
    rw [scanFrom_opening] at h
    obtain ⟨behind, hbehind, rfl⟩ := map_eq_ok_iff.1 h
    exact (ih hbehind).opening
  | case5 line cs ih =>
    rw [scanFrom_closing] at h
    obtain ⟨behind, hbehind, rfl⟩ := map_eq_ok_iff.1 h
    exact (ih hbehind).closing
  | case6 line cs reason hquoted =>
    rw [scanFrom_quoted_error line cs hquoted] at h
    cases h
  | case7 line cs text others hquoted ih =>
    rw [scanFrom_quoted line cs hquoted] at h
    obtain ⟨behind, hbehind, rfl⟩ := map_eq_ok_iff.1 h
    exact (ih hbehind).token fun line =>
      ⟨line, scanFrom_quoted line (cs ++ rest) (quoted_append hquoted)⟩
  | case8 line c cs hnewline hcomment hopening hclosing hquote hblank ih =>
    have hc : c ∉ ['\n', ';', '{', '}', '"'] := by simp_all
    rw [scanFrom_cons line cs hc, if_pos hblank] at h
    have hblanks : ∀ d ∈ [c], Text.isBlank d ∧ d ≠ '\n' := by
      rintro d hd
      obtain rfl := List.mem_singleton.1 hd
      exact ⟨hblank, hnewline⟩
    have hread : Scans ([c] ++ (cs ++ rest)) _ := Scans.blanks hblanks (ih h)
    exact hread
  | case9 line c cs hnewline hcomment hopening hclosing hquote hblank ih =>
    have hc : c ∉ ['\n', ';', '{', '}', '"'] := by simp_all
    rw [scanFrom_cons line cs hc, if_neg hblank] at h
    obtain ⟨behind, hbehind, rfl⟩ := map_eq_ok_iff.1 h
    have hplain : ∀ d ∈ (String.ofList (c :: cs.takeWhile isPlain)).toList, isPlain d := by
      rw [String.toList_ofList]
      refine List.forall_mem_cons.2 ⟨by simp_all [isPlain], fun d => List.mem_takeWhile_imp⟩
    have hstops : Stops (cs.dropWhile isPlain ++ rest) :=
      ends_dropWhile_append fun d hd => by rw [hends d hd]; decide
    have hread := Scans.plain (by simp) hplain hstops (ih hbehind)
    rw [String.toList_ofList, List.cons_append, ← List.append_assoc,
      List.takeWhile_append_dropWhile] at hread
    exact hread

end Scanning

end Token

namespace Document

section Parsing

variable {ss ss' : List Symbol} {cs cs' : List Clause}

theorem EndsClause.append_newline (he : EndsClause ss) : EndsClause (ss ++ .newline :: ss') := by
  cases ss with
  | nil =>
    rintro s ⟨⟩
    rfl
  | cons s ss => exact he

/-- **Blocks one below the other are one block**, with the clauses of both. -/
theorem Block.append (hb : Block ss cs) (hb' : Block ss' cs') :
    Block (ss ++ .newline :: ss') (cs ++ cs') := by
  induction hb with
  | empty => exact .newline hb'
  | newline _ ih => exact .newline ih
  | bare ends _ ih =>
    rw [List.append_assoc]
    exact .bare ends.append_newline ih
  | braced gap block _ _ ih =>
    simp only [List.append_assoc, List.cons_append]
    exact .braced gap block ih

theorem entries_append (cs cs' : List Clause) :
    Clause.entries (cs ++ cs') = Clause.entries cs ++ Clause.entries cs' := by
  induction cs with
  | nil => rfl
  | cons c cs ih => exact congrArg (c.entry :: ·) ih

/-- **The texts of two documents, one below the other, are read as both documents**, one after the
other. -/
theorem parse_append {text text' : String} {doc doc' : Document} (h : parse text = .ok doc)
    (h' : parse text' = .ok doc') : parse (text ++ "\n" ++ text') = .ok (doc ++ doc') := by
  obtain ⟨tokens, cs, hscan, hblock, rfl⟩ := parse_eq_ok_iff.1 h
  obtain ⟨tokens', cs', hscan', hblock', rfl⟩ := parse_eq_ok_iff.1 h'
  -- The second text begins on a line further down, which changes no symbol.
  have hlower : Token.Scans (text'.toList ++ []) (symbols tokens' ++ []) :=
    Token.scans_append_of_scanFrom hscan' nofun Token.scans_nil
  rw [List.append_nil, List.append_nil] at hlower
  have hends : ∀ c ∈ ('\n' :: text'.toList).head?, c = '\n' := by
    rintro c ⟨⟩
    rfl
  obtain ⟨both, hboth, hsymbols⟩ := Token.scans_append_of_scanFrom hscan hends hlower.newline 1
  refine parse_eq_ok_iff.2 ⟨both, cs ++ cs', ?_, ?_, entries_append cs cs'⟩
  · unfold Token.scan
    rw [String.toList_append, String.toList_append, List.append_assoc]
    exact hboth
  · rw [show symbols both = _ from hsymbols]
    exact hblock.append hblock'

end Parsing

end Document

end TrustSchema
