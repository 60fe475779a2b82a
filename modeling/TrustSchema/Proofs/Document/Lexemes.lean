import Mathlib.Data.List.TakeWhile
import TrustSchema.Proofs.Document.Scanning

/-!
# Lexemes and lines

A text is put together from lexemes: tokens as they are written, comments, and single characters of
white space (`Token.Lexeme`). Where one lexeme ends depends on what stands behind it, so a row of
lexemes is always a row in front of a rest (`Token.Lexes`). Every text is such a row, up to its end
or up to a quote that begins no text (`Token.lexes_or_malformed`).

The scanner counts lines as it goes. No lexeme but the end of a line holds the end of a line, so the
count is that of the line ends passed, wherever the scanner stands (`Token.scanFrom_lexes`): each
token has the line on which its first character stands, and so has a quote that begins no text.
-/

namespace TrustSchema.Token

/-- The line of the character behind a text. -/
def lineBehind (before : List Char) : Nat := 1 + before.count '\n'

/-- What the scanner takes off a text in one step: some characters, and what they are, if they are a
token. -/
structure Lexeme where
  written : List Char
  symbol? : Option Symbol

namespace Lexeme

/-- A lexeme in front of the rest of a text. -/
inductive Taken : Lexeme → List Char → Prop
  | newline {behind : List Char} : Taken ⟨['\n'], some .newline⟩ behind
  | opening {behind : List Char} : Taken ⟨['{'], some .opening⟩ behind
  | closing {behind : List Char} : Taken ⟨['}'], some .closing⟩ behind
  | blank {c : Char} {behind : List Char} (blank : Text.isBlank c) (within : c ≠ '\n') :
      Taken ⟨[c], none⟩ behind
  | comment {body behind : List Char} (within : '\n' ∉ body)
      (ends : ∀ c ∈ behind.head?, c = '\n') : Taken ⟨';' :: body, none⟩ behind
  | quoted {body text behind : List Char} (read : quoted body = .ok (text, [])) :
      Taken ⟨'"' :: body, some (.text (String.ofList text))⟩ behind
  | plain {word behind : List Char} (some_char : word ≠ []) (plain : ∀ c ∈ word, isPlain c)
      (stops : Stops behind) : Taken ⟨word, some (.text (String.ofList word))⟩ behind

/-- The characters of some lexemes. -/
def spelling (ls : List Lexeme) : List Char := ls.flatMap written

@[simp] theorem spelling_nil : spelling [] = [] := rfl

@[simp] theorem spelling_cons (l : Lexeme) (ls : List Lexeme) :
    spelling (l :: ls) = l.written ++ spelling ls := rfl

/-- The token that a lexeme behind some text is, if it is one. -/
def token? (before : List Char) (l : Lexeme) : Option Token :=
  l.symbol?.map fun s => ⟨s, lineBehind before⟩

/-- The tokens of some lexemes behind some text, each with the line of its first character. -/
def tokens (before : List Char) : List Lexeme → List Token
  | [] => []
  | l :: ls => (l.token? before).toList ++ tokens (before ++ l.written) ls

end Lexeme

/-- Lexemes in a row in front of the rest of a text. -/
inductive Lexes : List Lexeme → List Char → Prop
  | nil {behind : List Char} : Lexes [] behind
  | cons {l : Lexeme} {ls : List Lexeme} {behind : List Char}
      (taken : l.Taken (Lexeme.spelling ls ++ behind)) (rest : Lexes ls behind) :
      Lexes (l :: ls) behind

/-- A quoted text is read up to its closing quote, which stands on the line it began on. -/
theorem exists_of_quoted {cs text behind : List Char} (h : quoted cs = .ok (text, behind)) :
    ∃ body, cs = body ++ behind ∧ '\n' ∉ body ∧ quoted body = .ok (text, []) := by
  fun_induction quoted cs generalizing text with
  | case1 => cases h
  | case2 rest =>
    cases h
    exact ⟨['"'], rfl, by decide, by rw [quoted]⟩
  | case3 => cases h
  | case4 => cases h
  | case5 => cases h
  | case6 c cs d hread ih =>
    obtain ⟨⟨text', rest'⟩, hquoted, h⟩ := bind_eq_ok_iff.1 h
    cases h
    obtain ⟨body, rfl, hbody, hquoted⟩ := ih hquoted
    refine ⟨'\\' :: c :: body, rfl, ?_, ?_⟩
    · -- No end of a line can follow a backslash.
      have hc : '\n' ≠ c := by
        rintro rfl
        cases hread
      simp [hbody, hc]
    · rw [quoted, hread]
      exact bind_eq_ok_iff.2 ⟨_, hquoted, rfl⟩
  | case7 c cs hquote hnewline hlast hescape ih =>
    obtain ⟨⟨text', rest'⟩, hquoted, h⟩ := bind_eq_ok_iff.1 h
    cases h
    obtain ⟨body, rfl, hbody, hquoted⟩ := ih hquoted
    refine ⟨c :: body, rfl, List.not_mem_cons_of_ne_of_not_mem (Ne.symm hnewline) hbody, ?_⟩
    have hslash : c ≠ '\\' := by
      rintro rfl
      cases body with
      | nil => cases hquoted
      | cons d body => exact hescape d (body ++ _) rfl rfl
    rw [quoted]
    · exact bind_eq_ok_iff.2 ⟨_, hquoted, rfl⟩
    all_goals simp_all

/-! ## Counting lines -/

section Lines

variable {before cs behind : List Char} {l : Lexeme} {ls : List Lexeme}

theorem lineBehind_append_of_notMem (h : '\n' ∉ cs) :
    lineBehind (before ++ cs) = lineBehind before := by
  rw [lineBehind, List.count_append, List.count_eq_zero_of_not_mem h]
  rfl

theorem lineBehind_append_newline : lineBehind (before ++ ['\n']) = lineBehind before + 1 := by
  rw [lineBehind, List.count_append]
  rfl

theorem one_le_lineBehind : 1 ≤ lineBehind before := Nat.le_add_right _ _

theorem lineBehind_le_append : lineBehind before ≤ lineBehind (before ++ cs) := by
  rw [lineBehind, lineBehind, List.count_append]
  omega

/-- The scanner takes one lexeme off a text, and counts on. -/
theorem Lexeme.Taken.scanFrom_eq (h : l.Taken behind) :
    scanFrom (lineBehind before) (l.written ++ behind) =
      ((l.token? before).toList ++ ·) <$> scanFrom (lineBehind (before ++ l.written)) behind := by
  cases h with
  | newline =>
    rw [lineBehind_append_newline]
    exact scanFrom_newline _ _
  | opening =>
    rw [lineBehind_append_of_notMem (by decide)]
    exact scanFrom_opening _ _
  | closing =>
    rw [lineBehind_append_of_notMem (by decide)]
    exact scanFrom_closing _ _
  | @blank c _ hblank hwithin =>
    rw [lineBehind_append_of_notMem (by simpa using hwithin.symm)]
    exact (scanFrom_blank _ _ hblank hwithin).trans (id_map _).symm
  | @comment body _ hwithin hends =>
    rw [lineBehind_append_of_notMem (by simpa using hwithin)]
    exact (scanFrom_comment_append _ _ hwithin hends).trans (id_map _).symm
  | @quoted body text _ hread =>
    obtain ⟨body', hbody, hwithin, -⟩ := exists_of_quoted hread
    rw [List.append_nil] at hbody
    subst hbody
    rw [lineBehind_append_of_notMem (by simpa using hwithin)]
    exact scanFrom_quoted _ _ (quoted_append hread)
  | @plain word _ hsome hplain hstops =>
    have hwithin : '\n' ∉ word := fun hmem => absurd (hplain _ hmem) (by decide)
    rw [lineBehind_append_of_notMem hwithin]
    exact scanFrom_plain_append _ _ hsome hplain hstops

/-- **The lines that the scanner counts are those of the text**: it gives the tokens of lexemes,
each with the line of its first character, and goes on behind them on the line that is reached. -/
theorem scanFrom_lexes (h : Lexes ls behind) (before : List Char) :
    scanFrom (lineBehind before) (Lexeme.spelling ls ++ behind) = (Lexeme.tokens before ls ++ ·) <$>
      scanFrom (lineBehind (before ++ Lexeme.spelling ls)) behind := by
  induction h generalizing before with
  | nil =>
    rw [Lexeme.spelling_nil, List.append_nil]
    exact (id_map _).symm
  | @cons l ls behind taken _ ih =>
    rw [Lexeme.spelling_cons, List.append_assoc, taken.scanFrom_eq, ih, List.append_assoc]
    cases scanFrom (lineBehind (before ++ (l.written ++ Lexeme.spelling ls))) behind with
    | error e => rfl
    | ok rest => exact congrArg Except.ok (List.append_assoc _ _ _).symm

theorem Lexeme.line_le_of_mem_tokens {t : Token} (h : t ∈ Lexeme.tokens before ls) :
    1 ≤ t.line ∧ t.line ≤ lineBehind (before ++ Lexeme.spelling ls) := by
  induction ls generalizing before with
  | nil => cases h
  | cons l ls ih =>
    rcases List.mem_append.1 h with h | h
    · obtain ⟨s, -, rfl⟩ := Option.map_eq_some_iff.1 (Option.mem_toList.1 h)
      exact ⟨one_le_lineBehind, lineBehind_le_append⟩
    · have hbounds := ih h
      rwa [List.append_assoc] at hbounds

end Lines

/-! ## Every text is a row of lexemes -/

section Existence

variable {cs : List Char}

/-- Some lexeme stands at the front of a text, or a quote that begins no text. -/
theorem exists_taken (c : Char) (cs : List Char) :
    (∃ (l : Lexeme) (behind : List Char), c :: cs = l.written ++ behind ∧ l.Taken behind ∧
        behind.length ≤ cs.length) ∨
      ∃ reason, c = '"' ∧ quoted cs = .error reason := by
  by_cases hnewline : c = '\n'
  · subst hnewline
    exact .inl ⟨_, cs, rfl, .newline, Nat.le_refl _⟩
  by_cases hopening : c = '{'
  · subst hopening
    exact .inl ⟨_, cs, rfl, .opening, Nat.le_refl _⟩
  by_cases hclosing : c = '}'
  · subst hclosing
    exact .inl ⟨_, cs, rfl, .closing, Nat.le_refl _⟩
  by_cases hcomment : c = ';'
  · subst hcomment
    have hwithin : '\n' ∉ cs.takeWhile (· != '\n') := fun hmem => by
      simpa using List.mem_takeWhile_imp hmem
    have hends : ∀ d ∈ (cs.dropWhile (· != '\n')).head?, d = '\n' := fun d hd => by
      simpa using head_dropWhile_eq_false d hd
    refine .inl ⟨_, _, ?_, .comment hwithin hends, Text.length_dropWhile_le _ _⟩
    rw [List.cons_append, List.takeWhile_append_dropWhile]
  by_cases hquote : c = '"'
  · cases hread : quoted cs with
    | error reason => exact .inr ⟨reason, hquote, rfl⟩
    | ok p =>
      obtain ⟨text, behind⟩ := p
      obtain ⟨body, rfl, -, hbody⟩ := exists_of_quoted hread
      subst hquote
      exact .inl ⟨_, behind, rfl, .quoted hbody, by simp⟩
  by_cases hblank : Text.isBlank c
  · exact .inl ⟨_, cs, rfl, .blank hblank hnewline, Nat.le_refl _⟩
  · have hplain : ∀ d ∈ c :: cs.takeWhile isPlain, isPlain d :=
      List.forall_mem_cons.2 ⟨by simp_all [isPlain], fun d => List.mem_takeWhile_imp⟩
    have hstops : Stops (cs.dropWhile isPlain) := head_dropWhile_eq_false
    refine .inl ⟨_, _, ?_, .plain (List.cons_ne_nil _ _) hplain hstops,
      Text.length_dropWhile_le _ _⟩
    rw [List.cons_append, List.takeWhile_append_dropWhile]

/-- **Every text is a row of lexemes**, up to its end or up to a quote that begins no text. -/
theorem lexes_or_malformed (cs : List Char) :
    (∃ ls, cs = Lexeme.spelling ls ∧ Lexes ls []) ∨
      ∃ ls behind reason, cs = Lexeme.spelling ls ++ '"' :: behind ∧ Lexes ls ('"' :: behind) ∧
        quoted behind = .error reason := by
  induction hlength : cs.length using Nat.strongRecOn generalizing cs with
  | _ n ih =>
    cases cs with
    | nil => exact .inl ⟨[], rfl, .nil⟩
    | cons c cs =>
      obtain ⟨l, behind, heq, htaken, hle⟩ | ⟨reason, rfl, hread⟩ := exists_taken c cs
      · have hlt : behind.length < n := by
          rw [← hlength, List.length_cons]
          omega
        rw [heq]
        obtain ⟨ls, rfl, hls⟩ | ⟨ls, rest, reason, rfl, hls, hread⟩ := ih _ hlt behind rfl
        · refine .inl ⟨l :: ls, rfl, .cons ?_ hls⟩
          rwa [List.append_nil]
        · refine .inr ⟨l :: ls, rest, reason, ?_, .cons htaken hls, hread⟩
          rw [Lexeme.spelling_cons, List.append_assoc]
      · exact .inr ⟨[], cs, reason, rfl, .nil, hread⟩

end Existence

/-! ## What is scanned -/

section Scanned

variable {text : String} {tokens : List Token} {e : ParseError} {ls : List Lexeme}

theorem scan_of_lexes (hls : Lexes ls []) (htext : text.toList = Lexeme.spelling ls) :
    scan text = .ok (Lexeme.tokens [] ls) := by
  have hscan := scanFrom_lexes hls []
  rw [scanFrom_nil, List.append_nil, ← htext] at hscan
  exact hscan.trans (congrArg Except.ok (List.append_nil _))

theorem scan_of_malformed {behind : List Char} {reason : ParseReason}
    (hls : Lexes ls ('"' :: behind)) (htext : text.toList = Lexeme.spelling ls ++ '"' :: behind)
    (hread : quoted behind = .error reason) :
    scan text = .error ⟨lineBehind (Lexeme.spelling ls), reason⟩ := by
  have hscan := scanFrom_lexes hls []
  rw [scanFrom_quoted_error _ _ hread, ← htext] at hscan
  exact hscan

/-- The tokens of a text are those of its lexemes, each with the line of its first character. -/
theorem scan_eq_ok_iff : scan text = .ok tokens ↔
    ∃ ls, Lexes ls [] ∧ text.toList = Lexeme.spelling ls ∧ tokens = Lexeme.tokens [] ls := by
  constructor
  · intro h
    obtain ⟨ls, htext, hls⟩ | ⟨ls, behind, reason, htext, hls, hread⟩ :=
      lexes_or_malformed text.toList
    · exact ⟨ls, hls, htext, Except.ok.inj (h.symm.trans (scan_of_lexes hls htext))⟩
    · cases h.symm.trans (scan_of_malformed hls htext hread)
  · rintro ⟨ls, hls, htext, rfl⟩
    exact scan_of_lexes hls htext

/-- What is wrong with a text that has no tokens is a quote that begins no text, and the line is
that of the quote. -/
theorem scan_eq_error_iff : scan text = .error e ↔
    ∃ ls behind reason, Lexes ls ('"' :: behind) ∧
      text.toList = Lexeme.spelling ls ++ '"' :: behind ∧ quoted behind = .error reason ∧
      e = ⟨lineBehind (Lexeme.spelling ls), reason⟩ := by
  constructor
  · intro h
    obtain ⟨ls, htext, hls⟩ | ⟨ls, behind, reason, htext, hls, hread⟩ :=
      lexes_or_malformed text.toList
    · cases h.symm.trans (scan_of_lexes hls htext)
    · have he := h.symm.trans (scan_of_malformed hls htext hread)
      exact ⟨ls, behind, reason, hls, htext, hread, Except.error.inj he⟩
  · rintro ⟨ls, behind, reason, hls, htext, hread, rfl⟩
    exact scan_of_malformed hls htext hread

/-- Every token stands on a line of its text. -/
theorem line_le_of_scan (h : scan text = .ok tokens) :
    ∀ t ∈ tokens, 1 ≤ t.line ∧ t.line ≤ lineBehind text.toList := by
  obtain ⟨ls, -, htext, rfl⟩ := scan_eq_ok_iff.1 h
  rw [htext]
  exact fun t ht => Lexeme.line_le_of_mem_tokens ht

/-- What is wrong with a text that has no tokens shows on a line of the text. -/
theorem line_le_of_scan_error (h : scan text = .error e) :
    1 ≤ e.line ∧ e.line ≤ lineBehind text.toList := by
  obtain ⟨ls, behind, reason, -, htext, -, rfl⟩ := scan_eq_error_iff.1 h
  rw [htext]
  exact ⟨one_le_lineBehind, lineBehind_le_append⟩

end Scanned

end TrustSchema.Token
