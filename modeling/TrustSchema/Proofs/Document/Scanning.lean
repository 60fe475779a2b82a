import TrustSchema.Document.Token
import TrustSchema.Proofs.Runs
import TrustSchema.Proofs.Success

/-!
# What the scanner reads

The scanner has a mode for each kind of thing that can stand in a text: white space, comments, texts
with and without quotes, braces and line ends. Each mode has to stop at the right character. This
module has one law for each of them, of the same shape: if the scanner reads some symbols off a text
(`Token.Scans`), then with the thing put before the text it reads the symbol of that thing before
them. So a text can be scanned piece by piece, from its end to its beginning.

Only for comments and for texts without quotes it matters what follows: a comment has to be followed
by the end of its line, a text without quotes by a character that it cannot hold (`Token.Stops`).
-/

namespace TrustSchema.Token

/-- The scanner reads these symbols off a text, whichever line the text begins on. -/
def Scans (cs : List Char) (ss : List Symbol) : Prop :=
  ∀ line, ∃ tokens, scanFrom line cs = .ok tokens ∧ tokens.map symbol = ss

/-- A text without quotes ends before these characters. -/
def Stops (cs : List Char) : Prop := ∀ c ∈ cs.head?, isPlain c = false

/-- How a character is written in quotes. -/
def escape (c : Char) : List Char :=
  if c = '"' then ['\\', '"'] else if c = '\\' then ['\\', '\\'] else if c = '\n' then ['\\', 'n']
  else [c]

/-- A character is read back from the way it is written. -/
theorem quoted_escape_append (c : Char) (rest : List Char) :
    quoted (escape c ++ rest) = (fun p => (c :: p.1, p.2)) <$> quoted rest := by
  have hread : ∀ {e : Char}, unescape? e = some c →
      quoted ('\\' :: e :: rest) = (fun p => (c :: p.1, p.2)) <$> quoted rest := by
    intro e he
    rw [quoted, he]
    cases quoted rest <;> rfl
  unfold escape
  split
  · next h => exact hread (by subst h; rfl)
  · split
    · next h => exact hread (by subst h; rfl)
    · split
      · next h => exact hread (by subst h; rfl)
      · -- Any other character stands for itself.
        show quoted (c :: rest) = _
        rw [quoted]
        · cases quoted rest <;> rfl
        all_goals simp_all

/-- What is written in quotes is read back up to the closing quote. -/
theorem quoted_flatMap_escape (text rest : List Char) :
    quoted (text.flatMap escape ++ '"' :: rest) = .ok (text, rest) := by
  induction text with
  | nil => rw [List.flatMap_nil, List.nil_append, quoted]
  | cons c text ih =>
    rw [List.flatMap_cons, List.append_assoc, quoted_escape_append, ih]
    rfl

/-- What is read in quotes is read in front of anything. -/
theorem quoted_append {cs text rest behind : List Char}
    (h : quoted cs = .ok (text, rest)) :
    quoted (cs ++ behind) = .ok (text, rest ++ behind) := by
  fun_induction quoted cs generalizing text with
  | case1 => cases h
  | case2 => cases h; rw [List.cons_append, quoted]
  | case3 => cases h
  | case4 => cases h
  | case5 => cases h
  | case6 c cs d hread ih =>
    obtain ⟨⟨text', rest'⟩, hquoted, h⟩ := bind_eq_ok_iff.1 h
    cases h
    rw [List.cons_append, List.cons_append, quoted, hread]
    exact bind_eq_ok_iff.2 ⟨_, ih hquoted, rfl⟩
  | case7 c cs hquote hnewline hlast hescape ih =>
    obtain ⟨⟨text', rest'⟩, hquoted, h⟩ := bind_eq_ok_iff.1 h
    cases h
    have hslash : c ≠ '\\' := by
      rintro rfl
      cases cs with
      | nil => exact hlast rfl rfl
      | cons d cs => exact hescape d cs rfl rfl
    rw [List.cons_append, quoted]
    · exact bind_eq_ok_iff.2 ⟨_, ih hquoted, rfl⟩
    all_goals simp_all

/-! ## One step of the scanner -/

section Steps

variable (line : Nat) (rest : List Char)

theorem scanFrom_nil : scanFrom line [] = .ok [] := by
  unfold scanFrom
  rfl

theorem scanFrom_newline : scanFrom line ('\n' :: rest) =
    (⟨.newline, line⟩ :: ·) <$> scanFrom (line + 1) rest := by
  conv => lhs; unfold scanFrom
  exact bind_pure_comp _ _

theorem scanFrom_opening : scanFrom line ('{' :: rest) =
    (⟨.opening, line⟩ :: ·) <$> scanFrom line rest := by
  conv => lhs; unfold scanFrom
  exact bind_pure_comp _ _

theorem scanFrom_closing : scanFrom line ('}' :: rest) =
    (⟨.closing, line⟩ :: ·) <$> scanFrom line rest := by
  conv => lhs; unfold scanFrom
  exact bind_pure_comp _ _

theorem scanFrom_comment :
    scanFrom line (';' :: rest) = scanFrom line (rest.dropWhile (· != '\n')) := by
  conv => lhs; unfold scanFrom
  rfl

theorem scanFrom_quote : scanFrom line ('"' :: rest) =
    match quoted rest with
    | .error reason => .error ⟨line, reason⟩
    | .ok (text, behind) =>
      (⟨.text (String.ofList text), line⟩ :: ·) <$> scanFrom line behind := by
  conv => lhs; unfold scanFrom
  split
  case h_6 heq =>
    cases heq
    split
    · next hread => rw [hread]
    · next hread =>
      rw [hread]
      exact bind_pure_comp _ _
  case h_7 hquote heq =>
    cases heq
    exact absurd rfl hquote
  all_goals simp_all

theorem scanFrom_quoted {text behind : List Char} (h : quoted rest = .ok (text, behind)) :
    scanFrom line ('"' :: rest) =
      (⟨.text (String.ofList text), line⟩ :: ·) <$> scanFrom line behind := by
  rw [scanFrom_quote, h]

theorem scanFrom_quoted_error {reason : ParseReason} (h : quoted rest = .error reason) :
    scanFrom line ('"' :: rest) = .error ⟨line, reason⟩ := by
  rw [scanFrom_quote, h]

/-- No character with a meaning of its own is scanned as another. -/
theorem scanFrom_cons {c : Char} (hc : c ∉ ['\n', ';', '{', '}', '"']) :
    scanFrom line (c :: rest) =
      if Text.isBlank c then scanFrom line rest
      else (⟨.text (String.ofList (c :: rest.takeWhile isPlain)), line⟩ :: ·) <$>
        scanFrom line (rest.dropWhile isPlain) := by
  conv => lhs; unfold scanFrom
  split
  case h_7 heq =>
    cases heq
    split
    · rfl
    · exact bind_pure_comp _ _
  all_goals simp_all

/-- White space within a line is passed over. -/
theorem scanFrom_blank {c : Char} (hblank : Text.isBlank c) (hnewline : c ≠ '\n') :
    scanFrom line (c :: rest) = scanFrom line rest := by
  rw [scanFrom_cons, if_pos hblank]
  simp only [List.mem_cons, List.not_mem_nil, or_false, not_or]
  -- Of the characters with a meaning only the end of a line is blank.
  refine ⟨hnewline, ?_, ?_, ?_, ?_⟩ <;>
  · rintro rfl
    cases hblank

/-- A comment is passed over up to the end of its line. -/
theorem scanFrom_comment_append {body : List Char} (hbody : '\n' ∉ body)
    (hends : ∀ c ∈ rest.head?, c = '\n') :
    scanFrom line (';' :: (body ++ rest)) = scanFrom line rest := by
  rw [scanFrom_comment, dropWhile_append_eq (fun c hc => ?_) (fun c hc => ?_)]
  · simpa using fun heq : c = '\n' => hbody (heq ▸ hc)
  · simpa using hends c hc

/-- A text without quotes is read up to a character that it cannot hold. -/
theorem scanFrom_plain_append {word : List Char} (hne : word ≠ []) (hplain : ∀ c ∈ word, isPlain c)
    (hstops : Stops rest) : scanFrom line (word ++ rest) =
      (⟨.text (String.ofList word), line⟩ :: ·) <$> scanFrom line rest := by
  obtain ⟨c, others, rfl⟩ := List.exists_cons_of_ne_nil hne
  obtain ⟨hc, hothers⟩ := List.forall_mem_cons.1 hplain
  have hblank : ¬ Text.isBlank c = true := by
    intro hblank
    simp [isPlain, hblank] at hc
  rw [List.cons_append, scanFrom_cons, if_neg hblank, takeWhile_append_eq hothers hstops,
    dropWhile_append_eq hothers hstops]
  simp only [List.mem_cons, List.not_mem_nil, or_false, not_or]
  -- No character with a meaning is plain.
  refine ⟨?_, ?_, ?_, ?_, ?_⟩ <;>
  · rintro rfl
    cases hc

end Steps

/-! ## The laws -/

section Laws

variable {cs : List Char} {ss : List Symbol}

theorem scans_nil : Scans [] [] := fun line => ⟨[], scanFrom_nil line, rfl⟩

/-- A token is read in front of what is read behind it. -/
theorem Scans.token {front : List Char} {symbol : Symbol} (h : Scans cs ss)
    (hfront : ∀ line, ∃ line', scanFrom line front = (⟨symbol, line⟩ :: ·) <$> scanFrom line' cs) :
    Scans front (symbol :: ss) := by
  intro line
  obtain ⟨line', hfront⟩ := hfront line
  obtain ⟨tokens, hscan, hsymbols⟩ := h line'
  refine ⟨⟨symbol, line⟩ :: tokens, ?_, congrArg _ hsymbols⟩
  rw [hfront, hscan]
  rfl

theorem Scans.newline (h : Scans cs ss) : Scans ('\n' :: cs) (.newline :: ss) :=
  h.token fun line => ⟨line + 1, scanFrom_newline line cs⟩

theorem Scans.opening (h : Scans cs ss) : Scans ('{' :: cs) (.opening :: ss) :=
  h.token fun line => ⟨line, scanFrom_opening line cs⟩

theorem Scans.closing (h : Scans cs ss) : Scans ('}' :: cs) (.closing :: ss) :=
  h.token fun line => ⟨line, scanFrom_closing line cs⟩

/-- White space within a line separates texts and is nothing itself. -/
theorem Scans.blanks {blanks : List Char} (hblanks : ∀ c ∈ blanks, Text.isBlank c ∧ c ≠ '\n')
    (h : Scans cs ss) : Scans (blanks ++ cs) ss := by
  induction blanks with
  | nil => exact h
  | cons c blanks ih =>
    obtain ⟨⟨hblank, hnewline⟩, hblanks⟩ := List.forall_mem_cons.1 hblanks
    intro line
    rw [List.cons_append, scanFrom_blank _ _ hblank hnewline]
    exact ih hblanks line

/-- A comment is nothing, up to the end of its line. -/
theorem Scans.comment {body : List Char} (hbody : '\n' ∉ body) (hends : ∀ c ∈ cs.head?, c = '\n')
    (h : Scans cs ss) : Scans (';' :: (body ++ cs)) ss := by
  intro line
  rw [scanFrom_comment_append _ _ hbody hends]
  exact h line

/-- A text in quotes can be followed by anything. -/
theorem Scans.quoted (text : String) (h : Scans cs ss) :
    Scans ('"' :: (text.toList.flatMap escape ++ '"' :: cs)) (.text text :: ss) := by
  refine h.token fun line => ⟨line, ?_⟩
  rw [scanFrom_quoted line _ (quoted_flatMap_escape text.toList cs), String.ofList_toList]

/-- A text without quotes ends where a character follows that it cannot hold. -/
theorem Scans.plain {text : String} (hne : text ≠ "") (hplain : ∀ c ∈ text.toList, isPlain c)
    (hstops : Stops cs) (h : Scans cs ss) : Scans (text.toList ++ cs) (.text text :: ss) := by
  refine h.token fun line => ⟨line, ?_⟩
  have hsome : text.toList ≠ [] := fun hnil => hne (String.toList_eq_nil_iff.1 hnil)
  rw [scanFrom_plain_append _ _ hsome hplain hstops, String.ofList_toList]

end Laws

end TrustSchema.Token
