import TrustSchema.Document.Entry
import TrustSchema.Document.Token

/-!
# Reading documents

An entry is a key and, on the same line, an optional value; after any number of line ends a block in
braces may follow. A block holds entries and line ends. An entry without a block ends where its line
or the enclosing block ends; after a block the next entry may follow at once.

- `Document.block`: reads the entries up to the end of a block.
- `Document.parse`: reads a whole text. Faults in tokens are reported before faults in structure.
-/

namespace TrustSchema.Document

/-- Whether a token is the end of a line. -/
def isLineEnd (t : Token) : Bool := t.symbol == .newline

/-- The text at the front of some tokens and the tokens after it, or an empty text if none is
there. -/
def takeValue : List Token → String × List Token
  | ⟨.text value, _⟩ :: rest => (value, rest)
  | tokens => ("", tokens)

/-- What follows the key of an entry: its value, whether a block begins, and the tokens from there
on. Line ends before a block are passed over; where no block begins they are left alone. -/
def afterKey (key : String) (tokens : List Token) :
    Except ParseReason (String × Bool × List Token) :=
  let (value, tokens) := takeValue tokens
  match tokens with
  | ⟨.text extra, _⟩ :: _ => .error (.extraText extra key)
  | tokens =>
    -- A block may begin on a later line than its key.
    match tokens.dropWhile isLineEnd with
    | ⟨.opening, _⟩ :: inner => .ok (value, true, inner)
    | _ => .ok (value, false, tokens)

theorem length_takeValue_le (tokens : List Token) :
    (takeValue tokens).2.length ≤ tokens.length := by
  unfold takeValue
  split <;> simp

/-- What follows a key is no longer than what stands behind it. -/
theorem length_le_of_afterKey {key value : String} {opens : Bool} {tokens rest : List Token}
    (h : afterKey key tokens = .ok (value, opens, rest)) : rest.length ≤ tokens.length := by
  have hv := length_takeValue_le tokens
  simp only [afterKey] at h
  split at h
  · simp at h
  · have hd := Text.length_dropWhile_le isLineEnd (takeValue tokens).2
    split at h
    · next heq =>
      rw [heq] at hd
      simp only [Except.ok.injEq, Prod.mk.injEq] at h
      obtain ⟨_, _, rfl⟩ := h
      simp only [List.length_cons] at hd
      omega
    · simp only [Except.ok.injEq, Prod.mk.injEq] at h
      obtain ⟨_, _, rfl⟩ := h
      exact hv

/-- The entries up to the end of a block, and the tokens behind it. The top level, which is not
nested, ends with the tokens; `last` is the line of the last token of the text. -/
def block (nested : Bool) (last : Nat) (tokens : List Token) :
    Except ParseError (List Entry × { rest : List Token // rest.length ≤ tokens.length }) :=
  match tokens with
  | [] =>
    if nested then .error ⟨last, .openBlock⟩ else .ok ([], ⟨[], Nat.le_refl _⟩)
  | ⟨.newline, _⟩ :: tokens => do
    let (entries, rest) ← block nested last tokens
    return (entries, ⟨rest.1, Nat.le_succ_of_le rest.2⟩)
  | ⟨.closing, line⟩ :: tokens =>
    if nested then .ok ([], ⟨tokens, Nat.le_succ _⟩) else .error ⟨line, .unmatchedClosing⟩
  | ⟨.opening, line⟩ :: _ => .error ⟨line, .blockWithoutKey⟩
  | ⟨.text key, line⟩ :: tokens =>
    match h : afterKey key tokens with
    | .error reason => .error ⟨line, reason⟩
    | .ok (value, true, inner) => do
      have hi := length_le_of_afterKey h
      let (children, after) ← block true last inner
      have ha := after.2
      let (entries, rest) ← block nested last after.1
      have hr := rest.2
      return (.mk key value children :: entries, ⟨rest.1, by simp only [List.length_cons]; omega⟩)
    | .ok (value, false, after) => do
      have ha := length_le_of_afterKey h
      let (entries, rest) ← block nested last after
      have hr := rest.2
      return (.mk key value [] :: entries, ⟨rest.1, by simp only [List.length_cons]; omega⟩)
termination_by tokens.length

/-- The line of the last token; 1 if there are none. -/
def lastLine (tokens : List Token) : Nat := (tokens.getLast?.map Token.line).getD 1

/-- The document that tokens form. -/
def ofTokens (tokens : List Token) : Except ParseError Document := do
  let (entries, _) ← block false (lastLine tokens) tokens
  return entries

/-- The document that a text describes. -/
def parse (text : String) : Except ParseError Document := do
  ofTokens (← Token.scan text)

end TrustSchema.Document
