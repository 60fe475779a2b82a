import TrustSchema.Text.Blank
import TrustSchema.Text.Pieces

/-!
# Tokens of a document

The text of a document consists of texts, braces and ends of lines; white space only separates
texts, and a `;` starts a comment that runs to the end of the line. A text is a run of characters
other than white space and `{ } ; "`, or it stands in quotes, where a backslash takes the next
character out of its role: `\0 \a \b \f \n \r \t \v` are control characters, `\" \' \\` stand for
the second character. A quoted text ends on the line it began on.

`Token.scan` gives the tokens of a text in order, each with the line it starts on.
-/

namespace TrustSchema

/-- What a token is. -/
inductive Symbol
  | text (value : String)
  | opening
  | closing
  | newline
  deriving DecidableEq

/-- A token and the line it starts on; the first line is 1. -/
structure Token where
  symbol : Symbol
  line : Nat
  deriving DecidableEq

/-- Why a text is no document. -/
inductive ParseReason
  /-- A backslash in quotes is followed by a character that has no meaning there. -/
  | escape (c : Char)
  /-- The line or the text ends inside quotes. -/
  | unterminated
  /-- The text ends inside a block. -/
  | openBlock
  /-- A block ends that has not begun. -/
  | unmatchedClosing
  /-- A block begins that belongs to no entry. -/
  | blockWithoutKey
  /-- A third text follows a key and its value on their line. -/
  | extraText (extra key : String)
  deriving DecidableEq

/-- The wording of the reason. -/
def ParseReason.message : ParseReason → String
  | .escape c => "invalid escape sequence \\" ++ String.singleton c
  | .unterminated => "unterminated string"
  | .openBlock => "unexpected end of input, expected '\x7d'"
  | .unmatchedClosing => "unmatched '\x7d'"
  | .blockWithoutKey => "unexpected '\x7b' without a key"
  | .extraText extra key => "unexpected " ++ extra ++ " after value of " ++ key

/-- Why a text is no document, and the line where that shows. -/
structure ParseError where
  line : Nat
  reason : ParseReason
  deriving DecidableEq

/-- The wording of the error. -/
def ParseError.message (e : ParseError) : String :=
  s!"{e.reason.message} (line {e.line})"

namespace Token

/-- The character that a character after a backslash stands for. -/
def unescape? : Char → Option Char
  | '0' => some '\x00'
  | 'a' => some '\x07'
  | 'b' => some '\x08'
  | 'f' => some '\x0c'
  | 'n' => some '\n'
  | 'r' => some '\r'
  | 't' => some '\t'
  | 'v' => some '\x0b'
  | '"' => some '"'
  | '\'' => some '\''
  | '\\' => some '\\'
  | _ => none

/-- Reads a quoted text from behind its opening quote. Returns what is behind the closing one. -/
def quoted : List Char → Except ParseReason (List Char × List Char)
  | [] => .error .unterminated
  | '"' :: rest => .ok ([], rest)
  | '\n' :: _ => .error .unterminated
  | '\\' :: [] => .error .unterminated
  | '\\' :: c :: rest =>
    match unescape? c with
    | none => .error (.escape c)
    | some d => do
      let (text, rest) ← quoted rest
      return (d :: text, rest)
  | c :: rest => do
    let (text, rest) ← quoted rest
    return (c :: text, rest)

/-- Whether a character can stand in a text without quotes. -/
def isPlain (c : Char) : Bool :=
  !Text.isBlank c && c != '{' && c != '}' && c != ';' && c != '"'

/-- A quoted text takes up at least its closing quote. -/
theorem length_lt_of_quoted {cs text rest : List Char} (h : quoted cs = .ok (text, rest)) :
    rest.length < cs.length := by
  fun_induction quoted cs generalizing text with
  | case1 => simp at h
  | case2 r => cases h; simp
  | case3 => simp at h
  | case4 => simp at h
  | case5 => simp at h
  | case6 c r d _ ih =>
    cases hq : quoted r with
    | error e => rw [hq] at h; cases h
    | ok p =>
      rw [hq] at h
      cases h
      have := ih hq
      simp only [List.length_cons]
      omega
  | case7 c r _ _ _ _ ih =>
    cases hq : quoted r with
    | error e => rw [hq] at h; cases h
    | ok p =>
      rw [hq] at h
      cases h
      have := ih hq
      simp only [List.length_cons]
      omega

/-- The tokens of a text that starts on the given line. -/
def scanFrom (line : Nat) (cs : List Char) : Except ParseError (List Token) :=
  match cs with
  | [] => .ok []
  | '\n' :: rest => do
    let tokens ← scanFrom (line + 1) rest
    return ⟨.newline, line⟩ :: tokens
  | ';' :: rest => scanFrom line (rest.dropWhile (· != '\n'))
  | '{' :: rest => do
    let tokens ← scanFrom line rest
    return ⟨.opening, line⟩ :: tokens
  | '}' :: rest => do
    let tokens ← scanFrom line rest
    return ⟨.closing, line⟩ :: tokens
  | '"' :: rest =>
    match _h : quoted rest with
    | .error reason => .error ⟨line, reason⟩
    | .ok (text, rest) => do
      let tokens ← scanFrom line rest
      return ⟨.text (String.ofList text), line⟩ :: tokens
  | c :: rest =>
    if Text.isBlank c then scanFrom line rest
    else do
      let tokens ← scanFrom line (rest.dropWhile isPlain)
      return ⟨.text (String.ofList (c :: rest.takeWhile isPlain)), line⟩ :: tokens
termination_by cs.length
decreasing_by
  · simp
  · have := Text.length_dropWhile_le (· != '\n') rest
    simp only [List.length_cons]
    omega
  · simp
  · simp
  · have := length_lt_of_quoted _h
    simp only [List.length_cons]
    omega
  · simp
  · have := Text.length_dropWhile_le isPlain rest
    simp only [List.length_cons]
    omega

/-- The tokens of a text in order, each with its line. -/
def scan (text : String) : Except ParseError (List Token) := scanFrom 1 text.toList

end Token

end TrustSchema
