import TrustSchema.Pattern.ClassName
import TrustSchema.Unicode.Derived

/-!
# Regular expressions

Expressions after all flags have been resolved. Alternatives and repetitions are ordered: of all
matches that start at one place, the one preferred at the first choice where they differ counts.

Expressions can be compared: two are the same if they are built in the same way from sets with the
same members. The module on construction says in which form they are built.
-/

namespace TrustSchema.Pattern

/-- Conditions on the words around a place. -/
inductive WordEdge
  /-- Word characters on exactly one side, and the negation of that. -/
  | boundary
  | noBoundary
  /-- A word starts or ends here. -/
  | start
  | stop
  /-- No word character before, or none after. -/
  | startHalf
  | stopHalf
  deriving DecidableEq

/-- Conditions on a place in the text, which consume nothing. -/
inductive Look
  /-- The start or the end of the text. -/
  | start
  | stop
  /-- The start or the end of a line, with newlines between lines. -/
  | lineStart
  | lineEnd
  /-- The same, where a carriage return, a newline or both in a row end a line. -/
  | anyLineStart
  | anyLineEnd
  /-- Conditions on words; without Unicode, words are made of ASCII characters. -/
  | word (unicode : Bool) (edge : WordEdge)
  deriving DecidableEq

/-- The characters of words. -/
def wordSet (unicode : Bool) : CharSet := if unicode then Unicode.word else asciiWord

/-- Whether a condition on words holds, given whether there are word characters around a place. -/
def WordEdge.holds (before after : Bool) : WordEdge → Bool
  | boundary => before != after
  | noBoundary => before == after
  | start => !before && after
  | stop => before && !after
  | startHalf => !before
  | stopHalf => !after

/-- Whether a condition holds between two characters, either of which may be missing. -/
def Look.holds (look : Look) (before after : Option Char) : Bool :=
  match look with
  | start => before.isNone
  | stop => after.isNone
  | lineStart => before.all (· == '\n')
  | lineEnd => after.all (· == '\n')
  | anyLineStart =>
    before.all fun c => c == '\n' || (c == '\r' && after != some '\n')
  | anyLineEnd =>
    after.all fun c => c == '\r' || (c == '\n' && before != some '\r')
  | word unicode edge =>
    let isWord := (wordSet unicode).contains
    edge.holds (before.any isWord) (after.any isWord)

/-- A regular expression. -/
inductive Expr
  /-- The empty text. -/
  | empty
  /-- One or more characters in a row. -/
  | literal (text : List Char)
  /-- One character of a set. A set that is meant for bytes is not the same as one that is meant for
  characters, even if it has the same members. -/
  | set (unicode : Bool) (s : CharSet)
  /-- A condition on the place. -/
  | look (l : Look)
  /-- A group whose text is kept under a number. -/
  | group (index : Nat) (body : Expr)
  /-- One expression after the other. -/
  | seq (first second : Expr)
  /-- Either expression; the first is preferred. -/
  | alt (first second : Expr)
  /-- At least `least` and at most `most` repetitions; more are preferred if it is greedy. -/
  | repeat (greedy : Bool) (least : Nat) (most : Option Nat) (body : Expr)
  deriving DecidableEq

namespace Expr

/-- The expressions in a row that an expression consists of. -/
def parts : Expr → List Expr
  | empty => []
  | seq e f => e.parts ++ f.parts
  | e => [e]

/-- The alternatives that an expression consists of. -/
def branches : Expr → List Expr
  | alt e f => e.branches ++ f.branches
  | e => [e]

/-- The least number of characters that a match consumes, unless no match is known. -/
def minLength? : Expr → Option Nat
  | empty | look _ => some 0
  | literal text => some text.length
  | set _ s => if s = .empty then none else some 1
  | group _ e => e.minLength?
  | seq e f => do return (← e.minLength?) + (← f.minLength?)
  | alt e f => do return min (← e.minLength?) (← f.minLength?)
  | .repeat _ least _ e => do return least * (← e.minLength?)

/-- Whether every match consumes a character. -/
def consumes (e : Expr) : Bool := e.minLength?.any (· != 0)

/-- Whether no match consumes a character. -/
def isVoid : Expr → Bool
  | empty | look _ => true
  | literal _ | set .. => false
  | group _ e => e.isVoid
  | seq e f => e.isVoid && f.isVoid
  | alt e f => e.isVoid && f.isVoid
  | .repeat _ _ most e => most == some 0 || e.isVoid

end Expr

end TrustSchema.Pattern
