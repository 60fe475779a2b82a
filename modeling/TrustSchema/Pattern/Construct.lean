import TrustSchema.Pattern.Expr

/-!
# Construction of expressions

Expressions are put together in a form in which equal parts can be found: rows and alternatives are
not nested, characters in a row are one literal, and sets that can be written more simply are.

Alternatives that all begin with the same parts are turned into these parts, followed by a choice of
what is left. This decides which match is preferred: what is common is matched once, before any
alternative is chosen.
-/

namespace TrustSchema.Pattern.Expr

/-- One character of a set: a literal if there is only one, and always the same expression if there
is none. -/
def ofSet (unicode : Bool) (s : CharSet) : Expr :=
  if s = .empty then set false .empty
  else
    match s.member? with
    | some c => literal [c]
    | none => set unicode s

/-- Joins literals that follow each other. -/
def joinLiterals : List Expr → List Expr
  | [] => []
  | literal text :: es =>
    match joinLiterals es with
    | literal more :: es => literal (text ++ more) :: es
    | es => literal text :: es
  | e :: es => e :: joinLiterals es

/-- Expressions in a row, in the given form. -/
def row : List Expr → Expr
  | [] => empty
  | [e] => e
  | e :: es => seq e (row es)

/-- Expressions in a row. -/
def concat (es : List Expr) : Expr := row (joinLiterals (es.flatMap parts))

/-- The set of a literal with one character. -/
def singleton? : Expr → Option CharSet
  | literal [c] => some (.single c)
  | _ => none

/-- The set of an expression for one character of a set. -/
def set? : Expr → Option CharSet
  | set _ s => some s
  | _ => none

/-- Alternatives that are all single characters, or all sets, are one set. -/
def asSet? (es : List Expr) : Option Expr := do
  let sets ← es.mapM singleton? <|> es.mapM set?
  return ofSet true (.unionAll sets)

/-- Alternatives in order of preference, in the given form. -/
def oneOf : List Expr → Expr
  | [] => set false .empty
  | [e] => e
  | e :: es => alt e (oneOf es)

/-- Alternatives in order of preference, where there is nothing in common to take out. -/
def choice (es : List Expr) : Expr :=
  let es := es.flatMap branches
  match es with
  | [e] => e
  | _ => (asSet? es).getD (oneOf es)

/-- The common start of two lists. -/
def commonStart : List Expr → List Expr → List Expr
  | e :: es, f :: fs => if e = f then e :: commonStart es fs else []
  | _, _ => []

/-- What all alternatives begin with, if each of them has several parts. -/
def shared (es : List Expr) : List Expr :=
  let rows := es.map parts
  match rows with
  | [] => []
  | first :: others => if rows.all (2 ≤ ·.length) then others.foldl commonStart first else []

/-- Alternatives in order of preference. What all of them begin with is taken out once; then nothing
that is left can be taken out again. -/
def alternation (es : List Expr) : Expr :=
  let es := es.flatMap branches
  let start := shared es
  if start.isEmpty || es.length ≤ 1 || (asSet? es).isSome then choice es
  else concat (start ++ [choice (es.map fun e => concat (e.parts.drop start.length))])

/-- The repetition of an expression. What consumes nothing is repeated at most once. -/
def repetition (greedy : Bool) (least : Nat) (most : Option Nat) (e : Expr) : Expr :=
  let least := if e.isVoid then min least 1 else least
  let most := if e.isVoid then some (min (most.getD 1) 1) else most
  match least, most with
  | 0, some 0 => empty
  | 1, some 1 => e
  | _, _ => .repeat greedy least most e

end TrustSchema.Pattern.Expr
