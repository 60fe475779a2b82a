import TrustSchema.Pattern.Atom
import TrustSchema.Text.Letter
import TrustSchema.Text.Pieces

/-!
# Reading patterns

Groups, repetitions and alternatives. Switches that are set in a group stay in force up to its end,
across alternatives.

`Expr.parse?` reads a whole pattern and also gives its named groups with their numbers. Patterns in
which more than 250 constructions are nested are malformed.
-/

namespace TrustSchema.Pattern

namespace Reading

/-- What an opening parenthesis begins. -/
inductive Opening
  /-- Nothing but a change of switches. -/
  | switches
  /-- A group whose text is kept under a number. -/
  | capture (index : Nat)
  /-- A group that only groups. -/
  | plain

/-- Counts a new group and gives its number. -/
def newGroup : Reading Nat := do
  modify fun r => { r with groups := r.groups + 1 }
  return (← get).groups

/-- Whether a text can name a group. -/
def isGroupName : List Char → Bool
  | [] => false
  | c :: cs =>
    (c == '_' || Text.isLetter c) &&
      cs.all fun c =>
        ['_', '.', '[', ']'].contains c || Text.isLetter c || Text.isNumeral c

/-- Reads the name of a group up to its closing angle bracket. No name is given twice. -/
def groupName (index : Nat) : Reading Unit := do
  let cs ← rest
  let name := cs.takeWhile (· != '>')
  let _ :: after := cs.dropWhile (· != '>') | malformed
  ensure (isGroupName name)
  let names := (← get).names
  ensure ((names.lookup (String.ofList name)).isNone)
  modify fun r => { r with rest := after, names := names ++ [(String.ofList name, index)] }

/-- Reads switches from behind a question mark, and the colon or parenthesis after them. -/
def switches : Reading Opening := do
  let isEnd := fun c => c == ':' || c == ')'
  let cs ← rest
  let letters := cs.takeWhile (!isEnd ·)
  let last :: after := cs.dropWhile (!isEnd ·) | malformed
  setFlags (← lift ((← flags).switch? letters))
  goto after
  if last == ':' then return .plain
  ensure !letters.isEmpty
  return .switches

/-- Reads the start of a group from behind its parenthesis. There are no conditions on the text
around a match, so their notation is malformed. -/
def opening : Reading Opening := do
  skip
  match ← rest with
  | '?' :: '=' :: _ | '?' :: '!' :: _ | '?' :: '<' :: '=' :: _ | '?' :: '<' :: '!' :: _ => malformed
  | '?' :: 'P' :: '<' :: cs | '?' :: '<' :: cs =>
    let index ← newGroup
    goto cs
    groupName index
    return .capture index
  | '?' :: cs =>
    goto cs
    switches
  | _ => return .capture (← newGroup)

/-- The number in a repetition, which may have white space around it. -/
def count? (cs : List Char) : Option Nat :=
  (Text.ofDigits? (Text.trim cs)).filter (Text.fitsBits 32)

/-- The least and the greatest number of repetitions that the text in braces gives. -/
def counts? (text : List Char) : Option (Nat × Option Nat) :=
  match Text.pieces ',' text with
  | [exact] => do
    let n ← count? exact
    return (n, some n)
  | [least, []] => do
    return (← count? least, none)
  | [least, most] => do
    let m ← count? least
    let n ← count? most
    if m ≤ n then return (m, some n) else none
  | _ => none

/-- Reads the counts of a repetition, if one begins here. -/
def repetition? : Reading (Option (Nat × Option Nat)) := do
  match ← rest with
  | '?' :: cs => goto cs; return some (0, some 1)
  | '*' :: cs => goto cs; return some (0, none)
  | '+' :: cs => goto cs; return some (1, none)
  | '{' :: cs =>
    goto cs
    let counts ← lift (counts? (← braced))
    skip
    return some counts
  | _ => return none

/-- Reads the question mark that makes a repetition prefer few to many. -/
def isGreedy : Reading Bool := do
  let swapGreed := (← flags).swapGreed
  match ← rest with
  | '?' :: cs => goto cs; return swapGreed
  | _ => return !swapGreed

/-- Any character, or any but those that end a line. -/
def anyCharacter : Reading CharSet := do
  let flags ← flags
  ensure flags.unicode
  if flags.dotAll then return .all
  else if flags.carriageReturn then return (CharSet.ofText "\r\n").complement
  else return (CharSet.single '\n').complement

/-- The condition that the start or the end of the text or of a line has. -/
def edge (atStart : Bool) : Reading Look := do
  let flags ← flags
  match atStart, flags.multiLine, flags.carriageReturn with
  | true, false, _ => return .start
  | true, true, false => return .lineStart
  | true, true, true => return .anyLineStart
  | false, false, _ => return .stop
  | false, true, false => return .lineEnd
  | false, true, true => return .anyLineEnd

/-- The expression of an atom outside of classes. -/
def ofAtom : Atom → Reading Expr
  | .set s => return .ofSet (← flags).unicode s
  | .look l => return .look l
  | .literal c byte => do
    let flags ← flags
    ensure (flags.unicode || !byte || c.toNat < 128)
    let s := CharSet.single c
    return .ofSet flags.unicode (if flags.ignoreCase then s.foldCase flags.unicode else s)

/-- A part of a pattern, with the number of constructions nested in it. -/
structure Part where
  expr : Expr
  depth : Nat := 0

/-- Parts in a row, given last first. Several ones are a construction of their own. -/
def Part.row : List Part → Part
  | [part] => part
  | parts =>
    let depth := if parts.isEmpty then 0 else (parts.map Part.depth).foldl max 0 + 1
    ⟨.concat (parts.reverse.map Part.expr), depth⟩

/-- Alternatives, given last first. Several ones are a construction of their own. -/
def Part.choice : List Part → Part
  | [part] => part
  | parts => ⟨.alternation (parts.reverse.map Part.expr), (parts.map Part.depth).foldl max 0 + 1⟩

/-- Reads a character, a class or a condition. -/
def single : Reading Part := do
  match ← rest with
  | [] => malformed
  | '[' :: cs =>
    goto cs
    let (set, depth) ← bracketed
    return ⟨.ofSet (← flags).unicode set, depth⟩
  | '.' :: cs => goto cs; return ⟨.ofSet true (← anyCharacter), 0⟩
  | '^' :: cs => goto cs; return ⟨.look (← edge true), 0⟩
  | '$' :: cs => goto cs; return ⟨.look (← edge false), 0⟩
  | '\\' :: cs => goto cs; return ⟨← ofAtom (← escape), 0⟩
  | c :: cs => goto cs; return ⟨← ofAtom (.literal c false), 0⟩

/-- Reads alternatives up to the end of the group or of the pattern. `done` are the alternatives
that are complete, `items` is the current one, both last first. A change of switches is an item that
matches the empty text; other items can be repeated. -/
def alternatives (nested : Bool) : Nat → List Part → List Part → Bool → Reading Part
  | 0, _, _, _ => malformed
  | fuel + 1, done, items, repeatable => do
    skip
    match ← rest with
    | [] =>
      ensure !nested
      return .choice (.row items :: done)
    | ')' :: cs =>
      ensure nested
      goto cs
      return .choice (.row items :: done)
    | '|' :: cs =>
      goto cs
      alternatives nested fuel (.row items :: done) [] false
    | '(' :: cs =>
      let outer ← flags
      goto cs
      match ← opening with
      | .switches => alternatives nested fuel done (⟨.empty, 0⟩ :: items) false
      | .plain =>
        let body ← alternatives true fuel [] [] false
        setFlags outer
        alternatives nested fuel done (⟨body.expr, body.depth + 1⟩ :: items) true
      | .capture index =>
        let body ← alternatives true fuel [] [] false
        setFlags outer
        alternatives nested fuel done (⟨.group index body.expr, body.depth + 1⟩ :: items) true
    | _ =>
      match ← repetition?, items with
      | none, _ => alternatives nested fuel done ((← single) :: items) true
      | some _, [] => malformed
      | some (least, most), item :: items =>
        ensure repeatable
        let greedy ← isGreedy
        let repeated := Expr.repetition greedy least most item.expr
        alternatives nested fuel done (⟨repeated, item.depth + 1⟩ :: items) true

end Reading

/-- The greatest number of constructions that may be nested. -/
def depthLimit : Nat := 250

/-- The expression that a pattern denotes and its named groups, unless the pattern is malformed. -/
def Expr.parse? (source : String) : Option (Expr × List (String × Nat)) := do
  let cs := source.toList
  let (part, reader) ← (Reading.alternatives false (cs.length + 1) [] [] false).run { rest := cs }
  if part.depth ≤ depthLimit then return (part.expr, reader.names) else none

end TrustSchema.Pattern
