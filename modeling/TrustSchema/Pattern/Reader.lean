import TrustSchema.Unicode.CharSet
import TrustSchema.Text.Blank

/-!
# Reading pattern text

The state of a pattern that is being read, and the steps that all parts of the notation share. In
verbose mode white space and comments, which start with `#` and end with the line, may stand between
any two characters of the notation.
-/

namespace TrustSchema.Pattern

/-- The switches that change the meaning of a pattern. -/
structure Flags where
  ignoreCase : Bool := false
  multiLine : Bool := false
  dotAll : Bool := false
  swapGreed : Bool := false
  unicode : Bool := true
  carriageReturn : Bool := false
  verbose : Bool := false
  deriving DecidableEq

namespace Flags

/-- The letters of the switches. -/
def letters : List Char := ['i', 'm', 's', 'U', 'u', 'R', 'x']

/-- Sets the switch with the given letter. -/
def set (flags : Flags) (on : Bool) : Char → Flags
  | 'i' => { flags with ignoreCase := on }
  | 'm' => { flags with multiLine := on }
  | 's' => { flags with dotAll := on }
  | 'U' => { flags with swapGreed := on }
  | 'u' => { flags with unicode := on }
  | 'R' => { flags with carriageReturn := on }
  | 'x' => { flags with verbose := on }
  | _ => flags

/-- Applies a list of letters: those before a dash are switched on, those after it off. Letters may
not be repeated, and a dash needs a letter after it. -/
def switch? (flags : Flags) (switches : List Char) : Option Flags :=
  let known := switches.all fun c => c == '-' || letters.contains c
  if known && decide switches.Nodup && switches.getLast? != some '-' then
    let on := switches.takeWhile (· != '-')
    let off := (switches.dropWhile (· != '-')).drop 1
    some (off.foldl (set · false) (on.foldl (set · true) flags))
  else none

end Flags

/-- What is left of a pattern, and what has been seen of it. -/
structure Reader where
  rest : List Char
  flags : Flags := {}
  /-- The number of groups that have begun. -/
  groups : Nat := 0
  /-- The groups that have names. -/
  names : List (String × Nat) := []

/-- A step that reads a part of a pattern, or finds it malformed. -/
abbrev Reading := StateT Reader Option

namespace Reading

/-- Gives up: the pattern is malformed. -/
def malformed {α : Type} : Reading α := fun _ => none

/-- Passes if a condition holds. -/
def ensure (condition : Bool) : Reading Unit :=
  if condition then pure () else malformed

/-- The value of an optional result. -/
def lift {α : Type} : Option α → Reading α
  | some a => pure a
  | none => malformed

/-- The characters that are left. -/
def rest : Reading (List Char) := fun r => some (r.rest, r)

/-- Goes on with other characters. -/
def goto (rest : List Char) : Reading Unit := modify fun r => { r with rest }

/-- The switches in force. -/
def flags : Reading Flags := fun r => some (r.flags, r)

/-- Changes the switches. -/
def setFlags (flags : Flags) : Reading Unit := modify fun r => { r with flags }

/-- Drops white space and comments from the front of a text. -/
def dropSpace (inComment : Bool) : List Char → List Char
  | [] => []
  | c :: cs =>
    if inComment then dropSpace (c != '\n') cs
    else if Text.isBlank c then dropSpace false cs
    else if c == '#' then dropSpace true cs
    else c :: cs

/-- Passes over white space and comments in verbose mode. -/
def skip : Reading Unit := do
  if (← flags).verbose then goto (dropSpace false (← rest))

/-- Passes over one character and what `skip` passes over. -/
def advance : Reading Unit := do
  goto ((← rest).drop 1)
  skip

/-- Counts the dashes at the front of a text, and gives what follows them; in verbose mode white
space and comments may stand between them. -/
def dropDashes (verbose inComment : Bool) (count : Nat) : List Char → Nat × List Char
  | [] => (count, [])
  | c :: cs =>
    if inComment then dropDashes verbose (c != '\n') count cs
    else if c == '-' then dropDashes verbose false (count + 1) cs
    else if verbose && Text.isBlank c then dropDashes verbose false count cs
    else if verbose && c == '#' then dropDashes verbose true count cs
    else (count, c :: cs)

/-- Passes over any number of dashes. Gives their number. -/
def dashes : Reading Nat := do
  let (count, cs) := dropDashes (← flags).verbose false 0 (← rest)
  goto cs
  return count

/-- The text up to a closing brace and what is behind the brace; in verbose mode without white space
and comments. -/
def untilBrace (verbose inComment : Bool) : List Char → Option (List Char × List Char)
  | [] => none
  | c :: cs =>
    if inComment then untilBrace verbose (c != '\n') cs
    else if verbose && Text.isBlank c then untilBrace verbose false cs
    else if verbose && c == '#' then untilBrace verbose true cs
    else if c == '}' then some ([], cs)
    else (untilBrace verbose false cs).map fun (text, cs) => (c :: text, cs)

/-- Reads the text up to a closing brace, and the brace. -/
def braced : Reading (List Char) := do
  let (text, cs) ← lift (untilBrace (← flags).verbose false (← rest))
  goto cs
  return text

/-- The character behind the next one. In verbose mode white space and the start of one comment are
left out. -/
def second : Reading (Option Char) := do
  let cs := (← rest).drop 1
  if !(← flags).verbose then return cs.head?
  let after := match cs.dropWhile Text.isBlank with
    | '#' :: comment => comment.dropWhile Text.isBlank
    | after => after
  return after.head? <|> cs.head?

end Reading

end TrustSchema.Pattern
