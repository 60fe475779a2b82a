import TrustSchema.Pattern.Construct
import TrustSchema.Pattern.Reader
import TrustSchema.Text.Digit
import TrustSchema.Text.Hex
import TrustSchema.Unicode.Property

/-!
# Characters, escapes and bracketed classes

The smallest parts of a pattern: literal characters, escapes with a backslash, and classes in
brackets. Without Unicode, classes hold ASCII characters only: one that would match other bytes is
malformed.

What is read comes with its depth, the number of constructions nested in it: classes can be nested
without end, but patterns may not be nested too deeply.
-/

namespace TrustSchema.Pattern

/-- The smallest parts of a pattern. -/
inductive Atom
  /-- A character. One that is written with two hexadecimal digits stands for a byte. -/
  | literal (c : Char) (byte : Bool)
  | set (s : CharSet)
  | look (l : Look)

namespace Reading

/-- Ends a class: letters are folded if case is ignored, and then the class may be negated. -/
def closeSet (negated : Bool) (s : CharSet) : Reading CharSet := do
  let flags ← flags
  let folded := if flags.ignoreCase then s.foldCase flags.unicode else s
  let result := if negated then folded.complement else folded
  ensure (flags.unicode || result.isAscii)
  return result

/-- The character with a number in hexadecimal digits. -/
def ofHex (digits : List Char) : Reading Char := do
  let values ← lift (digits.mapM Text.hexValue?)
  let n := values.foldl (fun n d => 16 * n + d) 0
  ensure (!digits.isEmpty && decide n.isValidChar)
  return Char.ofNat n

/-- Reads as many characters as asked for, passing over white space in verbose mode. -/
def take : Nat → Reading (List Char)
  | 0 => pure []
  | n + 1 => do
    match ← rest with
    | [] => malformed
    | c :: _ => advance; return c :: (← take n)

/-- Reads a number in hexadecimal digits: in braces, or `width` digits. -/
def hexLiteral (width : Nat) : Reading Atom := do
  skip
  match ← rest with
  | '{' :: cs =>
    goto cs
    let c ← ofHex (← braced)
    skip
    return .literal c false
  | _ => return .literal (← ofHex (← take width)) (width == 2)

/-- The parts of a text around the first occurrence of another one. -/
def cut? (mark : List Char) : List Char → Option (List Char × List Char)
  | [] => none
  | c :: cs =>
    if mark.isPrefixOf (c :: cs) then some ([], (c :: cs).drop mark.length)
    else (cut? mark cs).map fun (before, after) => (c :: before, after)

/-- The set of a property that is written in braces, and whether it is negated by `!=`. -/
def property? (text : List Char) : Option (CharSet × Bool) :=
  match cut? ['!', '='] text, cut? [':'] text <|> cut? ['='] text with
  | some (name, value), _ => (Unicode.propertyValue? name value).map (·, true)
  | none, some (name, value) => (Unicode.propertyValue? name value).map (·, false)
  | none, none => (Unicode.property? text).map (·, false)

/-- Reads a Unicode property from behind its letter. -/
def property (negated : Bool) : Reading Atom := do
  skip
  ensure (← flags).unicode
  match ← rest with
  | '{' :: cs =>
    goto cs
    let (set, opposite) ← lift (property? (← braced))
    return .set (← closeSet (negated != opposite) set)
  | c :: _ =>
    ensure (c != '\\')
    advance
    return .set (← closeSet negated (← lift (Unicode.property? [c])))
  | [] => malformed

/-- One of the classes that have a letter of their own: one set for Unicode, one for ASCII. -/
def letterClass (negated : Bool) (unicodeSet asciiSet : CharSet) : Reading Atom := do
  let unicode := (← flags).unicode
  let s := if unicode then unicodeSet else asciiSet
  let result := if negated then s.complement else s
  ensure (unicode || result.isAscii)
  return .set result

/-- A condition on words. -/
def wordEdge (edge : WordEdge) : Reading Atom := do
  return .look (.word (← flags).unicode edge)

/-- Reads a condition about words from behind `\b`. Braces that hold no letter or dash are left for
a repetition. -/
def boundary : Reading Atom := do
  match ← rest with
  | '{' :: cs =>
    let here := '{' :: cs
    goto cs
    skip
    match (← rest).head? with
    | none => malformed
    | some c =>
      if !c.isAlpha && c != '-' then goto here; wordEdge .boundary
      else
        match String.ofList (← braced) with
        | "start" => wordEdge .start
        | "end" => wordEdge .stop
        | "start-half" => wordEdge .startHalf
        | "end-half" => wordEdge .stopHalf
        | _ => malformed
  | _ => wordEdge .boundary

/-- Whether a backslash makes a character stand for itself. -/
def isEscapable (c : Char) : Bool :=
  c.toNat < 128 && !c.isAlphanum && c != '<' && c != '>'

/-- Reads an escape from behind its backslash. -/
def escape : Reading Atom := do
  let c :: cs ← rest | malformed
  goto cs
  match c with
  | 'x' => hexLiteral 2
  | 'u' => hexLiteral 4
  | 'U' => hexLiteral 8
  | 'p' => property false
  | 'P' => property true
  | 'd' => letterClass false Unicode.digit asciiDigit
  | 'D' => letterClass true Unicode.digit asciiDigit
  | 's' => letterClass false Unicode.whiteSpace asciiSpace
  | 'S' => letterClass true Unicode.whiteSpace asciiSpace
  | 'w' => letterClass false Unicode.word asciiWord
  | 'W' => letterClass true Unicode.word asciiWord
  | 'a' => return .literal '\x07' false
  | 'f' => return .literal '\x0c' false
  | 't' => return .literal '\t' false
  | 'n' => return .literal '\n' false
  | 'r' => return .literal '\r' false
  | 'v' => return .literal '\x0b' false
  | 'A' => return .look .start
  | 'z' => return .look .stop
  | 'b' => boundary
  | 'B' => wordEdge .noBoundary
  | '<' => wordEdge .start
  | '>' => wordEdge .stop
  | c =>
    ensure (isEscapable c)
    return .literal c false

/-! ## Classes in brackets -/

/-- Operations between the parts of a class. -/
inductive SetOperation
  | intersection
  | difference
  | symmetricDifference

/-- The result of an operation. -/
def SetOperation.apply : SetOperation → CharSet → CharSet → CharSet
  | intersection => CharSet.inter
  | difference => CharSet.diff
  | symmetricDifference => CharSet.symmDiff

/-- What stands in a class between operations: the set, the number of items, and the greatest depth
among them. -/
structure Members where
  set : CharSet := .empty
  count : Nat := 0
  itemDepth : Nat := 0

/-- Adds an item. -/
def Members.add (m : Members) (s : CharSet) (depth : Nat) : Members :=
  ⟨m.set.union s, m.count + 1, max m.itemDepth depth⟩

/-- The depth of the items; a list of several ones is a construction of its own. -/
def Members.depth (m : Members) : Nat := if m.count ≤ 1 then m.itemDepth else m.itemDepth + 1

/-- What stands before an operation in a class: the set, its depth, and the operation. -/
structure Operand where
  set : CharSet
  depth : Nat
  operation : SetOperation

/-- Joins the last operand of a class to what stands before it. Both are folded if case is ignored.
Gives the set and its depth. -/
def joinSets (before : Option Operand) (last : Members) : Reading (CharSet × Nat) := do
  match before with
  | none => return (last.set, last.depth)
  | some first =>
    let flags ← flags
    let fold := fun s : CharSet => if flags.ignoreCase then s.foldCase flags.unicode else s
    let result := first.operation.apply (fold first.set) (fold last.set)
    return (result, max first.depth last.depth + 1)

/-- The class that a name in `[:name:]` stands for, from behind the bracket, and what is left. -/
def namedClass? (cs : List Char) : Option (Bool × CharSet × List Char) := do
  let ':' :: cs := cs | none
  let (negated, cs) := match cs with
    | '^' :: cs => (true, cs)
    | cs => (false, cs)
  let ':' :: ']' :: after := cs.dropWhile (· != ':') | none
  let set ← className? (String.ofList (cs.takeWhile (· != ':')))
  return (negated, set, after)

/-- Reads a single character or an escape in a class. -/
def classAtom : Reading Atom := do
  match ← rest with
  | [] => malformed
  | '\\' :: cs => goto cs; escape
  | c :: cs => goto cs; return .literal c false

/-- The character of a literal in a class. -/
def classChar : Atom → Reading Char
  | .literal c _ => do
    ensure ((← flags).unicode || c.toNat < 128)
    return c
  | _ => malformed

/-- Reads a character, an escape or a range in a class. -/
def classItem : Reading CharSet := do
  let first ← classAtom
  skip
  let c :: _ ← rest | malformed
  let second ← second
  if c != '-' || second == some ']' || second == some '-' then
    match first with
    | .set s => return s
    | first => return CharSet.single (← classChar first)
  else
    advance
    let low ← classChar first
    let high ← classChar (← classAtom)
    ensure (low ≤ high)
    return CharSet.range low high

/-- Reads the start of a class from behind its bracket: whether it is negated, and the dashes or the
closing bracket that stand for themselves there. -/
def openClass : Reading (Bool × Members) := do
  skip
  let negated := (← rest).head? == some '^'
  if negated then advance
  let count ← dashes
  if count != 0 then return (negated, ⟨.single '-', count, 0⟩)
  match ← rest with
  | ']' :: _ => advance; return (negated, ⟨.single ']', 1, 0⟩)
  | _ => return (negated, {})

/-- The operation that a text starts with, and what follows. -/
def operation? : List Char → Option (SetOperation × List Char)
  | '&' :: '&' :: cs => some (.intersection, cs)
  | '-' :: '-' :: cs => some (.difference, cs)
  | '~' :: '~' :: cs => some (.symmetricDifference, cs)
  | _ => none

/-- Reads the rest of a class up to its closing bracket. `items` are the members of the current
operand, `before` is what stands before it. Operations group to the left. Gives the set and its
depth. -/
def classRest : Nat → Option Operand → Members → Reading (CharSet × Nat)
  | 0, _, _ => malformed
  | fuel + 1, before, items => do
    skip
    match ← rest with
    | [] => malformed
    | ']' :: cs =>
      goto cs
      joinSets before items
    | '[' :: cs =>
      match namedClass? cs with
      | some (negated, set, cs) =>
        goto cs
        classRest fuel before (items.add (← closeSet negated set) 0)
      | none =>
        goto cs
        let (negated, first) ← openClass
        let (inner, depth) ← classRest fuel none first
        classRest fuel before (items.add (← closeSet negated inner) (depth + 1))
    | cs =>
      match operation? cs with
      | some (operation, cs) =>
        goto cs
        let (set, depth) ← joinSets before items
        classRest fuel (some ⟨set, depth, operation⟩) {}
      | none => classRest fuel before (items.add (← classItem) 0)

/-- Reads a class from behind its opening bracket. Gives the set and its depth. -/
def bracketed : Reading (CharSet × Nat) := do
  let (negated, first) ← openClass
  let (set, depth) ← classRest ((← rest).length + 1) none first
  return (← closeSet negated set, depth + 1)

end Reading

end TrustSchema.Pattern
