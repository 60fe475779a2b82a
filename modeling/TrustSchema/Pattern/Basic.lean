import TrustSchema.Pattern.Parse
import TrustSchema.Pattern.Search

/-!
# Patterns

A pattern is a regular expression by which names in URI form are recognised and taken apart. It may
match anywhere in a text. There are groups, whose texts can be used to make new names, but neither
conditions on the text around a match nor references back into it.
-/

namespace TrustSchema

/-- A regular expression that has been read. -/
structure Pattern where
  /-- How the pattern is written. -/
  source : String
  /-- The named groups with their numbers. -/
  names : List (String × Nat)
  program : Pattern.Program

/-- The texts of the groups of a match. -/
structure Captures where
  text : List Char
  names : List (String × Nat)
  slots : Pattern.Slots

namespace Captures

/-- The text of a group, if the group exists and took part in the match. Group 0 is all of it. -/
def group? (c : Captures) (index : Nat) : Option (List Char) := do
  let start ← (← c.slots[2 * index]?)
  let stop ← (← c.slots[2 * index + 1]?)
  return (c.text.take stop).drop start

/-- The text of a named group, if the group exists and took part in the match. -/
def named? (c : Captures) (name : String) : Option (List Char) := do
  c.group? (← c.names.lookup name)

end Captures

namespace Pattern

/-- Reads a pattern, unless it is malformed. -/
def ofSource? (source : String) : Option Pattern := do
  let (e, names) ← Expr.parse? source
  return ⟨source, names, Program.ofExpr e⟩

/-- The groups of the match in a text, if there is one. -/
def captures? (p : Pattern) (text : List Char) : Option Captures := do
  return ⟨text, p.names, ← p.program.search text⟩

/-- Whether the pattern matches somewhere in a text. -/
def isMatch (p : Pattern) (text : List Char) : Bool := (p.captures? text).isSome

end Pattern

end TrustSchema
