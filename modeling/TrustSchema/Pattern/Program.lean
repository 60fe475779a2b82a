import TrustSchema.Pattern.Expr

/-!
# Programs for matching

An expression is turned into a graph of instructions. Where an instruction forks, its first branch
is preferred. Instructions that consume nothing may form cycles: a matcher passes each of them at
most once at any place of the text.
-/

namespace TrustSchema.Pattern

/-- A step of a match, with the numbers of the instructions that may follow. -/
inductive Instruction
  /-- Consumes one character of a set. -/
  | set (s : CharSet) (next : Nat)
  /-- Goes on if a condition holds. -/
  | look (l : Look) (next : Nat)
  /-- Notes the place in a slot. Group `i` starts in slot `2 * i` and ends in slot `2 * i + 1`. -/
  | mark (slot next : Nat)
  /-- Goes on in two ways, of which the first is preferred. -/
  | fork (first second : Nat)
  /-- The match is complete. -/
  | accept

/-- The instructions of an expression. -/
structure Program where
  instructions : Array Instruction
  start : Nat

namespace Program

/-- A step that adds instructions to a program. -/
abbrev Building := StateM (Array Instruction)

/-- Adds an instruction and gives its number. -/
def emit (i : Instruction) : Building Nat := fun p => (p.size, p.push i)

/-- Replaces an instruction. -/
def amend (index : Nat) (i : Instruction) : Building Unit :=
  modify fun p => p.setIfInBounds index i

/-- A fork into the body of a repetition and past it. -/
def choice (greedy : Bool) (body next : Nat) : Instruction :=
  if greedy then .fork body next else .fork next body

/-- Several copies of a part, one after the other. -/
def copies (part : Nat → Building Nat) : Nat → Nat → Building Nat
  | 0, next => pure next
  | n + 1, next => do part (← copies part n next)

/-- At most so many copies of a part, each within the option of the one before. -/
def options (greedy : Bool) (part : Nat → Building Nat) : Nat → Nat → Building Nat
  | 0, next => pure next
  | n + 1, next => do
    let body ← part (← options greedy part n next)
    emit (choice greedy body next)

/-- A part and any number of further copies of it. Gives the starts of the part and of the choice
that stands behind it. -/
def loop (greedy : Bool) (part : Nat → Building Nat) (next : Nat) : Building (Nat × Nat) := do
  let again ← emit .accept
  let body ← part again
  amend again (choice greedy body next)
  return (body, again)

/-- Adds the instructions of an expression, to be followed by the instruction `next`. Gives the
number of the first one. -/
def add : Expr → Nat → Building Nat
  | .empty, next => pure next
  | .literal text, next => text.foldrM (fun c next => emit (.set (.single c) next)) next
  | .set _ s, next => emit (.set s next)
  | .look l, next => emit (.look l next)
  | .group i e, next => do
    let body ← add e (← emit (.mark (2 * i + 1) next))
    emit (.mark (2 * i) body)
  | .seq e f, next => do add e (← add f next)
  | .alt e f, next => do
    let first ← add e next
    let second ← add f next
    emit (.fork first second)
  | .repeat greedy least most e, next =>
    match most, least with
    | some most, _ => do
      copies (add e) least (← options greedy (add e) (most - least) next)
    | none, 0 => do
      -- A body that may be empty is repeated as (e+)?. In a plain loop an empty pass would lead
      -- back to the choice that is already passed, and lose its place in the order of preference.
      let (body, again) ← loop greedy (add e) next
      if e.consumes then return again else emit (choice greedy body next)
    | none, least + 1 => do
      let (body, _) ← loop greedy (add e) next
      copies (add e) least body

/-- The program of an expression. Its whole match is group 0. -/
def ofExpr (e : Expr) : Program :=
  let (start, instructions) := (do add (.group 0 e) (← emit .accept) : Building Nat).run #[]
  ⟨instructions, start⟩

end Program

end TrustSchema.Pattern
