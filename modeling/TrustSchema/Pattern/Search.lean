import TrustSchema.Pattern.Program

/-!
# Searching

A program is run on all its ways through a text at once, in order of preference, without backing up.
The match found is the one that starts first; of those that start there it is the preferred one.
-/

namespace TrustSchema.Pattern

/-- The places that a match has noted, by slot. -/
abbrev Slots := Array (Option Nat)

/-- A way through the program: the next instruction, and what has been noted. -/
structure Way where
  instruction : Nat
  slots : Slots

/-- The ways at one place of the text, preferred ones first, and the instructions already passed. -/
structure Frontier where
  passed : Array Bool
  ways : Array Way

namespace Program

variable (p : Program)

/-- No ways. -/
def noWays : Frontier := ⟨Array.replicate p.instructions.size false, #[]⟩

/-- Adds the ways that start with an instruction, up to those that consume a character or are
complete. `before` and `after` are the characters around the place. Each call passes another
instruction, so as many calls as there are instructions can be nested. -/
def follow (place : Nat) (before after : Option Char) : Nat → Nat → Slots → Frontier → Frontier
  | 0, _, _, f => f
  | fuel + 1, i, slots, f =>
    if f.passed[i]?.getD true then f
    else
      let f := { f with passed := f.passed.setIfInBounds i true }
      match p.instructions[i]? with
      | none => f
      | some (.set ..) | some .accept => { f with ways := f.ways.push ⟨i, slots⟩ }
      | some (.look l next) =>
        if l.holds before after then follow place before after fuel next slots f else f
      | some (.mark slot next) =>
        follow place before after fuel next (slots.setIfInBounds slot (some place)) f
      | some (.fork first second) =>
        follow place before after fuel second slots
          (follow place before after fuel first slots f)

/-- Adds a way that starts at a place. -/
def enter (slotCount place : Nat) (before after : Option Char) (f : Frontier) : Frontier :=
  p.follow place before after (p.instructions.size + 1) p.start (Array.replicate slotCount none) f

/-- Takes ways over one character. Ways behind one that is complete are given up; its slots are
given back. -/
def step (place : Nat) (c : Char) (after : Option Char) :
    List Way → Frontier → Frontier × Option Slots
  | [], f => (f, none)
  | way :: ways, f =>
    match p.instructions[way.instruction]? with
    | some .accept => (f, some way.slots)
    | some (.set s next) =>
      let fuel := p.instructions.size + 1
      let f :=
        if s.contains c then p.follow (place + 1) (some c) after fuel next way.slots f else f
      step place c after ways f
    | _ => step place c after ways f

/-- The slots of the first way that is complete. -/
def complete? (ways : List Way) : Option Slots :=
  (ways.find? fun way => p.instructions[way.instruction]? matches some .accept).map Way.slots

/-- Searches the text from a place on. As long as no match is known, one may start anywhere; once
one is known, only the ways preferred to it are left. -/
def searchFrom (slotCount place : Nat) (before : Option Char) (f : Frontier)
    (best : Option Slots) : List Char → Option Slots
  | [] =>
    let f := if best.isNone then p.enter slotCount place before none f else f
    p.complete? f.ways.toList <|> best
  | c :: cs =>
    let f := if best.isNone then p.enter slotCount place before (some c) f else f
    -- What is found later was preferred to what was found before, or it would be given up.
    let (next, found) := p.step place c cs.head? f.ways.toList p.noWays
    searchFrom slotCount (place + 1) (some c) next (found <|> best) cs

/-- The number of slots that the program uses. -/
def slotCount : Nat :=
  p.instructions.foldl (fun n i =>
    match i with
    | .mark slot _ => max n (slot + 1)
    | _ => n) 0

/-- The slots of the match in a text, if there is one. -/
def search (text : List Char) : Option Slots :=
  p.searchFrom p.slotCount 0 none p.noWays none text

end Program

end TrustSchema.Pattern
