import TrustSchema.Unicode.CharSet

/-!
# Tables of characters

Properties of characters are tabulated as runs: the code points are passed in order, and a table
gives the lengths of the runs that have something in common. The lengths are written without any
separators. The last digit of a number is one of `0` to `9` and `a` to `z`, which stand for 0 to 35;
digits before it are capital letters, which stand for 0 to 25.

No run is empty, so what a table holds for a run is its length less one.
-/

namespace TrustSchema.Unicode

/-- Goes on with a digit: to the number that has begun, and to the complete ones, last first. -/
def readDigit (begun : Nat) (complete : List Nat) (c : Char) : Nat × List Nat :=
  if c.isUpper then (26 * begun + (c.toNat - 'A'.toNat), complete)
  else
    let last := if c.isDigit then c.toNat - '0'.toNat else c.toNat - 'a'.toNat + 10
    (0, (36 * begun + last) :: complete)

/-- The numbers that some lines hold. -/
def numbers (lines : List String) : List Nat :=
  let digits := lines.flatMap String.toList
  (digits.foldl (fun state c => readDigit state.1 state.2 c) (0, [])).2.reverse

/-- The numbers taken two by two. -/
def pairs : List Nat → List (Nat × Nat)
  | m :: n :: ns => (m, n) :: pairs ns
  | _ => []

/-- The boundaries behind the numbers of code points between them. -/
def boundariesFrom (start : Nat) : List Nat → List Nat
  | [] => []
  | n :: ns => (start + n) :: boundariesFrom (start + n + 1) ns

theorem ascendsFrom_boundariesFrom (start : Nat) (ns : List Nat) :
    AscendsFrom start (boundariesFrom start ns) := by
  induction ns generalizing start with
  | nil => exact .nil
  | cons n ns ih => exact ⟨Nat.le_add_right .., ih _⟩

/-- The set whose table gives the lengths of the runs outside and inside in turn. -/
def setOf (lines : List String) : CharSet :=
  ⟨boundariesFrom 0 (numbers lines), ascendsFrom_boundariesFrom 0 _⟩

/-- A property whose values have numbers: each run with the number of its value. -/
structure ValueTable where
  runs : List (Nat × Nat)

namespace ValueTable

/-- The table that gives the value and the length of each run. -/
def ofLines (lines : List String) : ValueTable := ⟨pairs (numbers lines)⟩

/-- The boundaries of the runs whose values are selected, from a place on. -/
def boundaries (select : Nat → Bool) (inside : Bool) (start : Nat) : List (Nat × Nat) → List Nat
  | [] => if inside then [start] else []
  | (value, length) :: runs =>
    CharSet.place inside (select value) start
      (boundaries select (select value) (start + length + 1) runs)

theorem ascendsFrom_boundaries (select : Nat → Bool) (inside : Bool) (start : Nat)
    (runs : List (Nat × Nat)) : AscendsFrom start (boundaries select inside start runs) := by
  induction runs generalizing inside start with
  | nil => cases inside <;> simp [boundaries, AscendsFrom]
  | cons run runs ih =>
    exact CharSet.ascendsFrom_place (Nat.le_refl _) ((ih _ _).mono (by omega))

/-- The characters whose values are selected. -/
def set (table : ValueTable) (select : Nat → Bool) : CharSet :=
  ⟨boundaries select false 0 table.runs, ascendsFrom_boundaries ..⟩

end ValueTable

end TrustSchema.Unicode
