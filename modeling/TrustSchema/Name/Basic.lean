/-!
# Hierarchical names

A name is a sequence of components, outermost first, and a component is any byte string, the empty
one included. Names are compared component by component, components byte by byte.

- `Name.take n c`: the first `c` components; a negative `c` drops that many at the end.
- `Name.get? n i`: the component at `i`; a negative `i` counts from the end.
- `Name.isPrefixOf a b`: every component of `a` leads `b`.
- `Name.parent n`: the name without its last component. Signatures point at a certificate by the
  parent of its name.
-/

namespace TrustSchema

/-- One component of a name: an arbitrary byte string. -/
structure Component where
  bytes : List UInt8
  deriving DecidableEq

/-- A hierarchical name, outermost component first. -/
structure Name where
  components : List Component
  deriving DecidableEq

instance : Ord Component := ⟨fun a b => compare a.bytes b.bytes⟩

instance : Ord Name := ⟨fun a b => compare a.components b.components⟩

namespace Name

/-- The name without components. It leads every other name. -/
def root : Name := ⟨[]⟩

/-- The number of components. -/
def length (n : Name) : Nat := n.components.length

/-- Whether this is the root name. -/
def isEmpty (n : Name) : Bool := n.components.isEmpty

/-- The name with one more component at its end. -/
def push (n : Name) (c : Component) : Name := ⟨n.components ++ [c]⟩

/-- The number of leading components that a count selects in a name of the given length: a negative
count says how many to leave out at the end. -/
def clampedCount (length : Nat) (count : Int) : Nat :=
  if count < 0 then length - count.natAbs else min count.toNat length

/-- The first components of a name, as many as the count selects. -/
def take (n : Name) (count : Int) : Name :=
  ⟨n.components.take (clampedCount n.length count)⟩

/-- The component at an index; a negative index counts from the end. -/
def get? (n : Name) (index : Int) : Option Component :=
  if index < 0 then
    if index.natAbs ≤ n.length then n.components[n.length - index.natAbs]? else none
  else n.components[index.toNat]?

/-- The name without its last component. -/
def parent (n : Name) : Name := ⟨n.components.dropLast⟩

/-- Whether every component of the first name is a leading component of the second. -/
def isPrefixOf (a b : Name) : Bool := a.components.isPrefixOf b.components

/-- Names in ascending order. -/
def sort (names : List Name) : List Name :=
  names.mergeSort fun a b => (compare a b).isLE

@[simp] theorem take_neg_one (n : Name) : n.take (-1) = n.parent := by
  simp [take, parent, clampedCount, length, List.dropLast_eq_take]

@[simp] theorem parent_push (n : Name) (c : Component) : (n.push c).parent = n := by
  simp [parent, push]

theorem isPrefixOf_iff {a b : Name} :
    a.isPrefixOf b ↔ ∃ rest, b.components = a.components ++ rest := by
  simp only [isPrefixOf, List.isPrefixOf_iff_prefix]
  exact ⟨fun ⟨t, h⟩ => ⟨t, h.symm⟩, fun ⟨t, h⟩ => ⟨t, h.symm⟩⟩

end Name

end TrustSchema
