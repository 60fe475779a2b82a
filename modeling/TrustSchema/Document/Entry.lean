/-!
# Configuration documents

A document is a list of entries. An entry has a key, a value, which is empty if none is written, and
a block of further entries. Keys may be repeated, and the order of entries matters.
-/

namespace TrustSchema

/-- An entry of a document: a key, a value and the entries of its block. -/
inductive Entry where
  | mk (key value : String) (children : List Entry)
  deriving Inhabited

namespace Entry

/-- The key of the entry. -/
def key : Entry → String
  | mk key _ _ => key

/-- The value of the entry; empty if none is written. -/
def value : Entry → String
  | mk _ value _ => value

/-- The entries of the block; none if there is no block. -/
def children : Entry → List Entry
  | mk _ _ children => children

@[simp] theorem key_mk (k v : String) (es : List Entry) : (mk k v es).key = k := rfl

@[simp] theorem value_mk (k v : String) (es : List Entry) : (mk k v es).value = v := rfl

@[simp] theorem children_mk (k v : String) (es : List Entry) : (mk k v es).children = es := rfl

end Entry

/-- A configuration document: its top-level entries in order. -/
abbrev Document := List Entry

mutual

/-- The entries of a tree in text order, each with its depth. -/
def Entry.flatten (depth : Nat) : Entry → List (Nat × Entry)
  | .mk key value children =>
    (depth, .mk key value children) :: Entry.flattenAll (depth + 1) children

/-- The entries of a block in text order, each with its depth. -/
def Entry.flattenAll (depth : Nat) : List Entry → List (Nat × Entry)
  | [] => []
  | e :: es => e.flatten depth ++ Entry.flattenAll depth es

end

end TrustSchema
