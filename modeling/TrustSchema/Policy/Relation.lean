import TrustSchema.Name.Basic
import TrustSchema.Text.Keyword

/-!
# Relations between names

The relations in which a configured name can be required to stand to another one.
-/

namespace TrustSchema

/-- A relation between a reference name and a target name. -/
inductive NameRelation
  | equal
  /-- The reference leads the target. -/
  | isPrefixOf
  /-- The reference leads the target, which is longer. -/
  | isStrictPrefixOf
  deriving DecidableEq

namespace NameRelation

/-- Every relation. -/
def all : List NameRelation := [.equal, .isPrefixOf, .isStrictPrefixOf]

/-- How the relation is written. -/
def label : NameRelation → String
  | .equal => "equal"
  | .isPrefixOf => "is-prefix-of"
  | .isStrictPrefixOf => "is-strict-prefix-of"

/-- The relation that a keyword of a configuration names, in any case. -/
def ofKeyword? (word : String) : Option NameRelation := Text.keyword? all label word

/-- Whether the reference stands in the relation to the target. -/
def holds : NameRelation → (reference target : Name) → Bool
  | .equal, a, b => a == b
  | .isPrefixOf, a, b => a.isPrefixOf b
  | .isStrictPrefixOf, a, b => decide (a.length < b.length) && a.isPrefixOf b

end NameRelation

end TrustSchema
