import TrustSchema.Pattern.Basic
import TrustSchema.Policy.Relation
import TrustSchema.Policy.Section

/-!
# Filters

A filter says which names a rule covers: those to which a given name stands in a relation, or those
whose URI a pattern matches.
-/

namespace TrustSchema

/-- The pattern that a value denotes. -/
def Section.pattern (value : String) : Except SectionFault Pattern :=
  match Pattern.ofSource? value with
  | some p => .ok p
  | none => .error (.pattern value)

/-- A condition on names. -/
inductive Filter
  /-- The name stands in the relation to those that are covered. -/
  | related (name : Name) (relation : NameRelation)
  | pattern (p : Pattern)

namespace Filter

/-- Whether the filter covers a name. -/
def matchesName : Filter → Name → Bool
  | .related reference relation, n => relation.holds reference n
  | .pattern p, n => p.isMatch n.uriChars

/-- Reads a filter from the entries of its section. -/
def ofEntries (entries : List Entry) : Except SectionFault Filter := do
  let (type, entries) ← Section.requireValue "type" "filter.type" entries
  if !Text.sameKeyword type "name" then throw (.unsupported "filter.type" type)
  if Section.nextIs "name" entries then
    let (value, entries) ← Section.requireValue "name" "filter.name" entries
    let name ← Section.name value
    let (word, entries) ← Section.requireValue "relation" "filter.relation" entries
    let relation ← Section.keyword NameRelation.ofKeyword? "filter.relation" word
    Section.requireEnd "filter" entries
    return .related name relation
  else
    -- The key that is named in errors tells both choices.
    let qualified :=
      if Section.nextIs "regex" entries then "filter.regex" else "filter.name or filter.regex"
    let (value, entries) ← Section.requireValue "regex" qualified entries
    let p ← Section.pattern value
    Section.requireEnd "filter" entries
    return .pattern p

/-- Reads a filter from its section. -/
def ofEntry (e : Entry) : Except SectionFault Filter := ofEntries e.children

end Filter

end TrustSchema
