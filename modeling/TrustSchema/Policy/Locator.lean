import TrustSchema.Pattern.Template
import TrustSchema.Policy.Filter

/-!
# Conditions on key locators

A checker can require of the key locator that a given name stands in a relation to it, that its URI
matches a pattern, or that a name made from it stands in a relation to a name made from the name of
the packet.
-/

namespace TrustSchema

/-- A way to make a name from another one: a pattern takes its URI apart, and a template makes a URI
from the parts. -/
structure NameMapping where
  pattern : Pattern
  template : Template

/-- The name that is made from a name, if the pattern matches and the result is a URI. -/
def NameMapping.image? (m : NameMapping) (n : Name) : Option Name := do
  let captures ← m.pattern.captures? n.uriChars
  (Name.ofUri (m.template.expand captures)).toOption

/-- A condition on the key locator of a packet. -/
inductive LocatorCheck
  /-- The name stands in the relation to the key locator. -/
  | related (name : Name) (relation : NameRelation)
  | pattern (p : Pattern)
  /-- The name made from the key locator stands in the relation to the one made from the name of the
  packet. -/
  | hyperRelation (key : NameMapping) (relation : NameRelation) (packet : NameMapping)

namespace LocatorCheck

/-- Whether a key locator satisfies the condition for a packet with a name. -/
def accepts : LocatorCheck → (keyLocator signedName : Name) → Bool
  | .related name relation, keyLocator, _ => relation.holds name keyLocator
  | .pattern p, keyLocator, _ => p.isMatch keyLocator.uriChars
  | .hyperRelation key relation packet, keyLocator, signedName =>
    match key.image? keyLocator, packet.image? signedName with
    | some a, some b => relation.holds a b
    | _, _ => false

/-- The relation that a value of a condition names. -/
def readRelation (word : String) : Except SectionFault NameRelation :=
  Section.keyword NameRelation.ofKeyword? "relation" word

/-- Reads a condition on made names from the entries of its section. -/
def ofHyperRelation (entries : List Entry) : Except SectionFault LocatorCheck := do
  let qualified := fun key => "checker.key-locator.hyper-relation." ++ key
  let next := fun key => Section.requireValue key (qualified key)
  let (value, entries) ← next "k-regex" entries
  let keyPattern ← Section.pattern value
  let (keyTemplate, entries) ← next "k-expand" entries
  let (word, entries) ← next "h-relation" entries
  let relation ← readRelation word
  let (value, entries) ← next "p-regex" entries
  let packetPattern ← Section.pattern value
  let (packetTemplate, entries) ← next "p-expand" entries
  Section.requireEnd "checker.key-locator.hyper-relation" entries
  return .hyperRelation ⟨keyPattern, .ofText keyTemplate⟩ relation
    ⟨packetPattern, .ofText packetTemplate⟩

/-- Reads a condition from the entries of its section. -/
def ofEntries (entries : List Entry) : Except SectionFault LocatorCheck := do
  let (type, entries) ← Section.requireValue "type" "checker.key-locator.type" entries
  if !Text.sameKeyword type "name" then throw (.unsupported "checker.key-locator.type" type)
  if Section.nextIs "name" entries then
    let (value, entries) ← Section.requireValue "name" "checker.key-locator.name" entries
    let name ← Section.name value
    let (word, entries) ← Section.requireValue "relation" "checker.key-locator.relation" entries
    let relation ← readRelation word
    Section.requireEnd "checker.key-locator" entries
    return .related name relation
  else if Section.nextIs "regex" entries then
    let (value, entries) ← Section.requireValue "regex" "checker.key-locator.regex" entries
    let p ← Section.pattern value
    Section.requireEnd "checker.key-locator" entries
    return .pattern p
  else
    match Section.takeIf "hyper-relation" entries with
    | (some block, entries) =>
      let check ← ofHyperRelation block.children
      Section.requireEnd "checker.key-locator" entries
      return check
    | (none, _) => throw (.missing "checker.key-locator.name, regex or hyper-relation")

end LocatorCheck

end TrustSchema
