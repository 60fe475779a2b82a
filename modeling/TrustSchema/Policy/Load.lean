import TrustSchema.Document.Parse
import TrustSchema.Files.Path
import TrustSchema.Policy.Basic

/-!
# Loading policies

A configuration consists of sections `rule` and `trust-anchor` in any order. Loading gives a policy,
or the first fault; there is no policy from a configuration with a fault.
-/

namespace TrustSchema

/-- Why a configuration gives no policy. -/
inductive LoadError
  /-- The file cannot be read. -/
  | unreadable (path : String) (reason : FileError)
  /-- The text is no document. -/
  | malformed (filename : String) (reason : ParseError)
  /-- The document has no entries. -/
  | noData (filename : String)
  | unknownSection (filename sectionName : String)
  | ruleWithoutId (filename : String) (reason : SectionFault)
  | inRule (id : String) (reason : SectionFault)
  | ruleWithoutChecker (id : String)
  | inTrustAnchor (filename : String) (reason : SectionFault)
  deriving DecidableEq

/-- The wording of the error. -/
def LoadError.message : LoadError → String
  | .unreadable path reason =>
    "failed to read configuration file " ++ path ++ ": " ++ reason.message
  | .malformed filename reason =>
    "failed to parse configuration file " ++ filename ++ ": " ++ reason.message
  | .noData filename => "error processing configuration file " ++ filename ++ ": no data"
  | .unknownSection filename sectionName =>
    "error processing configuration file " ++ filename ++ ": unrecognized section " ++ sectionName
  | .ruleWithoutId filename reason =>
    "error processing configuration file " ++ filename ++ ": " ++ reason.message
  | .inRule id reason => "error in rule " ++ id ++ ": " ++ reason.message
  | .ruleWithoutChecker id => "no <rule.checker> is specified in rule " ++ id
  | .inTrustAnchor filename reason =>
    "error in trust-anchor of " ++ filename ++ ": " ++ reason.message

/-- Reads a rule from the entries of its section. -/
def Rule.ofEntries (source : CertificateSource) (filename : String) (entries : List Entry) :
    Except LoadError Rule := do
  let (id, entries) ←
    (Section.requireValue "id" "rule.id" entries).mapError (.ruleWithoutId filename)
  let (word, entries) ← (Section.requireValue "for" "rule.for" entries).mapError (.inRule id)
  let kind ← (Section.keyword PacketKind.ofKeyword? "rule.for" word).mapError (.inRule id)
  let (filterEntries, entries) := Section.takeAll "filter" entries
  let filters ← (filterEntries.mapM Filter.ofEntry).mapError (.inRule id)
  let (checkerEntries, entries) := Section.takeAll "checker" entries
  let checkers ← (checkerEntries.mapM (Checker.ofEntry source)).mapError (.inRule id)
  -- Before the first checker another key stands in the place of one; after it the rule should end.
  match entries, checkers.isEmpty with
  | e :: _, true => throw (.inRule id (.unexpected "rule.checker" e.key))
  | e :: _, false => throw (.inRule id (.surplus "rule" e.key))
  | [], true => throw (.ruleWithoutChecker id)
  | [], false => return ⟨id, kind, filters, checkers⟩

namespace Policy

/-- What a section of a configuration adds to a policy. -/
inductive Part
  | rule (r : Rule)
  | anchor (c : Certificate)

namespace Part

/-- The rule that is added, if it is one. -/
def rule? : Part → Option Rule
  | .rule r => some r
  | .anchor _ => none

/-- The anchor that is added, if it is one. -/
def anchor? : Part → Option Certificate
  | .rule _ => none
  | .anchor c => some c

/-- Reads a section of a configuration. -/
def ofEntry (source : CertificateSource) (filename : String) (e : Entry) :
    Except LoadError Part :=
  if Section.hasKey "rule" e then .rule <$> Rule.ofEntries source filename e.children
  else if Section.hasKey "trust-anchor" e then
    .anchor <$>
      (source.certificate "trust-anchor" e.children).mapError (.inTrustAnchor filename)
  else .error (.unknownSection filename e.key)

end Part

/-- The policy with the given parts. Of anchors with one key name the last counts. -/
def ofParts (parts : List Part) : Policy :=
  ofRules (parts.filterMap Part.rule?) (.ofList (parts.filterMap Part.anchor?))

/-- Loads a policy from a document. `filename` is named in errors; certificate files are looked for
in its directory. -/
def ofDocument (files : Files) (filename : String) (document : Document) :
    Except LoadError Policy := do
  if document.isEmpty then throw (.noData filename)
  let parts ← document.mapM (Part.ofEntry ⟨files, Path.directory filename⟩ filename)
  return ofParts parts

/-- Loads a policy from the text of a configuration. -/
def ofText (files : Files) (filename text : String) : Except LoadError Policy := do
  let document ← (Document.parse text).mapError (.malformed filename)
  ofDocument files filename document

/-- Loads a policy from a file. -/
def ofFile (files : Files) (path : String) : Except LoadError Policy := do
  let text ← (files path).mapError (.unreadable path)
  ofText files path text

end Policy

end TrustSchema
