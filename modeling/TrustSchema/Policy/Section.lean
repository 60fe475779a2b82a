import TrustSchema.Document.Entry
import TrustSchema.Policy.SectionFault
import TrustSchema.Text.Keyword

/-!
# Reading sections

The entries of a section are read in order, front to back: each step looks at the entries that are
left and gives those that are left after it. Keys are compared without regard to case. In errors a
key is called by its qualified name, such as `rule.for`.
-/

namespace TrustSchema.Section

/-- The key of the next entry. -/
def nextKey? (entries : List Entry) : Option String := entries.head?.map Entry.key

/-- Whether an entry has a key. -/
def hasKey (key : String) (e : Entry) : Bool := Text.sameKeyword e.key key

/-- Whether the next entry has a key. -/
def nextIs (key : String) (entries : List Entry) : Bool := entries.head?.any (hasKey key)

/-- Takes the next entry if it has a key. -/
def takeIf (key : String) : List Entry → Option Entry × List Entry
  | [] => (none, [])
  | e :: entries => if hasKey key e then (some e, entries) else (none, e :: entries)

/-- Takes all entries up to the first one without a key. -/
def takeAll (key : String) (entries : List Entry) : List Entry × List Entry :=
  (entries.takeWhile (hasKey key), entries.dropWhile (hasKey key))

/-- Takes the next entry, which must have a key. -/
def require (key qualified : String) : List Entry → Except SectionFault (Entry × List Entry)
  | [] => .error (.missing qualified)
  | e :: entries =>
    if hasKey key e then .ok (e, entries) else .error (.unexpected qualified e.key)

/-- Takes the value of the next entry, which must have a key. -/
def requireValue (key qualified : String) (entries : List Entry) :
    Except SectionFault (String × List Entry) :=
  (require key qualified entries).map fun (e, rest) => (e.value, rest)

/-- Passes if no entries are left. -/
def requireEnd (sectionName : String) : List Entry → Except SectionFault Unit
  | [] => .ok ()
  | e :: _ => .error (.surplus sectionName e.key)

/-- The value that a keyword names. -/
def keyword {α : Type} (ofKeyword? : String → Option α) (qualified word : String) :
    Except SectionFault α :=
  match ofKeyword? word with
  | some a => .ok a
  | none => .error (.unsupported qualified word)

/-- The name that a value denotes. -/
def name (value : String) : Except SectionFault Name := (Name.ofUri value).mapError .name

end TrustSchema.Section
