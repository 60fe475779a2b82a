import TrustSchema.Pattern.Basic
import TrustSchema.Text.Digit
import TrustSchema.Text.Pieces

/-!
# Templates

A template makes a text from the groups of a match. `$1` and `$name` stand for the text of a group,
and so do `${1}` and `${name}`, where the reference ends with the brace; `$$` stands for a dollar
sign. A reference to a group that does not exist or took no part in the match stands for nothing. A
`$` that starts no reference stands for itself.

In configurations a group can also be written as its number behind one or two backslashes. Such a
reference is replaced by the form with braces when the template is read.
-/

namespace TrustSchema

/-- A template, with all references in the notation with a dollar sign. -/
structure Template where
  text : String
  deriving DecidableEq

namespace Template

/-- The text without the second of two backslashes, the first of which is already gone. -/
def dropBackslash : List Char → List Char
  | '\\' :: cs => cs
  | cs => cs

theorem length_dropBackslash_le (cs : List Char) : (dropBackslash cs).length ≤ cs.length := by
  unfold dropBackslash
  split <;> simp

/-- Replaces the numbers behind backslashes. A backslash that no number follows stays. -/
def braceReferences (cs : List Char) : List Char :=
  match cs with
  | [] => []
  | '\\' :: rest =>
    let digits := (dropBackslash rest).takeWhile Text.isDecimalDigit
    if digits.isEmpty then '\\' :: braceReferences rest
    else
      "$\x7b".toList ++ digits ++ "\x7d".toList ++
        braceReferences ((dropBackslash rest).dropWhile Text.isDecimalDigit)
  | c :: rest => c :: braceReferences rest
termination_by cs.length
decreasing_by
  · simp
  · have := length_dropBackslash_le rest
    have := Text.length_dropWhile_le Text.isDecimalDigit (dropBackslash rest)
    simp only [List.length_cons]
    omega
  · simp

/-- Reads a template of a configuration. -/
def ofText (text : String) : Template := ⟨String.ofList (braceReferences text.toList)⟩

/-- Whether a character can stand in a reference without braces. -/
def isReferenceChar (c : Char) : Bool := c.isAlphanum || c == '_'

/-- The text of the group that a reference names: a number, or else a name. -/
def groupText (c : Captures) (reference : List Char) : List Char :=
  match Text.unsigned? 64 reference with
  | some index => (c.group? index).getD []
  | none => (c.named? (String.ofList reference)).getD []

/-- Splits a text behind a dollar sign into the reference at its front and the rest. -/
def splitReference? (cs : List Char) : Option (List Char × List Char) :=
  match cs with
  | '{' :: cs =>
    match cs.dropWhile (· != '}') with
    | _ :: rest => some (cs.takeWhile (· != '}'), rest)
    | [] => none
  | cs =>
    match cs.takeWhile isReferenceChar with
    | [] => none
    | reference => some (reference, cs.dropWhile isReferenceChar)

/-- What is behind a reference is no longer than what is behind the dollar sign. -/
theorem length_le_of_splitReference? {cs reference rest : List Char}
    (h : splitReference? cs = some (reference, rest)) : rest.length ≤ cs.length := by
  unfold splitReference? at h
  split at h
  · next inner =>
    have hd := Text.length_dropWhile_le (· != '}') inner
    split at h
    · next heq =>
      rw [heq] at hd
      cases h
      simp only [List.length_cons] at hd ⊢
      omega
    · cases h
  · split at h
    · cases h
    · cases h
      exact Text.length_dropWhile_le isReferenceChar cs

/-- The text that a template makes. -/
def expandFrom (c : Captures) (cs : List Char) : List Char :=
  match cs with
  | [] => []
  | '$' :: '$' :: rest => '$' :: expandFrom c rest
  | '$' :: rest =>
    match _h : splitReference? rest with
    | some (reference, rest) => groupText c reference ++ expandFrom c rest
    | none => '$' :: expandFrom c rest
  | d :: rest => d :: expandFrom c rest
termination_by cs.length
decreasing_by
  · simp only [List.length_cons]; omega
  · have := length_le_of_splitReference? _h
    simp only [List.length_cons]
    omega
  all_goals simp

/-- The text that a template makes from the groups of a match. -/
def expand (t : Template) (c : Captures) : String := String.ofList (expandFrom c t.text.toList)

end Template

end TrustSchema
