import TrustSchema.Policy.Locator
import TrustSchema.Proofs.Pattern.GroupNames
import TrustSchema.Proofs.Runs

/-!
# What templates of names mean

A template of a configuration is a row of pieces: text that stands for itself, and references to
groups by number, with one or two backslashes (`Template.Piece`). It is read in two steps, each with
a notation of its own: references get a dollar sign and braces, by a template for them
(`Template.bracing`), and then these are replaced by the texts of the groups. In the end each piece
has the meaning that it has alone, whatever stands around it (`NameMapping.image_of_pieces`).

Two conditions are needed. Text must be free of backslashes and dollar signs, and it must not go on
with the number of a reference. Digits are those of all scripts here, but only the ASCII ones number
a group; a reference with other digits is to a group that does not exist, since no group has such a
name either.
-/

namespace TrustSchema

namespace Template

/-- A piece of a template. -/
inductive Piece
  | literal (text : List Char)
  /-- A reference to a group, by the digits of its number behind one or two backslashes. -/
  | reference (doubled : Bool) (digits : List Char)

namespace Piece

/-- How a piece is written. -/
def written : Piece → List Char
  | literal text => text
  | reference false digits => '\\' :: digits
  | reference true digits => '\\' :: '\\' :: digits

/-- How a piece is written in the notation with a dollar sign. -/
def braced : Piece → List Char
  | literal text => text
  | reference _ digits => '$' :: '{' :: (digits ++ ['}'])

/-- The text of the group with a number; none if there is no such group, or if it took no part in
the match. Numbers of more than 64 bits, and digits of other scripts, are no group's. -/
def numberedText (c : Captures) (digits : List Char) : List Char :=
  (((Text.ofDigits? digits).filter (Text.fitsBits 64)).bind c.group?).getD []

/-- What a piece stands for. -/
def meaning (c : Captures) : Piece → List Char
  | literal text => text
  | reference _ digits => numberedText c digits

/-- Pieces in a row that can be told apart. -/
inductive Apart : List Piece → Prop
  | nil : Apart []
  | literal {text : List Char} {pieces : List Piece}
      (plain : ∀ ch ∈ text, ch ≠ '\\' ∧ ch ≠ '$') (rest : Apart pieces) :
      Apart (.literal text :: pieces)
  | reference {doubled : Bool} {digits : List Char} {pieces : List Piece} (some_digit : digits ≠ [])
      (numeric : ∀ d ∈ digits, Text.isDecimalDigit d)
      (ends : ∀ ch ∈ (pieces.flatMap written).head?, Text.isDecimalDigit ch = false)
      (rest : Apart pieces) : Apart (.reference doubled digits :: pieces)

/-- A group is referred to by its number as it is usually written. -/
theorem numberedText_toDigits (c : Captures) {n : Nat} (hn : Text.fitsBits 64 n) :
    numberedText c (Nat.toDigits 10 n) = (c.group? n).getD [] := by
  have hdigits : Text.ofDigits? (Nat.toDigits 10 n) = some n := by
    have hall : (Nat.toDigits 10 n).all Char.isDigit :=
      List.all_eq_true.2 fun _ hd => Nat.isDigit_of_mem_toDigits (by decide) (by decide) hd
    rw [Text.ofDigits?, List.isEmpty_eq_false_iff.2 Nat.toDigits_ne_nil, hall, Bool.not_true,
      Bool.or_false, if_neg Bool.false_ne_true]
    exact congrArg some (Nat.ofDigitChars_toDigits (by decide) (by decide))
  rw [numberedText, hdigits, Option.filter_some, if_pos hn, Option.bind_some]

end Piece

open Piece

/-! ## References are replaced -/

section Replaced

variable {c : Captures} {text digits rest : List Char}

theorem ne_of_isDecimalDigit {d ch : Char} (hd : Text.isDecimalDigit d)
    (hch : Text.isDecimalDigit ch = false) : d ≠ ch := by
  rintro rfl
  exact Bool.false_ne_true (hch.symm.trans hd)

theorem expandFrom_append (h : ∀ ch ∈ text, ch ≠ '$') :
    expandFrom c (text ++ rest) = text ++ expandFrom c rest := by
  induction text with
  | nil => rfl
  | cons ch text ih =>
    obtain ⟨hch, htext⟩ := List.forall_mem_cons.1 h
    rw [List.cons_append, expandFrom, ih htext, List.cons_append]
    · exact fun _ heq => absurd heq hch
    · exact hch

/-- A number in braces is replaced by the text of its group. -/
theorem expandFrom_reference (hdigits : ∀ d ∈ digits, Text.isDecimalDigit d) :
    expandFrom c ('$' :: '{' :: (digits ++ ['}']) ++ rest) =
      groupText c digits ++ expandFrom c rest := by
  have hbody : ∀ d ∈ digits, (d != '}') = true := fun d hd =>
    bne_iff_ne.2 (ne_of_isDecimalDigit (hdigits d hd) (by decide))
  have hends : ∀ ch ∈ ('}' :: rest).head?, (ch != '}') = false := by
    rintro _ ⟨⟩
    rfl
  have hsplit : splitReference? ('{' :: (digits ++ '}' :: rest)) = some (digits, rest) := by
    simp only [splitReference?, takeWhile_append_eq hbody hends, dropWhile_append_eq hbody hends]
  have heq : '$' :: '{' :: (digits ++ ['}']) ++ rest = '$' :: '{' :: (digits ++ '}' :: rest) := by
    simp
  rw [heq, expandFrom]
  · split
    · next heq =>
      rw [hsplit] at heq
      cases heq
      rfl
    · next heq =>
      rw [hsplit] at heq
      cases heq
  · rintro tail ⟨⟩

/-- A row of digits refers to a group by its number only. -/
theorem groupText_of_digits (hdigits : ∀ d ∈ digits, Text.isDecimalDigit d)
    (hnamed : c.named? (String.ofList digits) = none) :
    groupText c digits = numberedText c digits := by
  have hnumber : Text.unsigned? 64 digits =
      (Text.ofDigits? digits).filter (Text.fitsBits 64) := by
    unfold Text.unsigned?
    split
    · exact absurd rfl (ne_of_isDecimalDigit (hdigits _ List.mem_cons_self) (by decide))
    · rfl
  unfold groupText numberedText
  rw [hnumber, hnamed]
  cases (Text.ofDigits? digits).filter (Text.fitsBits 64) with
  | none => rfl
  | some index => rfl

/-- The template of what takes the place of a reference behind backslashes. Its first dollar sign and
its outer braces stand for themselves, and between them stands the first group of the match. -/
def bracing : Template := ⟨"$$\x7b$\x7b1\x7d\x7d"⟩

/-- Where the first group is the number of the reference, the number is put in braces, behind a
dollar sign. -/
theorem expandFrom_bracing (hgroup : c.group? 1 = some digits) :
    expandFrom c bracing.text.toList = '$' :: '{' :: (digits ++ ['}']) := by
  have htext : bracing.text.toList =
      '$' :: '$' :: (['{'] ++ ('$' :: '{' :: (['1'] ++ ['}']) ++ (['}'] ++ []))) := rfl
  have hfirst : groupText c ['1'] = digits := by
    show (c.group? 1).getD [] = digits
    rw [hgroup]
    rfl
  have hopening : ∀ ch ∈ ['{'], ch ≠ '$' := List.forall_mem_singleton.2 (by decide)
  have hclosing : ∀ ch ∈ ['}'], ch ≠ '$' := List.forall_mem_singleton.2 (by decide)
  have hdigit : ∀ d ∈ ['1'], Text.isDecimalDigit d := List.forall_mem_singleton.2 (by decide)
  rw [htext, expandFrom, expandFrom_append hopening, expandFrom_reference hdigit, hfirst,
    expandFrom_append hclosing, expandFrom]
  rfl

end Replaced

/-! ## References get braces -/

section Braces

variable {text digits rest : List Char}

theorem braceReferences_append (h : ∀ ch ∈ text, ch ≠ '\\') :
    braceReferences (text ++ rest) = text ++ braceReferences rest := by
  induction text with
  | nil => rfl
  | cons ch text ih =>
    obtain ⟨hch, htext⟩ := List.forall_mem_cons.1 h
    rw [List.cons_append, braceReferences, ih htext, List.cons_append]
    exact hch

theorem dropBackslash_append (rest : List Char) (hsome : digits ≠ [])
    (hdigits : ∀ d ∈ digits, Text.isDecimalDigit d) :
    dropBackslash (digits ++ rest) = digits ++ rest := by
  cases digits with
  | nil => exact absurd rfl hsome
  | cons d digits =>
    have hne : d ≠ '\\' := ne_of_isDecimalDigit (hdigits d List.mem_cons_self) (by decide)
    unfold dropBackslash
    split
    · next heq => exact absurd (List.cons.inj heq).1 hne
    · rfl

/-- A number behind backslashes is replaced, up to its last digit. -/
theorem braceReferences_reference {behind : List Char} {c : Captures}
    (hgroup : c.group? 1 = some digits) (hbehind : dropBackslash behind = digits ++ rest)
    (hsome : digits ≠ []) (hdigits : ∀ d ∈ digits, Text.isDecimalDigit d)
    (hends : ∀ ch ∈ rest.head?, Text.isDecimalDigit ch = false) :
    braceReferences ('\\' :: behind) =
      expandFrom c bracing.text.toList ++ braceReferences rest := by
  rw [braceReferences, hbehind, takeWhile_append_eq hdigits hends,
    dropWhile_append_eq hdigits hends, if_neg (by simpa using hsome), expandFrom_bracing hgroup]
  rfl

/-- A match whose first group is a number. -/
def numberMatch (digits : List Char) : Captures :=
  ⟨digits, [], #[some 0, some digits.length, some 0, some digits.length]⟩

theorem group?_numberMatch : (numberMatch digits).group? 1 = some digits := by
  show some ((digits.take digits.length).drop 0) = some digits
  rw [List.take_length, List.drop_zero]

end Braces

variable {pieces : List Piece}

theorem braceReferences_written (h : Apart pieces) :
    braceReferences (pieces.flatMap written) = pieces.flatMap braced := by
  induction h with
  | nil => rw [List.flatMap_nil, braceReferences, List.flatMap_nil]
  | literal plain _ ih =>
    rw [List.flatMap_cons, List.flatMap_cons, ← ih]
    exact braceReferences_append fun ch hch => (plain ch hch).1
  | @reference doubled digits pieces some_digit numeric ends _ ih =>
    rw [List.flatMap_cons, List.flatMap_cons, ← ih, braced,
      ← expandFrom_bracing group?_numberMatch]
    cases doubled with
    | false =>
      have hsingle := dropBackslash_append (pieces.flatMap written) some_digit numeric
      exact braceReferences_reference group?_numberMatch hsingle some_digit numeric ends
    | true => exact braceReferences_reference group?_numberMatch rfl some_digit numeric ends

theorem expandFrom_braced {c : Captures} (h : Apart pieces)
    (hnamed : ∀ digits : List Char, (∀ d ∈ digits, Text.isDecimalDigit d) →
      c.named? (String.ofList digits) = none) :
    expandFrom c (pieces.flatMap braced) = pieces.flatMap (meaning c) := by
  induction h with
  | nil => rw [List.flatMap_nil, expandFrom, List.flatMap_nil]
  | literal plain _ ih =>
    rw [List.flatMap_cons, List.flatMap_cons, ← ih]
    exact expandFrom_append fun ch hch => (plain ch hch).2
  | @reference doubled digits pieces some_digit numeric ends _ ih =>
    rw [List.flatMap_cons, List.flatMap_cons, ← ih]
    rw [braced, expandFrom_reference numeric, groupText_of_digits numeric (hnamed digits numeric)]
    rfl

end Template

open Template in
/-- **A template means what its pieces mean.** If the pattern matches the URI of a name, the name
that is made is the one that the pieces give, each replaced by what it stands for, unless this is no
URI. If the pattern does not match, no name is made. -/
theorem NameMapping.image_of_pieces {source : String} {p : Pattern} {pieces : List Piece}
    (hp : Pattern.ofSource? source = some p) (hpieces : Piece.Apart pieces) (n : Name) :
    (∀ c, p.captures? n.uriChars = some c →
      NameMapping.image? ⟨p, .ofText (String.ofList (pieces.flatMap Piece.written))⟩ n =
        (Name.ofUri (String.ofList (pieces.flatMap (Piece.meaning c)))).toOption) ∧
    (p.captures? n.uriChars = none →
      NameMapping.image? ⟨p, .ofText (String.ofList (pieces.flatMap Piece.written))⟩ n = none) := by
  unfold NameMapping.image?
  constructor
  · intro c hc
    have hexpand : (Template.ofText (String.ofList (pieces.flatMap Piece.written))).expand c =
        String.ofList (pieces.flatMap (Piece.meaning c)) := by
      rw [Template.expand, Template.ofText, String.toList_ofList, String.toList_ofList,
        braceReferences_written hpieces,
        expandFrom_braced hpieces fun _ => Captures.named?_of_digits hp hc]
    rw [hc, Option.bind_eq_bind, Option.bind_some, hexpand]
  · intro hc
    rw [hc]
    rfl

namespace Sample

/-- A pattern with a group that need not take part. -/
def optionalGroup : Pattern := (Pattern.ofSource? "(a)(b)?").get (by decide +kernel)

/-- The match in the URI of a name. -/
def optionalGroupCaptures : Captures :=
  (optionalGroup.captures? (Name.mk [⟨[97]⟩]).uriChars).get (by decide +kernel)

/-- The template `/x/\\1\2{1}`. -/
def mixedPieces : List Template.Piece :=
  [.literal ['/', 'x', '/'], .reference true ['1'], .reference false ['2'],
    .literal ['{', '1', '}']]

/-- Group 1 stands for its text and group 2 for none; braces that are written stay. Of a name that
the pattern does not match no name is made. -/
theorem mixedPieces_image :
    NameMapping.image?
        ⟨optionalGroup, .ofText (String.ofList (mixedPieces.flatMap Template.Piece.written))⟩
        ⟨[⟨[97]⟩]⟩ = some ⟨[⟨[120]⟩, ⟨[97, 123, 49, 125]⟩]⟩ ∧
      NameMapping.image?
        ⟨optionalGroup, .ofText (String.ofList (mixedPieces.flatMap Template.Piece.written))⟩
        ⟨[⟨[98]⟩]⟩ = none := by
  have hp : Pattern.ofSource? "(a)(b)?" = some optionalGroup := (Option.some_get _).symm
  have hpieces : Template.Piece.Apart mixedPieces := by
    refine .literal (by simp) (.reference (by simp) (List.forall_mem_singleton.2 (by decide)) ?_
      (.reference (by simp) (List.forall_mem_singleton.2 (by decide)) ?_
        (.literal (by simp) .nil)))
    · rintro _ ⟨⟩
      decide
    · rintro _ ⟨⟩
      decide
  have hmatch : optionalGroup.captures? (Name.mk [⟨[97]⟩]).uriChars = some optionalGroupCaptures :=
    (Option.some_get _).symm
  constructor
  · rw [(NameMapping.image_of_pieces hp hpieces _).1 _ hmatch]
    decide +kernel
  · refine (NameMapping.image_of_pieces hp hpieces _).2 (Option.isNone_iff_eq_none.1 ?_)
    decide +kernel

end Sample

end TrustSchema
