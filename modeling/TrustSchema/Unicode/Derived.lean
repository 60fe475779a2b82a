import TrustSchema.Unicode.Casing

/-!
# Derived properties

Properties of characters that are defined from general categories and listed properties.
-/

namespace TrustSchema.Unicode

/-- Alphabetic characters: letters, numbers that are letters, and vowel signs and other marks that
work like letters. -/
def alphabetic : CharSet := (ofCategories (.letterNumber :: Category.letters)).union otherAlphabetic

/-- Mathematical characters. -/
def math : CharSet := (ofCategories [.mathSymbol]).union otherMath

/-- Characters without effect where they are not supported: most format characters, and those that
select variants. -/
def defaultIgnorable : CharSet :=
  let formats := (otherDefaultIgnorable.union (ofCategories [.format])).union variationSelector
  let shown := CharSet.ofRuns [(0xFFF9, 0xFFFB), (0x13430, 0x1343F)]
  (formats.diff shown).diff prependedConcatenationMark

/-! ## Graphemes -/

/-- Characters that extend the one before. -/
def graphemeExtend : CharSet :=
  (ofCategories [.nonspacingMark, .enclosingMark]).union otherGraphemeExtend

/-- Characters that others can extend. -/
def graphemeBase : CharSet :=
  let excluded : List Category := Category.others ++ [.lineSeparator, .paragraphSeparator]
  (ofCategories excluded).complement.diff graphemeExtend

/-! ## Identifiers -/

/-- What syntax keeps for itself is in no identifier. -/
def outsideSyntax (s : CharSet) : CharSet := (s.diff patternSyntax).diff patternWhiteSpace

/-- Characters at the start of identifiers. -/
def idStart : CharSet :=
  outsideSyntax ((ofCategories (.letterNumber :: Category.letters)).union otherIdStart)

/-- Characters in identifiers. -/
def idContinue : CharSet :=
  let more : List Category :=
    [.nonspacingMark, .spacingMark, .decimalNumber, .connectorPunctuation]
  outsideSyntax ((idStart.union (ofCategories more)).union otherIdContinue)

/-- Characters whose normal form leaves identifiers. -/
def abnormalInIdentifiers : CharSet := .ofRuns [
  (0x37A, 0x37A), (0x309B, 0x309C), (0xFC5E, 0xFC63), (0xFDFA, 0xFDFB), (0xFE70, 0xFE70),
  (0xFE72, 0xFE72), (0xFE74, 0xFE74), (0xFE76, 0xFE76), (0xFE78, 0xFE78), (0xFE7A, 0xFE7A),
  (0xFE7C, 0xFE7C), (0xFE7E, 0xFE7E)]

/-- Characters whose normal form cannot start identifiers. -/
def abnormalAtStart : CharSet :=
  abnormalInIdentifiers.union (.ofRuns [(0xE33, 0xE33), (0xEB3, 0xEB3), (0xFF9E, 0xFF9F)])

/-- Characters at the start of identifiers that stay identifiers in normal form. -/
def xidStart : CharSet := idStart.diff abnormalAtStart

/-- Characters in identifiers that stay identifiers in normal form. -/
def xidContinue : CharSet := idContinue.diff abnormalInIdentifiers

/-! ## Words -/

/-- Characters of words: alphabetic ones, marks, digits, connectors such as the underscore, and
characters that join their neighbours. -/
def word : CharSet :=
  let more : List Category := [.decimalNumber, .connectorPunctuation]
  (alphabetic.union (ofCategories (Category.marks ++ more))).union joinControl

/-- Decimal digits of all systems. -/
def digit : CharSet := ofCategories [.decimalNumber]

/-- Characters that are passed over when a word is told by its cased letters. -/
def caseIgnorable : CharSet :=
  let categories : List Category :=
    [.nonspacingMark, .enclosingMark, .format, .modifierLetter, .modifierSymbol]
  ((ofCategories categories).union (midLetter.union midNumberOrLetter)).union (.single '\'')

end TrustSchema.Unicode
