import TrustSchema.Unicode.Derived
import TrustSchema.Unicode.Script

/-!
# Breaks in text

What characters do where text is cut into graphemes, words and sentences. Every kind of break sorts
the characters into classes; the names of a class are those of its value.
-/

namespace TrustSchema.Unicode

/-- A class of characters, with its names. -/
structure BreakClass where
  names : List String
  members : CharSet

/-- The members of the class with a name. -/
def breakClass? (classes : List BreakClass) (name : String) : Option CharSet :=
  (classes.find? fun c => c.names.contains name).map BreakClass.members

/-- The characters of some scripts. -/
def scripts (names : List String) : CharSet := .unionAll (names.filterMap script?)

/-- The characters that end lines by themselves. -/
def newlines : List BreakClass := [
  ⟨["cr"], .single '\r'⟩,
  ⟨["lf"], .single '\n'⟩]

/-- The joiner of no width. -/
def zeroWidthJoiner : CharSet := .single '\u200d'

/-! ## Graphemes -/

/-- Hangul syllables that end in a vowel: each is followed by those with the same letters that end
in one of the 27 final consonants. -/
def openSyllables : CharSet :=
  .unionAll ((List.range 399).map fun i => .run (0xAC00 + 28 * i) (0xAC00 + 28 * i))

/-- Hangul syllables that end in a consonant. -/
def closedSyllables : CharSet := (CharSet.run 0xAC00 0xD7A3).diff openSyllables

/-- Characters that extend a grapheme. -/
def graphemeExtension : CharSet := graphemeExtend.union emojiModifier

/-- Characters that stand alone. -/
def graphemeControl : CharSet :=
  let controls := ofCategories [.lineSeparator, .paragraphSeparator, .control, .format]
  let reserved := (ofCategories [.unassigned]).inter defaultIgnorable
  let excluded := ((CharSet.ofText "\r\n\u200c\u200d").union prependedConcatenationMark).union
    graphemeExtension
  (controls.union reserved).diff excluded

/-- Characters that belong to the grapheme behind them. -/
def graphemePrefix : CharSet :=
  prependedConcatenationMark.union (.ofRuns [
    (0xD4E, 0xD4E), (0x111C2, 0x111C3), (0x113D1, 0x113D1), (0x1193F, 0x1193F), (0x11941, 0x11941),
    (0x11A3A, 0x11A3A), (0x11A84, 0x11A89), (0x11D46, 0x11D46), (0x11F02, 0x11F02)])

/-- Marks that take space and belong to the grapheme before them. -/
def graphemeSpacingMark : CharSet :=
  let apart := CharSet.ofRuns [
    (0x102B, 0x102C), (0x1038, 0x1038), (0x1062, 0x1064), (0x1067, 0x106D), (0x1083, 0x1083),
    (0x1087, 0x108C), (0x108F, 0x108F), (0x109A, 0x109C), (0x1A61, 0x1A61), (0x1A63, 0x1A64),
    (0xAA7B, 0xAA7B), (0xAA7D, 0xAA7D), (0x11720, 0x11721)]
  (((ofCategories [.spacingMark]).diff graphemeExtension).diff apart).union
    (.ofText "\u0e33\u0eb3")

/-- The classes of characters for breaks between graphemes. -/
def graphemeClasses : List BreakClass := newlines ++ [
  ⟨["control", "cn"], graphemeControl⟩,
  ⟨["extend", "ex"], graphemeExtension⟩,
  ⟨["zwj"], zeroWidthJoiner⟩,
  ⟨["regionalindicator", "ri"], regionalIndicator⟩,
  ⟨["prepend", "pp"], graphemePrefix⟩,
  ⟨["spacingmark", "sm"], graphemeSpacingMark⟩,
  ⟨["l"], .ofRuns [(0x1100, 0x115F), (0xA960, 0xA97C)]⟩,
  ⟨["v"], .ofRuns [(0x1160, 0x11A7), (0xD7B0, 0xD7C6), (0x16D63, 0x16D63), (0x16D67, 0x16D6A)]⟩,
  ⟨["t"], .ofRuns [(0x11A8, 0x11FF), (0xD7CB, 0xD7FB)]⟩,
  ⟨["lv"], openSyllables⟩,
  ⟨["lvt"], closedSyllables⟩]

/-! ## Words -/

/-- Characters that extend the one before in a word. -/
def wordExtension : CharSet :=
  ((graphemeExtend.union (ofCategories [.spacingMark])).union emojiModifier).diff zeroWidthJoiner

/-- Format characters in words. -/
def wordFormat : CharSet :=
  ((ofCategories [.format]).diff (.ofText "\u200b\u200c\u200d")).diff wordExtension

/-- Katakana, and signs that are used with it. -/
def katakana : CharSet :=
  (scripts ["katakana"]).union (.ofRuns [
    (0x3031, 0x3035), (0x309B, 0x309C), (0x30A0, 0x30A0), (0x30FC, 0x30FC), (0xFF70, 0xFF70)])

/-- Hebrew letters. -/
def hebrewLetter : CharSet := (scripts ["hebrew"]).inter (ofCategories [.otherLetter])

/-- Letters of words that are set apart from others, which excludes scripts that write words without
gaps. -/
def wordLetter : CharSet :=
  let gapless := scripts [
    "thai", "lao", "myanmar", "khmer", "taile", "newtailue", "taitham", "taiviet", "ahom",
    "hiragana"]
  let other := ((katakana.union hebrewLetter).union wordExtension).union ideographic
  let signs := CharSet.ofRuns [(0x2139, 0x2139), (0x24C2, 0x24C2), (0x1F170, 0x1F171),
    (0x1F17E, 0x1F17F)]
  let more := CharSet.ofRuns [
    (0x2C2, 0x2C5), (0x2D2, 0x2D7), (0x2DE, 0x2DF), (0x2E5, 0x2EB), (0x2ED, 0x2ED), (0x2EF, 0x2FF),
    (0x55A, 0x55C), (0x55E, 0x55E), (0x58A, 0x58A), (0x5F3, 0x5F3), (0xA708, 0xA716),
    (0xA720, 0xA721), (0xA789, 0xA78A), (0xAB5B, 0xAB5B)]
  (((alphabetic.diff gapless).diff other).diff signs).union more

/-- Spaces between words. -/
def wordSpace : CharSet := (ofCategories [.spaceSeparator]).diff (.ofText "\u00a0\u2007\u202f")

/-- The classes of characters for breaks between words. -/
def wordClasses : List BreakClass := newlines ++ [
  ⟨["newline", "nl"], .ofRuns [(0xB, 0xC), (0x85, 0x85), (0x2028, 0x2029)]⟩,
  ⟨["extend"], wordExtension⟩,
  ⟨["zwj"], zeroWidthJoiner⟩,
  ⟨["regionalindicator", "ri"], regionalIndicator⟩,
  ⟨["format", "fo"], wordFormat⟩,
  ⟨["katakana", "ka"], katakana⟩,
  ⟨["hebrewletter", "hl"], hebrewLetter⟩,
  ⟨["aletter", "le"], wordLetter⟩,
  ⟨["singlequote", "sq"], .single '\''⟩,
  ⟨["doublequote", "dq"], .single '"'⟩,
  ⟨["midnumlet", "mb"], midNumberOrLetter⟩,
  ⟨["midletter", "ml"], midLetter⟩,
  ⟨["midnum", "mn"], midNumber⟩,
  ⟨["numeric", "nu"], digit.union (.single '\u066b')⟩,
  ⟨["extendnumlet", "ex"], (ofCategories [.connectorPunctuation]).union (.single '\u202f')⟩,
  ⟨["wsegspace"], wordSpace⟩]

/-! ## Sentences -/

/-- Characters that extend the one before in a sentence. -/
def sentenceExtension : CharSet :=
  (graphemeExtend.union (ofCategories [.spacingMark])).union zeroWidthJoiner

/-- Format characters in sentences. -/
def sentenceFormat : CharSet :=
  ((ofCategories [.format]).diff (.ofText "\u200c\u200d")).diff sentenceExtension

/-- Separators of paragraphs. -/
def sentenceSeparator : CharSet := .ofText "\u0085\u2028\u2029"

/-- Spaces in sentences. -/
def sentenceSpace : CharSet := (whiteSpace.diff sentenceSeparator).diff (.ofText "\r\n")

/-- Lowercase letters. Those of the Georgian script count as letters without a case. -/
def sentenceLower : CharSet :=
  (lowercase.diff graphemeExtend).diff (.ofRuns [(0x10D0, 0x10FA), (0x10FD, 0x10FF)])

/-- Uppercase letters, except the Georgian ones. -/
def sentenceUpper : CharSet :=
  ((ofCategories [.titlecaseLetter]).union uppercase).diff
    (.ofRuns [(0x1C90, 0x1CBA), (0x1CBD, 0x1CBF)])

/-- Letters without a case. -/
def sentenceLetter : CharSet :=
  let excluded := (sentenceLower.union sentenceUpper).union sentenceExtension
  (alphabetic.union (.single '\u05f3')).diff excluded

/-- Full stops that may also end abbreviations. -/
def ambiguousTerminal : CharSet := .ofText ".\u2024\ufe52\uff0e"

/-- Punctuation that may close a sentence. -/
def sentenceClose : CharSet :=
  let brackets : List Category :=
    [.openPunctuation, .closePunctuation, .initialPunctuation, .finalPunctuation]
  (ofCategories brackets).union (.ofRuns [
    (0x22, 0x22), (0x27, 0x27), (0x275B, 0x2760), (0x2E00, 0x2E01), (0x2E06, 0x2E08),
    (0x2E0B, 0x2E0B), (0x1F676, 0x1F678)])

/-- The classes of characters for breaks between sentences. -/
def sentenceClasses : List BreakClass := newlines ++ [
  ⟨["extend", "ex"], sentenceExtension⟩,
  ⟨["sep", "se"], sentenceSeparator⟩,
  ⟨["format", "fo"], sentenceFormat⟩,
  ⟨["sp"], sentenceSpace⟩,
  ⟨["lower", "lo"], sentenceLower⟩,
  ⟨["upper", "up"], sentenceUpper⟩,
  ⟨["oletter", "le"], sentenceLetter⟩,
  ⟨["numeric", "nu"], digit.union (.ofRuns [(0x66B, 0x66C)])⟩,
  ⟨["aterm", "at"], ambiguousTerminal⟩,
  ⟨["scontinue", "sc"], .ofRuns [
    (0x2C, 0x2D), (0x3A, 0x3A), (0x55D, 0x55D), (0x60C, 0x60D), (0x7F8, 0x7F8), (0x1802, 0x1802),
    (0x1808, 0x1808), (0x2013, 0x2014), (0x3001, 0x3001), (0xFE10, 0xFE11), (0xFE13, 0xFE13),
    (0xFE31, 0xFE32), (0xFE50, 0xFE51), (0xFE55, 0xFE55), (0xFE58, 0xFE58), (0xFE63, 0xFE63),
    (0xFF0C, 0xFF0D), (0xFF1A, 0xFF1A), (0xFF64, 0xFF64)]⟩,
  ⟨["sterm", "st"], sentenceTerminal.diff ambiguousTerminal⟩,
  ⟨["close", "cl"], sentenceClose⟩]

end TrustSchema.Unicode
