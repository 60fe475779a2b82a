import TrustSchema.Unicode.CharSet

/-!
# ASCII classes

The classes that `[:name:]` stands for in brackets. They hold ASCII characters only. Digits, white
space and the characters of words are also what the letters `d`, `s` and `w` stand for when Unicode
is switched off.
-/

namespace TrustSchema.Pattern

/-- The ASCII digits. -/
def asciiDigit : CharSet := .range '0' '9'

/-- The ASCII letters. -/
def asciiLetter : CharSet := (CharSet.range 'A' 'Z').union (.range 'a' 'z')

/-- The ASCII letters and digits. -/
def asciiAlphanumeric : CharSet := asciiDigit.union asciiLetter

/-- The ASCII letters, the ASCII digits and the underscore. -/
def asciiWord : CharSet := asciiAlphanumeric.union (.single '_')

/-- The ASCII white space characters. -/
def asciiSpace : CharSet := .ofText "\t\n\x0b\x0c\r "

/-- The ASCII characters with a shape. -/
def asciiGraphic : CharSet := .range '!' '~'

/-- The class of ASCII characters with a name. -/
def className? : String → Option CharSet
  | "alnum" => some asciiAlphanumeric
  | "alpha" => some asciiLetter
  | "ascii" => some (.run 0 127)
  | "blank" => some (.ofText "\t ")
  | "cntrl" => some (.ofRuns [(0, 31), (127, 127)])
  | "digit" => some asciiDigit
  | "graph" => some asciiGraphic
  | "lower" => some (.range 'a' 'z')
  | "print" => some (.range ' ' '~')
  | "punct" => some (asciiGraphic.diff asciiAlphanumeric)
  | "space" => some asciiSpace
  | "upper" => some (.range 'A' 'Z')
  | "word" => some asciiWord
  | "xdigit" => some (.ofRuns [(0x30, 0x39), (0x41, 0x46), (0x61, 0x66)])
  | _ => none

end TrustSchema.Pattern
