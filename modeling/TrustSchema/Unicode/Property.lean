import TrustSchema.Unicode.Age
import TrustSchema.Unicode.Breaks

/-!
# Properties by name

Properties that are true or false of each character have names of their own. For others a value is
named as well; some values, general categories and scripts, are clear without the property. Names
are compared in a normal form, in which spaces and the like do not matter.
-/

namespace TrustSchema.Unicode

/-- Properties that are true or false of each character, with their names. -/
def binaryProperties : List (List String × CharSet) := [
  (["ahex", "asciihexdigit"], asciiHexDigit), (["alpha", "alphabetic"], alphabetic),
  (["bidic", "bidicontrol"], bidiControl), (["bidim", "bidimirrored"], bidiMirrored),
  (["cased"], cased), (["ci", "caseignorable"], caseIgnorable),
  (["cwcf", "changeswhencasefolded"], changesWhenCasefolded),
  (["cwcm", "changeswhencasemapped"], changesWhenCasemapped),
  (["cwl", "changeswhenlowercased"], changesWhenLowercased),
  (["cwt", "changeswhentitlecased"], changesWhenTitlecased),
  (["cwu", "changeswhenuppercased"], changesWhenUppercased),
  (["dash"], dash), (["dep", "deprecated"], deprecated),
  (["di", "defaultignorablecodepoint"], defaultIgnorable), (["dia", "diacritic"], diacritic),
  (["ebase", "emojimodifierbase"], emojiModifierBase),
  (["ecomp", "emojicomponent"], emojiComponent), (["emod", "emojimodifier"], emojiModifier),
  (["emoji"], emoji),
  (["epres", "emojipresentation"], emojiPresentation), (["ext", "extender"], extender),
  (["extpict", "extendedpictographic"], extendedPictographic),
  (["grbase", "graphemebase"], graphemeBase), (["grext", "graphemeextend"], graphemeExtend),
  (["grlink", "graphemelink"], graphemeLink), (["hex", "hexdigit"], hexDigit), (["hyphen"], hyphen),
  (["idc", "idcontinue"], idContinue), (["ids", "idstart"], idStart),
  (["idcompatmathcontinue"], idCompatMathContinue), (["idcompatmathstart"], idCompatMathStart),
  (["ideo", "ideographic"], ideographic), (["idsb", "idsbinaryoperator"], idsBinaryOperator),
  (["idst", "idstrinaryoperator"], idsTrinaryOperator),
  (["idsu", "idsunaryoperator"], idsUnaryOperator), (["joinc", "joincontrol"], joinControl),
  (["loe", "logicalorderexception"], logicalOrderException), (["lower", "lowercase"], lowercase),
  (["math"], math), (["mcm", "modifiercombiningmark"], modifierCombiningMark),
  (["nchar", "noncharactercodepoint"], noncharacter),
  (["oalpha", "otheralphabetic"], otherAlphabetic),
  (["odi", "otherdefaultignorablecodepoint"], otherDefaultIgnorable),
  (["ogrext", "othergraphemeextend"], otherGraphemeExtend),
  (["oidc", "otheridcontinue"], otherIdContinue), (["oids", "otheridstart"], otherIdStart),
  (["olower", "otherlowercase"], otherLowercase), (["omath", "othermath"], otherMath),
  (["oupper", "otheruppercase"], otherUppercase), (["patsyn", "patternsyntax"], patternSyntax),
  (["patws", "patternwhitespace"], patternWhiteSpace),
  (["pcm", "prependedconcatenationmark"], prependedConcatenationMark),
  (["qmark", "quotationmark"], quotationMark), (["radical"], radical),
  (["ri", "regionalindicator"], regionalIndicator), (["sd", "softdotted"], softDotted),
  (["sterm", "sentenceterminal"], sentenceTerminal),
  (["term", "terminalpunctuation"], terminalPunctuation),
  (["uideo", "unifiedideograph"], unifiedIdeograph),
  (["upper", "uppercase"], uppercase), (["vs", "variationselector"], variationSelector),
  (["space", "whitespace", "wspace"], whiteSpace), (["xidc", "xidcontinue"], xidContinue),
  (["xids", "xidstart"], xidStart)]

/-- The normal form of a name: in small letters, without spaces, dashes, underscores and a leading
`is`. Characters beyond ASCII do not count. -/
def normalName (name : List Char) : String :=
  let (leading, rest) := match name with
    | i :: s :: rest =>
      if i.toLower == 'i' && s.toLower == 's' then (true, rest) else (false, name)
    | _ => (false, name)
  let kept := rest.filter fun c => c.toNat < 128 && c != ' ' && c != '_' && c != '-'
  let normal := String.ofList (kept.map Char.toLower)
  -- What is left of the name `isc` would be the name of a category.
  if leading && normal == "c" then "isc" else normal

/-- The characters of which a property is true. -/
def binaryProperty? (name : String) : Option CharSet :=
  (binaryProperties.find? fun entry => entry.1.contains name).map Prod.snd

/-- The set with a name that stands alone: of a property, a general category or a script. -/
def property? (name : List Char) : Option CharSet :=
  let normal := normalName name
  binaryProperty? normal <|> generalCategory? normal <|> script? normal

/-- The set of the characters whose property has a value. -/
def propertyValue? (property value : List Char) : Option CharSet :=
  let value := normalName value
  match normalName property with
  | "gc" | "generalcategory" => generalCategory? value
  | "sc" | "script" => script? value
  | "scx" | "scriptextensions" => scriptExtensions? value
  | "age" => age? value
  | "gcb" | "graphemeclusterbreak" => breakClass? graphemeClasses value
  | "wb" | "wordbreak" => breakClass? wordClasses value
  | "sb" | "sentencebreak" => breakClass? sentenceClasses value
  | _ => none

end TrustSchema.Unicode
