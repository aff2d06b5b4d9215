import CommandScript.Pattern.Property.CaseChange
import CommandScript.Pattern.Property.Category
import CommandScript.Pattern.Property.Listed

/-! Properties that a character has or has not: those that follow from others, and the names of all. -/

namespace CommandScript.Pattern

namespace CharSet

/-! ### Case -/

/-- Lower-case characters. -/
def lowercase : CharSet := .union (.category "ll") .otherLowercase

/-- Upper-case characters. -/
def uppercase : CharSet := .union (.category "lu") .otherUppercase

/-- Characters with a case. -/
def cased : CharSet := .unionAll [lowercase, uppercase, .category "lt"]

/-- Marks, and signs within words: what stands between a letter and a place where its case is decided. -/
def caseIgnorable : CharSet :=
  .unionAll [.categories ["mn", "me", "cf", "lm", "sk"], .listed ["27 2E 3A B7 387 55F 5F4 2018-2019 2024 2027"],
    .listed ["FE13 FE52 FE55 FF07 FF0E FF1A"]]

/-! ### Words -/

/-- Letters, and what counts as a letter. -/
def alphabetic : CharSet :=
  .unionAll [lowercase, uppercase, .categories ["lt", "lm", "lo", "nl"], otherAlphabetic]

/-- Mathematical characters. -/
def math : CharSet := .union (.category "sm") .otherMath

/-- The characters kept for the grammar of patterns, which no identifier holds. -/
def patternReserved : CharSet := .union .patternSyntax .patternBlank

/-- Characters that may begin an identifier. -/
def identifierStart : CharSet :=
  .diff (.unionAll [.category "l", .category "nl", .otherIdentifierStart]) .patternReserved

/-- Characters that may go on with an identifier. -/
def identifierContinue : CharSet :=
  .diff (.unionAll [identifierStart, .categories ["mn", "mc", "nd", "pc"], .otherIdentifierContinue])
    .patternReserved

/-- Characters that go on with an identifier, but no longer do so once they are decomposed. -/
def unstableContinue : CharSet :=
  .listed ["37A 309B-309C FC5E-FC63 FDFA-FDFB FE70 FE72 FE74 FE76 FE78 FE7A FE7C FE7E"]

/-- Characters that may begin an identifier, decomposed or not. -/
def stableStart : CharSet :=
  .diff identifierStart (.union unstableContinue (.listed ["E33 EB3 FF9E-FF9F"]))

/-- Characters that may go on with an identifier, decomposed or not. -/
def stableContinue : CharSet :=
  .diff identifierContinue unstableContinue

/-! ### Graphemes -/

/-- Characters that go on with a grapheme. -/
def graphemeExtend : CharSet :=
  .union (.categories ["me", "mn"]) .otherGraphemeExtend

/-- Characters that a grapheme may be built on. -/
def graphemeBase : CharSet :=
  .complement (.unionAll [.category "c", .categories ["zl", "zp"], graphemeExtend])

/-- Characters without a picture of their own. -/
def ignorable : CharSet :=
  .diff (.unionAll [.otherIgnorable, .category "cf", .variationSelector])
    (.unionAll [.blank, .listed ["FFF9-FFFB 13430-1343F"], .prependedConcatenationMark])

end CharSet

/-- The properties that a character has or has not. -/
def binaryProperties : List BinaryProperty :=
  [
    ⟨["ahex", "asciihexdigit"], .asciiHexDigit⟩, ⟨["alpha", "alphabetic"], .alphabetic⟩,
    ⟨["bidic", "bidicontrol"], .directionControl⟩, ⟨["bidim", "bidimirrored"], .mirrored⟩,
    ⟨["ci", "caseignorable"], .caseIgnorable⟩, ⟨["cased"], .cased⟩,
    ⟨["cwcf", "changeswhencasefolded"], .changed ['f']⟩,
    ⟨["cwcm", "changeswhencasemapped"], .changed ['l', 'u', 't']⟩,
    ⟨["cwl", "changeswhenlowercased"], .changed ['l']⟩, ⟨["cwt", "changeswhentitlecased"], .changed ['t']⟩,
    ⟨["cwu", "changeswhenuppercased"], .changed ['u']⟩, ⟨["dash"], .dash⟩,
    ⟨["di", "defaultignorablecodepoint"], .ignorable⟩, ⟨["dep", "deprecated"], .deprecated⟩,
    ⟨["dia", "diacritic"], .diacritic⟩, ⟨["emoji"], .emoji⟩, ⟨["ecomp", "emojicomponent"], .emojiComponent⟩,
    ⟨["emod", "emojimodifier"], .emojiModifier⟩, ⟨["ebase", "emojimodifierbase"], .emojiModifierBase⟩,
    ⟨["epres", "emojipresentation"], .emojiPresentation⟩,
    ⟨["extpict", "extendedpictographic"], .extendedPictographic⟩, ⟨["ext", "extender"], .extender⟩,
    ⟨["grbase", "graphemebase"], .graphemeBase⟩, ⟨["grext", "graphemeextend"], .graphemeExtend⟩,
    ⟨["grlink", "graphemelink"], .graphemeLink⟩, ⟨["hex", "hexdigit"], .hexDigit⟩, ⟨["hyphen"], .hyphen⟩,
    ⟨["idsb", "idsbinaryoperator"], .binaryDescription⟩, ⟨["idst", "idstrinaryoperator"], .trinaryDescription⟩,
    ⟨["idsu", "idsunaryoperator"], .unaryDescription⟩, ⟨["idcompatmathcontinue"], .mathContinue⟩,
    ⟨["idcompatmathstart"], .mathStart⟩, ⟨["idc", "idcontinue"], .identifierContinue⟩,
    ⟨["ids", "idstart"], .identifierStart⟩, ⟨["ideo", "ideographic"], .ideographic⟩,
    ⟨["joinc", "joincontrol"], .joinControl⟩, ⟨["loe", "logicalorderexception"], .logicalOrderException⟩,
    ⟨["lower", "lowercase"], .lowercase⟩, ⟨["math"], .math⟩,
    ⟨["mcm", "modifiercombiningmark"], .modifierCombiningMark⟩,
    ⟨["nchar", "noncharactercodepoint"], .noncharacter⟩, ⟨["oalpha", "otheralphabetic"], .otherAlphabetic⟩,
    ⟨["odi", "otherdefaultignorablecodepoint"], .otherIgnorable⟩,
    ⟨["ogrext", "othergraphemeextend"], .otherGraphemeExtend⟩,
    ⟨["oidc", "otheridcontinue"], .otherIdentifierContinue⟩, ⟨["oids", "otheridstart"], .otherIdentifierStart⟩,
    ⟨["olower", "otherlowercase"], .otherLowercase⟩, ⟨["omath", "othermath"], .otherMath⟩,
    ⟨["oupper", "otheruppercase"], .otherUppercase⟩, ⟨["patsyn", "patternsyntax"], .patternSyntax⟩,
    ⟨["patws", "patternwhitespace"], .patternBlank⟩,
    ⟨["pcm", "prependedconcatenationmark"], .prependedConcatenationMark⟩,
    ⟨["qmark", "quotationmark"], .quotationMark⟩, ⟨["radical"], .radical⟩,
    ⟨["ri", "regionalindicator"], .regionalIndicator⟩, ⟨["sterm", "sentenceterminal"], .sentenceTerminal⟩,
    ⟨["sd", "softdotted"], .softDotted⟩, ⟨["term", "terminalpunctuation"], .terminalPunctuation⟩,
    ⟨["uideo", "unifiedideograph"], .unifiedIdeograph⟩, ⟨["upper", "uppercase"], .uppercase⟩,
    ⟨["vs", "variationselector"], .variationSelector⟩, ⟨["space", "wspace", "whitespace"], .blank⟩,
    ⟨["xidc", "xidcontinue"], .stableContinue⟩, ⟨["xids", "xidstart"], .stableStart⟩
  ]

end CommandScript.Pattern
