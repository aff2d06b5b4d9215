import CommandScript.Pattern.Property.Binary
import CommandScript.Pattern.Property.Script

/-! The classes of characters by which a text is cut into graphemes, words and sentences. Other classes that have
    names, but no characters, stand beside them. -/

namespace CommandScript.Pattern

/-- Marks that are written beside the letter before them, or around it. -/
def CharSet.graphemeMarks : CharSet :=
  .union .graphemeExtend (.category "mc")

/-- The format characters of digits and of Syriac abbreviations, which do not stand apart from what follows. -/
def CharSet.digitFormats : CharSet :=
  .listed ["600-605 6DD 890-891 8E2 110BD 110CD"]

/-! ### Graphemes -/

/-- The syllables of Hangul without a final consonant. -/
def CharSet.openSyllables : CharSet :=
  .ofSpans ((List.range 399).map fun i => (0xAC00 + 28 * i, 0xAC00 + 28 * i))

/-- Spacing marks that do not belong to a grapheme. -/
def CharSet.freeMarks : CharSet :=
  .listed ["102B-102C 1038 1062-1064 1067-106D 1083 1087-108C 108F 109A-109C 1A61 1A63-1A64 AA7B AA7D 11720-11721"]

/-- The classes of characters in graphemes. -/
def graphemeBreak : ValuedProperty := .ofClasses ["gcb", "graphemeclusterbreak"]
  (
    let joiner : CharSet := .listed ["200D"]
    let lineEnds : CharSet := .listed ["A D"]
    let prepended : CharSet :=
      .union .prependedConcatenationMark
        (.listed ["D4E 111C2-111C3 113D1 1193F 11941 11A3A 11A84-11A89 11D46 11F02"])
    let extend : CharSet := .union .graphemeExtend .emojiModifier
    let controls : CharSet :=
      .union (.categories ["cc", "cf", "zl", "zp"]) ((CharSet.category "cn").inter .ignorable)
    let syllables : CharSet := .listed ["AC00-D7A3"]
    [(["cr"], some (.listed ["D"])), (["lf"], some (.listed ["A"])), (["zwj"], some joiner),
      (["cn", "control"],
        some (controls.diff (.unionAll [lineEnds, joiner, extend, .prependedConcatenationMark]))),
      (["ex", "extend"], some extend), (["pp", "prepend"], some prepended),
      (["ri", "regionalindicator"], some .regionalIndicator),
      (["sm", "spacingmark"],
        some (((CharSet.category "mc").diff (.union extend .freeMarks)).union (.listed ["E33 EB3"]))),
      (["l"], some (.listed ["1100-115F A960-A97C"])),
      (["v"], some (.listed ["1160-11A7 D7B0-D7C6 16D63 16D67-16D6A"])),
      (["t"], some (.listed ["11A8-11FF D7CB-D7FB"])), (["lv"], some .openSyllables),
      (["lvt"], some (syllables.diff .openSyllables)), (["other", "xx"], none), (["eb", "ebase"], none),
      (["ebg", "ebasegaz"], none), (["em", "emodifier"], none), (["gaz", "glueafterzwj"], none)])

/-! ### Words -/

/-- Signs that count as letters of words, though they are not alphabetic. -/
def CharSet.letterSigns : CharSet :=
  .listed ["2C2-2C5 2D2-2D7 2DE-2DF 2E5-2EB 2ED 2EF-2FF 55A-55C 55E 58A 5F3 70F A708-A716 A720-A721 A789-A78A AB5B"]

/-- Digits, and the format characters and separators that belong to them. -/
def CharSet.numeric : CharSet :=
  .unionAll [.category "nd", .digitFormats, .listed ["66B-66C 19DA"]]

/-- The classes of characters in words. Some scripts are written without blanks between words; their letters are in
    no class. -/
def wordBreak : ValuedProperty := .ofClasses ["wb", "wordbreak"]
  (
    let joiner : CharSet := .listed ["200D"]
    let extend : CharSet := .union .graphemeMarks .emojiModifier
    let katakana : CharSet :=
      .union (scripts.set (· == "kana")) (.listed ["3031-3035 309B-309C 30A0 30FC FF70"])
    let hebrew : CharSet := (scripts.set (· == "hebr")).inter (.category "lo")
    let unbroken : CharSet :=
      scripts.set ["hira", "thai", "laoo", "mymr", "khmr", "tale", "talu", "lana", "tavt", "ahom"].contains
    let letters : CharSet :=
      (CharSet.alphabetic.diff (.unionAll [.ideographic, katakana, hebrew, extend, unbroken])).union .letterSigns
    let formats : CharSet :=
      (CharSet.category "cf").diff (.unionAll [extend, joiner, .digitFormats, .listed ["70F 200B"]])
    [(["cr"], some (.listed ["D"])), (["lf"], some (.listed ["A"])),
      (["newline", "nl"], some (.listed ["B-C 85 2028-2029"])), (["extend"], some extend), (["zwj"], some joiner),
      (["fo", "format"], some formats), (["ka", "katakana"], some katakana), (["hl", "hebrewletter"], some hebrew),
      (["le", "aletter"], some letters), (["sq", "singlequote"], some (.listed ["27"])),
      (["dq", "doublequote"], some (.listed ["22"])),
      (["mb", "midnumlet"], some (.listed ["2E 2018-2019 2024 FE52 FF07 FF0E"])),
      (["ml", "midletter"], some (.listed ["3A B7 387 55F 5F4 2027 FE13 FE55 FF1A"])),
      (["mn", "midnum"], some (.listed ["2C 3B 37E 589 60C-60D 66C 7F8 2044 FE50 FE54 FF0C FF1B"])),
      (["nu", "numeric"], some (CharSet.numeric.diff (.listed ["66C"]))),
      (["ex", "extendnumlet"], some (.union (.category "pc") (.listed ["202F"]))),
      (["ri", "regionalindicator"], some .regionalIndicator),
      (["wsegspace"], some ((CharSet.category "zs").diff (.listed ["A0 2007 202F"]))), (["other", "xx"], none),
      (["eb", "ebase"], none), (["ebg", "ebasegaz"], none), (["em", "emodifier"], none),
      (["gaz", "glueafterzwj"], none)])

/-! ### Sentences -/

/-- Ornaments and signs of editors that open or close a stretch of text. -/
def CharSet.closingSigns : CharSet :=
  .listed ["275B-2760 2E00-2E01 2E06-2E08 2E0B 1F676-1F678"]

/-- Signs after which a sentence goes on. -/
def CharSet.sentenceContinue : CharSet :=
  .listed
    ["2C-2D 3A-3B 37E 55D 60C-60D 7F8 1802 1808 2013-2014 3001 FE10-FE11 FE13-FE14 FE31-FE32 FE50-FE51 FE54-FE55",
      "FE58 FE63 FF0C-FF0D FF1A-FF1B FF64"]

/-- The classes of characters in sentences. -/
def sentenceBreak : ValuedProperty := .ofClasses ["sb", "sentencebreak"]
  (
    let extend : CharSet := .union .graphemeMarks (.listed ["200D"])
    let separators : CharSet := .listed ["85 2028-2029"]
    -- The letters of Georgian are neither lower nor upper here.
    let lower : CharSet := CharSet.lowercase.diff (.union .graphemeExtend (.listed ["10D0-10FA 10FD-10FF"]))
    let upper : CharSet := .union (.category "lt") (CharSet.uppercase.diff (.listed ["1C90-1CBA 1CBD-1CBF"]))
    let letters : CharSet :=
      (CharSet.alphabetic.union (.listed ["5F3"])).diff (.unionAll [lower, upper, extend])
    let points : CharSet := .listed ["2E 2024 FE52 FF0E"]
    let terminals : CharSet := CharSet.sentenceTerminal.diff points
    let closing : CharSet :=
      (CharSet.unionAll [.categories ["ps", "pe", "pi", "pf"], .quotationMark, .closingSigns]).diff
        (.unionAll [.listed ["5F3 FF02 FF07"], points, terminals])
    [(["cr"], some (.listed ["D"])), (["lf"], some (.listed ["A"])), (["ex", "extend"], some extend),
      (["se", "sep"], some separators),
      (["fo", "format"], some ((CharSet.category "cf").diff (.unionAll [extend, .listed ["200C"], .digitFormats]))),
      (["sp"], some (CharSet.blank.diff (.union separators (.listed ["A D"])))), (["lo", "lower"], some lower),
      (["up", "upper"], some upper), (["le", "oletter"], some letters), (["nu", "numeric"], some .numeric),
      (["at", "aterm"], some points), (["sc", "scontinue"], some .sentenceContinue),
      (["st", "sterm"], some terminals), (["cl", "close"], some closing), (["other", "xx"], none)])

end CommandScript.Pattern
