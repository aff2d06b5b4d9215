import CommandScript.Pattern.Property.Age
import CommandScript.Pattern.Property.Boundary
import CommandScript.Pattern.RegexError

/-! Properties of characters by name. Case, blanks, hyphens and low lines in a name do not count, and neither does
    an `is` before it. -/

namespace CommandScript.Pattern

/-- Properties with values, as far as these are known. -/
def valuedProperties : List ValuedProperty :=
  [generalCategory, script, scriptExtensions, age, graphemeBreak, wordBreak, sentenceBreak]

/-- The names of the other properties, of which no values are known. -/
def otherProperties : List String := (tableWords
  [
    "bc bidiclass bidimirroringglyph bidipairedbracket bidipairedbrackettype blk block bmg bpb bpt",
    "canonicalcombiningclass casefolding ccc ce cf changeswhennfkccasefolded cjkaccountingnumeric",
    "cjkcompatibilityvariant cjkiicore cjkirggsource cjkirghsource cjkirgjsource cjkirgkpsource cjkirgksource",
    "cjkirgmsource cjkirgssource cjkirgtsource cjkirguksource cjkirgusource cjkirgvsource cjkothernumeric",
    "cjkprimarynumeric cjkrsunicode compex compositionexclusion cwkcf decompositionmapping decompositiontype dm",
    "dt ea eastasianwidth equideo equivalentunifiedideograph expandsonnfc expandsonnfd expandsonnfkc",
    "expandsonnfkd fcnfkc fcnfkcclosure fullcompositionexclusion hangulsyllabletype hst incb indicconjunctbreak",
    "indicpositionalcategory indicsyllabiccategory inpc insc isc jamoshortname jg joininggroup joiningtype jsn jt",
    "kaccountingnumeric kcompatibilityvariant kehcat kehdesc kehhg kehifao kehjsesh kehnomirror kehnorotate",
    "kiicore kirggsource kirghsource kirgjsource kirgkpsource kirgksource kirgmsource kirgssource kirgtsource",
    "kirguksource kirgusource kirgvsource kothernumeric kprimarynumeric krsunicode lb lc linebreak",
    "lowercasemapping na na1 name namealias nfcqc nfcquickcheck nfdqc nfdquickcheck nfkccasefold nfkccf nfkcqc",
    "nfkcquickcheck nfkcscf nfkcsimplecasefold nfkdqc nfkdquickcheck nt numerictype numericvalue nv ocomment scf",
    "sfc simplecasefolding simplelowercasemapping simpletitlecasemapping simpleuppercasemapping slc stc suc tc",
    "titlecasemapping uc unicode1name unicoderadicalstroke uppercasemapping urs verticalorientation vo xonfc",
    "xonfd xonfkc xonfkd"
  ]).map String.ofList

/-- A property as far as it is known. -/
inductive Property where
  | binary (s : CharSet)
  | valued (p : ValuedProperty)
  | other

/-- The property with a name. -/
def property? (name : String) : Option Property :=
  match binaryProperties.find? (·.names.contains name) with
  | some p => some (.binary p.set)
  | none =>
    match valuedProperties.find? (·.names.contains name) with
    | some p => some (.valued p)
    | none => if otherProperties.contains name then some .other else none

/-- A name without what does not count in it. The comment on a character has a name of its own, which would be that
    of a category without its beginning. -/
def plainName (name : List Char) : String :=
  let lower (cs : List Char) : String :=
    String.ofList ((cs.filter fun c => c.toNat < 128 && c != ' ' && c != '_' && c != '-').map Char.toLower)
  match name with
  | 'i' :: 's' :: rest | 'I' :: 's' :: rest | 'i' :: 'S' :: rest | 'I' :: 'S' :: rest =>
    let plain := lower rest
    if plain = "c" then "isc" else plain
  | _ => lower name

/-- Names that belong to a property, but are taken for the category with the same abbreviation where they stand
    alone. -/
def sharedNames : List String := ["cf", "lc", "sc"]

/-- The characters with a value of a property. -/
def ValuedProperty.select (p : ValuedProperty) (value : String) : Except RegexFault CharSet :=
  match p.set? value with
  | some s => .ok s
  | none => .error .unknownValue

/-- The characters that a name alone stands for: those with a binary property, in a category or of a script. -/
def CharSet.named (name : List Char) : Except RegexFault CharSet :=
  let name := plainName name
  match if sharedNames.contains name then none else property? name with
  | some (.binary s) => .ok s
  | some _ => .error .unknownProperty
  | none =>
    match generalCategory.value? name, script.value? name with
    | some value, _ => generalCategory.select value
    | none, some value => script.select value
    | none, none => .error .unknownProperty

/-- The characters for which the property with one name has the value with another name. -/
def CharSet.valued (name value : List Char) : Except RegexFault CharSet :=
  match property? (plainName name) with
  | none => .error .unknownProperty
  | some (.valued p) =>
    match p.value? (plainName value) with
    | some value => p.select value
    | none => .error .unknownValue
  | some _ => .error .unknownValue

/-- What stands before and after the first `!=`, if there is one. -/
def splitUnequal : List Char → Option (List Char × List Char)
  | [] => none
  | '!' :: '=' :: rest => some ([], rest)
  | c :: rest => (splitUnequal rest).map fun (before, after) => (c :: before, after)

/-- The characters that the text between the braces of a property stands for. A name and a value have `!=`, a colon
    or an equals sign between them; all three mean the same. -/
def CharSet.property (text : List Char) : Except RegexFault CharSet :=
  match splitUnequal text with
  | some (name, value) => valued name value
  | none =>
    match Text.splitFirst ':' text with
    | some (name, value) => valued name value
    | none =>
      match Text.splitFirst '=' text with
      | some (name, value) => valued name value
      | none => named text

end CommandScript.Pattern
