import CommandScript.Text.CaseTable

/-! Letter case of texts. Two mappings are in use: the one of ASCII letters alone, and the full one of Unicode,
    under which a character may become several and a capital sigma at the end of a word its final form. -/

namespace CommandScript.Text

/-- A text with ASCII letters in lower case and all else kept. -/
def asciiLower (s : String) : String :=
  String.ofList (s.toList.map Char.toLower)

/-- Whether two texts are equal up to the case of ASCII letters. -/
def eqIgnoreAsciiCase (s t : String) : Bool :=
  s.toList.map Char.toLower == t.toList.map Char.toLower

/-- The lower case of a character outside any word. -/
def lowerChar (c : Char) : List Char :=
  if c.toNat < 128 then [c.toLower]
  else if c.toNat = 0x130 then ['i', '\u0307']
  else [mapByRuns CaseTable.lowerRuns c]

/-- The upper case of a character. -/
def upperChar (c : Char) : List Char :=
  if c.toNat < 128 then [c.toUpper]
  else
    match CaseTable.upperExpansions.lookup c.toNat with
    | some codes => codes.map Char.ofNat
    | none => [mapByRuns CaseTable.upperRuns c]

/-- Whether a character is passed over when looking for a cased neighbour. -/
def isCaseIgnorable (c : Char) : Bool :=
  insideFlips CaseTable.ignorableFlips c.toNat

/-- Whether a character that is not passed over has case. -/
def isCased (c : Char) : Bool :=
  insideFlips CaseTable.casedFlips c.toNat

/-- Whether the nearest character that is not passed over has case. -/
def casedNext (cs : List Char) : Bool :=
  match cs.dropWhile isCaseIgnorable with
  | c :: _ => isCased c
  | [] => false

/-- The lower case of the characters that follow `before`, which is written backwards. A capital sigma that ends
    a word becomes a final sigma. -/
def lowerFrom (before : List Char) : List Char → List Char
  | [] => []
  | c :: rest =>
    let mapped := if c.toNat = 0x3A3 then [if casedNext before && !casedNext rest then 'ς' else 'σ'] else lowerChar c
    mapped ++ lowerFrom (c :: before) rest

/-- A text in lower case. -/
def lower (s : String) : String :=
  String.ofList (lowerFrom [] s.toList)

/-- A text in upper case. -/
def upper (s : String) : String :=
  String.ofList (s.toList.flatMap upperChar)

/-- Whether a character is an upper-case letter. -/
def isUpper (c : Char) : Bool :=
  if c.toNat < 128 then c.isUpper else insideSpans CaseTable.uppercaseSpans c.toNat

/-- Whether two characters are equal up to case. -/
def eqIgnoreCase (a b : Char) : Bool :=
  a == b || lowerChar a == lowerChar b

end CommandScript.Text
