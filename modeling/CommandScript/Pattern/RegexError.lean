import CommandScript.Text.Split

/-! Why a text is no regular expression, and the report that points at the faulty part. One reason is how deep the parts
    that hold others are nested: groups, repetitions, sequences, choices and classes. -/

namespace CommandScript.Pattern

/-- What is wrong with a regular expression. -/
inductive RegexFault where
  | badClassEscape
  | badClassRange
  | badRangeBoundary
  | openClass
  | badDecimal
  | emptyHex
  | hexNoCharacter
  | badHexDigit
  | openEscape
  | unknownEscape
  | danglingNegation
  | repeatedFlag
  | repeatedNegation
  | openFlags
  | unknownFlag
  | repeatedName
  | emptyName
  | badName
  | openName
  | openGroup
  | strayParenthesis
  | badCountRange
  | emptyCount
  | openCount
  | nothingToRepeat
  | openWordBoundary
  | unknownWordBoundary
  | openBrace
  | badUnicodeClass
  | unknownProperty
  | unknownValue
  | unicodeRefused
  | badEncoding
  | backreference
  | lookAround
  | nestedTooDeep
  deriving DecidableEq

/-- How deeply the parts of a pattern may be nested. -/
def nestingLimit : Nat := 250

/-- What is said of a fault. -/
def RegexFault.message : RegexFault → String
  | badClassEscape => "invalid escape sequence found in character class"
  | badClassRange => "invalid character class range, the start must be <= the end"
  | badRangeBoundary => "invalid range boundary, must be a literal"
  | openClass => "unclosed character class"
  | badDecimal => "decimal literal invalid"
  | emptyHex => "hexadecimal literal empty"
  | hexNoCharacter => "hexadecimal literal is not a Unicode scalar value"
  | badHexDigit => "invalid hexadecimal digit"
  | openEscape => "incomplete escape sequence, reached end of pattern prematurely"
  | unknownEscape => "unrecognized escape sequence"
  | danglingNegation => "dangling flag negation operator"
  | repeatedFlag => "duplicate flag"
  | repeatedNegation => "flag negation operator repeated"
  | openFlags => "expected flag but got end of regex"
  | unknownFlag => "unrecognized flag"
  | repeatedName => "duplicate capture group name"
  | emptyName => "empty capture group name"
  | badName => "invalid capture group character"
  | openName => "unclosed capture group name"
  | openGroup => "unclosed group"
  | strayParenthesis => "unopened group"
  | badCountRange => "invalid repetition count range, the start must be <= the end"
  | emptyCount => "repetition quantifier expects a valid decimal"
  | openCount => "unclosed counted repetition"
  | nothingToRepeat => "repetition operator missing expression"
  | openWordBoundary => "special word boundary assertion is either unclosed or contains an invalid character"
  | unknownWordBoundary =>
    "unrecognized special word boundary assertion, valid choices are: start, end, start-half or end-half"
  | openBrace =>
    "found either the beginning of a special word boundary or a bounded repetition on a \\b with an opening " ++
      "brace, but no closing brace"
  | badUnicodeClass => "invalid Unicode character class"
  | unknownProperty => "Unicode property not found"
  | unknownValue => "Unicode property value not found"
  | unicodeRefused => "Unicode not allowed here"
  | badEncoding => "pattern can match invalid UTF-8"
  | backreference => "backreferences are not supported"
  | lookAround => "look-around, including look-ahead and look-behind, is not supported"
  | nestedTooDeep => s!"exceed the maximum number of nested parentheses/brackets ({nestingLimit})"

/-- A stretch of a pattern, by the positions where it begins and ends. -/
structure Stretch where
  start : Nat
  stop : Nat
  deriving DecidableEq

/-- A fault, the stretch at fault, and an earlier one that it clashes with. -/
structure RegexError where
  fault : RegexFault
  place : Stretch
  earlier : Option Stretch := none
  deriving DecidableEq

/-- The line, counted from zero, and the column of a position. -/
def lineColumn (cs : List Char) (position : Nat) : Nat × Nat :=
  let before := cs.take position
  (before.count '\n', (before.reverse.takeWhile (· ≠ '\n')).length)

/-- Carets under the columns from `start` to `stop` of each stretch in turn, at least one for each. -/
def carets : (column : Nat) → List (Nat × Nat) → List Char
  | _, [] => []
  | column, (start, stop) :: rest =>
    let gap := start - column
    let width := max 1 (stop - start)
    List.replicate gap ' ' ++ List.replicate width '^' ++ carets (column + gap + width) rest

/-- The stretches of an error, in order. -/
def RegexError.stretches (e : RegexError) : List Stretch :=
  match e.earlier with
  | none => [e.place]
  | some s => if s.start ≤ e.place.start then [s, e.place] else [e.place, s]

/-- The report on a pattern: its lines, carets under the stretches within one line, and the fault. Several lines
    are numbered and set off, and a stretch over several lines is described. -/
def RegexError.report (pattern : String) (e : RegexError) : String :=
  let cs := pattern.toList
  let places := e.stretches.map fun s => (lineColumn cs s.start, lineColumn cs s.stop)
  let written := Text.lines pattern
  let count := if cs.getLast? = some '\n' then written.length + 1 else written.length
  let width := if count ≤ 1 then 0 else (toString count).length
  let pad (n : Nat) : String := String.ofList (List.replicate n ' ')
  let noted := written.mapIdx fun i line =>
    let number := toString (i + 1)
    let margin := if width = 0 then pad 4 else pad (width - number.length) ++ number ++ ": "
    let here := places.filterMap fun ((first, column), (last, lastColumn)) =>
      if first = i ∧ last = i then some (column, lastColumn) else none
    let notes :=
      if here.isEmpty then "" else pad (if width = 0 then 4 else 2 + width) ++ String.ofList (carets 0 here) ++ "\n"
    margin ++ line ++ "\n" ++ notes
  let body := noted.foldl (· ++ ·) ""
  if cs.contains '\n' then
    let divider := String.ofList (List.replicate 79 '~') ++ "\n"
    let spread := places.filterMap fun ((first, column), (last, lastColumn)) =>
      if first = last then none
      else some s!"on line {first + 1} (column {column + 1}) through line {last + 1} (column {lastColumn})"
    let described := if spread.isEmpty then "" else Text.join "\n" spread ++ "\n"
    "regex parse error:\n" ++ divider ++ body ++ divider ++ described ++ "error: " ++ e.fault.message
  else "regex parse error:\n" ++ body ++ "error: " ++ e.fault.message

/-! ### Nesting -/

/-- A part that holds others, the stretch where it stands, and those within it. -/
inductive Nesting where
  | node (place : Stretch) (inner : List Nesting)

mutual

/-- The first part with more than `limit` parts around it, itself included. -/
def Nesting.tooDeep? (limit : Nat) : Nesting → Option Stretch
  | .node place inner =>
    match limit with
    | 0 => some place
    | limit + 1 => tooDeepAmong? limit inner

/-- The first part of several, and of those within them, that is too deep. -/
def tooDeepAmong? (limit : Nat) : List Nesting → Option Stretch
  | [] => none
  | n :: rest =>
    match n.tooDeep? limit with
    | some place => some place
    | none => tooDeepAmong? limit rest

end

/-- Several parts side by side as one, which holds them if there is not just one. `count` says how many stand
    there, those included that hold no others. -/
def nestTogether (place : Stretch) (count : Nat) (parts : List Nesting) : List Nesting :=
  if count ≤ 1 then parts else [.node place parts]

end CommandScript.Pattern
