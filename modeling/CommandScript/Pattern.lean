import CommandScript.Pattern.Glob
import CommandScript.Pattern.RegexReader
import CommandScript.Pattern.Search
import CommandScript.Pattern.Weight
import CommandScript.Text.Quoted

/-! Patterns that texts are matched with: regular expressions, globs, and searches for one or several texts. -/

namespace CommandScript

/-- How a pattern is read. -/
inductive MatchMode where
  | regexp
  | glob
  | substring
  | anyOf
  deriving DecidableEq

/-- The name of a mode. -/
def MatchMode.name : MatchMode → String
  | regexp => "Regexp"
  | glob => "Glob"
  | substring => "Substr"
  | anyOf => "AnyOf"

/-- Why a text is no pattern. -/
inductive PatternError where
  | regex (pattern : String) (e : Pattern.RegexError)
  /-- The automata of a regular expression would be too large. -/
  | oversized
  | glob (f : Pattern.Glob.Fault)
  deriving DecidableEq

/-- What is said of a text that is no pattern. -/
def PatternError.message : PatternError → String
  | regex pattern e => "regex error: " ++ e.report pattern
  | oversized => s!"regex error: Compiled regex exceeds size limit of {Pattern.sizeLimit} bytes."
  | glob f => "glob error: " ++ f.message

namespace Pattern

/-- Whether an upper-case letter stands in `cs` outside classes and escapes. A class goes from a bracket to the
    next closing one, and an escape is a backslash with one character. -/
def holdsUpper (escaped inClass : Bool) : List Char → Bool
  | [] => false
  | c :: rest =>
    if escaped then holdsUpper false inClass rest
    else if c = '\\' then holdsUpper true inClass rest
    else if c = ']' ∧ inClass then holdsUpper false false rest
    else if c = '[' ∧ !inClass then holdsUpper false true rest
    else if !inClass && Text.isUpper c then true
    else holdsUpper false inClass rest

/-- Whether a regular expression holds an upper-case letter outside classes and escapes, so that case counts. -/
def caseCounts (pattern : String) : Bool :=
  holdsUpper false false pattern.toList

/-- The bytes of a text, with ASCII letters in lower case. -/
def lowerBytes (s : String) : List UInt8 :=
  (s.toList.flatMap String.utf8EncodeChar).map fun b => if 65 ≤ b && b ≤ 90 then b + 32 else b

/-- Whether a text occurs in another up to the case of ASCII letters, compared byte by byte. -/
def occursCaseless (part s : String) : Bool :=
  Text.occurs (lowerBytes part) (lowerBytes s)

/-- The texts between the bars of a pattern, without the empty ones. -/
def needles (pattern : String) : List String :=
  (Text.splitBars pattern).filter fun s => !s.isEmpty

end Pattern

/-- What a pattern has become for matching. -/
inductive CompiledPattern where
  | regexp (r : Pattern.Regex)
  | glob
  | substring
  | anyOf (needles : List String)

/-- A pattern ready for matching. -/
structure Pattern where
  source : String
  mode : MatchMode
  compiled : CompiledPattern

namespace Pattern

/-- The pattern that a text writes. Case counts in a regular expression only if it holds an upper-case letter. -/
def compile (source : String) (mode : MatchMode) : Except PatternError Pattern :=
  match mode with
  | .regexp =>
    match Regex.read (!caseCounts source) source with
    | .ok r => if r.fits then .ok ⟨source, mode, .regexp r⟩ else .error .oversized
    | .error e => .error (.regex source e)
  | .glob =>
    match Glob.fault? source.toList with
    | none => .ok ⟨source, mode, .glob⟩
    | some f => .error (.glob f)
  | .substring => .ok ⟨source, mode, .substring⟩
  | .anyOf => .ok ⟨source, mode, .anyOf (needles source)⟩

/-- Whether a pattern matches a text. An empty pattern always does. -/
def matchesText (p : Pattern) (s : String) : Bool :=
  p.source.isEmpty ||
    match p.compiled with
    | .regexp r => r.search s
    | .glob => Glob.accepts p.source.toList s.toList
    | .substring => occursCaseless p.source s
    | .anyOf needles => needles.any fun needle => occursCaseless needle s

/-- A pattern described with its source between quotes. -/
def describe (p : Pattern) : String :=
  "Pattern \x7b src: " ++ Text.quoted p.source ++ ", mode: " ++ p.mode.name ++ " \x7d"

end Pattern

end CommandScript
