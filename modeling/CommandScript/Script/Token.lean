import CommandScript.Text.Blank

/-! Source text cut into commands and braces. Commands end at a semicolon, a brace or the end of the text; what is
    between quotes is kept as it is, and comments are dropped. A brace next to an angle bracket belongs to a tag. -/

namespace CommandScript

/-- A piece of source text. -/
inductive Token where
  /-- The text of a command and the line where it begins. -/
  | command (text : String) (line : Nat)
  | openBrace
  | closeBrace
  deriving DecidableEq

/-- What the text at hand belongs to. -/
inductive Region where
  | code
  | lineComment
  | blockComment
  deriving DecidableEq

/-- What has been read of the source: the characters of the command so far, backwards, the line where it began, the
    line at hand, the quote that is open, the character before, and the tokens so far, backwards. -/
structure Scan where
  region : Region := .code
  current : List Char := []
  startLine : Nat := 1
  line : Nat := 1
  quote : Option Char := none
  previous : Option Char := none
  tokens : List Token := []

namespace Scan

/-- Ends the command so far, if it is not blank. -/
def flush (s : Scan) : Scan :=
  let text := Text.trimChars s.current.reverse
  let tokens := if text.isEmpty then s.tokens else .command (String.ofList text) s.startLine :: s.tokens
  { s with current := [], tokens := tokens }

/-- Ends the command so far and adds a brace. -/
def brace (s : Scan) (t : Token) : Scan :=
  let s := s.flush
  { s with tokens := t :: s.tokens }

/-- Adds a character to the command so far. -/
def push (s : Scan) (c : Char) : Scan :=
  { s with current := c :: s.current }

/-- Marks the line at hand as the beginning of a command, if `c` is its first character that is not blank. -/
def begin (s : Scan) (c : Char) : Scan :=
  if s.quote.isNone && !Text.isBlank c && s.current.all Text.isBlank then { s with startLine := s.line } else s

/-- Opens or closes a quote. -/
def toggleQuote (s : Scan) (c : Char) : Scan :=
  match s.quote with
  | none => { s with quote := some c }
  | some q => if q = c then { s with quote := none } else s

/-- Reads a character that begins no comment. `next` is the character after it. -/
def step (s : Scan) (c : Char) (next : Option Char) : Scan :=
  let s := s.begin c
  let free := s.quote.isNone
  let read :=
    if c = '"' ∨ c = '\'' then (s.toggleQuote c).push c
    else if c = ';' ∧ free then s.flush
    else if c = '\x7b' ∧ free then if s.previous = some '<' then s.push c else s.brace .openBrace
    else if c = '\x7d' ∧ free then if next = some '>' then s.push c else s.brace .closeBrace
    else if c = '\n' then { s with line := s.line + 1 }.push ' '
    else s.push c
  { read with previous := some c }

/-- Reads the rest of the source. -/
def run (s : Scan) : List Char → Scan
  | [] => s.flush
  | c :: rest =>
    match s.region with
    | .lineComment => if c = '\n' then run ({ s with region := .code }.step c rest.head?) rest else run s rest
    | .blockComment =>
      match c, rest with
      | '*', '/' :: rest => run { s with region := .code, previous := some '/' } rest
      | c, rest => run (if c = '\n' then { s with line := s.line + 1 } else s) rest
    | .code =>
      match c, rest with
      | '/', '/' :: rest =>
        if s.quote.isNone then run { s with region := .lineComment } rest
        else run ((s.step '/' (some '/')).step '/' rest.head?) rest
      | '/', '*' :: rest =>
        if s.quote.isNone then run { s with region := .blockComment } rest
        else run ((s.step '/' (some '*')).step '*' rest.head?) rest
      | c, rest => run (s.step c rest.head?) rest

end Scan

/-- The tokens of a source text. -/
def tokens (source : String) : List Token :=
  (Scan.run {} source.toList).tokens.reverse

end CommandScript
