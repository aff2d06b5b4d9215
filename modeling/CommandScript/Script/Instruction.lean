import CommandScript.Fault

/-! Instructions: a command with its arguments, and the place it has in a script once blocks are laid out. Reading
    cuts the text of a command into words, and rendering writes words that read back the same. -/

namespace CommandScript

/-- The instructions from `start` on and before `stop`. -/
structure Span where
  start : Nat
  stop : Nat
  deriving DecidableEq

/-- Arguments by key, in ascending order of their keys. -/
abbrev NamedArguments := List (String × Argument)

/-- Adds an argument under a key, in place of one that is there. -/
def insertNamed (key : String) (value : α) : List (String × α) → List (String × α)
  | [] => [(key, value)]
  | (k, v) :: rest =>
    if key = k then (key, value) :: rest
    else if key < k then (key, value) :: (k, v) :: rest
    else (k, v) :: insertNamed key value rest

/-- One command of a script. -/
structure Instruction where
  /-- The name of the command, in lower case. -/
  name : String
  args : List Argument := []
  named : NamedArguments := []
  line : Nat
  /-- The text of the command. -/
  source : String
  /-- The instructions of the block that the command owns. -/
  block : Option Span := none
  /-- Whether the queue waits for the command to finish. -/
  waitFor : Bool := false
  /-- For the instruction at the end of a block, the owner of the block. -/
  callbackOf : Option Nat := none
  /-- The instruction that this one continues. -/
  link : Option Nat := none
  deriving BEq

namespace Instruction

/-- An instruction without arguments. -/
def ofName (name : String) (line : Nat) : Instruction :=
  { name := Text.asciiLower name, line := line, source := name }

/-- Whether an instruction stands for the end of a block. -/
def isCallback (i : Instruction) : Bool :=
  i.callbackOf.isSome

end Instruction

/-! ### Words -/

/-- A word of a command, and whether any of it stood between quotes. -/
structure Word where
  chars : List Char
  quoted : Bool

/-- What has been read of a command: the characters of the word so far, backwards, whether it had quotes, the quote
    that is open, how many tags are open, and the words so far, backwards. -/
structure WordScan where
  current : List Char := []
  quoted : Bool := false
  quote : Option Char := none
  tags : Nat := 0
  words : List Word := []

namespace WordScan

/-- Adds a character to the word so far. -/
def push (s : WordScan) (c : Char) : WordScan :=
  { s with current := c :: s.current }

/-- Ends the word so far. A word without characters counts only if it had quotes. -/
def flush (s : WordScan) : WordScan :=
  if s.current.isEmpty && !s.quoted then s
  else { s with current := [], quoted := false, words := ⟨s.current.reverse, s.quoted⟩ :: s.words }

/-- Reads a quote outside tags: it opens, closes, or belongs to the word inside other quotes. -/
def quoteMark (s : WordScan) (c : Char) : WordScan :=
  match s.quote with
  | none => { s with quote := some c, quoted := true }
  | some q => if q = c then { s with quote := none } else s.push c

/-- Reads a character that belongs to no tag delimiter. -/
def step (s : WordScan) (c : Char) : WordScan :=
  if (c = '"' ∨ c = '\'') ∧ s.tags = 0 then s.quoteMark c
  else if Text.isBlank c && s.quote.isNone && s.tags == 0 then s.flush
  else s.push c

/-- Reads the rest of a command. -/
def run (s : WordScan) : List Char → WordScan
  | [] => s.flush
  | '<' :: '\x7b' :: rest => run { (s.push '<').push '\x7b' with tags := s.tags + 1 } rest
  | '\x7d' :: '>' :: rest =>
    match s.tags with
    | 0 => run ((s.step '\x7d').step '>') rest
    | tags + 1 => run { (s.push '\x7d').push '>' with tags := tags } rest
  | c :: rest => run (s.step c) rest

end WordScan

/-- The words of a command. -/
def words (cs : List Char) : List Word :=
  (WordScan.run {} cs).words.reverse

/-! ### Reading -/

/-- The key and the value of a word such as `--key=value` without quotes. -/
def Word.named? (w : Word) : Option (List Char × List Char) :=
  if w.quoted then none else (Text.dropStart? ['-', '-'] w.chars).bind (Text.splitFirst '=')

namespace Instruction

/-- Adds the argument that a word writes. -/
def addWord (i : Instruction) (w : Word) : Except ReadError Instruction :=
  match w.named? with
  | some (key, value) => do
    let arg ← readArgument value
    return { i with named := insertNamed (Text.asciiLower (String.ofList key)) arg i.named }
  | none => do
    let arg ← readArgument w.chars
    return { i with args := i.args ++ [{ arg with quoted := w.quoted }] }

/-- The instruction that the text of a command writes. -/
def read (text : String) (line : Nat) : Except CompileError Instruction :=
  let wrong (f : SyntaxFault) : CompileError := ⟨line, .badSyntax f⟩
  match words text.toList with
  | [] => .error (wrong .emptyCommand)
  | head :: rest =>
    let (waitFor, name) :=
      match head.chars with
      | '&' :: name => (true, name)
      | name => (false, name)
    if name.isEmpty then .error (wrong .missingName)
    else
      let start : Instruction :=
        { ofName (String.ofList name) line with waitFor := waitFor, source := text }
      match rest.foldlM addWord start with
      | .ok i => .ok i
      | .error e => .error (wrong (.argument e))

end Instruction

/-! ### Rendering -/

/-- Whether a text would be cut or change its meaning without quotes, `tags` tags deep. -/
def needsQuotes (tags : Nat) : List Char → Bool
  | [] => false
  | '<' :: '\x7b' :: rest => needsQuotes (tags + 1) rest
  | '\x7d' :: '>' :: rest =>
    match tags with
    | 0 => true
    | tags + 1 => needsQuotes tags rest
  | c :: rest =>
    c = ';' || c = '\x7b' || c = '\x7d' || c = '"' || c = '\'' || (tags == 0 && Text.isBlank c) ||
      needsQuotes tags rest

/-- A word with quotes around it, if it had them or needs them. Single quotes stand around double ones. -/
def quoteWord (quoted : Bool) (cs : List Char) : List Char :=
  if !quoted && !cs.isEmpty && !needsQuotes 0 cs then cs
  else if cs.contains '"' then '\'' :: (cs ++ ['\''])
  else '"' :: (cs ++ ['"'])

namespace Instruction

/-- An instruction in source form, without its block. -/
def renderChars (i : Instruction) : List Char :=
  (if i.waitFor then ['&'] else []) ++ i.name.toList ++
    (i.args.flatMap fun a => ' ' :: quoteWord a.quoted a.source) ++
    i.named.flatMap fun (key, a) => ' ' :: quoteWord a.quoted ('-' :: '-' :: (key.toList ++ '=' :: a.source))

/-- The text of an instruction, without its block. -/
def render (i : Instruction) : String :=
  String.ofList i.renderChars

end Instruction

end CommandScript
