import CommandScript.Script.Compile

/-! Scripts: compiled instructions with a name, the headers of their source, and how much they report. -/

namespace CommandScript

/-- A compiled script. -/
structure Script where
  /-- The name, in lower case. -/
  name : String
  verbosity : Verbosity
  code : Code
  headers : List (String × String) := []
  /-- For the body of a function or a handler, the script that its lines belong to. -/
  origin : Option String := none

namespace Script

/-- A script without headers. -/
def ofCode (name : String) (verbosity : Verbosity) (code : Code) : Script :=
  { name := Text.lower name, verbosity := verbosity, code := code }

/-- How many instructions a script has. -/
def length (s : Script) : Nat :=
  s.code.entries.size

/-- The first header of a key. -/
def header? (s : Script) (key : String) : Option String :=
  s.headers.lookup key

/-- The script that the lines belong to. -/
def sourceName (s : Script) : String :=
  s.origin.getD s.name

/-- The instructions of a script. -/
def instructions (s : Script) : List Instruction :=
  s.code.entries.toList.map (·.instruction)

/-- A source text for a script. -/
def render (s : Script) : String :=
  renderScript s.instructions

/-- The verbosity that headers ask for, if they name one. -/
def headerVerbosity (headers : List (String × String)) : Verbosity :=
  match headers.lookup "debug" with
  | none => default
  | some text =>
    match Verbosity.read text with
    | .ok v => v
    | .error _ => default

/-- The script of a source text. The predefined variables are in sight from the first instruction on. -/
def ofSource (r : Registries) (name source : String) (predefined : List (String × String)) :
    Except CompileError Script := do
  let instructions ← parseScript r.commands source
  let code ← compile r instructions predefined
  let headers := sourceHeaders source
  return { ofCode name (headerVerbosity headers) code with headers := headers }

/-- The block of an instruction of `owner` as a script of its own. Lines stay those of the owner. -/
def ofBlock (r : Registries) (name : String) (owner : Script) (block : Span) : Except CompileError Script := do
  let code ← compile r (extractBlock owner.instructions block) []
  return { ofCode name owner.verbosity code with origin := some owner.sourceName }

/-- The script that stands in for one that does not compile, and raises the report on it. -/
def ofReport (r : Registries) (name : String) (verbosity : Verbosity) (report : String) : Script :=
  let i : Instruction :=
    { Instruction.ofName compileErrorName 1 with
      args := [Argument.ofText report], source := compileErrorName ++ " \"" ++ report ++ "\"" }
  match compile r [i] [] with
  | .ok code => ofCode name verbosity code
  | .error _ => ofCode name verbosity .empty

end Script

end CommandScript
