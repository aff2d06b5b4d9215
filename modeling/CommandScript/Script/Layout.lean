import CommandScript.Script.Command
import CommandScript.Script.Token

/-! From tokens to the flat list of instructions that runs. Braces first make a tree: a block belongs to the command
    right before it, a stray closing brace is passed over, and a missing one stands at the end of the text. The tree
    is then laid out with every block right after its owner, and after the block an instruction for its end where
    the owner asks for one. -/

namespace CommandScript

/-! ### Trees -/

/-- A command with its block. -/
structure Node where
  instruction : Instruction
  block : Option (List Node)

namespace Node

/-- The level before a block, written backwards, with the block added. The last command before it owns it, unless
    it has one; without an owner the commands of the block join the level. -/
def addBlock (children : List Node) : List Node → List Node
  | [] => children.reverse
  | last :: rest =>
    match last.block with
    | none => { last with block := some children } :: rest
    | some _ => children.reverse ++ last :: rest

/-- Ends all levels. `level` is the innermost and `outer` are those around it, all written backwards. -/
def closeAll (level : List Node) : (outer : List (List Node)) → List Node
  | [] => level.reverse
  | next :: outer => closeAll (addBlock level.reverse next) outer

/-- The tree that the rest of the tokens makes after `level` and `outer`, both written backwards. -/
def build (level : List Node) (outer : List (List Node)) : List Token → Except CompileError (List Node)
  | [] => .ok (closeAll level outer)
  | .command text line :: rest => do
    let i ← Instruction.read text line
    build (⟨i, none⟩ :: level) outer rest
  | .openBrace :: rest => build [] (level :: outer) rest
  | .closeBrace :: rest =>
    match outer with
    | [] => build level [] rest
    | next :: outer => build (addBlock level.reverse next) outer rest

/-- The tree of a list of tokens. -/
def ofTokens (tokens : List Token) : Except CompileError (List Node) :=
  build [] [] tokens

end Node

/-! ### Layout -/

/-- A laid-out command at the same level: its place and its name. -/
structure Sibling where
  index : Nat
  name : String

/-- The place of the command that `i` continues, if it has to continue one. -/
def linkOf (command : Option Command) (i : Instruction) (previous : Option Sibling) :
    Except CompileError (Option Nat) :=
  match command.bind (·.signature.follows) with
  | none => .ok i.link
  | some allowed =>
    match previous with
    | some p =>
      if allowed.contains p.name then .ok (some p.index)
      else .error ⟨i.line, .rejected (.misplaced i.name allowed)⟩
    | none => .error ⟨i.line, .rejected (.misplaced i.name allowed)⟩

/-- The instruction for the end of the block that the instruction `i` at `index` owns. -/
def Instruction.endOfBlock (i : Instruction) (index : Nat) : Instruction :=
  { Instruction.ofName i.name i.line with source := i.name ++ " (end of block)", callbackOf := some index }

mutual

/-- The instructions of nodes, laid out from place `index` on after their sibling `previous`. -/
def layoutNodes (r : CommandRegistry) (index : Nat) (previous : Option Sibling) :
    List Node → Except CompileError (List Instruction)
  | [] => .ok []
  | ⟨i, block⟩ :: rest => do
    let command := r.get? i.name
    let link ← linkOf command i previous
    let i := { i with link := link }
    let body ← layoutBlock r (index + 1) block
    let own : List Instruction :=
      match body with
      | none => [i]
      | some body =>
        let stop := index + 1 + body.length
        let owner := { i with block := some ⟨index + 1, stop⟩ }
        let callback := if command.any (·.signature.needsCallback) then [i.endOfBlock index] else []
        owner :: (body ++ callback)
    let more ← layoutNodes r (index + own.length) (some ⟨index, i.name⟩) rest
    return own ++ more

/-- The instructions of a block, laid out from place `index` on. -/
def layoutBlock (r : CommandRegistry) (index : Nat) :
    Option (List Node) → Except CompileError (Option (List Instruction))
  | none => .ok none
  | some nodes => do return some (← layoutNodes r index none nodes)

end

/-- Checks an instruction. A command that is not known fails when it runs. -/
def Instruction.check (r : CommandRegistry) (i : Instruction) : Except CompileError Unit :=
  match r.get? i.name with
  | none => .ok ()
  | some c =>
    match c.check i with
    | .ok () => .ok ()
    | .error e => .error ⟨i.line, .rejected e⟩

/-- The instructions of a source text, laid out and checked. -/
def parseScript (r : CommandRegistry) (source : String) : Except CompileError (List Instruction) := do
  let tree ← Node.ofTokens (tokens source)
  let laid ← layoutNodes r 0 none tree
  for i in laid do
    if !i.isCallback then i.check r
  return laid

/-! ### Blocks cut out -/

/-- A span moved down by `base`. -/
def Span.shift (s : Span) (base : Nat) : Span :=
  ⟨s.start - base, s.stop - base⟩

/-- The instructions of a block as a list of their own, with all places moved. Lines stay. -/
def extractBlock (instructions : List Instruction) (s : Span) : List Instruction :=
  ((instructions.take s.stop).drop s.start).map fun i =>
    { i with
      block := i.block.map (·.shift s.start)
      callbackOf := i.callbackOf.map (· - s.start)
      link := i.link.map (· - s.start) }

/-! ### Rendering -/

/-- The indentation of a level. -/
def indent (depth : Nat) : List Char :=
  List.replicate (4 * depth) ' '

/-- Closes the blocks that end at `index`. `ends` are the ends of the open blocks, the innermost first. -/
def closeBlocks (index : Nat) : (ends : List Nat) → List Char × List Nat
  | [] => ([], [])
  | e :: ends =>
    if e ≤ index then
      let (more, left) := closeBlocks index ends
      (indent ends.length ++ '\x7d' :: '\n' :: more, left)
    else ([], e :: ends)

/-- The source form of instructions from place `index` on, inside blocks that end at `ends`. -/
def renderFrom (index : Nat) (ends : List Nat) : List Instruction → List Char
  | [] => (closeBlocks index ends).1
  | i :: rest =>
    let (closing, ends) := closeBlocks index ends
    let head :=
      if i.isCallback then []
      else indent ends.length ++ i.renderChars ++
        match i.block with
        | some _ => [' ', '\x7b', '\n']
        | none => [';', '\n']
    let ends :=
      match i.block with
      | some s => if i.isCallback then ends else s.stop :: ends
      | none => ends
    closing ++ head ++ renderFrom (index + 1) ends rest

/-- The source text of the instructions in a span. The ends of blocks are left out: they come back when the text
    is read. -/
def renderSpan (instructions : List Instruction) (s : Span) : String :=
  String.ofList (renderFrom s.start [] ((instructions.take s.stop).drop s.start))

/-- The source text of a list of instructions. -/
def renderScript (instructions : List Instruction) : String :=
  renderSpan instructions ⟨0, instructions.length⟩

/-! ### Headers -/

/-- The headers in the leading comments of lines: `///key=value`, with the key in lower case. Blank lines and other
    line comments may stand between. -/
def headersIn : List String → List (String × String)
  | [] => []
  | line :: rest =>
    let cs := Text.trimChars line.toList
    if cs.isEmpty then headersIn rest
    else
      match Text.dropStart? ['/', '/', '/'] cs with
      | some text =>
        match Text.splitFirst '=' text with
        | some (key, value) =>
          (Text.asciiLower (String.ofList (Text.trimChars key)), String.ofList (Text.trimChars value)) ::
            headersIn rest
        | none => headersIn rest
      | none => if (Text.dropStart? ['/', '/'] cs).isSome then headersIn rest else []

/-- The headers of a source text. -/
def sourceHeaders (source : String) : List (String × String) :=
  headersIn (Text.lines source)

end CommandScript
