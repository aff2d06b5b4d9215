import CommandScript.Script.Layout
import CommandScript.Tag.Chain

/-! Compiling laid-out instructions. Every tag is resolved once and becomes a chain of a table, and equal tags share
    a chain; every variable that a script declares gets a slot, and a tag that reads it names the slot.

    Instructions are compiled in order. The arguments of an instruction come first, so that `define x <{var[x]}>`
    reads the variable before; then a block opens a scope; then the variable that the instruction declares is added
    to the innermost scope. -/

namespace CommandScript

/-- What an engine knows: its commands, the bases of tags and their types. -/
structure Registries where
  commands : CommandRegistry
  bases : BaseRegistry
  types : TypeRegistry

/-- What comes with every engine. -/
def Registries.builtin : Registries :=
  ⟨.builtin, .builtin, .builtin⟩

/-- A variable of a script. -/
structure Slot where
  name : String
  typeName : String
  deriving DecidableEq

/-- Slots by the name of their variable. A name occurs at most once. -/
abbrev SlotNames := List (String × Nat)

/-- The pairs with the value of a key set. -/
def setKey [BEq κ] (key : κ) (value : α) : List (κ × α) → List (κ × α)
  | [] => [(key, value)]
  | (k, v) :: rest => if k == key then (key, value) :: rest else (k, v) :: setKey key value rest

/-! ### The table of chains -/

/-- What tells a tag from others: where it begins, its keys in lower case, and its parameters and fallback as
    compiled. -/
structure ChainKey where
  base : String
  slot : Option Nat
  param : Option (List CompiledPart)
  steps : List (String × Option (List CompiledPart))
  fallback : Option (List CompiledPart)

namespace ChainKey

/-- A stretch of an argument as a key writes it: literal text between quotes, and a chain by its place. -/
def ofPart : CompiledPart → List Char
  | .text s => (Text.quoted s).toList
  | .chain i => '#' :: Decimal.digitsOf i

/-- The stretches of an argument in a row. -/
def ofParts (parts : List CompiledPart) : List Char :=
  parts.flatMap ofPart

/-- The slot of a variable. -/
def ofSlot : Option Nat → List Char
  | none => []
  | some i => '@' :: Decimal.digitsOf i

/-- The parameter of a key. -/
def ofParam : Option (List CompiledPart) → List Char
  | none => []
  | some parts => '[' :: (ofParts parts ++ [']'])

/-- The keys after the first. -/
def ofSteps : List (String × Option (List CompiledPart)) → List Char
  | [] => []
  | (name, param) :: rest => '.' :: (name.toList ++ (ofParam param ++ ofSteps rest))

/-- The fallback of a tag. -/
def ofFallback : Option (List CompiledPart) → List Char
  | none => []
  | some parts => '|' :: '|' :: ofParts parts

/-- The text that the table finds a chain by. -/
def text (k : ChainKey) : String :=
  String.ofList (k.base.toList ++ (ofSlot k.slot ++ (ofParam k.param ++ (ofSteps k.steps ++ ofFallback k.fallback))))

end ChainKey

/-- A chain of the table with the text of its key and the type of its value. -/
structure TableEntry where
  key : String
  chain : Chain
  typeName : String

/-- The chains of a script so far. -/
abbrev ChainTable := Array TableEntry

/-- What tags are compiled in: what the engine knows, the line at hand, the variables in sight and all slots. -/
structure TagScope where
  registries : Registries
  line : Nat
  lookup : String → Option Nat
  slots : Array Slot

/-- Compiling a tag, which may add chains to the table. -/
abbrev Compiling := StateT ChainTable (Except CompileError)

namespace TagScope

/-- Gives up at the line at hand. -/
def fail (s : TagScope) (f : CompileFault) : Compiling α :=
  throw ⟨s.line, f⟩

/-- What makes a value one of a type; nothing for an unknown type. -/
def creator (s : TagScope) (typeName : String) : Value → Value :=
  match s.registries.types.get? typeName with
  | some t => t.create
  | none => id

/-- What makes a parameter one of the type that a rule asks for. -/
def preparation (s : TagScope) (rule : ParamRule) : Value → Value :=
  match rule.typeName? with
  | some t => s.creator t
  | none => id

/-- The type of a result. -/
def returned (s : TagScope) (returns : Returns) (param : Option CompiledArgument) (body : String) :
    Compiling String :=
  match returns with
  | .fixed t => return t
  | .special resolve =>
    match resolve (param.bind CompiledArgument.literal?) s.registries.types.conversions with
    | .ok t => return t
    | .error f => s.fail (.badParam f body)

end TagScope

/-- The type of an argument: that of its chain, or the one that its literal text has; text in all other cases. -/
def partsType (table : ChainTable) (parts : List CompiledPart) : String :=
  match parts with
  | [.chain i] => (table[i]?.map (·.typeName)).getD "text"
  | [.text s] => (Value.ofLiteral s).typeName
  | _ => "text"

/-- The place of a chain in the table, which gets it if no equal one is there. -/
def shareChain (key : String) (chain : Chain) (typeName : String) : Compiling Nat := do
  let table ← get
  match table.findIdx? (·.key == key) with
  | some i => return i
  | none =>
    set (table.push ⟨key, chain, typeName⟩)
    return table.size

/-- The steps of a chain as compiled, what tells them from others, and the type they end with. -/
structure CompiledSteps where
  steps : List ChainStep
  keys : List (String × Option (List CompiledPart))
  typeName : String

/-- The beginning of a chain as compiled, what tells it from others, and its type. -/
structure CompiledStart where
  start : ChainStart
  base : String
  slot : Option Nat
  param : Option (List CompiledPart)
  typeName : String

mutual

/-- Compiles an argument. -/
def compileArgument (s : TagScope) : Argument → Compiling CompiledArgument
  | ⟨segments, _⟩ => do
    let parts ← compileSegments s segments
    return ⟨parts, partsType (← get) parts⟩

/-- Compiles the segments of an argument in turn. -/
def compileSegments (s : TagScope) : List Segment → Compiling (List CompiledPart)
  | [] => return []
  | segment :: rest => do
    let part ← compileSegment s segment
    return part :: (← compileSegments s rest)

/-- Compiles a segment. -/
def compileSegment (s : TagScope) : Segment → Compiling CompiledPart
  | .text t => return .text t
  | .tag t => return .chain (← compileTag s t)

/-- Compiles a tag, and says where its chain is. -/
def compileTag (s : TagScope) : Tag → Compiling Nat
  | ⟨parts, fallback⟩ => do
    let body := (Tag.mk parts fallback).bodyText
    let (start, rest) ← compileParts s body parts
    let fallback ← compileOptional s fallback
    let typeName :=
      match fallback with
      | some f => if f.typeName = rest.typeName then rest.typeName else "dynamic"
      | none => rest.typeName
    let key : ChainKey := ⟨start.base, start.slot, start.param, rest.keys, fallback.map (·.parts)⟩
    shareChain key.text ⟨start.start, rest.steps, fallback, body⟩ typeName

/-- Compiles the keys of a tag. -/
def compileParts (s : TagScope) (body : String) : List Part → Compiling (CompiledStart × CompiledSteps)
  | [] => s.fail (.unknownBase "" body)
  | first :: rest => do
    let start ← compileStart s body first
    let steps ← compileSteps s body 1 start.typeName rest
    return (start, steps)

/-- Compiles the first key of a tag. -/
def compileStart (s : TagScope) (body : String) : Part → Compiling CompiledStart
  | ⟨key, param⟩ => do
    let key := Text.lower key
    match s.registries.bases.get? key with
    | none => s.fail (.unknownBase key body)
    | some base =>
      if base.readsSlot then
        match param.bind Argument.literal? with
        | none => s.fail (.badParam (.notLiteral key) body)
        | some name =>
          let name := Text.lower (Text.trim name)
          match s.lookup name with
          | none => s.fail (.unknownVariable name body)
          | some slot => return ⟨.slot slot, key, some slot, none, (s.slots[slot]?.map (·.typeName)).getD "text"⟩
      else
        let param ← compileParam s body key base.param param
        let typeName ← s.returned base.returns param body
        return ⟨.base base param (s.preparation base.param), key, none, param.map (·.parts), typeName⟩

/-- Compiles the keys after the first. `index` is the position of the next one, and `current` the type before it. -/
def compileSteps (s : TagScope) (body : String) (index : Nat) (current : String) :
    List Part → Compiling CompiledSteps
  | [] => return ⟨[], [], current⟩
  | ⟨key, param⟩ :: rest => do
    let key := Text.lower key
    match s.registries.types.resolve? current key with
    | none => s.fail (.unknownSubTag index key current body)
    | some (owner, subTag) =>
      let adapt := if owner.name = current then id else s.creator owner.name
      let param ← compileParam s body key subTag.param param
      let typeName ← s.returned subTag.returns param body
      let more ← compileSteps s body (index + 1) typeName rest
      return ⟨⟨adapt, subTag, param, s.preparation subTag.param⟩ :: more.steps,
        (key, param.map (·.parts)) :: more.keys, more.typeName⟩

/-- Compiles the parameter of a key, which has to be there or not as the key asks. -/
def compileParam (s : TagScope) (body key : String) (rule : ParamRule) :
    Option Argument → Compiling (Option CompiledArgument)
  | none =>
    match rule with
    | .required _ => s.fail (.badParam (.missing key) body)
    | _ => return none
  | some a =>
    match rule with
    | .none => s.fail (.badParam (.unexpected key) body)
    | _ => do return some (← compileArgument s a)

/-- Compiles an argument that may be missing. -/
def compileOptional (s : TagScope) : Option Argument → Compiling (Option CompiledArgument)
  | none => return none
  | some a => do return some (← compileArgument s a)

end

/-- Compiles an argument under a key. -/
def compileNamed (s : TagScope) (named : String × Argument) : Compiling (String × CompiledArgument) := do
  return (named.1, ← compileArgument s named.2)

/-! ### Instructions -/

/-- An instruction as compiled. -/
structure Entry where
  instruction : Instruction
  args : List CompiledArgument
  named : List (String × CompiledArgument)
  /-- The slot of the variable that the instruction declares. -/
  declares : Option Nat
  /-- The slots of the variables in sight after the instruction. -/
  names : SlotNames
  /-- The command, if the name is known. -/
  command : Option Command

/-- A compiled list of instructions. -/
structure Code where
  entries : Array Entry
  chains : Array Chain
  slots : Array Slot
  /-- The slots of the variables in sight at the end, outside all blocks. -/
  finalNames : SlotNames

/-- The code without instructions. -/
def Code.empty : Code :=
  ⟨#[], #[], #[], []⟩

/-- The variables declared in a block. -/
structure Scope where
  /-- The first place after the block; none for what is outside all blocks. -/
  stop : Option Nat
  names : SlotNames

/-- What has been compiled so far. The innermost scope comes first. -/
structure Compilation where
  scopes : List Scope
  slots : Array Slot
  table : ChainTable
  entries : Array Entry

namespace Compilation

/-- The slot of a variable in sight. -/
def lookup (c : Compilation) (name : String) : Option Nat :=
  c.scopes.findSome? fun s => s.names.lookup name

/-- The slots of all variables in sight in some scopes. Inner variables hide outer ones of the same name. -/
def visibleIn : List Scope → SlotNames
  | [] => []
  | [s] => s.names
  | s :: outer => s.names.foldl (fun names (name, slot) => setKey name slot names) (visibleIn outer)

/-- The slots of all variables in sight. -/
def visible (c : Compilation) : SlotNames :=
  visibleIn c.scopes

/-- Adds a variable to the innermost scope, and says its slot. -/
def declare (c : Compilation) (d : Declaration) : Nat × Compilation :=
  let name := Text.lower d.name
  let slot := c.slots.size
  let scopes :=
    match c.scopes with
    | [] => []
    | s :: outer => { s with names := setKey name slot s.names } :: outer
  (slot, { c with scopes := scopes, slots := c.slots.push ⟨name, d.typeName⟩ })

/-- Leaves the scopes that end at or before a place. -/
def leave (c : Compilation) (index : Nat) : Compilation :=
  { c with scopes := c.scopes.dropWhile fun s => s.stop.any (· ≤ index) }

/-- What the tags of an instruction are compiled in. -/
def tagScope (c : Compilation) (r : Registries) (line : Nat) : TagScope :=
  ⟨r, line, c.lookup, c.slots⟩

/-- Compiles the next instruction. -/
def add (c : Compilation) (r : Registries) (i : Instruction) : Except CompileError Compilation := do
  let c := c.leave c.entries.size
  let scope := c.tagScope r i.line
  let (args, table) ← (i.args.mapM (compileArgument scope)).run c.table
  let (named, table) ← (i.named.mapM (compileNamed scope)).run table
  let c := { c with table := table }
  let command := r.commands.get? i.name
  let c :=
    match i.block with
    | some s => if i.isCallback then c else { c with scopes := ⟨some s.stop, []⟩ :: c.scopes }
    | none => c
  let declaration ←
    match command with
    | some cmd =>
      if i.isCallback then pure none
      else
        match cmd.action.declares i (args.map (·.typeName)) with
        | .ok d => pure d
        | .error e => throw ⟨i.line, .rejected e⟩
    | none => pure none
  let (slot, c) :=
    match declaration with
    | some d => let (slot, c) := c.declare d; (some slot, c)
    | none => (none, c)
  let entry : Entry := ⟨i, args, named, slot, c.visible, command⟩
  return { c with entries := c.entries.push entry }

/-- What there is before the first instruction: the predefined variables. -/
def start (predefined : List (String × String)) : Compilation :=
  predefined.foldl (fun c (name, typeName) => (c.declare ⟨name, typeName⟩).2) ⟨[⟨none, []⟩], #[], #[], #[]⟩

end Compilation

/-- Compiles a list of instructions. The predefined variables have the first slots, and are in sight from the first
    instruction on. -/
def compile (r : Registries) (instructions : List Instruction) (predefined : List (String × String)) :
    Except CompileError Code := do
  let c ← instructions.foldlM (fun c i => c.add r i) (Compilation.start predefined)
  let finalNames := (c.scopes.getLast?.map (·.names)).getD []
  return ⟨c.entries, c.table.map (·.chain), c.slots, finalNames⟩

end CommandScript
