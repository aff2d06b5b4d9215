import CommandScript.Engine.Load

/-! What commands do. A command sees the frame it runs in and the engine, changes both, and says how the queue goes
    on. What it changed before it fails stays changed. -/

namespace CommandScript

/-- How a queue goes on after a command. -/
inductive Flow where
  | proceed
  /-- After some seconds. -/
  | pause (seconds : Float)
  /-- Once a gate is open. -/
  | await (gate : Gate)
  /-- With the innermost frame at its end. -/
  | completeFrame
  /-- Not at all. -/
  | stopQueue
  /-- With another script in a frame of its own. -/
  | enter (script : Script) (vars : Vars)
  /-- With another script on a new queue, and once it has ended if the queue waits for it. -/
  | launch (script : Script) (vars : Vars) (waits : Bool)

/-- What a command changes. -/
structure Scene where
  engine : Engine
  frame : Frame

/-- What a command is told: its instruction, its place, the queue and the number of its frames. -/
structure Site where
  entry : Entry
  index : Nat
  depth : Nat
  delayable : Bool
  ownOutput : Bool

/-- Something that a command does. -/
abbrev Act := ReaderT Site (ExceptT Failure (StateM Scene))

namespace Act

/-- Gives up with an error of the script. -/
def fail (f : RuntimeFault) : Act α :=
  throw (.error (.runtime f))

/-- Gives up with a fault of the engine. -/
def failInternal (f : InternalFault) : Act α :=
  throw (.error (.internal f))

/-- Does something with the engine. -/
def onEngine (m : EngineM α) : Act α := do
  let s ← get
  let (result, engine) := m.run s.engine
  set { s with engine := engine }
  match result with
  | .ok a => return a
  | .error f => throw f

/-- The frame. -/
def frame : Act Frame :=
  return (← get).frame

/-- Changes the frame. -/
def onFrame (change : Frame → Frame) : Act Unit :=
  modify fun s => { s with frame := change s.frame }

/-- The instruction. -/
def instruction : Act Instruction :=
  return (← read).entry.instruction

/-- Sends a message. -/
def say (kind : MessageKind) (text : String) : Act Unit := do
  onEngine (Engine.emit (← read).ownOutput (← frame).verbosity text kind)

/-- The types that the engine knows. -/
def types : Act TypeRegistry :=
  return (← get).engine.registries.types

/-! ### Arguments -/

/-- The value of an argument. -/
def evaluate (a : CompiledArgument) : Act Value := do
  let f ← frame
  let env : Environment := ⟨f.slots, f.vars, (← types).conversions, f.script.code.chains⟩
  match a.evaluate env with
  | .ok v => return v
  | .error e => throw e

/-- The value of the argument at a position, or `null` if there is none. -/
def arg (position : Nat) : Act Value := do
  match (← read).entry.args[position]? with
  | some a => evaluate a
  | none => return .null

/-- The text of the argument at a position. -/
def argText (position : Nat) : Act String :=
  return (← arg position).toText

/-- How many arguments there are. -/
def argCount : Act Nat :=
  return (← read).entry.args.length

/-- The texts of all arguments with spaces between them. -/
def argWords : Act String := do
  let values ← (← read).entry.args.mapM evaluate
  return Text.join " " (values.map Value.toText)

/-- What an argument has to be, or an error. -/
def expect (expected : Expected) (v : Value) (read? : Value → Option α) : Act α := do
  match read? v with
  | some a => return a
  | none => fail (.unexpectedValue (← instruction).name expected v.toText)

/-- The argument at a position as a truth value. -/
def booleanArg (position : Nat) : Act Bool := do
  expect .boolean (← arg position) Value.asBoolean?

/-- The arguments with keys, as variables. -/
def namedVars : Act Vars := do
  (← read).entry.named.mapM fun (key, a) => do return (key, ← evaluate a)

/-! ### Moving on -/

/-- Goes on at a place. -/
def jump (target : Nat) : Act Unit := do
  match (← frame).jump? target with
  | some f => onFrame fun _ => f
  | none => fail .jumpBack

/-- Goes on after the block of the instruction, and after the instruction for its end. -/
def skipBlock : Act Unit := do
  match (← instruction).block with
  | none => return
  | some block =>
    let index := (← read).index
    let atEnd := (← frame).script.code.entries[block.stop]?
    let hasEnd := atEnd.any fun e => e.instruction.callbackOf = some index
    jump (if hasEnd then block.stop + 1 else block.stop)

/-- The place where the block of a loop begins. -/
def loopStart (owner : Nat) : Act Nat := do
  match ((← frame).script.code.entries[owner]?).bind (·.instruction.block) with
  | some block => return block.start
  | none => failInternal .loopBlockMissing

/-- Sets the variable of a loop, if it has one. -/
def setLoopVariable (owner : Nat) (v : Value) : Act Unit := do
  match ((← frame).script.code.entries[owner]?).bind (·.declares) with
  | some slot => onFrame (·.setSlot slot v)
  | none => return

/-! ### Output, variables and errors -/

/-- Shows how to use a command, or lists all commands. -/
def help : Act Flow := do
  let commands := (← get).engine.registries.commands
  if (← argCount) = 0 then
    say .info ("Commands: " ++ Text.join ", " commands.names)
    return .proceed
  let name := Text.lower (← argText 0)
  match commands.get? name with
  | none => fail (.unknownCommand name)
  | some c =>
    say .info s!"Usage: {c.signature.name} {c.signature.usage}"
    say .info c.signature.description
    return .proceed

/-- Sets how much the script reports. -/
def debug : Act Flow := do
  match Verbosity.read (← argText 0) with
  | .error word => fail (.unknownVerbosity word)
  | .ok v =>
    onFrame fun f => { f with verbosity := v }
    say .good s!"Debug mode set to {v.name}."
    return .proceed

/-- Gives a declared variable its value, as its type has it. -/
def define : Act Flow := do
  match (← read).entry.declares with
  | none => failInternal .slotMissing
  | some index =>
    let slot := ((← frame).script.code.slots[index]?).getD ⟨"", "text"⟩
    let value := (← types).convert (← arg 1) slot.typeName
    if (← frame).verbosity = .full then
      say .good (s!"Defined {slot.typeName} variable '{slot.name}' as '" ++ value.toText ++ "'.")
    onFrame (·.setSlot index value)
    return .proceed

/-- Whole numbers joined as a mode of `set` says. -/
def integerUpdate (mode : SetMode) (current input : Value) : Except RuntimeFault Value :=
  match current.asInteger?, input.asInteger? with
  | some a, some b =>
    let result : Except RuntimeFault (Option Int64) :=
      match mode with
      | .assign => .ok (some b)
      | .add => .ok (addChecked a b)
      | .subtract => .ok (subChecked a b)
      | .multiply => .ok (mulChecked a b)
      | .divide => if b = 0 then .error .divisionByZero else .ok (divChecked a b)
    match result with
    | .ok (some n) => .ok (.integer n)
    | .ok none => .error .integerOverflow
    | .error f => .error f
  | _, _ => .error (.notIntegers mode current.toText input.toText)

/-- Numbers joined as a mode of `set` says. -/
def numberUpdate (mode : SetMode) (current input : Value) : Except RuntimeFault Value :=
  match current.asNumber?, input.asNumber? with
  | some a, some b =>
    match mode with
    | .assign => .ok (.number b)
    | .add => .ok (.number (a + b))
    | .subtract => .ok (.number (a - b))
    | .multiply => .ok (.number (a * b))
    | .divide => if b == 0 then .error .divisionByZero else .ok (.number (a / b))
  | _, _ => .error (.notNumbers mode current.toText input.toText)

/-- The value that `set` gives a variable of a type. -/
def updated (types : TypeRegistry) (mode : SetMode) (typeName : String) (current input : Value) :
    Except RuntimeFault Value :=
  if mode = .assign then .ok (types.convert input typeName)
  else if types.isA typeName "integer" then integerUpdate mode current input
  else if types.isA typeName "number" then numberUpdate mode current input
  else if typeName = "list" ∧ mode = .add then .ok (.list (current.asList ++ [input]))
  else .error (.setterUnfit mode typeName)

/-- Changes a variable. -/
def set : Act Flow := do
  let name := Text.lower (← argText 0)
  match (← read).entry.names.lookup name with
  | none => fail (.unknownVariable name)
  | some slot =>
    let op := Text.trim (← argText 1)
    match SetMode.read? op with
    | none => fail (.unknownSetter op)
    | some mode =>
      let f ← frame
      let typeName := ((f.script.code.slots[slot]?).map (·.typeName)).getD "text"
      let input ← arg 2
      match updated (← types) mode typeName (f.slots[slot]?.getD .null) input with
      | .error e => fail e
      | .ok value =>
        if f.verbosity = .full then say .good (s!"Set variable '{name}' to '" ++ value.toText ++ "'.")
        onFrame (·.setSlot slot value)
        return .proceed

/-- Adds an outcome to those of the script. -/
def determine : Act Flow := do
  let value ← arg 0
  say .good ("Determined '" ++ value.toText ++ "'.")
  onFrame fun f => { f with determinations := f.determinations ++ [value] }
  return .proceed

/-! ### Branches and loops -/

/-- Enters its block if a condition holds. -/
def ifBlock : Act Flow := do
  let taken ← booleanArg 0
  let index := (← read).index
  onFrame (·.setBranch index taken)
  if !taken then skipBlock
  return .proceed

/-- Enters its block if no branch before it was taken and its condition, if it has one, holds. The chain is settled
    once a branch is taken. -/
def elseBlock : Act Flow := do
  match (← instruction).link with
  | none => failInternal .branchMissing
  | some link =>
    let earlier := (← frame).branchTaken link
    let taken ←
      if earlier then pure false
      else if (← argCount) = 2 then booleanArg 1
      else pure true
    let index := (← read).index
    onFrame (·.setBranch index (earlier || taken))
    if !taken then skipBlock
    return .proceed

/-- Goes back to the beginning of a loop with the value of its next round, or ends it. -/
def nextRound (owner : Nat) (next : Option (LoopState × Value)) : Act Flow := do
  match next with
  | some (state, value) =>
    onFrame (·.setLoop owner state)
    setLoopVariable owner value
    jump (← loopStart owner)
  | none => onFrame (·.endLoop owner)
  return .proceed

/-- Enters its block as often as its argument says. -/
def repeatBlock : Act Flow := do
  match (← instruction).callbackOf with
  | some owner =>
    nextRound owner <|
      match (← frame).loops.lookup owner with
      | some (.count current total) =>
        if current < total then some (.count (current + 1) total, .integer (current + 1)) else none
      | _ => none
  | none =>
    let total ← expect .integer (← arg 0) Value.asInteger?
    let index := (← read).index
    if total ≤ 0 then
      say .good "Repeat count is zero, skipping."
      skipBlock
    else
      onFrame (·.setLoop index (.count 1 total))
      setLoopVariable index (.integer 1)
    return .proceed

/-- Enters its block once for each item of a list. -/
def foreach : Act Flow := do
  match (← instruction).callbackOf with
  | some owner =>
    nextRound owner <|
      match (← frame).loops.lookup owner with
      | some (.items index items) => (items[index + 1]?).map fun item => (.items (index + 1) items, item)
      | _ => none
  | none =>
    let items := (← arg 0).asList
    let index := (← read).index
    match items with
    | [] => skipBlock
    | first :: _ =>
      onFrame (·.setLoop index (.items 0 items.toArray))
      setLoopVariable index first
    return .proceed

/-- Enters its block if its name has not been seen. -/
def once : Act Flow := do
  let id := Text.lower (← argText 0)
  let mode ←
    if (← argCount) = 2 then
      match OnceMode.read (← argText 1) with
      | .ok mode => pure mode
      | .error word => fail (.unknownOnceMode word)
    else pure .error
  let (isNew, engine) := (← get).engine.markOnce id
  modify fun s => { s with engine := engine }
  if isNew then
    say .good s!"Once block '{id}' entered."
    return .proceed
  match mode with
  | .error => fail (.onceRepeated id)
  | .warning => say .bad (onceRepeatedMessage id)
  | .quiet => pure ()
  skipBlock
  return .proceed

/-- Whether an instruction is the mark of a label. -/
def isMark (label : String) (e : Entry) : Bool :=
  e.instruction.name == "mark" &&
    (e.args.head?.bind CompiledArgument.literal?).any fun l => Text.eqIgnoreAsciiCase (Text.trim l) label

/-- Goes on after the next mark of a label, and discards everything up to it. -/
def goto : Act Flow := do
  let label := Text.lower (Text.trim (← argText 0))
  let f ← frame
  match (f.script.code.entries.toList.drop f.pc).findIdx? (isMark label) with
  | none => fail .unknownMark
  | some offset =>
    let after := f.pc + offset + 1
    onFrame fun f => { f with floor := after, pc := after }
    say .good s!"Went to mark '{label}'."
    return .proceed

/-- Enters its block. At the end of it, says whether an error was caught there. -/
def tryBlock : Act Flow := do
  match (← instruction).callbackOf with
  | some owner =>
    if (← frame).branchTaken owner then say .good "Error caught by try block."
    return .proceed
  | none =>
    let index := (← read).index
    onFrame (·.setBranch index false)
    return .proceed

/-- Enters its block if the block before it caught an error. -/
def catchBlock : Act Flow := do
  let f ← frame
  let caught := ((← instruction).link.map f.branchTaken).getD false
  if !caught then skipBlock
  return .proceed

/-! ### Queues, functions and events -/

/-- Pauses the queue, if it may wait. -/
def wait : Act Flow := do
  let seconds ← expect .number (← arg 0) Value.asNumber?
  if !(← read).delayable then
    say .good "Not waiting: the queue cannot be delayed."
    return .proceed
  say .good ("Waiting " ++ Decimal.floatText seconds ++ " seconds.")
  return .pause seconds

/-- The block of the instruction as a script of its own. -/
def bodyScript (name : String) : Act Script := do
  let i ← instruction
  match i.block with
  | none => failInternal (.bodyMissing i.name)
  | some block =>
    match Script.ofBlock (← get).engine.registries name (← frame).script block with
    | .ok s => return s
    | .error e => fail (.bodyRejected name e)

/-- Registers its block as a function. -/
def function : Act Flow := do
  let name := Text.lower (← argText 0)
  let script ← bodyScript name
  modify fun s => { s with engine := s.engine.registerFunction name script }
  say .good s!"Function '{name}' defined."
  skipBlock
  return .proceed

/-- The function or the script file of a name. -/
def findScript (name : String) : Act Script := do
  match ← onEngine (Engine.findScript? name) with
  | some s => return s
  | none => fail (.unknownScript name)

/-- Runs a script in a frame of its own. -/
def call : Act Flow := do
  if (← read).depth ≥ maxCallDepth then fail .callTooDeep
  let script ← findScript (← argText 0)
  let vars ← namedVars
  say .good s!"Calling '{script.name}'."
  return .enter script vars

/-- Runs a script on a queue of its own. -/
def launch : Act Flow := do
  let script ← findScript (← argText 0)
  let vars ← namedVars
  say .good s!"Starting '{script.name}' on a new queue."
  return .launch script vars (← instruction).waitFor

/-- The priority of a handler; without one it is zero. -/
def priorityArg : Act Int := do
  if (← argCount) ≠ 4 then return 0
  let value ← arg 3
  match value.asInteger? with
  | none => fail (.badPriority value.toText)
  | some n =>
    if minPriority ≤ n.toInt ∧ n.toInt ≤ maxPriority then return n.toInt
    else fail (.badPriority (Value.integerText n))

/-- Adds or removes a handler. -/
def event : Act Flow := do
  let action := Text.lower (← argText 0)
  let event := Text.lower (← argText 1)
  let handler := Text.lower (← argText 2)
  if action = "remove" then
    let (removed, engine) := (← get).engine.removeHandler event handler
    modify fun s => { s with engine := engine }
    if removed then say .good s!"Removed handler '{handler}' from event '{event}'."
    else say .bad s!"Event '{event}' has no handler '{handler}'."
    return .proceed
  let priority ← priorityArg
  let script ← bodyScript handler
  let added : Handler := ⟨Text.lower handler, script, priority, true⟩
  modify fun s => { s with engine := s.engine.registerHandler event added }
  say .good s!"Added handler '{handler}' to event '{event}' at priority {priority}."
  skipBlock
  return .proceed

/-- Does what a command of the host asks for. -/
def custom (respond : List Value → Reply) : Act Flow := do
  let values ← (← read).entry.args.mapM evaluate
  match respond values with
  | .proceed => return .proceed
  | .hold key => return .await (.host key)
  | .completeFrame => return .completeFrame
  | .breakOff text => throw (.breakOff text)
  | .fault text => failInternal (.other text)

end Act

/-- What a command does. -/
def Action.perform : Action → Act Flow
  | echo => do
    Act.say .info (← Act.argWords)
    return .proceed
  | help => Act.help
  | noop => return .proceed
  | debug => Act.debug
  | define => Act.define
  | set => Act.set
  | determine => Act.determine
  | error => do Act.fail (.raised (← Act.argWords))
  | stop => do
    Act.say .good "Stopping queue."
    return .stopQueue
  | compileError => do Act.fail (.raised (← Act.argText 0))
  | ifBlock => Act.ifBlock
  | elseBlock => Act.elseBlock
  | repeatBlock => Act.repeatBlock
  | foreach => Act.foreach
  | once => Act.once
  | goto => Act.goto
  | mark => return .proceed
  | tryBlock => Act.tryBlock
  | catchBlock => Act.catchBlock
  | wait => Act.wait
  | function => Act.function
  | call => Act.call
  | run => Act.launch
  | event => Act.event
  | custom respond => Act.custom respond

end CommandScript
