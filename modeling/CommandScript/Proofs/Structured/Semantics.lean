import CommandScript.Engine.Machine

/-! Scripts as trees. A row of statements is done from its first statement to its last; a branch, a loop, a `once` and
    a `try` do the row that is their block. There are no places here and nothing to jump to: what a statement
    raises leaves all rows around it up to the nearest `try`. -/

namespace CommandScript

/-! ### Statements -/

/-- A command as compiled, with its block. -/
structure Statement where
  entry : Entry
  block : Option (List Statement)

/-- Whether something was compiled for the end of the block of an instruction. -/
def Entry.needsEnd (e : Entry) : Bool :=
  e.command.any (·.signature.needsCallback)

mutual

/-- The statements of nodes in a row, when the instructions of a script were compiled to `compiled` from the first
    node on; and what was compiled of the instructions behind the row. -/
def statementsOf : List Node → (compiled : List Entry) → List Statement × List Entry
  | [], left => ([], left)
  | _ :: _, [] => ([], [])
  | ⟨_, block⟩ :: rest, entry :: left =>
    let (block, left) := blockStatements block left
    let left := if block.isSome && entry.needsEnd then left.tail else left
    let (more, left) := statementsOf rest left
    (⟨entry, block⟩ :: more, left)

/-- The statements of a block. -/
def blockStatements : Option (List Node) → (compiled : List Entry) → Option (List Statement) × List Entry
  | none, left => (none, left)
  | some nodes, left =>
    let (row, left) := statementsOf nodes left
    (some row, left)

end

/-! ### Worlds -/

/-- What a script knows and has come to. -/
structure Store where
  slots : Array Value
  vars : Vars
  verbosity : Verbosity
  determinations : List Value

/-- What a frame knows and has come to, wherever it is. -/
def Frame.store (f : Frame) : Store :=
  ⟨f.slots, f.vars, f.verbosity, f.determinations⟩

/-- A frame that is nowhere. -/
def Store.frame (s : Store) (script : Script) : Frame :=
  { script := script, slots := s.slots, vars := s.vars, verbosity := s.verbosity,
    determinations := s.determinations }

/-- Sets the variable in a slot, if there is one. -/
def Store.assign (s : Store) (slot : Option Nat) (v : Value) : Store :=
  match slot with
  | some slot => { s with slots := s.slots.setIfInBounds slot v }
  | none => s

/-- What a statement changes. -/
structure World where
  engine : Engine
  store : Store

/-- An error, and where it was raised. -/
structure Thrown where
  error : ScriptError
  line : Nat
  source : String

/-- The report on an error in a script. -/
def Thrown.trace (t : Thrown) (script : Script) : String :=
  let name :=
    match script.origin with
    | some origin => s!"'{script.name}' (in '{origin}')"
    | none => s!"'{script.name}'"
  "ERROR: \"" ++ t.error.message ++ "\"" ++ (s!"\n    in script {name} at line {t.line}: (" ++ t.source ++ ")")

/-- Something that a statement does. -/
abbrev Interpretation := ExceptT Thrown (StateM World)

/-- Does what a command does, as the statement of `entry`. -/
def attempt (script : Script) (entry : Entry) (a : Act α) : Interpretation α := do
  let w ← get
  let site : Site := ⟨entry, 0, 1, false, false⟩
  let (result, scene) := ((a.run site).run).run ⟨w.engine, w.store.frame script⟩
  set (⟨scene.engine, scene.frame.store⟩ : World)
  match result with
  | .ok a => return a
  | .error f => throw ⟨f.toScriptError, entry.instruction.line, entry.instruction.source⟩

/-- Changes what the script knows. -/
def onStore (change : Store → Store) : Interpretation Unit :=
  modify fun w => { w with store := change w.store }

/-! ### Commands -/

/-- Does a block once for each value of a variable, in order. -/
def rounds (slot : Option Nat) (body : Interpretation Unit) : List Value → Interpretation Unit
  | [] => return
  | v :: rest => do
    onStore (·.assign slot v)
    body
    rounds slot body rest

/-- The numbers from one up to a last one. -/
def countTo (last : Int64) : List Value :=
  (List.range' 1 last.toInt.toNat).map fun k => .integer (Int64.ofNat k)

/-- How a `once` block asks to report a name that is not new. -/
def onceMode : Act OnceMode := do
  if (← Act.argCount) = 2 then
    match OnceMode.read (← Act.argText 1) with
    | .ok mode => return mode
    | .error word => Act.fail (.unknownOnceMode word)
  else return .error

/-- Records the name of a `once` block and says whether it is new. A name that is not is reported. -/
def recordOnce (id : String) (mode : OnceMode) : Act Bool := do
  let (isNew, engine) := (← get).engine.markOnce id
  modify fun s => { s with engine := engine }
  if isNew then Act.say .good s!"Once block '{id}' entered."
  else
    match mode with
    | .error => Act.fail (.onceRepeated id)
    | .warning => Act.say .bad (onceRepeatedMessage id)
    | .quiet => pure ()
  return isNew

/-- Says whether a `once` block is entered: it is if its name has not been seen. -/
def enterOnce : Act Bool := do
  let id := Text.lower (← Act.argText 0)
  let mode ← onceMode
  recordOnce id mode

/-- The end of a block, where its owner reports. -/
def Entry.atEnd (e : Entry) : Entry :=
  { e with instruction := { e.instruction with source := e.instruction.name ++ " (end of block)" } }

/-- Does the statement of `entry`, whose block is `body`. `before` is what the statement before it came to: for a
    branch whether its chain is settled, for a `try` whether it caught an error. The result is what this one comes
    to. -/
def interpretCommand (script : Script) (entry : Entry) (before : Bool) (body : Interpretation Unit) :
    Action → Interpretation Bool
  | .ifBlock => do
    let taken ← attempt script entry (Act.booleanArg 0)
    if taken then body
    return taken
  | .elseBlock => do
    if before then return true
    let taken ← if entry.args.length = 2 then attempt script entry (Act.booleanArg 1) else pure true
    if taken then body
    return taken
  | .repeatBlock => do
    let total ← attempt script entry do Act.expect .integer (← Act.arg 0) Value.asInteger?
    if total ≤ 0 then attempt script entry (Act.say .good "Repeat count is zero, skipping.")
    rounds entry.declares body (countTo total)
    return false
  | .foreach => do
    let items ← attempt script entry (Act.arg 0)
    rounds entry.declares body items.asList
    return false
  | .once => do
    let isNew ← attempt script entry enterOnce
    if isNew then body
    return false
  | .tryBlock =>
    tryCatch
      (do
        body
        return false)
      fun t => do
        onStore fun s => { s with vars := setKey "stack_trace" (.text (t.trace script)) s.vars }
        attempt script entry.atEnd (Act.say .good "Error caught by try block.")
        return true
  | .catchBlock => do
    if before then body
    return false
  | action => do
    let _ ← attempt script entry action.perform
    return false

/-- The error of a command that is not known. -/
def Entry.unknown (e : Entry) : Thrown :=
  ⟨.runtime (.unknownCommand e.instruction.name), e.instruction.line, e.instruction.source⟩

/-- Does the statement of `entry`, if its command is known. -/
def interpretStatement (script : Script) (entry : Entry) (before : Bool) (body : Interpretation Unit) :
    Interpretation Bool :=
  match entry.command with
  | none => throw entry.unknown
  | some c => interpretCommand script entry before body c.action

mutual

/-- Does the statements of a row. `before` is what the statement before the row came to. -/
def interpretRow (script : Script) (before : Bool) : List Statement → Interpretation Unit
  | [] => return
  | ⟨entry, block⟩ :: rest => do
    let outcome ← interpretStatement script entry before (interpretBlock script block)
    interpretRow script outcome rest

/-- Does the statements of a block. -/
def interpretBlock (script : Script) : Option (List Statement) → Interpretation Unit
  | none => return
  | some row => interpretRow script false row

end

/-! ### Scripts -/

/-- Reports an error that no `try` caught. If the output breaks off, that is reported as well. Says whether it broke off
    then, too. -/
def reportUncaught (script : Script) (t : Thrown) (w : World) : Option Failure × Engine :=
  match (Engine.emit false w.store.verbosity (t.trace script) .bad).run w.engine with
  | (.ok _, e) => (none, e)
  | (.error f, e) =>
    let report := s!"Error while handling error '{t.error.message}': " ++ f.text
    match (Engine.emit false .minimal report .bad).run e with
    | (.ok _, e) => (none, e)
    | (.error f, e) => (some f, e)

/-- Does the statements of a script, with initial variables. The script is given up where reporting its error breaks
    off. -/
def interpret (e : Engine) (script : Script) (row : List Statement) (vars : Vars) : RunResult × Engine :=
  let world : World := ⟨{ e with nextId := e.nextId + 1 }, (Frame.start script vars).store⟩
  let (result, world) := ((interpretRow script false row).run).run world
  let (errored, failure, engine) :=
    match result with
    | .ok () => (false, none, world.engine)
    | .error t => (true, reportUncaught script t world)
  match failure with
  | some f => ({ brokeOff := some f }, engine)
  | none =>
    ({ determinations := world.store.determinations, bindings := (world.store.frame script).bindings,
       errored := errored }, engine.release (.queue e.nextId))

end CommandScript
