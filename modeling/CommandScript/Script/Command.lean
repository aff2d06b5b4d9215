import CommandScript.Script.Instruction

/-! Commands: how they are written, what they check before a script runs, and which variables they declare. What
    they do is said where scripts run. -/

namespace CommandScript

/-- Whether a command owns a block. -/
inductive BlockRule where
  | forbidden
  | optional
  | required
  deriving DecidableEq

/-- How a command is written. -/
structure Signature where
  name : String
  /-- The arguments, as `help` shows them. -/
  usage : String
  description : String
  minArgs : Nat := 0
  maxArgs : Option Nat := some 0
  block : BlockRule := .forbidden
  /-- Whether the queue may wait for the command. -/
  waitable : Bool := false
  /-- Whether an error in the block ends there. -/
  errorBoundary : Bool := false
  /-- Whether an instruction stands for the end of the block. -/
  needsCallback : Bool := false
  /-- The commands that this one has to follow directly, if it has to follow any. -/
  follows : Option (List String) := none

/-- What a command of the host asks for, once it has seen its arguments. -/
inductive Reply where
  /-- To go on. -/
  | proceed
  /-- To wait until the host releases the gate of a key. -/
  | hold (key : String)
  /-- To end the script at hand. -/
  | completeFrame
  /-- To break off with a text. -/
  | breakOff (text : String)
  /-- To report a fault of its own. -/
  | fault (text : String)

/-- What a command does. -/
inductive Action where
  | echo
  | help
  | noop
  | debug
  | define
  | set
  | determine
  | error
  | stop
  | compileError
  | ifBlock
  | elseBlock
  | repeatBlock
  | foreach
  | once
  | goto
  | mark
  | tryBlock
  | catchBlock
  | wait
  | function
  | call
  | run
  | event
  /-- A command of the host. -/
  | custom (respond : List Value → Reply)

/-- A command. -/
structure Command where
  signature : Signature
  action : Action

/-- The commands an engine knows. No two have the same name. -/
structure CommandRegistry where
  commands : List Command

namespace CommandRegistry

/-- The command of a name. -/
def get? (r : CommandRegistry) (name : String) : Option Command :=
  r.commands.find? fun c => Text.asciiLower c.signature.name == name

/-- Adds a command, in place of one of the same name. -/
def register (r : CommandRegistry) (c : Command) : CommandRegistry :=
  let name := Text.asciiLower c.signature.name
  ⟨r.commands.filter (fun d => Text.asciiLower d.signature.name != name) ++ [c]⟩

/-- The names of all commands, in order. -/
def names (r : CommandRegistry) : List String :=
  (r.commands.map fun c => Text.asciiLower c.signature.name).mergeSort (· ≤ ·)

end CommandRegistry

/-! ### Names in arguments -/

/-- The name that the argument at a position writes, in lower case. It has to be literal and not blank. -/
def plainName (i : Instruction) (position : Nat) : Except Rejection String :=
  match i.args[position]?.bind Argument.literal? with
  | none => .error (.plainNameNeeded i.name (position + 1))
  | some text =>
    let name := Text.lower (Text.trim text)
    if name.isEmpty then .error (.plainNameNeeded i.name (position + 1)) else .ok name

/-- The name that `--as` gives the variable of a loop, if it is there. It has to be literal. -/
def loopVariable (i : Instruction) : Except Rejection (Option String) :=
  match i.named.lookup "as" with
  | none => .ok none
  | some arg =>
    match arg.literal? with
    | some text => .ok (some (Text.lower (Text.trim text)))
    | none => .error (.plainVariableNeeded i.name)

/-- The mode that a text gives `set`. -/
def SetMode.read? (op : String) : Option SetMode :=
  match op with
  | "=" => some assign
  | "+=" => some add
  | "-=" => some subtract
  | "*=" => some multiply
  | "/=" => some divide
  | _ => none

/-- What `once` does when its name has been seen. -/
inductive OnceMode where
  | error
  | warning
  | quiet
  deriving DecidableEq

/-- The mode that a text gives `once`, up to blanks around it and ASCII case; otherwise the word that is none. -/
def OnceMode.read (text : String) : Except String OnceMode :=
  let word := Text.asciiLower (Text.trim text)
  if word = "error" then .ok error
  else if word = "warning" then .ok warning
  else if word = "quiet" then .ok quiet
  else .error word

/-! ### Checks -/

/-- Accepts what is no error, and turns an error into a rejection. -/
def Rejection.unless (reject : ε → Rejection) : Except ε α → Except Rejection Unit
  | .ok _ => .ok ()
  | .error e => .error (reject e)

/-- What a command checks of its own, beyond the number of arguments and the block. -/
def Action.check (a : Action) (i : Instruction) : Except Rejection Unit :=
  match a with
  | debug =>
    match i.args.head?.bind Argument.literal? with
    | some text => Rejection.unless .unknownVerbosity (Verbosity.read text)
    | none => .ok ()
  | define => do
    let name ← plainName i 0
    if name.toList.any fun c => c = '.' || c = '[' || c = ']' then throw (.badVariableName name)
  | set => do
    let _ ← plainName i 0
    let op := Text.trim ((i.args[1]?.bind Argument.literal?).getD "")
    if (SetMode.read? op).isNone then throw (.unknownSetter op)
  | elseBlock =>
    let isIf := (i.args.head?.bind Argument.literal?).any fun w => Text.eqIgnoreAsciiCase w "if"
    if i.args.length = 0 ∨ (i.args.length = 2 ∧ isIf) then .ok () else .error .elseUsage
  | repeatBlock => Rejection.unless id (loopVariable i)
  | foreach => Rejection.unless id (loopVariable i)
  | once =>
    match i.args[1]?.bind Argument.literal? with
    | some text => Rejection.unless .unknownOnceMode (OnceMode.read text)
    | none => .ok ()
  | mark => Rejection.unless id (plainName i 0)
  | function => Rejection.unless id (plainName i 0)
  | event => do
    let word ← plainName i 0
    let _ ← plainName i 1
    let _ ← plainName i 2
    if word = "add" then
      if i.block.isNone then throw .eventAddNeedsBlock
    else if word = "remove" then
      if i.block.isSome ∨ i.args.length ≠ 3 then throw .eventRemoveUsage
    else throw (.unknownEventAction word)
  | _ => .ok ()

/-- What a command accepts: enough and not too many arguments, a block where it belongs, and what it checks of
    its own. -/
def Command.check (c : Command) (i : Instruction) : Except Rejection Unit := do
  let s := c.signature
  if i.args.length < s.minArgs then throw (.tooFewArguments s.name s.usage)
  if s.maxArgs.any (· < i.args.length) then throw (.tooManyArguments s.name s.usage)
  if s.block = .required ∧ i.block.isNone then throw (.blockRequired s.name)
  if s.block = .forbidden ∧ i.block.isSome then throw (.blockForbidden s.name)
  if i.waitFor ∧ !s.waitable then throw (.notWaitable s.name)
  c.action.check i

/-- The variable that an instruction declares. -/
structure Declaration where
  name : String
  typeName : String
  deriving DecidableEq

/-- The variable that an instruction declares, if any. `typeNames` are the types of its arguments. -/
def Action.declares (a : Action) (i : Instruction) (typeNames : List String) :
    Except Rejection (Option Declaration) :=
  match a with
  | define => do
    let name ← plainName i 0
    return some ⟨name, typeNames[1]?.getD "text"⟩
  | repeatBlock => do return (← loopVariable i).map fun name => ⟨name, "integer"⟩
  | foreach => do return (← loopVariable i).map fun name => ⟨name, "dynamic"⟩
  | _ => .ok none

/-! ### The commands of every engine -/

/-- The name of the command that stands in for a script that does not compile. -/
def compileErrorName : String := "internal_compile_error"

/-- The commands that come with every engine. -/
def CommandRegistry.builtin : CommandRegistry where
  commands :=
    [⟨{ name := "echo", usage := "<text>", description := "Shows text.", minArgs := 1, maxArgs := none }, .echo⟩,
     ⟨{ name := "help", usage := "[<command>]",
        description := "Shows how to use a command, or lists commands.", maxArgs := some 1 }, .help⟩,
     ⟨{ name := "noop", usage := "[<anything>...]", description := "Does nothing.", maxArgs := none }, .noop⟩,
     ⟨{ name := "debug", usage := "full|minimal|none",
        description := "Sets how much the current script reports.", minArgs := 1, maxArgs := some 1 }, .debug⟩,
     ⟨{ name := "define", usage := "<name> <value>",
        description := "Declares a local variable, typed after its value.",
        minArgs := 2, maxArgs := some 2 }, .define⟩,
     ⟨{ name := "set", usage := "<name> =|+=|-=|*=|/= <value>",
        description := "Changes a declared local variable.", minArgs := 3, maxArgs := some 3 }, .set⟩,
     ⟨{ name := "determine", usage := "<value>",
        description := "Adds an outcome to the current script's determinations.",
        minArgs := 1, maxArgs := some 1 }, .determine⟩,
     ⟨{ name := "error", usage := "<message>",
        description := "Raises an error, caught by an enclosing try block.",
        minArgs := 1, maxArgs := none }, .error⟩,
     ⟨{ name := "stop", usage := "", description := "Stops the current queue." }, .stop⟩,
     ⟨{ name := compileErrorName, usage := "<report>", description := "Reports a script compile failure.",
        minArgs := 1, maxArgs := some 1 }, .compileError⟩,
     ⟨{ name := "if", usage := "<condition>", description := "Runs its block when the condition is true.",
        minArgs := 1, maxArgs := some 1, block := .required }, .ifBlock⟩,
     ⟨{ name := "else", usage := "[if <condition>]",
        description := "Runs its block when no earlier branch of the if chain ran.",
        maxArgs := some 2, block := .required, follows := some ["if", "else"] }, .elseBlock⟩,
     ⟨{ name := "repeat", usage := "<count> [--as=<variable>]",
        description := "Runs its block a number of times. The variable counts from 1.",
        minArgs := 1, maxArgs := some 1, block := .required, needsCallback := true }, .repeatBlock⟩,
     ⟨{ name := "foreach", usage := "<list> [--as=<variable>]",
        description := "Runs its block once per list item.",
        minArgs := 1, maxArgs := some 1, block := .required, needsCallback := true }, .foreach⟩,
     ⟨{ name := "once", usage := "<id> [error|warning|quiet]",
        description := "Runs its block only the first time the id is seen.",
        minArgs := 1, maxArgs := some 2, block := .required }, .once⟩,
     ⟨{ name := "goto", usage := "<label>",
        description := "Jumps forward to a mark. Everything up to the mark is discarded for good.",
        minArgs := 1, maxArgs := some 1 }, .goto⟩,
     ⟨{ name := "mark", usage := "<label>", description := "A place for goto to jump to.",
        minArgs := 1, maxArgs := some 1 }, .mark⟩,
     ⟨{ name := "try", usage := "",
        description := "Runs its block; an error inside stops the block instead of the queue.",
        block := .required, errorBoundary := true, needsCallback := true }, .tryBlock⟩,
     ⟨{ name := "catch", usage := "",
        description := "Runs its block when the try block before it caught an error. The trace is in " ++
          "dvar[stack_trace].",
        block := .required, follows := some ["try"] }, .catchBlock⟩,
     ⟨{ name := "wait", usage := "<seconds>",
        description := "Pauses the queue. Ignored when the script runs synchronously.",
        minArgs := 1, maxArgs := some 1 }, .wait⟩,
     ⟨{ name := "function", usage := "<name>",
        description := "Registers its block as a function for call and run. Arguments arrive in dvar[...].",
        minArgs := 1, maxArgs := some 1, block := .required }, .function⟩,
     ⟨{ name := "call", usage := "<function> [--<name>=<value>...]",
        description := "Runs a function or script file inside the current queue, then continues.",
        minArgs := 1, maxArgs := some 1 }, .call⟩,
     ⟨{ name := "run", usage := "<function> [--<name>=<value>...]",
        description := "Starts a function or script file on a new queue. With '&', waits for it to finish.",
        minArgs := 1, maxArgs := some 1, waitable := true }, .run⟩,
     ⟨{ name := "event", usage := "add <event> <handler> [<priority>] \x7b ... \x7d | remove <event> <handler>",
        description := "Adds or removes a script event handler.",
        minArgs := 3, maxArgs := some 4, block := .optional }, .event⟩]

end CommandScript
