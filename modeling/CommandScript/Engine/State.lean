import CommandScript.Event

/-! The state of an engine: its scripts, functions and handlers, the queues that run scripts, and the messages sent.
    A queue is a stack of frames, one for each script that another has called. -/

namespace CommandScript

/-! ### Messages -/

/-- A message of a script. -/
structure Message where
  /-- Whether it went to the queue's own output and not to that of the engine. -/
  own : Bool
  kind : MessageKind
  text : String
  deriving DecidableEq

/-- The text that an output breaks off with. -/
def outputFailure : String := "output failed"

/-- The messages sent so far. The output may break off after any of them, by their numbers. -/
structure Outbox where
  messages : Array Message := #[]
  breaksAt : Nat → Bool := fun _ => false

/-- An output that breaks off once, if at all. -/
instance breakingOnce : Coe (Option Nat) (Nat → Bool) := ⟨fun once number => once = some number⟩

/-- Sends a message, and says whether the output breaks off after it. -/
def Outbox.post (o : Outbox) (m : Message) : Bool × Outbox :=
  (o.breaksAt (o.messages.size + 1), { o with messages := o.messages.push m })

/-! ### Frames -/

/-- How far a loop has come. -/
inductive LoopState where
  | count (current total : Int64)
  | items (index : Nat) (items : Array Value)

/-- A script that runs. -/
structure Frame where
  script : Script
  /-- The place of the next instruction. -/
  pc : Nat := 0
  /-- Instructions before this place are discarded for good. -/
  floor : Nat := 0
  slots : Array Value
  /-- The variables that have no slot. -/
  vars : Vars
  verbosity : Verbosity
  determinations : List Value := []
  /-- The loops that run, by the place of their owner. -/
  loops : List (Nat × LoopState) := []
  /-- Which branches and caught blocks were taken, by the place of their owner. -/
  branches : List (Nat × Bool) := []

/-- The pairs without a key. -/
def eraseKey [BEq κ] (key : κ) (pairs : List (κ × α)) : List (κ × α) :=
  pairs.filter fun (k, _) => !(k == key)

namespace Frame

/-- The slot that takes an initial variable: that of a predefined variable of its name. The variable that the first
    instruction declares itself is none. -/
def initialSlot? (script : Script) (name : String) : Option Nat :=
  match script.code.entries[0]? with
  | none => none
  | some e => (e.names.lookup name).filter fun slot => e.declares ≠ some slot

/-- Gives a frame an initial variable, in its slot or among the variables without one. -/
def bind (f : Frame) (binding : String × Value) : Frame :=
  let (name, value) := (Text.lower binding.1, binding.2)
  match initialSlot? f.script name with
  | some slot => { f with slots := f.slots.setIfInBounds slot value }
  | none => { f with vars := setKey name value f.vars }

/-- A script at its beginning, with initial variables. -/
def start (script : Script) (vars : Vars) : Frame :=
  let empty : Frame :=
    { script := script, slots := Array.replicate script.code.slots.size .null, vars := [],
      verbosity := script.verbosity }
  vars.foldl bind empty

/-- The variables outside all blocks, at the end of the script. -/
def bindings (f : Frame) : Vars :=
  f.script.code.finalNames.map fun (name, slot) => (name, f.slots[slot]?.getD .null)

/-- The instruction that runs. -/
def current? (f : Frame) : Option Entry :=
  if f.pc = 0 then none else f.script.code.entries[f.pc - 1]?

/-- Goes on at a place, unless it is discarded. -/
def jump? (f : Frame) (target : Nat) : Option Frame :=
  if target < f.floor then none else some { f with pc := target }

/-- Sets the outcome of a branch. -/
def setBranch (f : Frame) (owner : Nat) (taken : Bool) : Frame :=
  { f with branches := setKey owner taken f.branches }

/-- Whether a branch was taken. -/
def branchTaken (f : Frame) (owner : Nat) : Bool :=
  (f.branches.lookup owner).getD false

/-- Sets how far a loop has come. -/
def setLoop (f : Frame) (owner : Nat) (state : LoopState) : Frame :=
  { f with loops := setKey owner state f.loops }

/-- Ends a loop. -/
def endLoop (f : Frame) (owner : Nat) : Frame :=
  { f with loops := eraseKey owner f.loops }

/-- Sets the variable in a slot. -/
def setSlot (f : Frame) (slot : Nat) (value : Value) : Frame :=
  { f with slots := f.slots.setIfInBounds slot value }

/-- Sets a variable without a slot. -/
def setVar (f : Frame) (name : String) (value : Value) : Frame :=
  { f with vars := setKey name value f.vars }

end Frame

/-! ### Queues -/

/-- Something that a queue may wait for. -/
inductive Gate where
  /-- The end of a queue. -/
  | queue (id : Nat)
  /-- A key that the host releases. -/
  | host (key : String)
  deriving DecidableEq

/-- What a queue leaves. -/
structure RunResult where
  /-- What the outermost script determined. -/
  determinations : List Value := []
  /-- The variables of the outermost script. -/
  bindings : Vars := []
  /-- Whether the queue ended by an error. -/
  errored : Bool := false
  /-- What the queue was given up for, if the report of an error broke off. Such a queue has not ended. -/
  brokeOff : Option Failure := none

/-- A stack of frames, the innermost first, and what keeps it from running. -/
structure Queue where
  id : Nat
  frames : List Frame
  /-- The seconds left to wait. -/
  wait : Float := 0
  waitingOn : Option Gate := none
  running : Bool := true
  /-- Whether the queue may wait at all. -/
  delayable : Bool
  /-- Whether the queue has an output of its own. -/
  ownOutput : Bool := false
  result : RunResult := {}

namespace Queue

/-- Ends a queue. Its result keeps what the outermost frame has so far. -/
def stop (q : Queue) : Queue :=
  let result :=
    match q.frames.getLast? with
    | some f => { q.result with determinations := f.determinations, bindings := f.bindings }
    | none => q.result
  { q with frames := [], running := false, result := result }

/-- Ends the innermost frame. The frame below gets its determinations and its variables; without one they are the
    result of the queue. -/
def completeFrame (q : Queue) : Queue :=
  match q.frames with
  | [] => q
  | [f] => { q with
      frames := []
      result := { q.result with determinations := f.determinations, bindings := f.bindings } }
  | f :: parent :: rest =>
    let parent := parent.setVar "determinations" (.list f.determinations)
    { q with frames := f.bindings.foldl (fun p (name, v) => p.setVar name v) parent :: rest }

/-- A queue described. -/
def describe (q : Queue) : String :=
  s!"CommandQueue \x7b id: {q.id}, frames: {q.frames.length}, wait: " ++ Decimal.floatTextMarked q.wait ++
    ", running: " ++ Value.booleanText q.running ++ " \x7d"

end Queue

/-! ### Engines -/

/-- Finds the text of a file: nothing if there is no such file, or what is said when it cannot be read. -/
abbrev Loader := String → Except String (Option String)

/-- An engine. -/
structure Engine where
  registries : Registries
  loader : Option Loader := none
  /-- The extension of script files, without a point. -/
  extension : String := "cfg"
  /-- How much scripts report that do not ask for it. -/
  verbosity : Verbosity := default
  /-- The scripts of files, by name in lower case. -/
  scripts : List (String × Script) := []
  functions : List (String × Script) := []
  /-- The names of the `once` blocks that were entered. -/
  once : List String := []
  /-- The handlers of events, in the order they run. -/
  events : List (String × List Handler) := []
  /-- The queues that have not ended. -/
  queues : List Queue := []
  /-- The scripts that run when the host asks for it, by priority. -/
  autorun : List (Int × Script) := []
  nextId : Nat := 1
  outbox : Outbox := {}
  /-- The gates that are open for good. -/
  released : List Gate := []

namespace Engine

/-- Opens a gate for good. -/
def release (e : Engine) (g : Gate) : Engine :=
  { e with released := g :: e.released }

/-- Whether a gate is open. -/
def isReleased (e : Engine) (g : Gate) : Bool :=
  e.released.contains g

/-- Sets the extension of script files, without the points before it. -/
def setExtension (e : Engine) (extension : String) : Engine :=
  { e with extension := String.ofList (extension.toList.dropWhile (· == '.')) }

/-- An engine described. -/
def describe (e : Engine) : String :=
  s!"Engine \x7b scripts: {e.scripts.length}, functions: {e.functions.length}, " ++
    s!"events: {e.events.length}, queues: {e.queues.length} \x7d"

/-- A function by name. -/
def function? (e : Engine) (name : String) : Option Script :=
  e.functions.lookup (Text.lower name)

/-- Registers a function. -/
def registerFunction (e : Engine) (name : String) (script : Script) : Engine :=
  { e with functions := setKey (Text.lower name) script e.functions }

/-- Records the name of a `once` block, and says whether it is new. -/
def markOnce (e : Engine) (id : String) : Bool × Engine :=
  let id := Text.lower id
  if e.once.contains id then (false, e) else (true, { e with once := id :: e.once })

/-- Adds an item to a list in ascending order of priority, after those of its priority. -/
def insertByPriority (priority : α → Int) (item : α) (items : List α) : List α :=
  items.takeWhile (fun x => priority x ≤ priority item) ++
    item :: items.dropWhile (fun x => priority x ≤ priority item)

/-- The handlers of an event. -/
def handlers (e : Engine) (event : String) : List Handler :=
  (e.events.lookup (Text.lower event)).getD []

/-- Adds a handler to an event, in place of one of its name. -/
def registerHandler (e : Engine) (event : String) (h : Handler) : Engine :=
  let others := (e.handlers event).filter (·.name != h.name)
  { e with events := setKey (Text.lower event) (insertByPriority Handler.priority h others) e.events }

/-- Removes a handler of an event, and says whether there was one. -/
def removeHandler (e : Engine) (event name : String) : Bool × Engine :=
  let name := Text.lower name
  match e.events.lookup (Text.lower event) with
  | none => (false, e)
  | some hs =>
    let left := hs.filter (·.name != name)
    (left.length != hs.length, { e with events := setKey (Text.lower event) left e.events })

/-- Forgets scripts, functions, `once` blocks, scheduled scripts and the handlers that scripts added. -/
def reload (e : Engine) : Engine :=
  let events := e.events.map fun (event, hs) => (event, hs.filter fun h => !h.fromScript)
  { e with
    once := [], functions := [], scripts := [], autorun := [],
    events := events.filter fun (_, hs) => !hs.isEmpty }

/-- Schedules a script with a header `autorun` that is a priority. Says whether it has one. -/
def schedule (e : Engine) (script : Script) : Bool × Engine :=
  match (script.header? "autorun").bind (Decimal.readWhole? minPriority maxPriority) with
  | none => (false, e)
  | some priority => (true, { e with autorun := insertByPriority Prod.fst (priority, script) e.autorun })

/-- Ends all queues. -/
def stopAll (e : Engine) : Engine :=
  { e.queues.foldl (fun e q => e.release (.queue q.id)) e with queues := [] }

end Engine

end CommandScript
