import CommandScript.Engine.Perform

/-! The machine that runs queues. It holds the queue that runs and those that wait, inside a command, for a queue
    they started to come to rest. A step runs one instruction, or leaves the queue as it is when something keeps it
    from running. A queue whose report of an error breaks off is given up. -/

namespace CommandScript

/-- A queue that has started another and goes on when that comes to rest. -/
structure Caller where
  queue : Queue
  /-- Whether it waits for the other to end. -/
  waits : Bool

/-- A queue at work in an engine. -/
structure Machine where
  engine : Engine
  running : Queue
  /-- The queues that started the one at work, the innermost first. -/
  callers : List Caller := []

namespace Machine

/-- Ends the queue at work. -/
def stop (m : Machine) : Machine :=
  { m with engine := m.engine.release (.queue m.running.id), running := m.running.stop }

/-- Sends a message of the queue at work, and says whether the output broke off. -/
def emit (m : Machine) (verbosity : Verbosity) (text : String) : Option Failure × Machine :=
  let (result, engine) := (Engine.emit m.running.ownOutput verbosity text .bad).run m.engine
  let failure :=
    match result with
    | .ok _ => none
    | .error f => some f
  (failure, { m with engine := engine })

/-! ### Errors -/

/-- Where an error goes in a frame: the next place at or after `pc` that ends a block with an error boundary whose
    owner was passed. -/
def boundary? (f : Frame) : Option Nat :=
  let found := (f.script.code.entries.toList.drop f.pc).findIdx? fun e =>
    e.command.any (·.signature.errorBoundary) && e.instruction.callbackOf.any (· < f.pc)
  found.map (f.pc + ·)

/-- The line of a trace for the instruction that runs in a frame. -/
def traceLine (f : Frame) : String :=
  match f.current? with
  | none => ""
  | some e =>
    let script :=
      match f.script.origin with
      | some origin => s!"'{f.script.name}' (in '{origin}')"
      | none => s!"'{f.script.name}'"
    s!"\n    in script {script} at line {e.instruction.line}: (" ++ e.instruction.source ++ ")"

/-- An error with the instructions that led to it, the innermost first. -/
def trace (frames : List Frame) (e : ScriptError) : String :=
  frames.foldl (fun text f => text ++ traceLine f) ("ERROR: \"" ++ e.message ++ "\"")

/-- The frame that catches an error, at its boundary. -/
def caughtAt (f : Frame) (target : Nat) (trace : String) : Frame :=
  let f := { f with pc := target }
  let f :=
    match (f.script.code.entries[target]?).bind (·.instruction.callbackOf) with
    | some owner => f.setBranch owner true
    | none => f
  f.setVar "stack_trace" (.text trace)

/-- The frames after an error is caught, if one of them catches it: the innermost that does, with those below it. -/
def catchError (trace : String) : List Frame → Option (List Frame)
  | [] => none
  | f :: rest =>
    match boundary? f with
    | some target => some (caughtAt f target trace :: rest)
    | none => catchError trace rest

/-- Ends the queue at work by an error. -/
def stopWithError (m : Machine) : Machine :=
  let m := { m with running := { m.running with result := { m.running.result with errored := true } } }
  m.stop

/-- Gives up the queue at work, as it stands. -/
def breakOff (m : Machine) (f : Failure) : Machine :=
  { m with running := { m.running with result := { m.running.result with brokeOff := some f } } }

/-- Handles an error of the queue at work: it goes on where the error is caught, or the trace is sent and the queue
    ends. If sending breaks off, that is reported, and the queue ends as well. If the report breaks off, too, the queue
    is given up. -/
def handle (m : Machine) (e : ScriptError) : Machine :=
  let text := trace m.running.frames e
  match catchError text m.running.frames with
  | some frames => { m with running := { m.running with frames := frames } }
  | none =>
    let verbosity := (m.running.frames.head?.map (·.verbosity)).getD default
    match m.emit verbosity text with
    | (none, m) => m.stopWithError
    | (some f, m) =>
      let report := s!"Error while handling error '{e.message}': " ++ f.text
      match m.emit .minimal report with
      | (none, m) => m.stopWithError
      | (some f, m) => m.breakOff f

/-! ### Steps -/

/-- Goes on as a command says. -/
def follow (m : Machine) (flow : Flow) : Machine :=
  match flow with
  | .proceed => m
  | .pause seconds =>
    if m.running.delayable && 0 < seconds then { m with running := { m.running with wait := seconds } } else m
  | .await gate =>
    if m.running.delayable then { m with running := { m.running with waitingOn := some gate } } else m
  | .completeFrame => { m with running := m.running.completeFrame }
  | .stopQueue => m.stop
  | .enter script vars =>
    { m with running := { m.running with frames := Frame.start script vars :: m.running.frames } }
  | .launch script vars waits =>
    let child : Queue :=
      { id := m.engine.nextId, frames := [Frame.start script vars], delayable := true,
        ownOutput := m.running.ownOutput }
    { engine := { m.engine with nextId := m.engine.nextId + 1 }, running := child,
      callers := ⟨m.running, waits⟩ :: m.callers }

/-- Runs the instruction at the innermost frame `f`, which has one. -/
def execute (m : Machine) (f : Frame) (below : List Frame) (entry : Entry) : Machine :=
  let index := f.pc
  let f := { f with pc := index + 1 }
  match entry.command with
  | none =>
    let m := { m with running := { m.running with frames := f :: below } }
    m.handle (.runtime (.unknownCommand entry.instruction.name))
  | some command =>
    let site : Site := ⟨entry, index, below.length + 1, m.running.delayable, m.running.ownOutput⟩
    let (result, scene) := ((command.action.perform.run site).run).run ⟨m.engine, f⟩
    let m := { m with engine := scene.engine, running := { m.running with frames := scene.frame :: below } }
    match result with
    | .ok flow => m.follow flow
    | .error failure => m.handle failure.toScriptError

/-- What a step comes to. -/
inductive Outcome where
  | next (m : Machine)
  /-- No queue is at work any more. -/
  | rest (engine : Engine) (queue : Queue)

/-- Leaves the queue at work. The queue that started it goes on, and the one left is active if it has not ended. If the
    one left is given up, this is an error of the instruction that started it. -/
def yield (m : Machine) : Outcome :=
  match m.callers with
  | [] => .rest m.engine m.running
  | c :: callers =>
    match m.running.result.brokeOff with
    | some f => .next (handle ⟨m.engine, c.queue, callers⟩ f.toScriptError)
    | none =>
      if m.running.running then
        let engine := { m.engine with queues := m.engine.queues ++ [m.running] }
        let waitingOn := if c.waits && c.queue.delayable then some (.queue m.running.id) else c.queue.waitingOn
        .next ⟨engine, { c.queue with waitingOn := waitingOn }, callers⟩
      else .next ⟨m.engine, c.queue, callers⟩

/-- One step. -/
def step (m : Machine) : Outcome :=
  let q := m.running
  if !q.running || q.result.brokeOff.isSome then m.yield
  else if q.waitingOn.any fun g => !m.engine.isReleased g then m.yield
  else
    let q := { q with waitingOn := none }
    let m := { m with running := q }
    if 0 < q.wait then m.yield
    else
      match q.frames with
      | [] => .next m.stop
      | f :: below =>
        match f.script.code.entries[f.pc]? with
        | none => .next { m with running := q.completeFrame }
        | some entry => .next (m.execute f below entry)

/-- Runs until no queue is at work, for at most `steps` steps. -/
def run (m : Machine) : (steps : Nat) → Option (Engine × Queue)
  | 0 => none
  | steps + 1 =>
    match m.step with
    | .next m => m.run steps
    | .rest engine queue => some (engine, queue)

end Machine

end CommandScript
