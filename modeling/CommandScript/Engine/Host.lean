import CommandScript.Engine.Machine

/-! What a host does with an engine. Running a script may take any number of steps, so everything that runs one has a
    limit on the steps of each run, and gives nothing when the limit is reached. -/

namespace CommandScript.Engine

/-- A new queue for a script. -/
def newQueue (e : Engine) (script : Script) (vars : Vars) (delayable ownOutput : Bool) : Queue × Engine :=
  ({ id := e.nextId, frames := [Frame.start script vars], delayable := delayable, ownOutput := ownOutput },
    { e with nextId := e.nextId + 1 })

/-- Runs a queue until it ends or waits. -/
def runQueue? (steps : Nat) (e : Engine) (q : Queue) : Option (Engine × Queue) :=
  Machine.run ⟨e, q, []⟩ steps

/-- Runs a script to its end without any waiting. -/
def execute? (steps : Nat) (e : Engine) (script : Script) (vars : Vars) : Option (RunResult × Engine) := do
  let (q, e) := e.newQueue script vars false false
  let (e, q) ← runQueue? steps e q
  return (q.result, e)

/-- Makes a queue active, if it has neither ended nor been given up. -/
def keep (e : Engine) (q : Queue) : Engine :=
  if q.running && q.result.brokeOff.isNone then { e with queues := e.queues ++ [q] } else e

/-- Runs a script on a queue of its own. -/
def startQueue? (steps : Nat) (e : Engine) (script : Script) (vars : Vars) (ownOutput : Bool) :
    Option (Queue × Engine) := do
  let (q, e) := e.newQueue script vars true ownOutput
  let (e, q) ← runQueue? steps e q
  return (q, e.keep q)

/-- Runs a script on a queue of its own, which is active afterwards if it has not ended. Gives the number of the
    queue. -/
def start? (steps : Nat) (e : Engine) (script : Script) (vars : Vars) (ownOutput : Bool) : Option (Nat × Engine) :=
  (e.startQueue? steps script vars ownOutput).map fun (q, e) => (q.id, e)

/-- Lets some seconds pass for a queue. Without a wait, or at the end of it, it runs on. -/
def tickQueue? (steps : Nat) (delta : Float) (e : Engine) (q : Queue) : Option (Engine × Queue) :=
  if !q.running then some (e, q)
  else if 0 < q.wait then
    let left := q.wait - delta
    if 0 < left then some (e, { q with wait := left }) else runQueue? steps e { q with wait := 0 }
  else runQueue? steps e q

/-- Lets some seconds pass for several queues, in order. Gives those that have not ended, or the failure for which one
    of them is given up: then the queues behind it do not run. -/
def tickQueues? (steps : Nat) (delta : Float) : Engine → List Queue → Option (Engine × Except Failure (List Queue))
  | e, [] => some (e, .ok [])
  | e, q :: rest => do
    let (e, q) ← tickQueue? steps delta e q
    match q.result.brokeOff with
    | some f => return (e, .error f)
    | none =>
      let (e, left) ← tickQueues? steps delta e rest
      return (e, left.map fun left => if q.running then q :: left else left)

/-- Lets some seconds pass for all active queues. Queues that start meanwhile come after them. If one of them is given
    up, all of them are lost. -/
def tick? (steps : Nat) (delta : Float) (e : Engine) : Option Engine := do
  let (e, left) ← tickQueues? steps delta { e with queues := [] } e.queues
  match left with
  | .ok left => return { e with queues := left ++ e.queues }
  | .error _ => return e

/-- Starts several scripts, each on a queue of its own, up to one that is given up. -/
def startAll? (steps : Nat) : Engine → List Script → Option Engine
  | e, [] => some e
  | e, s :: rest => do
    let (q, e) ← e.startQueue? steps s [] false
    if q.result.brokeOff.isSome then return e
    startAll? steps e rest

/-- Starts all scheduled scripts, those of lower priority first. -/
def startScheduled? (steps : Nat) (e : Engine) : Option Engine :=
  startAll? steps e (e.autorun.map (·.2))

/-- Applies what a handler determined to an event. What is no determination is reported. -/
def applyDeterminations (event : Event) : List Value → EngineM Event
  | [] => return event
  | value :: rest =>
    match event.determine value with
    | .ok event => applyDeterminations event rest
    | .error text => do
      output (Determination.unknownMessage text) .bad
      applyDeterminations event rest

/-- The next handler of an event that has not run. -/
def nextHandler? (e : Engine) (event : Event) (done : List String) : Option Handler :=
  ((e.events.lookup event.name).getD []).find? fun h => !done.contains h.name

/-- Runs the handlers of an event that are left, for at most `rounds` of them. They may change the handlers of the
    event; each name runs at most once. Fails where one is given up, or the report on what it determined breaks off. -/
def dispatchFrom? (steps : Nat) (e : Engine) (event : Event) (done : List String) :
    (rounds : Nat) → Option (Except Failure Event × Engine)
  | 0 => none
  | rounds + 1 =>
    match e.nextHandler? event done with
    | none => some (.ok event, e)
    | some h => do
      let (result, e) ← e.execute? steps h.script event.vars
      match result.brokeOff with
      | some f => return (.error f, e)
      | none =>
        match (applyDeterminations event result.determinations).run e with
        | (.ok event, e) => dispatchFrom? steps e event (h.name :: done) rounds
        | (.error f, e) => return (.error f, e)

/-- Runs all handlers of an event, for at most `steps` of them. -/
def dispatch? (steps : Nat) (e : Engine) (event : Event) : Option (Except Failure Event × Engine) :=
  dispatchFrom? steps e event [] steps

end CommandScript.Engine
