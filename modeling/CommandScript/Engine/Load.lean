import CommandScript.Engine.State

/-! Scripts from source and from files. What an engine does here may break off when its output does; what it did
    before stays done. -/

namespace CommandScript

/-- Something that an engine does, and that may fail. -/
abbrev EngineM := ExceptT Failure (StateM Engine)

namespace Engine

/-- Sends a message. -/
def post (m : Message) : EngineM Unit := do
  let e ← get
  let (broke, outbox) := e.outbox.post m
  set { e with outbox := outbox }
  if broke then throw (.breakOff outputFailure)

/-- Sends a message to the output of the engine. -/
def output (text : String) (kind : MessageKind) : EngineM Unit :=
  post ⟨false, kind, text⟩

/-- Sends the message of a queue, if it is shown at a verbosity. It goes to the queue's own output, if there is one,
    and errors then go to the output of the engine as well. -/
def emit (own : Bool) (verbosity : Verbosity) (text : String) (kind : MessageKind) : EngineM Unit := do
  if kind.shownAt verbosity then
    post ⟨own, kind, text⟩
    if own && kind = .bad then post ⟨false, kind, text⟩

/-- Compiles a script. Without a header on it, it reports as much as the engine says. -/
def compileScript (e : Engine) (name source : String) (predefined : List (String × String)) :
    Except CompileError Script := do
  let s ← Script.ofSource e.registries name source predefined
  return if (s.header? "debug").isNone then { s with verbosity := e.verbosity } else s

/-- The script of a source text. If it does not compile, the report on it is sent, and the script raises it. -/
def scriptOfSource (name source : String) : EngineM Script := do
  let e ← get
  match e.compileScript name source [] with
  | .ok s => return s
  | .error err =>
    let report := err.report (Text.lower name)
    output report .bad
    return Script.ofReport e.registries name e.verbosity report

/-- The script of a file, which is loaded when it is first asked for. -/
def scriptFile? (name : String) : EngineM (Option Script) := do
  let e ← get
  let key := Text.lower name
  match e.scripts.lookup key, e.loader with
  | some s, _ => return some s
  | none, none => return none
  | none, some load =>
    match load (name ++ "." ++ e.extension) with
    | .ok none => return none
    | .ok (some source) =>
      let s ← scriptOfSource name source
      modify fun e => { e with scripts := setKey key s e.scripts }
      return some s
    | .error text =>
      output (s!"Generating script for file '{name}': " ++ text) .bad
      return none

/-- The function of a name, or else the script of its file. -/
def findScript? (name : String) : EngineM (Option Script) := do
  match (← get).function? name with
  | some s => return some s
  | none => scriptFile? name

end Engine

end CommandScript
