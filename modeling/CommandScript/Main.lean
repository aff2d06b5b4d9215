import CommandScript.Engine.Host
import CommandScript.Options

/-! The command line. It reads the settings and the script files, starts the scripts that are asked for, and lets
    time pass until no queue is left. -/

namespace CommandScript.CommandLine

/-- The name that errors begin with. -/
def programName : String := "commandscript"

/-- How to call the program. -/
def usage : String :=
  "Usage: " ++ programName ++ " [-s<dir>] [-f[<file>]] [-c<cmd>] [-v<verbosity>] [-t<ms>] [<script>...]"

/-- The steps that one run of a queue may take. -/
def stepLimit : Nat := Decimal.twoTo 62

/-- Says what went wrong. -/
def complain (text : String) : IO Unit :=
  IO.eprintln (programName ++ ": " ++ text)

/-- The directory of the user's settings. -/
def userDirectory (name fallback : String) : IO (Option String) := do
  match ← IO.getEnv name with
  | some dir => return some (dir ++ "/" ++ programName)
  | none => return (← IO.getEnv "HOME").map fun home => home ++ "/" ++ fallback ++ "/" ++ programName

/-- Reads a file of settings. Lines that cannot be used are passed over with a warning. -/
def readSettings (path : String) : IO Settings := do
  let (settings, errors) := Settings.ofText (← IO.FS.readFile path)
  for e in errors do
    complain (path ++ ": " ++ e.message)
  return settings

/-- The settings that the command line asks for. The usual file need not exist. -/
def settingsOf (o : Options) : IO Settings := do
  let settings ←
    match o.settings with
    | .skip => pure {}
    | .explicit path => readSettings path
    | .usual =>
      match ← userDirectory "XDG_CONFIG_HOME" ".config" with
      | none => pure {}
      | some dir =>
        let path := dir ++ "/" ++ programName ++ ".conf"
        try readSettings path catch _ => pure {}
  return { settings with
    scriptDir := o.scriptDir.orElse fun _ => settings.scriptDir
    verbosity := o.verbosity.getD settings.verbosity
    tickMillis := o.tickMillis.getD settings.tickMillis }

/-- The files below a directory with their texts, by their place in it. -/
def readScripts (dir : String) : IO (List (String × String)) := do
  try
    let root ← IO.FS.realPath dir
    let depth := root.toString.length + 1
    let paths ← root.walkDir
    let files ← paths.toList.filterMapM fun path => do
      try return some ((path.toString.drop depth).toString, ← IO.FS.readFile path) catch _ => return none
    return files
  catch _ => return []

/-- The names of the scripts in a directory itself, in order. -/
def scriptNames (files : List (String × String)) (extension : String) : List String :=
  let ending := "." ++ extension
  let names := files.filterMap fun (file, _) =>
    if file.contains '/' || !file.endsWith ending then none
    else some (String.ofList (file.toList.take (file.length - ending.length)))
  names.mergeSort (· ≤ ·)

/-- Shows the messages sent so far, and forgets them. -/
def flush (e : Engine) : IO Engine := do
  for m in e.outbox.messages do
    match m.kind with
    | .bad => IO.eprintln m.text
    | _ => IO.println m.text
  return { e with outbox := {} }

/-- The engine after something that runs queues. -/
def settle (e : Option Engine) : IO Engine := do
  match e with
  | some e => flush e
  | none => throw (IO.userError "a script took too many steps")

/-- The script of a file. -/
def loadScript (e : Engine) (name : String) : Option Script × Engine :=
  match (Engine.scriptFile? name).run e with
  | (.ok s, e) => (s, e)
  | (.error _, e) => (none, e)

/-- Starts a script. -/
def start (e : Engine) (script : Script) : IO Engine :=
  settle ((e.start? stepLimit script [] false).map (·.2))

/-- Starts the scripts of the directory that ask for it. -/
def startAutorun (e : Engine) (names : List String) : IO Engine := do
  let scheduled := names.foldl (fun e name =>
    match loadScript e name with
    | (some s, e) => (e.schedule s).2
    | (none, e) => e) e
  settle (scheduled.startScheduled? stepLimit)

/-- Starts the source texts of the command line, of which the first has the given number. -/
def startCommands (e : Engine) (number : Nat) : List String → IO Engine
  | [] => return e
  | source :: rest => do
    match (Engine.scriptOfSource s!"command{number}" source).run e with
    | (.ok s, e) => startCommands (← start e s) (number + 1) rest
    | (.error _, e) => startCommands e (number + 1) rest

/-- Starts the script files of the command line. -/
def startNamed (e : Engine) (dir : String) : List String → IO Engine
  | [] => return e
  | name :: rest => do
    match loadScript e name with
    | (some s, e) => startNamed (← start e s) dir rest
    | (none, e) =>
      complain (s!"no script '{name}' in " ++ dir)
      startNamed (← flush e) dir rest

/-- Lets time pass until no queue is left. `last` is when time passed before, in milliseconds. -/
partial def tickOn (e : Engine) (interval : Nat) (last : Nat) : IO Unit := do
  if e.queues.isEmpty then return
  IO.sleep (UInt32.ofNat (min interval (Decimal.twoTo 32 - 1)))
  let now ← IO.monoMsNow
  let seconds := (now - last).toFloat / 1000
  tickOn (← settle (e.tick? stepLimit seconds)) interval now

/-- Does what the command line asks for. -/
def run (o : Options) : IO Unit := do
  let settings ← settingsOf o
  let dir ←
    match settings.scriptDir with
    | some dir => pure dir
    | none => do pure (((← userDirectory "XDG_DATA_HOME" ".local/share").map (· ++ "/scripts")).getD "scripts")
  let files ← readScripts dir
  let e : Engine :=
    { registries := .builtin, loader := some fun name => .ok (files.lookup name),
      extension := settings.scriptExtension, verbosity := settings.verbosity }
  let e ← if settings.autorun then startAutorun e (scriptNames files settings.scriptExtension) else pure e
  let e ← startCommands e 1 o.commands
  let e ← startNamed e dir o.scripts
  tickOn e settings.tickMillis (← IO.monoMsNow)

end CommandScript.CommandLine

/-- Runs the scripts that the arguments ask for. -/
def main (arguments : List String) : IO UInt32 := do
  match CommandScript.Options.read arguments with
  | .error fault =>
    CommandScript.CommandLine.complain fault.message
    IO.eprintln CommandScript.CommandLine.usage
    return 1
  | .ok options =>
    try
      CommandScript.CommandLine.run options
      return 0
    catch e =>
      CommandScript.CommandLine.complain e.toString
      return 1
