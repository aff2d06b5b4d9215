import CommandScript.Message
import CommandScript.Decimal.Whole
import CommandScript.Text.Split

/-! The settings of an engine and the text form they have in a file: one `key = value` a line. A line that cannot be
    used is reported, and changes nothing. -/

namespace CommandScript

/-- The settings of an engine. -/
structure Settings where
  /-- Where script files are; nothing for the place that the system provides. -/
  scriptDir : Option String := none
  /-- The extension of script files, without a point. -/
  scriptExtension : String := "cfg"
  verbosity : Verbosity := .minimal
  /-- The milliseconds from one tick to the next, of which there is at least one. -/
  tickMillis : Nat := 50
  /-- Whether the scripts that ask for it run at the start. -/
  autorun : Bool := true
  deriving DecidableEq

/-- Why a line of settings cannot be used. -/
inductive SettingsFault where
  /-- A line without `=`. -/
  | noValue (line : String)
  | unknownKey (key : String)
  | emptyExtension
  | unknownVerbosity (word : String)
  | badTickInterval (text : String)
  | zeroTickInterval
  | badAutorun (text : String)
  deriving DecidableEq

/-- A fault in words. -/
def SettingsFault.message : SettingsFault → String
  | noValue line => s!"expected 'key = value', got '{line}'"
  | unknownKey key => s!"unknown key '{key}'"
  | emptyExtension => "script_extension must not be empty"
  | unknownVerbosity word => Verbosity.unknownMessage word
  | badTickInterval text => s!"invalid tick_interval '{text}'"
  | zeroTickInterval => "tick_interval must be at least 1 ms"
  | badAutorun text => s!"invalid autorun value '{text}'"

/-- A fault at a line. -/
structure SettingsError where
  line : Nat
  fault : SettingsFault
  deriving DecidableEq

/-- An error in words. -/
def SettingsError.message (e : SettingsError) : String :=
  s!"line {e.line}: " ++ e.fault.message

/-- The greatest number of milliseconds, which has 64 bits. -/
def maxTickMillis : Nat := Decimal.twoTo 64 - 1

namespace Settings

/-- The truth value that a word stands for, up to ASCII case. -/
def switch? (text : String) : Option Bool :=
  let word := Text.asciiLower text
  if ["true", "yes", "on", "1"].contains word then some true
  else if ["false", "no", "off", "0"].contains word then some false
  else none

/-- A text without one pair of quotes around it. -/
def unquote (cs : List Char) : List Char :=
  match cs with
  | '"' :: rest => if rest.getLast? = some '"' then rest.dropLast else cs
  | _ => cs

/-- Sets the setting of a key. What is changed before a fault would stay changed. -/
def set (key value : String) : EStateM SettingsFault Settings Unit :=
  match Text.asciiLower key with
  | "script_dir" => modify ({ · with scriptDir := some value })
  | "script_extension" =>
    let extension := value.toList.dropWhile (· == '.')
    if extension.isEmpty then throw .emptyExtension
    else modify ({ · with scriptExtension := String.ofList extension })
  | "verbosity" =>
    match Verbosity.read value with
    | .ok v => modify ({ · with verbosity := v })
    | .error word => throw (.unknownVerbosity word)
  | "tick_interval" =>
    match Decimal.readNatural? maxTickMillis value with
    | none => throw (.badTickInterval value)
    | some 0 => throw .zeroTickInterval
    | some n => modify ({ · with tickMillis := n })
  | "autorun" =>
    match switch? value with
    | some b => modify ({ · with autorun := b })
    | none => throw (.badAutorun value)
  | other => throw (.unknownKey other)

/-- The settings with the setting of a key set, if it can be. -/
def apply (s : Settings) (key value : String) : Except SettingsFault Settings :=
  match (set key value).run s with
  | .ok _ s => .ok s
  | .error fault _ => .error fault

/-- Applies a line. Blank lines and comments say nothing. -/
def applyLine (line : String) : EStateM SettingsFault Settings Unit :=
  let cs := Text.trimChars line.toList
  match cs with
  | [] => pure ()
  | '#' :: _ => pure ()
  | ';' :: _ => pure ()
  | _ =>
    match Text.splitFirst '=' cs with
    | none => throw (.noValue (String.ofList cs))
    | some (key, value) => set (String.ofList (Text.trimChars key)) (String.ofList (unquote (Text.trimChars value)))

/-- Applies lines, of which the first has the number `line`. -/
def applyLines (s : Settings) : (line : Nat) → List String → Settings × List SettingsError
  | _, [] => (s, [])
  | line, text :: rest =>
    match (applyLine text).run s with
    | .ok _ s => applyLines s (line + 1) rest
    | .error fault s =>
      let (s, errors) := applyLines s (line + 1) rest
      (s, ⟨line, fault⟩ :: errors)

/-- The settings that a text gives, and the errors in it. -/
def ofText (text : String) : Settings × List SettingsError :=
  applyLines {} 1 (Text.lines text)

end Settings

end CommandScript
