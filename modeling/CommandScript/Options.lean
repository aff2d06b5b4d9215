import CommandScript.Settings

/-! The options of the command line. A flag is one letter after `-`, with its value in the same argument or in the
    next one. Arguments that are no flags name scripts. -/

namespace CommandScript

/-- Which file of settings to read. -/
inductive SettingsFile where
  /-- The one at the usual place. -/
  | usual
  /-- None. -/
  | skip
  | explicit (path : String)
  deriving DecidableEq

/-- What the command line asks for. -/
structure Options where
  scriptDir : Option String := none
  settings : SettingsFile := .usual
  /-- Source texts to run. -/
  commands : List String := []
  verbosity : Option Verbosity := none
  tickMillis : Option Nat := none
  /-- Names of script files to run. -/
  scripts : List String := []
  deriving DecidableEq

/-- A flag that has a value. -/
inductive ValueFlag where
  | scriptDir
  | command
  | verbosity
  | tick
  deriving DecidableEq

namespace ValueFlag

/-- The letter of a flag. -/
def letter : ValueFlag → Char
  | scriptDir => 's'
  | command => 'c'
  | verbosity => 'v'
  | tick => 't'

/-- What the value of a flag is. -/
def valueName : ValueFlag → String
  | scriptDir => "directory"
  | command => "command"
  | verbosity => "verbosity"
  | tick => "millisecond"

/-- The flag of a letter. -/
def ofLetter? (c : Char) : Option ValueFlag :=
  [scriptDir, command, verbosity, tick].find? (·.letter == c)

end ValueFlag

/-- Why a command line cannot be used. -/
inductive OptionsFault where
  | valueMissing (flag : ValueFlag)
  | unknownVerbosity (word : String)
  | badTickInterval (text : String)
  | zeroTickInterval
  | unknownOption (letter : Char)
  deriving DecidableEq

/-- A fault in words. -/
def OptionsFault.message : OptionsFault → String
  | valueMissing flag =>
    let letter := flag.letter
    let value := flag.valueName
    s!"-{letter} requires a {value} argument"
  | unknownVerbosity word => Verbosity.unknownMessage word
  | badTickInterval text => s!"invalid tick interval: {text}"
  | zeroTickInterval => "tick interval must be at least 1 ms"
  | unknownOption letter => s!"unknown option: -{letter}"

namespace Options

/-- Adds the value of a flag. -/
def put (o : Options) (flag : ValueFlag) (value : String) : Except OptionsFault Options :=
  match flag with
  | .scriptDir => .ok { o with scriptDir := some value }
  | .command => .ok { o with commands := o.commands ++ [value] }
  | .verbosity =>
    match Verbosity.read value with
    | .ok v => .ok { o with verbosity := some v }
    | .error word => .error (.unknownVerbosity word)
  | .tick =>
    match Decimal.readNatural? maxTickMillis value with
    | none => .error (.badTickInterval value)
    | some 0 => .error .zeroTickInterval
    | some n => .ok { o with tickMillis := some n }

/-- Whether an argument after a lone `-f` is its file: it has a point in it and does not begin like a flag. -/
def isSettingsFile (argument : String) : Bool :=
  argument.toList.head? != some '-' && argument.toList.contains '.'

/-- Adds what arguments ask for. After `--` all of them name scripts. -/
def readFrom (o : Options) : List String → Except OptionsFault Options
  | [] => .ok o
  | argument :: rest =>
    if argument = "--" then .ok { o with scripts := o.scripts ++ rest }
    else
      match argument.toList with
      | '-' :: letter :: text =>
        if letter = 'f' then
          match text, rest with
          | [], [] => .ok { o with settings := .skip }
          | [], next :: rest =>
            if isSettingsFile next then readFrom { o with settings := .explicit next } rest
            else readFrom { o with settings := .skip } (next :: rest)
          | _, rest => readFrom { o with settings := .explicit (String.ofList text) } rest
        else
          match ValueFlag.ofLetter? letter with
          | none => .error (.unknownOption letter)
          | some flag =>
            match text, rest with
            | [], [] => .error (.valueMissing flag)
            | [], value :: rest => do readFrom (← o.put flag value) rest
            | _, rest => do readFrom (← o.put flag (String.ofList text)) rest
      | _ => readFrom { o with scripts := o.scripts ++ [argument] } rest

/-- What a command line asks for. -/
def read (arguments : List String) : Except OptionsFault Options :=
  readFrom {} arguments

end Options

end CommandScript
