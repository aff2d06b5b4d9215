import CommandScript.Message
import CommandScript.Pattern
import CommandScript.Tag.Reader
import CommandScript.Value

/-! What goes wrong while a script is compiled and while it runs. Each cause is a case of its own, and the wording
    stands in one function for each kind. -/

namespace CommandScript

/-! ### Compiling -/

/-- Why a command refuses its arguments, its block or its place. -/
inductive Rejection where
  | tooFewArguments (command usage : String)
  | tooManyArguments (command usage : String)
  | blockRequired (command : String)
  | blockForbidden (command : String)
  | notWaitable (command : String)
  | misplaced (command : String) (allowed : List String)
  | plainNameNeeded (command : String) (position : Nat)
  | plainVariableNeeded (command : String)
  | badVariableName (name : String)
  | unknownVerbosity (word : String)
  | unknownSetter (op : String)
  | unknownOnceMode (word : String)
  | elseUsage
  | eventAddNeedsBlock
  | eventRemoveUsage
  | unknownEventAction (word : String)
  deriving DecidableEq

/-- What is said of a word that names no mode of `once`. -/
def unknownOnceModeMessage (word : String) : String :=
  s!"Unknown once mode '{word}': expected error, warning or quiet."

/-- What is said of a word that is no mode of `set`. -/
def unknownSetterMessage (op : String) : String :=
  s!"That setter mode ({op}) does not exist!"

/-- What is said of a rejection. -/
def Rejection.message : Rejection → String
  | tooFewArguments command usage => s!"Not enough arguments. Usage: {command} {usage}"
  | tooManyArguments command usage => s!"Too many arguments. Usage: {command} {usage}"
  | blockRequired command => s!"Command '{command}' requires a \x7b block \x7d!"
  | blockForbidden command => s!"Command '{command}' does not take a block!"
  | notWaitable command => s!"Command '{command}' cannot be waited on with '&'."
  | misplaced command allowed => s!"'{command}' must directly follow one of: " ++ Text.join ", " allowed ++ "."
  | plainNameNeeded command position => s!"Command '{command}' needs a plain name as argument {position}."
  | plainVariableNeeded command => s!"Command '{command}' needs a plain variable name for --as."
  | badVariableName name => s!"Invalid variable name '{name}'."
  | unknownVerbosity word => Verbosity.unknownMessage word
  | unknownSetter op => unknownSetterMessage op
  | unknownOnceMode word => unknownOnceModeMessage word
  | elseUsage => "Usage: else [if <condition>]"
  | eventAddNeedsBlock => "'event add' requires a \x7b block \x7d!"
  | eventRemoveUsage => "Usage: event remove <event> <handler>"
  | unknownEventAction word => s!"Unknown event action '{word}': expected add or remove."

/-- Why a text is no command. -/
inductive SyntaxFault where
  | emptyCommand
  | missingName
  | argument (e : ReadError)
  deriving DecidableEq

/-- What is said of a text that is no command. -/
def SyntaxFault.message : SyntaxFault → String
  | emptyCommand => "Empty command."
  | missingName => "Missing command name."
  | argument e => e.message

/-- Why the parameter of a key does not fit. -/
inductive ParamFault where
  | unexpected (key : String)
  | missing (key : String)
  | notLiteral (key : String)
  | typeNameNeeded
  | unknownType (name : String)
  deriving DecidableEq

/-- What is said of a parameter that does not fit. -/
def ParamFault.message : ParamFault → String
  | unexpected key => s!"'{key}' does not take a [parameter]."
  | missing key => s!"'{key}' requires a [parameter]."
  | notLiteral key => s!"'{key}' requires a literal variable name."
  | typeNameNeeded => "The 'as' sub-tag needs a literal type name, like as[integer]."
  | unknownType name => s!"Unknown type '{name}' for the 'as' sub-tag."

/-- Why a script does not compile. -/
inductive CompileFault where
  | badSyntax (f : SyntaxFault)
  | rejected (r : Rejection)
  /-- The first key of a chain names no base. -/
  | unknownBase (key body : String)
  /-- A later key, at position `index`, is no sub-tag of the type that the chain has there. -/
  | unknownSubTag (index : Nat) (key typeName body : String)
  /-- A chain reads a variable that is not declared at its place. -/
  | unknownVariable (name body : String)
  /-- A key has a parameter that does not fit. -/
  | badParam (f : ParamFault) (body : String)
  deriving DecidableEq

/-- A reason against compiling a script, and the source line it is about. -/
structure CompileError where
  line : Nat
  fault : CompileFault
  deriving DecidableEq

/-- What is said of a reason against compiling, without its line. -/
def CompileFault.message : CompileFault → String
  | badSyntax f => f.message
  | rejected r => r.message
  | unknownBase key body => s!"Invalid tag base '{key}' in tag '{body}'!"
  | unknownSubTag index key typeName body =>
    let hint := if key.isEmpty then "stray '.' dot symbol?" else "sub-tag doesn't seem to exist"
    s!"Invalid sub-tag '{key}' at sub-tag index {index} for type '{typeName}' ({hint})! In tag '{body}'."
  | unknownVariable name body => s!"Unknown variable '{name}' in tag '{body}'!"
  | badParam f body => f.message ++ s!" In tag '{body}'."

/-- What is said of a compile error. -/
def CompileError.message (e : CompileError) : String :=
  s!"(line {e.line}): " ++ e.fault.message

/-- The position of the key at fault in its chain, where there is one. -/
def CompileError.subTagIndex? (e : CompileError) : Option Nat :=
  match e.fault with
  | .unknownSubTag index _ _ _ => some index
  | .unknownBase .. => some 0
  | .unknownVariable .. => some 0
  | _ => none

/-- The report on a script that does not compile. -/
def CompileError.report (e : CompileError) (script : String) : String :=
  s!"FAILED TO COMPILE SCRIPT '{script}': " ++ e.message

/-! ### Running -/

/-- Why a base or a sub-tag yields no value. -/
inductive TagFault where
  | integerOverflow
  | divisionByZero
  | moduloByZero
  | remainderOverflow
  | emptySeparator
  | badRange (spec : String)
  | badIndex (text : String)
  | outOfRange (index : Int64)
  | badPattern (e : PatternError)
  | unknownVariable (name : String)
  /-- Something that a base of the host says. -/
  | other (text : String)
  deriving DecidableEq

/-- What is said of a base or a sub-tag that yields no value. -/
def TagFault.message : TagFault → String
  | integerOverflow => "Integer overflow."
  | divisionByZero => "Cannot divide by zero."
  | moduloByZero => "Cannot take modulo by zero."
  | remainderOverflow => "attempt to calculate the remainder with overflow"
  | emptySeparator => "Cannot split on an empty separator."
  | badRange spec => s!"Invalid substring range '{spec}', expected [start,end]."
  | badIndex text => s!"Invalid substring index '{text}'."
  | outOfRange index => "List index " ++ Value.integerText index ++ " is out of range."
  | badPattern e => e.message
  | unknownVariable name => s!"Unknown variable '{name}'."
  | other text => text

/-- How `set` changes a variable. -/
inductive SetMode where
  | assign
  | add
  | subtract
  | multiply
  | divide
  deriving DecidableEq

/-- The name of a mode in messages. -/
def SetMode.name : SetMode → String
  | assign => "Assign"
  | add => "Add"
  | subtract => "Subtract"
  | multiply => "Multiply"
  | divide => "Divide"

/-- The kind of value that a command expects of an argument. -/
inductive Expected where
  | boolean
  | integer
  | number
  deriving DecidableEq

/-- An expected value in words. -/
def Expected.phrase : Expected → String
  | boolean => "a boolean"
  | integer => "an integer"
  | number => "a number"

/-- How many frames a queue may hold. -/
def maxCallDepth : Nat := 256

/-- Why a script cannot go on, in its own terms. An enclosing `try` may catch it. -/
inductive RuntimeFault where
  /-- A message raised by the script itself. -/
  | raised (text : String)
  | inTag (f : TagFault) (body : String)
  | unknownCommand (name : String)
  | unexpectedValue (command : String) (expected : Expected) (found : String)
  | unknownVerbosity (word : String)
  | unknownSetter (op : String)
  | unknownOnceMode (word : String)
  | unknownVariable (name : String)
  | setterUnfit (mode : SetMode) (typeName : String)
  | notIntegers (mode : SetMode) (current input : String)
  | notNumbers (mode : SetMode) (current input : String)
  | divisionByZero
  | integerOverflow
  | onceRepeated (id : String)
  | jumpBack
  | unknownMark
  | callTooDeep
  | unknownScript (name : String)
  | bodyRejected (script : String) (e : CompileError)
  | badPriority (text : String)
  deriving DecidableEq

/-- What is said of a repeated `once` block. -/
def onceRepeatedMessage (id : String) : String :=
  s!"Once block repeated: {id}"

/-- What is said of a script that cannot go on. -/
def RuntimeFault.message : RuntimeFault → String
  | raised text => text
  | inTag f body => f.message ++ s!" (in tag '<\x7b" ++ body ++ "\x7d>')"
  | unknownCommand name => s!"Unknown command '{name}'."
  | unexpectedValue command expected found =>
    s!"Command '{command}' expects " ++ expected.phrase ++ s!", got '{found}'."
  | unknownVerbosity word => Verbosity.unknownMessage word
  | unknownSetter op => unknownSetterMessage op
  | unknownOnceMode word => unknownOnceModeMessage word
  | unknownVariable name => s!"Unknown variable name '{name}' - cannot set its value."
  | setterUnfit mode typeName =>
    s!"Cannot use that setter mode ({mode.name}) on a variable of type '{typeName}'!"
  | notIntegers mode current input => s!"Cannot {mode.name} '{current}' and '{input}' as integers."
  | notNumbers mode current input => s!"Cannot {mode.name} '{current}' and '{input}' as numbers."
  | divisionByZero => "Cannot divide by zero."
  | integerOverflow => "Integer overflow."
  | onceRepeated id => onceRepeatedMessage id
  | jumpBack => "Cannot jump back into instructions discarded by goto."
  | unknownMark => "Cannot goto marked location: unknown marker!"
  | callTooDeep => s!"Call stack is too deep (more than {maxCallDepth} frames)."
  | unknownScript name => s!"Unknown function or script '{name}'."
  | bodyRejected script e => e.report script
  | badPriority text => s!"Invalid event priority '{text}'."

/-- A fault of the engine or of a command, and not of the script. -/
inductive InternalFault where
  | missingEvaluator (index : Nat)
  | bodyMissing (command : String)
  | slotMissing
  | branchMissing
  | loopBlockMissing
  /-- A command or the output broke off with this text. -/
  | brokenOff (text : String)
  /-- Something that a command of the host says. -/
  | other (text : String)
  deriving DecidableEq

/-- What is said of a fault of the engine. -/
def InternalFault.message : InternalFault → String
  | missingEvaluator index => s!"missing tag evaluator {index}"
  | bodyMissing command => s!"'{command}' without a block"
  | slotMissing => "define without a slot"
  | branchMissing => "else without a preceding branch"
  | loopBlockMissing => "loop without a block"
  | brokenOff text => text
  | other text => text

/-- Why a script cannot go on. -/
inductive ScriptError where
  | runtime (f : RuntimeFault)
  | internal (f : InternalFault)
  deriving DecidableEq

/-- What is said of a script that cannot go on. -/
def ScriptError.message : ScriptError → String
  | runtime f => f.message
  | internal f => "Internal exception: " ++ f.message

/-- How an operation fails: with an error of the script, or by breaking off with a text. -/
inductive Failure where
  | error (e : ScriptError)
  | breakOff (text : String)
  deriving DecidableEq

/-- The script error that a failure of a command amounts to. -/
def Failure.toScriptError : Failure → ScriptError
  | error e => e
  | breakOff text => .internal (.brokenOff text)

/-- What is said of a failure. -/
def Failure.text : Failure → String
  | error e => e.message
  | breakOff text => text

/-- The failure of the chain `body` when one of its bases or sub-tags yields no value. A remainder that overflows
    breaks off. -/
def TagFault.toFailure (body : String) : TagFault → Failure
  | remainderOverflow => .breakOff (TagFault.message .remainderOverflow)
  | f => .error (.runtime (.inTag f body))

end CommandScript
