import CommandScript.Script

/-! Events and their handlers. A handler runs with the fields of the event as variables, and may determine that the
    event is cancelled or not. -/

namespace CommandScript

/-- What a handler may determine. -/
inductive Determination where
  | cancelled
  | uncancelled
  deriving DecidableEq

/-- The name of a determination. -/
def Determination.name : Determination → String
  | cancelled => "Cancelled"
  | uncancelled => "Uncancelled"

/-- The determination that a text names, up to ASCII case. -/
def Determination.read? (text : String) : Option Determination :=
  let word := Text.asciiLower text
  if word = "cancelled" then some cancelled
  else if word = "uncancelled" then some uncancelled
  else none

/-- What is said of a text that names no determination. -/
def Determination.unknownMessage (text : String) : String :=
  s!"Unknown determination '{text}'."

/-- Something that happens, with fields in the order they were added. -/
structure Event where
  /-- The name, in lower case. -/
  name : String
  cancelled : Bool
  context : Vars

namespace Event

/-- An event without fields. -/
def ofName (name : String) : Event :=
  ⟨Text.lower name, false, []⟩

/-- Sets a field, which keeps its place if it is there. -/
def put (e : Event) (key : String) (value : Value) : Event :=
  { e with context := setKey (Text.lower key) value e.context }

/-- The value of a field. -/
def get? (e : Event) (key : String) : Option Value :=
  e.context.lookup (Text.lower key)

/-- The variables of a handler: the fields, and whether the event is cancelled. -/
def vars (e : Event) : Vars :=
  e.context ++ [("cancelled", .boolean e.cancelled)]

/-- Applies what a handler determined; otherwise the text that names no determination. -/
def determine (e : Event) (value : Value) : Except String Event :=
  match Determination.read? value.toText with
  | some .cancelled => .ok { e with cancelled := true }
  | some .uncancelled => .ok { e with cancelled := false }
  | none => .error value.toText

end Event

/-- The least priority of a handler or a scheduled script. Priorities have 32 bits. -/
def minPriority : Int := -2147483648

/-- The greatest priority of a handler or a scheduled script. -/
def maxPriority : Int := 2147483647

/-- A script that runs when an event happens. -/
structure Handler where
  /-- The name, in lower case, which no other handler of the event has. -/
  name : String
  script : Script
  /-- Handlers of lower priority run first. -/
  priority : Int
  /-- Whether a script added the handler. -/
  fromScript : Bool := false

/-- A handler described. -/
def Handler.describe (h : Handler) : String :=
  s!"{h.name} (priority {h.priority})"

end CommandScript
