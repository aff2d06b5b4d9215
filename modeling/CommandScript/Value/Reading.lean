import CommandScript.Decimal.Nearest
import CommandScript.Text.Blank
import CommandScript.Text.Case
import CommandScript.Text.Split
import CommandScript.Value

/-! Reading values from text, and reading one kind of value as another. -/

namespace CommandScript.Value

/-- The whole number that a text writes, if it has 64 bits. -/
def readInteger? (s : String) : Option Int64 :=
  (Decimal.readWhole? Int64.minValue.toInt Int64.maxValue.toInt s).map Int64.ofInt

/-- The finite number that a text writes in digits. -/
def readNumber? (s : String) : Option Float :=
  (Decimal.readFloat? s).filter Float.isFinite

/-- The truth value that a text names. -/
def readBoolean? (s : String) : Option Bool :=
  if Text.eqIgnoreAsciiCase s "true" then some true
  else if Text.eqIgnoreAsciiCase s "false" then some false
  else none

/-- The most specific value that a text in a script writes. -/
def ofLiteral (s : String) : Value :=
  match readInteger? s with
  | some n => integer n
  | none =>
    match readNumber? s with
    | some x => number x
    | none =>
      match readBoolean? s with
      | some b => boolean b
      | none => text s

/-- A value as a whole number. A number is one if it has no fraction; beyond 64 bits it becomes the nearest end. -/
def asInteger? : Value → Option Int64
  | integer n => some n
  | number x => if x.isFinite && x.floor == x then some x.toInt64 else none
  | text s => readInteger? (Text.trim s)
  | _ => none

/-- A value as a number. -/
def asNumber? : Value → Option Float
  | integer n => some (Decimal.wholeFloat n.toInt)
  | number x => some x
  | text s => readNumber? (Text.trim s)
  | _ => none

/-- A value as a truth value. -/
def asBoolean? : Value → Option Bool
  | boolean b => some b
  | text s => readBoolean? (Text.trim s)
  | _ => none

/-- The items of a value. Any text is cut at its bars; the empty text and `null` have no items. -/
def asList : Value → List Value
  | null => []
  | list items => items
  | v =>
    let s := v.toText
    if s.isEmpty then [] else (Text.splitBars s).map ofLiteral

end CommandScript.Value
