import CommandScript.Tag.Types

/-! The types that come with every engine, and their sub-tags. -/

namespace CommandScript

/-! ### Making values of a type -/

/-- Any value but `null` as text. -/
def createText : Value → Value
  | .null => .null
  | v => .text v.toText

/-- A value as a number, or `null`. -/
def createNumber (v : Value) : Value :=
  match v.asNumber? with
  | some x => .number x
  | none => .null

/-- A value as a whole number, or `null`. -/
def createInteger (v : Value) : Value :=
  match v.asInteger? with
  | some n => .integer n
  | none => .null

/-- A value as a truth value, or `null`. -/
def createBoolean (v : Value) : Value :=
  match v.asBoolean? with
  | some b => .boolean b
  | none => .null

/-- Any value but `null` as a list. -/
def createList : Value → Value
  | .null => .null
  | v => .list v.asList

namespace SubTagCall

/-- The text of the value. -/
def text (c : SubTagCall) : String :=
  c.value.toText

/-- The text of the parameter. -/
def paramText (c : SubTagCall) : String :=
  match c.param with
  | some p => p.toText
  | none => ""

/-- The value and the parameter as numbers. -/
def numbers (c : SubTagCall) : Float × Float :=
  (c.value.asNumber?.getD 0, (c.param.bind Value.asNumber?).getD 0)

/-- The value and the parameter as whole numbers. -/
def integers (c : SubTagCall) : Int64 × Int64 :=
  (c.value.asInteger?.getD 0, (c.param.bind Value.asInteger?).getD 0)

/-- The value and the parameter as truth values. -/
def booleans (c : SubTagCall) : Bool × Bool :=
  (c.value.asBoolean?.getD false, (c.param.bind Value.asBoolean?).getD false)

end SubTagCall

/-! ### Whole numbers -/

/-- A whole number as 64 bits, if it fits. -/
def fit64? (n : Int) : Option Int64 :=
  if Int64.minValue.toInt ≤ n ∧ n ≤ Int64.maxValue.toInt then some (Int64.ofInt n) else none

/-- The sum of two whole numbers, if it fits. -/
def addChecked (a b : Int64) : Option Int64 :=
  fit64? (a.toInt + b.toInt)

/-- The difference of two whole numbers, if it fits. -/
def subChecked (a b : Int64) : Option Int64 :=
  fit64? (a.toInt - b.toInt)

/-- The product of two whole numbers, if it fits. -/
def mulChecked (a b : Int64) : Option Int64 :=
  fit64? (a.toInt * b.toInt)

/-- The quotient of two whole numbers toward zero, if it fits. The divisor is not zero. -/
def divChecked (a b : Int64) : Option Int64 :=
  fit64? (a.toInt.tdiv b.toInt)

/-- A whole number that fits, or an overflow. -/
def integerResult : Option Int64 → Except TagFault Value
  | some n => .ok (.integer n)
  | none => .error .integerOverflow

/-- The remainder of two whole numbers that is not negative. It is not computed where the quotient overflows. -/
def moduloResult (a b : Int64) : Except TagFault Value :=
  if b = 0 then .error .moduloByZero
  else if a = Int64.minValue ∧ b = -1 then .error .remainderOverflow
  else .ok (.integer (Int64.ofInt (a.toInt.emod b.toInt)))

/-! ### Text -/

/-- One end of a range of characters. -/
def rangeIndex (text : String) : Except TagFault Int :=
  match Value.readInteger? (Text.trim text) with
  | some n => .ok n.toInt
  | none => .error (.badIndex (Text.trim text))

/-- The characters from one position to another, counted from 1 and both included, as far as the text has them. -/
def substring (s spec : String) : Except TagFault Value := do
  let some (a, b) := Text.splitFirst ',' spec.toList | throw (.badRange spec)
  let first ← rangeIndex (String.ofList a)
  let last ← rangeIndex (String.ofList b)
  let cs := s.toList
  let start := (max first 1).toNat
  let stop := min (max last 0).toNat cs.length
  return .text (String.ofList ((cs.take stop).drop (start - 1)))

/-- Whether a pattern matches a text. -/
def matchResult (source : String) (mode : MatchMode) (s : String) : Except TagFault Value :=
  match Pattern.compile source mode with
  | .ok p => .ok (.boolean (p.matchesText s))
  | .error e => .error (.badPattern e)

/-- The pieces of a text between a separator. -/
def splitResult (s sep : String) : Except TagFault Value :=
  if sep.isEmpty then .error .emptySeparator else .ok (.list ((Text.splitText sep s).map .text))

/-- The type that a parameter of `as` names. -/
def namedType (param : Option String) (types : Conversions) : Except ParamFault String :=
  match param with
  | none => .error .typeNameNeeded
  | some name =>
    match types.canonicalName (Text.trim name) with
    | some t => .ok t
    | none => .error (.unknownType name)

/-- A value made one of the type that a text names. -/
def asResult (c : SubTagCall) : Value :=
  c.types.convert c.value ((c.types.canonicalName (Text.trim c.paramText)).getD "dynamic")

/-- The sub-tags of text, and so of all types. -/
def textSubTags : List SubTag :=
  [⟨"to_upper", .fixed "text", .none, fun c => .ok (.text (Text.upper c.text))⟩,
   ⟨"to_lower", .fixed "text", .none, fun c => .ok (.text (Text.lower c.text))⟩,
   ⟨"length", .fixed "integer", .none, fun c => .ok (.integer (Int64.ofNat c.text.length))⟩,
   ⟨"to_number", .fixed "number", .none, fun c => .ok (createNumber c.value)⟩,
   ⟨"to_integer", .fixed "integer", .none, fun c => .ok (createInteger c.value)⟩,
   ⟨"to_boolean", .fixed "boolean", .none, fun c => .ok (createBoolean c.value)⟩,
   ⟨"is_number", .fixed "boolean", .none, fun c => .ok (.boolean c.value.asNumber?.isSome)⟩,
   ⟨"is_integer", .fixed "boolean", .none, fun c => .ok (.boolean c.value.asInteger?.isSome)⟩,
   ⟨"is_boolean", .fixed "boolean", .none, fun c => .ok (.boolean c.value.asBoolean?.isSome)⟩,
   ⟨"to_list_of_characters", .fixed "list", .none,
    fun c => .ok (.list (c.text.toList.map fun ch => .text (String.ofList [ch])))⟩,
   ⟨"substring", .fixed "text", .required "text", fun c => substring c.text c.paramText⟩,
   ⟨"append", .fixed "text", .required "text", fun c => .ok (.text (c.text ++ c.paramText))⟩,
   ⟨"prepend", .fixed "text", .required "text", fun c => .ok (.text (c.paramText ++ c.text))⟩,
   ⟨"equals", .fixed "boolean", .required "text", fun c => .ok (.boolean (c.text == c.paramText))⟩,
   ⟨"does_not_equal", .fixed "boolean", .required "text", fun c => .ok (.boolean (c.text != c.paramText))⟩,
   ⟨"equals_ignore_case", .fixed "boolean", .required "text",
    fun c => .ok (.boolean (Text.lower c.text == Text.lower c.paramText))⟩,
   ⟨"does_not_equal_ignore_case", .fixed "boolean", .required "text",
    fun c => .ok (.boolean (Text.lower c.text != Text.lower c.paramText))⟩,
   ⟨"contains", .fixed "boolean", .required "text", fun c => .ok (.boolean (Text.contains c.text c.paramText))⟩,
   ⟨"contains_ignore_case", .fixed "boolean", .required "text", fun c => matchResult c.paramText .substring c.text⟩,
   ⟨"contains_any", .fixed "boolean", .required "text", fun c => matchResult c.paramText .anyOf c.text⟩,
   ⟨"matches", .fixed "boolean", .required "text", fun c => matchResult c.paramText .regexp c.text⟩,
   ⟨"matches_glob", .fixed "boolean", .required "text", fun c => matchResult c.paramText .glob c.text⟩,
   ⟨"split", .fixed "list", .required "text", fun c => splitResult c.text c.paramText⟩,
   ⟨"type", .fixed "text", .none, fun c => .ok (.text c.value.typeName)⟩,
   ⟨"as", .special namedType, .required "text", fun c => .ok (asResult c)⟩]

/-! ### Numbers -/

/-- The quotient of two numbers. -/
def divideResult : Float × Float → Except TagFault Value
  | (a, b) => if b == 0 then .error .divisionByZero else .ok (.number (a / b))

/-- The sub-tags of numbers. -/
def numberSubTags : List SubTag :=
  [⟨"add", .fixed "number", .required "number", fun c => .ok (.number (c.numbers.1 + c.numbers.2))⟩,
   ⟨"subtract", .fixed "number", .required "number", fun c => .ok (.number (c.numbers.1 - c.numbers.2))⟩,
   ⟨"multiply", .fixed "number", .required "number", fun c => .ok (.number (c.numbers.1 * c.numbers.2))⟩,
   ⟨"divide", .fixed "number", .required "number", fun c => divideResult c.numbers⟩,
   ⟨"is_greater_than", .fixed "boolean", .required "number",
    fun c => .ok (.boolean (c.numbers.2 < c.numbers.1))⟩,
   ⟨"is_less_than", .fixed "boolean", .required "number", fun c => .ok (.boolean (c.numbers.1 < c.numbers.2))⟩,
   ⟨"round", .fixed "integer", .none, fun c => .ok (.integer (c.value.asNumber?.getD 0).round.toInt64)⟩,
   ⟨"absolute_value", .fixed "number", .none, fun c => .ok (.number (c.value.asNumber?.getD 0).abs)⟩]

/-- The sub-tags of whole numbers. -/
def integerSubTags : List SubTag :=
  [⟨"add", .fixed "integer", .required "integer", fun c => integerResult (addChecked c.integers.1 c.integers.2)⟩,
   ⟨"subtract", .fixed "integer", .required "integer",
    fun c => integerResult (subChecked c.integers.1 c.integers.2)⟩,
   ⟨"multiply", .fixed "integer", .required "integer",
    fun c => integerResult (mulChecked c.integers.1 c.integers.2)⟩,
   ⟨"modulo", .fixed "integer", .required "integer", fun c => moduloResult c.integers.1 c.integers.2⟩,
   ⟨"is_even", .fixed "boolean", .none, fun c => .ok (.boolean ((c.value.asInteger?.getD 0).toInt % 2 == 0))⟩]

/-! ### Truth values -/

/-- The sub-tags of truth values. -/
def booleanSubTags : List SubTag :=
  [⟨"not", .fixed "boolean", .none, fun c => .ok (.boolean !c.booleans.1)⟩,
   ⟨"and", .fixed "boolean", .required "boolean", fun c => .ok (.boolean (c.booleans.1 && c.booleans.2))⟩,
   ⟨"or", .fixed "boolean", .required "boolean", fun c => .ok (.boolean (c.booleans.1 || c.booleans.2))⟩]

/-! ### Lists -/

/-- The item at a position counted from 1, or `null` where there is none. -/
def itemResult (items : List Value) (index : Int64) : Except TagFault Value :=
  match fit64? (index.toInt - 1) with
  | none => .error (.outOfRange index)
  | some position => .ok (if position < 0 then .null else items[position.toInt.toNat]?.getD .null)

/-- The sub-tags of lists. -/
def listSubTags : List SubTag :=
  [⟨"size", .fixed "integer", .none, fun c => .ok (.integer (Int64.ofNat c.value.asList.length))⟩,
   ⟨"first", .fixed "dynamic", .none, fun c => .ok (c.value.asList.head?.getD .null)⟩,
   ⟨"last", .fixed "dynamic", .none, fun c => .ok (c.value.asList.getLast?.getD .null)⟩,
   ⟨"get", .fixed "dynamic", .required "integer",
    fun c => itemResult c.value.asList ((c.param.bind Value.asInteger?).getD 0)⟩,
   ⟨"reversed", .fixed "list", .none, fun c => .ok (.list c.value.asList.reverse)⟩,
   ⟨"joined", .fixed "text", .required "text",
    fun c => .ok (.text (Text.join c.paramText (c.value.asList.map Value.toText)))⟩,
   ⟨"contains", .fixed "boolean", .required "text",
    fun c => .ok (.boolean (c.value.asList.any fun v => v.toText == c.paramText))⟩]

/-- The types that come with every engine. -/
def TypeRegistry.builtin : TypeRegistry :=
  ⟨[⟨"text", none, createText, textSubTags⟩,
    ⟨"number", some "text", createNumber, numberSubTags⟩,
    ⟨"integer", some "number", createInteger, integerSubTags⟩,
    ⟨"boolean", some "text", createBoolean, booleanSubTags⟩,
    ⟨"list", some "text", createList, listSubTags⟩,
    ⟨"dynamic", some "text", id, []⟩,
    ⟨"null", some "text", fun _ => .null, []⟩]⟩

end CommandScript
