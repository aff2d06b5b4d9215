import CommandScript.Decimal.Shortest

/-! Values of tags and variables. Every value has a text; the typed forms let a chain hand whole numbers, numbers
    and lists on without reading them again. `null` is the absence of a value, which a tag's fallback fills. -/

namespace CommandScript

/-- What a tag yields and a variable holds. -/
inductive Value where
  | null
  | text (s : String)
  | integer (n : Int64)
  | number (x : Float)
  | boolean (b : Bool)
  | list (items : List Value)
  deriving BEq

instance : Inhabited Value := ⟨.null⟩

namespace Value

/-- The text of a whole number. -/
def integerText (n : Int64) : String :=
  let digits := Decimal.digitsOf n.toInt.natAbs
  String.ofList (if n < 0 then '-' :: digits else digits)

/-- The text of a truth value. -/
def booleanText (b : Bool) : String :=
  if b then "true" else "false"

mutual

/-- The text of a value. A list is its items with bars between them. -/
def toText : Value → String
  | null => "null"
  | text s => s
  | integer n => integerText n
  | number x => Decimal.floatText x
  | boolean b => booleanText b
  | list items => itemsText items

/-- The texts of values with bars between them. -/
def itemsText : List Value → String
  | [] => ""
  | [v] => v.toText
  | v :: w :: more => v.toText ++ "|" ++ itemsText (w :: more)

end

/-- Whether a value is `null`. -/
def isNull : Value → Bool
  | null => true
  | _ => false

/-- The name of the type that holds a value as it is. -/
def typeName : Value → String
  | null => "null"
  | text _ => "text"
  | integer _ => "integer"
  | number _ => "number"
  | boolean _ => "boolean"
  | list _ => "list"

end Value

/-- Variables by name. A name occurs at most once. -/
abbrev Vars := List (String × Value)

end CommandScript
