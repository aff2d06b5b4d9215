import CommandScript.Fault
import CommandScript.Value.Reading

/-! Types of tags. A type has a name, perhaps a parent, a way to make any value one of its own, and sub-tags by
    name. A sub-tag that a type does not have is looked up on its parent, and so on. -/

namespace CommandScript

/-- What a sub-tag may use of the types around it. -/
structure Conversions where
  /-- The name of a registered type, found up to ASCII case. -/
  canonicalName : String → Option String
  /-- A value made one of the named type; for an unknown type, the value itself. -/
  convert : Value → String → Value

/-- How the type of a result is known before it is computed. -/
inductive Returns where
  | fixed (typeName : String)
  /-- From the literal text of the parameter, if it has one. -/
  | special (resolve : Option String → Conversions → Except ParamFault String)

/-- Whether a key takes a parameter, and the type that the parameter is made. -/
inductive ParamRule where
  | none
  | optional (typeName : String)
  | required (typeName : String)
  deriving DecidableEq

/-- The type that a parameter is made. -/
def ParamRule.typeName? : ParamRule → Option String
  | none => Option.none
  | optional t => some t
  | required t => some t

/-- What a sub-tag is called with: the value of the chain so far, made one of the type that has the sub-tag, and
    the parameter, made one of the type that the sub-tag asks for. -/
structure SubTagCall where
  value : Value
  param : Option Value
  types : Conversions

/-- A step of a chain. -/
structure SubTag where
  name : String
  returns : Returns
  param : ParamRule
  run : SubTagCall → Except TagFault Value

/-- A type of tags. -/
structure TagType where
  name : String
  parent : Option String
  create : Value → Value
  subTags : List SubTag

/-- The sub-tag of a type itself. -/
def TagType.subTag? (t : TagType) (key : String) : Option SubTag :=
  t.subTags.find? (·.name == key)

/-- The types an engine knows. No two have the same name. -/
structure TypeRegistry where
  types : List TagType

namespace TypeRegistry

/-- The type of a name. -/
def get? (r : TypeRegistry) (name : String) : Option TagType :=
  r.types.find? (·.name == name)

/-- Adds a type, in place of one of the same name. -/
def register (r : TypeRegistry) (t : TagType) : TypeRegistry :=
  ⟨r.types.filter (·.name != t.name) ++ [t]⟩

/-- The name of a type, found up to ASCII case. -/
def canonicalName? (r : TypeRegistry) (name : String) : Option String :=
  (r.get? (Text.asciiLower name)).map (·.name)

/-- A value made one of the named type. For an unknown type it stays as it is. -/
def convert (r : TypeRegistry) (v : Value) (typeName : String) : Value :=
  match r.get? typeName with
  | some t => t.create v
  | none => v

/-- What sub-tags may use of a registry. -/
def conversions (r : TypeRegistry) : Conversions :=
  ⟨r.canonicalName?, r.convert⟩

/-- Looks for a sub-tag on a type and up its parents, over at most `steps` types. -/
def resolveFrom (r : TypeRegistry) (key : String) : (steps : Nat) → Option TagType → Option (TagType × SubTag)
  | 0, _ => none
  | _ + 1, none => none
  | steps + 1, some t =>
    match t.subTag? key with
    | some s => some (t, s)
    | none => r.resolveFrom key steps (t.parent.bind r.get?)

/-- The nearest sub-tag of a name on a type or its parents, with the type that has it. Parents may form a cycle,
    which is walked once. -/
def resolve? (r : TypeRegistry) (typeName key : String) : Option (TagType × SubTag) :=
  r.resolveFrom key (r.types.length + 1) (r.get? typeName)

/-- Looks for `ancestor` among a name and the parents of its type, over at most `steps` names. -/
def isAFrom (r : TypeRegistry) (ancestor : String) : (steps : Nat) → Option String → Bool
  | 0, _ => false
  | _ + 1, none => false
  | steps + 1, some name =>
    name == ancestor || r.isAFrom ancestor steps ((r.get? name).bind (·.parent))

/-- Whether a type is another or descends from it. -/
def isA (r : TypeRegistry) (child ancestor : String) : Bool :=
  r.isAFrom ancestor (r.types.length + 1) (some child)

/-- The names of all types, in order. -/
def names (r : TypeRegistry) : List String :=
  (r.types.map (·.name)).mergeSort (· ≤ ·)

end TypeRegistry

end CommandScript
