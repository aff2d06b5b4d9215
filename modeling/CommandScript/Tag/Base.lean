import CommandScript.Tag.Builtin

/-! Bases of tags: what the first key of a chain names. A base makes the first value of the chain from its
    parameter. The base `var` stands apart: a compiled chain reads the slot of the variable instead. -/

namespace CommandScript

/-- What a base may use: the dynamic variables and the types. -/
structure BaseContext where
  vars : Vars
  types : Conversions

/-- The beginning of a chain. -/
structure TagBase where
  name : String
  param : ParamRule
  returns : Returns
  /-- Whether a chain reads the slot of a variable instead of asking the base. -/
  readsSlot : Bool := false
  evaluate : Option Value → BaseContext → Except TagFault Value

namespace TagBase

/-- The base that makes its parameter a value of a type. -/
def converting (name typeName : String) : TagBase where
  name := name
  param := .required "text"
  returns := .fixed typeName
  evaluate := fun param cx => .ok (cx.types.convert (param.getD (.text "")) typeName)

/-- The base without a value. -/
def null : TagBase where
  name := "null"
  param := .none
  returns := .fixed "null"
  evaluate := fun _ _ => .ok .null

/-- The name of a variable in a parameter. -/
def variableName (param : Option Value) : String :=
  match param with
  | some v => Text.lower v.toText
  | none => ""

/-- The base of local variables. -/
def localVariable : TagBase where
  name := "var"
  param := .required "text"
  returns := .fixed "dynamic"
  readsSlot := true
  evaluate := fun param cx =>
    match cx.vars.lookup (variableName param) with
    | some v => .ok v
    | none => .error (.unknownVariable (variableName param))

/-- The base of dynamic variables. A name without a variable gives `null`. -/
def dynamicVariable : TagBase where
  name := "dvar"
  param := .required "text"
  returns := .fixed "dynamic"
  evaluate := fun param cx => .ok ((cx.vars.lookup (variableName param)).getD .null)

end TagBase

/-- The bases an engine knows. No two have the same name. -/
structure BaseRegistry where
  bases : List TagBase

namespace BaseRegistry

/-- The base of a name. -/
def get? (r : BaseRegistry) (name : String) : Option TagBase :=
  r.bases.find? fun b => Text.asciiLower b.name == name

/-- Adds a base, in place of one of the same name. -/
def register (r : BaseRegistry) (b : TagBase) : BaseRegistry :=
  ⟨r.bases.filter (fun c => Text.asciiLower c.name != Text.asciiLower b.name) ++ [b]⟩

/-- The bases that come with every engine. -/
def builtin : BaseRegistry :=
  ⟨[.converting "text" "text", .converting "number" "number", .converting "integer" "integer",
    .converting "boolean" "boolean", .converting "list" "list", .null, .localVariable, .dynamicVariable]⟩

end BaseRegistry

end CommandScript
