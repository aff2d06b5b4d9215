import CommandScript.Proofs.Compile.Entries

/-! Arguments read straight from their source. A tag is walked key by key, from its base through its sub-tags to its
    fallback, and nothing is kept from one tag to another. Each sub-tag gets a value of the type that has it, which is
    made one of it before, always or only if it is not said to be one already. What a tag reads depends on where it
    stands: a variable is the innermost one of its name that is declared before. -/

namespace CommandScript

/-- The text of an argument that is one stretch of text. -/
def Argument.sole? : Argument → Option String
  | ⟨[.text w], _⟩ => some w
  | _ => none

/-- How a value, which is said to be of the type `current`, is made one of the type `owner`. -/
abbrev Adaptation := (owner current : String) → Value → Value

namespace Registries
variable (r : Registries)

/-- A value as one of the type `owner`, whatever it is said to be. -/
def convert : Adaptation := fun owner _ v => r.types.convert v owner

/-- A value as one of the type `owner`. Nothing is done if it is said to be one already. -/
def adapt : Adaptation := fun owner current v => if owner = current then v else r.types.convert v owner

/-- A parameter as a value of the type that a key asks for. -/
def prepare (rule : ParamRule) (v : Value) : Value :=
  match rule.typeName? with
  | some t => r.types.convert v t
  | none => v

end Registries

/-! ### Static types -/

/-- A variable as a tag sees it. -/
structure Variable where
  slot : Nat
  typeName : String

/-- What the tags of an instruction are read in: what the engine knows, and the variables in sight. -/
structure Sight where
  registries : Registries
  find? : String → Option Variable

namespace Sight

section
variable (s : Sight)

/-- The variable that the parameter of a base names. -/
def named (param : Option Argument) : Option Variable :=
  (param.bind Argument.literal?).bind fun name => s.find? (Text.lower (Text.trim name))

/-- The type of a result. -/
def returned (returns : Returns) (param : Option Argument) : Option String :=
  match returns with
  | .fixed t => some t
  | .special resolve => (resolve (param.bind Argument.sole?) s.registries.types.conversions).toOption

/-- The type that the first key of a tag begins with. -/
def startType (first : Part) : Option String := do
  let base ← s.registries.bases.get? (Text.lower first.key)
  if base.readsSlot then return (← s.named first.param).typeName
  else s.returned base.returns first.param

/-- The type after the keys behind the first. -/
def stepsType (current : String) : List Part → Option String
  | [] => some current
  | ⟨key, param⟩ :: rest => do
    let (_, subTag) ← s.registries.types.resolve? current (Text.lower key)
    stepsType (← s.returned subTag.returns param) rest

/-- The type of the keys of a tag. -/
def partsType : List Part → Option String
  | [] => none
  | first :: rest => do s.stepsType (← s.startType first) rest

mutual

/-- The type of an argument: that of its tag if it has nothing else, or the one that its literal text has. -/
def argumentType : Argument → Option String
  | ⟨[.tag t], _⟩ => tagType t
  | ⟨[.text w], _⟩ => some (Value.ofLiteral w).typeName
  | ⟨_, _⟩ => some "text"

/-- The type of a tag. It is not known if the fallback has another type than the keys. -/
def tagType : Tag → Option String
  | ⟨parts, none⟩ => s.partsType parts
  | ⟨parts, some fallback⟩ => do
    let t ← s.partsType parts
    return if (← argumentType fallback) = t then t else "dynamic"

end

end

/-! ### Values -/

section
variable (s : Sight) (adapt : Adaptation) (slots : Array Value) (vars : Vars)

mutual

/-- The value of an argument. A single tag keeps the kind of its value; anything else is text. -/
def argumentValue : Argument → Option Value
  | ⟨[.tag t], _⟩ => tagValue t
  | ⟨segments, _⟩ => (segmentsText segments).map .text

/-- The text of segments in a row. -/
def segmentsText : List Segment → Option String
  | [] => some ""
  | .text w :: rest => (segmentsText rest).map (w ++ ·)
  | .tag t :: rest => do
    let v ← tagValue t
    return v.toText ++ (← segmentsText rest)

/-- The value of a tag: that of its keys, or of its fallback where that is `null`. -/
def tagValue : Tag → Option Value
  | ⟨parts, fallback⟩ => do
    let v ← partsValue parts
    if v.isNull then fallbackValue fallback else return v

/-- The value of a fallback. Without one, what is `null` stays so. -/
def fallbackValue : Option Argument → Option Value
  | none => some .null
  | some a => argumentValue a

/-- The value of the keys of a tag. -/
def partsValue : List Part → Option Value
  | [] => none
  | first :: rest => do
    let v ← startValue first
    stepsValue (← s.startType first) v rest

/-- The value that the first key of a tag begins with: a variable, or what a base makes of its parameter. -/
def startValue : Part → Option Value
  | ⟨key, param⟩ => do
    let base ← s.registries.bases.get? (Text.lower key)
    if base.readsSlot then return slots[(← s.named param).slot]?.getD .null
    else
      let p ← paramValue base.param param
      (base.evaluate p ⟨vars, s.registries.types.conversions⟩).toOption

/-- The value after the keys behind the first, from a value of the type `current`. Nothing is done any more once a
    value or a parameter is `null`. -/
def stepsValue (current : String) (v : Value) : List Part → Option Value
  | [] => some v
  | ⟨key, param⟩ :: rest =>
    if v.isNull then some .null
    else do
      let (owner, subTag) ← s.registries.types.resolve? current (Text.lower key)
      let v := adapt owner.name current v
      if v.isNull then return .null
      let p ← paramValue subTag.param param
      if p.any Value.isNull then return .null
      let next ← (subTag.run ⟨v, p, s.registries.types.conversions⟩).toOption
      stepsValue (← s.returned subTag.returns param) next rest

/-- The value of a parameter, made one of the type that the key asks for. -/
def paramValue (rule : ParamRule) : Option Argument → Option (Option Value)
  | none => some none
  | some a => do return some (s.registries.prepare rule (← argumentValue a))

end

theorem argumentValue_text (text : String) (quoted : Bool) :
    s.argumentValue adapt slots vars ⟨[.text text], quoted⟩ = some (.text text) := by
  simp [argumentValue, segmentsText]

end

end Sight

/-! ### Variables in sight -/

/-- The variables of a block, the newest first. -/
structure Level where
  /-- The first place after the block; none for what is outside all blocks. -/
  stop : Option Nat
  declared : List (String × Variable)

/-- The variables in sight at a place, by the blocks that are open there, the innermost first. -/
structure View where
  levels : List Level
  /-- How many variables there are so far, in sight or not. -/
  count : Nat

namespace View

/-- The innermost variable of a name. -/
def find? (v : View) (name : String) : Option Variable :=
  v.levels.findSome? fun l => l.declared.lookup name

/-- What tags are read in. -/
def sight (v : View) (r : Registries) : Sight :=
  ⟨r, v.find?⟩

/-- Without the blocks that end at or before a place. -/
def leave (v : View) (index : Nat) : View :=
  { v with levels := v.levels.dropWhile fun l => l.stop.any (· ≤ index) }

/-- In the block that an instruction owns. -/
def enter (v : View) (i : Instruction) : View :=
  match i.block with
  | some s => if i.isCallback then v else { v with levels := ⟨some s.stop, []⟩ :: v.levels }
  | none => v

/-- With one variable more in the innermost block. -/
def declare (v : View) (d : Declaration) : View :=
  match v.levels with
  | [] => { v with count := v.count + 1 }
  | l :: outer =>
    ⟨{ l with declared := (Text.lower d.name, ⟨v.count, d.typeName⟩) :: l.declared } :: outer, v.count + 1⟩

/-- The variable that an instruction declares, by the static types of its arguments. -/
def declaration (v : View) (r : Registries) (i : Instruction) : Option Declaration := do
  let types ← i.args.mapM (v.sight r).argumentType
  (← (i.declaration r.commands types).toOption)

/-- What is in sight behind an instruction. -/
def after (v : View) (r : Registries) (i : Instruction) : View :=
  match v.declaration r i with
  | some d => (v.enter i).declare d
  | none => v.enter i

/-- What is in sight of the arguments of each instruction in a list. -/
def along (r : Registries) (index : Nat) (v : View) : List Instruction → List View
  | [] => []
  | i :: rest => v.leave index :: along r (index + 1) ((v.leave index).after r i) rest

/-- What is in sight before the first instruction: the predefined variables. -/
def start (predefined : List (String × String)) : View :=
  predefined.foldl (fun v (name, typeName) => v.declare ⟨name, typeName⟩) ⟨[⟨none, []⟩], 0⟩

end View

end CommandScript
