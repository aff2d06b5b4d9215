import CommandScript.Tag.Base

/-! Compiled tags. A chain begins with a slot or a base and goes on with sub-tags, all found before it runs. The
    chains of a script stand in one table, where an argument names them by their place; the parameters of a chain
    name chains before it. -/

namespace CommandScript

/-- A stretch of a compiled argument: literal text, or the chain at a place of the table. -/
inductive CompiledPart where
  | text (s : String)
  | chain (index : Nat)
  deriving DecidableEq

/-- An argument whose tags have become chains. -/
structure CompiledArgument where
  parts : List CompiledPart
  /-- The type of its value. -/
  typeName : String
  deriving DecidableEq

/-- The text of an argument without chains. -/
def CompiledArgument.literal? (a : CompiledArgument) : Option String :=
  match a.parts with
  | [.text s] => some s
  | _ => none

/-- Where a chain begins. -/
inductive ChainStart where
  /-- With the variable in a slot. -/
  | slot (index : Nat)
  /-- With a base. `prepare` makes the parameter a value of the type the base asks for. -/
  | base (base : TagBase) (param : Option CompiledArgument) (prepare : Value → Value)

/-- A step of a chain. `adapt` makes the running value one of the type that has the sub-tag, and `prepare` makes the
    parameter one of the type that the sub-tag asks for. -/
structure ChainStep where
  adapt : Value → Value
  subTag : SubTag
  param : Option CompiledArgument
  prepare : Value → Value

/-- A compiled tag. -/
structure Chain where
  start : ChainStart
  steps : List ChainStep
  fallback : Option CompiledArgument
  /-- The source form of the tag. -/
  body : String

/-- What arguments are evaluated in: the slots and the dynamic variables of a frame, the types, and the table of
    chains. -/
structure Environment where
  slots : Array Value
  vars : Vars
  types : Conversions
  chains : Array Chain

/-- What a base may use of an environment. -/
def Environment.baseContext (env : Environment) : BaseContext :=
  ⟨env.vars, env.types⟩

/-! ### Evaluation -/

/-- The text of parts in a row, with `run` for the chains. -/
def joinParts (run : Nat → Except Failure Value) : List CompiledPart → Except Failure String
  | [] => .ok ""
  | .text s :: rest => do return s ++ (← joinParts run rest)
  | .chain i :: rest => do
    let v ← run i
    return v.toText ++ (← joinParts run rest)

/-- The value of an argument, with `run` for its chains. A single chain keeps the kind of its value; anything else
    is text. -/
def CompiledArgument.evaluateWith (run : Nat → Except Failure Value) (a : CompiledArgument) :
    Except Failure Value :=
  match a.parts with
  | [.chain i] => run i
  | [.text s] => .ok (.text s)
  | parts => do return .text (← joinParts run parts)

/-- The value of a parameter, if there is one. -/
def paramWith (run : Nat → Except Failure Value) (param : Option CompiledArgument) (prepare : Value → Value) :
    Except Failure (Option Value) :=
  match param with
  | none => .ok none
  | some a => do return some (prepare (← a.evaluateWith run))

/-- Takes a fault of a base or a sub-tag to the failure of the chain `body`. -/
def faultIn (body : String) : Except TagFault Value → Except Failure Value
  | .ok v => .ok v
  | .error f => .error (f.toFailure body)

/-- The value that a chain begins with. -/
def ChainStart.evaluateWith (run : Nat → Except Failure Value) (env : Environment) (body : String) :
    ChainStart → Except Failure Value
  | slot i => .ok (env.slots[i]?.getD .null)
  | base b param prepare => do
    let p ← paramWith run param prepare
    faultIn body (b.evaluate p env.baseContext)

/-- The value after the steps of a chain. A value that is `null`, or cannot be made one of the type that has the
    sub-tag, ends the chain with `null`, and so does a parameter that is `null`. -/
def stepsWith (run : Nat → Except Failure Value) (env : Environment) (body : String) :
    (value : Value) → List ChainStep → Except Failure Value
  | value, [] => .ok value
  | value, step :: rest =>
    if value.isNull then .ok .null
    else
      let adapted := step.adapt value
      if adapted.isNull then .ok .null
      else do
        let param ← paramWith run step.param step.prepare
        if param.any Value.isNull then return .null
        let next ← faultIn body (step.subTag.run ⟨adapted, param, env.types⟩)
        stepsWith run env body next rest

/-- The value of a chain: that of its steps, or of its fallback where that is `null`. -/
def Chain.evaluateWith (run : Nat → Except Failure Value) (env : Environment) (c : Chain) :
    Except Failure Value := do
  let first ← c.start.evaluateWith run env c.body
  let value ← stepsWith run env c.body first c.steps
  match c.fallback with
  | some a => if value.isNull then a.evaluateWith run else return value
  | none => return value

/-- The value of the chain at a place of the table, at most `depth` chains deep. -/
def Environment.runChain (env : Environment) : (depth : Nat) → (index : Nat) → Except Failure Value
  | 0, index => .error (.error (.internal (.missingEvaluator index)))
  | depth + 1, index =>
    match env.chains[index]? with
    | none => .error (.error (.internal (.missingEvaluator index)))
    | some c => c.evaluateWith (env.runChain depth) env

/-- The value of an argument. The chains of a script only name chains before them, so none is nested deeper than
    the table is long. -/
def CompiledArgument.evaluate (a : CompiledArgument) (env : Environment) : Except Failure Value :=
  a.evaluateWith (env.runChain env.chains.size)

end CommandScript
