import CommandScript.Proofs.Guards.Tables
import CommandScript.Proofs.Indices.Places

/-! Compiling with the places that it looks at: the type of the chain that an argument consists of, and the type of the
    slot that a tag reads. Whatever is compiled, and whatever an engine knows, neither is ever looked for beyond the
    end of its table, as a chain is in the table and a slot among the slots before anything names it. -/

namespace CommandScript

/-- The type of an argument, with the place of its chain. -/
def partsTypeIndexed (table : ChainTable) (parts : List CompiledPart) : Option String :=
  match parts with
  | [.chain i] => return (← table[i]?).typeName
  | [.text s] => return (Value.ofLiteral s).typeName
  | _ => return "text"

/-- Compiling a tag, which may look beyond the end of a table. -/
abbrev Compiling.Indexing := OptionT Compiling

open Compiling (Indexing)

mutual

/-- Compiles an argument, with the place of its chain. -/
def compileArgumentIndexed (s : TagScope) : Argument → Indexing CompiledArgument
  | ⟨segments, _⟩ => do
    let parts ← compileSegmentsIndexed s segments
    let typeName ← found (partsTypeIndexed (← (get : Compiling ChainTable)) parts)
    return ⟨parts, typeName⟩

/-- Compiles the segments of an argument in turn. -/
def compileSegmentsIndexed (s : TagScope) : List Segment → Indexing (List CompiledPart)
  | [] => return []
  | segment :: rest => do
    let part ← compileSegmentIndexed s segment
    return part :: (← compileSegmentsIndexed s rest)

/-- Compiles a segment. -/
def compileSegmentIndexed (s : TagScope) : Segment → Indexing CompiledPart
  | .text t => return .text t
  | .tag t => return .chain (← compileTagIndexed s t)

/-- Compiles a tag, and says where its chain is. -/
def compileTagIndexed (s : TagScope) : Tag → Indexing Nat
  | ⟨parts, fallback⟩ => do
    let body := (Tag.mk parts fallback).bodyText
    let (start, rest) ← compilePartsIndexed s body parts
    let fallback ← compileOptionalIndexed s fallback
    let typeName :=
      match fallback with
      | some f => if f.typeName = rest.typeName then rest.typeName else "dynamic"
      | none => rest.typeName
    let key : ChainKey := ⟨start.base, start.slot, start.param, rest.keys, fallback.map (·.parts)⟩
    shareChain key.text ⟨start.start, rest.steps, fallback, body⟩ typeName

/-- Compiles the keys of a tag. -/
def compilePartsIndexed (s : TagScope) (body : String) : List Part → Indexing (CompiledStart × CompiledSteps)
  | [] => s.fail (.unknownBase "" body)
  | first :: rest => do
    let start ← compileStartIndexed s body first
    let steps ← compileStepsIndexed s body 1 start.typeName rest
    return (start, steps)

/-- Compiles the first key of a tag, with the place of the slot that it reads. -/
def compileStartIndexed (s : TagScope) (body : String) : Part → Indexing CompiledStart
  | ⟨key, param⟩ => do
    let key := Text.lower key
    match s.registries.bases.get? key with
    | none => s.fail (.unknownBase key body)
    | some base =>
      if base.readsSlot then
        match param.bind Argument.literal? with
        | none => s.fail (.badParam (.notLiteral key) body)
        | some name =>
          let name := Text.lower (Text.trim name)
          match s.lookup name with
          | none => s.fail (.unknownVariable name body)
          | some slot =>
            let typeName ← found (s.slots[slot]?.map (·.typeName))
            return ⟨.slot slot, key, some slot, none, typeName⟩
      else
        let param ← compileParamIndexed s body key base.param param
        let typeName ← s.returned base.returns param body
        return ⟨.base base param (s.preparation base.param), key, none, param.map (·.parts), typeName⟩

/-- Compiles the keys after the first. -/
def compileStepsIndexed (s : TagScope) (body : String) (index : Nat) (current : String) :
    List Part → Indexing CompiledSteps
  | [] => return ⟨[], [], current⟩
  | ⟨key, param⟩ :: rest => do
    let key := Text.lower key
    match s.registries.types.resolve? current key with
    | none => s.fail (.unknownSubTag index key current body)
    | some (owner, subTag) =>
      let adapt := if owner.name = current then id else s.creator owner.name
      let param ← compileParamIndexed s body key subTag.param param
      let typeName ← s.returned subTag.returns param body
      let more ← compileStepsIndexed s body (index + 1) typeName rest
      return ⟨⟨adapt, subTag, param, s.preparation subTag.param⟩ :: more.steps,
        (key, param.map (·.parts)) :: more.keys, more.typeName⟩

/-- Compiles the parameter of a key, which has to be there or not as the key asks. -/
def compileParamIndexed (s : TagScope) (body key : String) (rule : ParamRule) :
    Option Argument → Indexing (Option CompiledArgument)
  | none =>
    match rule with
    | .required _ => s.fail (.badParam (.missing key) body)
    | _ => return none
  | some a =>
    match rule with
    | .none => s.fail (.badParam (.unexpected key) body)
    | _ => do return some (← compileArgumentIndexed s a)

/-- Compiles an argument that may be missing. -/
def compileOptionalIndexed (s : TagScope) : Option Argument → Indexing (Option CompiledArgument)
  | none => return none
  | some a => do return some (← compileArgumentIndexed s a)

end

/-- Compiles an argument under a key. -/
def compileNamedIndexed (s : TagScope) (named : String × Argument) : Indexing (String × CompiledArgument) := do
  return (named.1, ← compileArgumentIndexed s named.2)

/-- Compiles the arguments of an instruction, and then those with keys. -/
def compileArguments (s : TagScope) (i : Instruction) :
    Compiling (List CompiledArgument × List (String × CompiledArgument)) := do
  let args ← i.args.mapM (compileArgument s)
  return (args, ← i.named.mapM (compileNamed s))

/-- Compiles the arguments of an instruction, with the places that their tags look at. -/
def compileArgumentsIndexed (s : TagScope) (i : Instruction) :
    Indexing (List CompiledArgument × List (String × CompiledArgument)) := do
  let args ← i.args.mapM (compileArgumentIndexed s)
  return (args, ← i.named.mapM (compileNamedIndexed s))

/-- Compiles the next instruction, with the places that its tags look at. -/
def Compilation.addIndexed (c : Compilation) (r : Registries) (i : Instruction) :
    OptionT (Except CompileError) Compilation := OptionT.mk do
  let c := c.leave c.entries.size
  match ← (compileArgumentsIndexed (c.tagScope r i.line) i).run.run c.table with
  | (none, _) => return none
  | (some (args, named), table) =>
    let d ← i.declaration r.commands (args.map (·.typeName))
    return some (c.extend r i args named table d)

/-- Compiles a list of instructions, with the places that are looked at. -/
def compileIndexed (r : Registries) (instructions : List Instruction) (predefined : List (String × String)) :
    OptionT (Except CompileError) Code := do
  let c ← instructions.foldlM (fun c i => c.addIndexed r i) (Compilation.start predefined)
  let finalNames := (c.scopes.getLast?.map (·.names)).getD []
  return ⟨c.entries, c.table.map (·.chain), c.slots, finalNames⟩

/-! ### Chains and slots that are there -/

theorem partsTypeIndexed_eq {table : ChainTable} {parts : List CompiledPart} (below : Below table.size parts) :
    partsTypeIndexed table parts = some (partsType table parts) := by
  rcases parts with _ | ⟨part, _ | ⟨_, _⟩⟩
  · rfl
  · cases part with
    | text s => rfl
    | chain i =>
      have lt : i < table.size := below i List.mem_cons_self
      have here : table[i]? = some table[i] := Array.getElem?_eq_getElem lt
      rw [partsTypeIndexed, partsType, here]
      rfl
  · cases part <;> rfl

/-- A scope in which every variable in sight has a slot. -/
def TagScope.Fits (s : TagScope) : Prop :=
  ∀ name slot, s.lookup name = some slot → slot < s.slots.size

/-- Compiling with places that comes to what it comes to without them, from any ranked table of `n` chains or more. -/
def Compiling.Within (n : Nat) (x : Indexing α) (y : Compiling α) : Prop :=
  ∀ table : ChainTable, Ranked table → n ≤ table.size →
    x.run.run table = (y.run table).map fun r => (some r.1, r.2)

namespace Compiling.Within

variable {n : Nat} {Q : Nat → α → Prop}

theorem lift (y : Compiling α) : Within n (liftM y) y := by
  intro table _ _
  show ((y >>= fun a => Pure.pure (some a)) : Compiling (Option α)).run table = _
  rw [StateT.run_bind]
  cases y.run table <;> rfl

theorem pure (x : α) : Within n (Pure.pure x) (Pure.pure x) :=
  fun _ _ _ => rfl

theorem fail (s : TagScope) (f : CompileFault) : Within n (s.fail f : Compiling (Option α)) (s.fail f) :=
  fun _ _ _ => rfl

theorem bind {x : Indexing α} {y : Compiling α} {f : α → Indexing β} {g : α → Compiling β} (hx : Within n x y)
    (ranks : Ranks n y Q) (hf : ∀ a k, n ≤ k → Q k a → Within k (f a) (g a)) : Within n (x >>= f) (y >>= g) := by
  intro table ranked le
  rw [OptionT.run_bind, Option.elimM, StateT.run_bind, StateT.run_bind, hx table ranked le]
  cases hy : y.run table with
  | error e => rfl
  | ok r =>
    obtain ⟨ranked, grown, fits⟩ := ranks table ranked le r.1 r.2 hy
    exact hf r.1 r.2.size (Nat.le_trans le grown) fits r.2 ranked (Nat.le_refl _)

/-- What is done first, and looks at no place. -/
theorem first {y : Compiling α} {f : α → Indexing β} {g : α → Compiling β} (ranks : Ranks n y Q)
    (hf : ∀ a k, n ≤ k → Q k a → Within k (f a) (g a)) : Within n (liftM y >>= f) (y >>= g) :=
  (lift y).bind ranks hf

/-- What is found where it is looked for. -/
theorem finds {o : Option α} {a : α} {f : α → Indexing β} {g : Compiling β} (ho : o = some a)
    (hf : Within n (f a) g) : Within n (found o >>= f) g := by
  subst ho
  exact hf

theorem mapM {f : α → Indexing β} {g : α → Compiling β} {R : Nat → β → Prop} (ranks : ∀ x k, Ranks k (g x) R)
    (mono : ∀ {k l y}, k ≤ l → R k y → R l y) (hf : ∀ x k, Within k (f x) (g x)) (xs : List α) :
    Within n (xs.mapM f) (xs.mapM g) := by
  induction xs generalizing n with
  | nil => exact pure _
  | cons x rest ih =>
    rw [List.mapM_cons, List.mapM_cons]
    exact (hf x n).bind (ranks x n) fun y k _ _ => ih.bind (Ranks.mapM ranks mono rest) fun ys l _ _ => pure _

end Compiling.Within

open Compiling

section
variable {s : TagScope}

mutual

theorem compileArgument_within (fits : s.Fits) (n : Nat) : ∀ a : Argument,
    Within n (compileArgumentIndexed s a) (compileArgument s a)
  | ⟨segments, _⟩ => by
    rw [compileArgumentIndexed, compileArgument]
    refine (compileSegments_within fits n segments).bind (compileSegments_ranks s n segments)
      fun parts k _ below => ?_
    intro table ranked le
    show ((found (partsTypeIndexed table parts) >>= fun typeName => pure ⟨parts, typeName⟩ :
      Indexing CompiledArgument).run).run table = _
    rw [partsTypeIndexed_eq (below.mono le)]
    rfl

theorem compileSegments_within (fits : s.Fits) (n : Nat) : ∀ segments : List Segment,
    Within n (compileSegmentsIndexed s segments) (compileSegments s segments)
  | [] => by
    rw [compileSegmentsIndexed, compileSegments]
    exact .pure _
  | segment :: rest => by
    rw [compileSegmentsIndexed, compileSegments]
    refine (compileSegment_within fits n segment).bind (compileSegment_ranks s n segment) fun part k _ _ => ?_
    exact (compileSegments_within fits k rest).bind (compileSegments_ranks s k rest) fun parts l _ _ => .pure _

theorem compileSegment_within (fits : s.Fits) (n : Nat) : ∀ segment : Segment,
    Within n (compileSegmentIndexed s segment) (compileSegment s segment)
  | .text _ => by
    rw [compileSegmentIndexed, compileSegment]
    exact .pure _
  | .tag t => by
    rw [compileSegmentIndexed, compileSegment]
    exact (compileTag_within fits n t).bind (compileTag_ranks s n t) fun i k _ _ => .pure _

theorem compileTag_within (fits : s.Fits) (n : Nat) : ∀ t : Tag, Within n (compileTagIndexed s t) (compileTag s t)
  | ⟨parts, fallback⟩ => by
    rw [compileTagIndexed, compileTag]
    refine (compileParts_within fits n _ parts).bind (compileParts_ranks s n _ parts) fun x k _ _ => ?_
    refine (compileOptional_within fits k fallback).bind (compileOptional_ranks s k fallback) fun fallback l _ _ => ?_
    exact .lift _

theorem compileParts_within (fits : s.Fits) (n : Nat) (body : String) : ∀ parts : List Part,
    Within n (compilePartsIndexed s body parts) (compileParts s body parts)
  | [] => by
    rw [compilePartsIndexed, compileParts]
    exact .fail s _
  | first :: rest => by
    rw [compilePartsIndexed, compileParts]
    refine (compileStart_within fits n body first).bind (compileStart_ranks s n body first) fun start k _ _ => ?_
    exact (compileSteps_within fits k body 1 start.typeName rest).bind
      (compileSteps_ranks s k body 1 start.typeName rest) fun steps l _ _ => .pure _

theorem compileStart_within (fits : s.Fits) (n : Nat) (body : String) : ∀ first : Part,
    Within n (compileStartIndexed s body first) (compileStart s body first)
  | ⟨key, param⟩ => by
    rw [compileStartIndexed, compileStart]
    dsimp only
    cases s.registries.bases.get? (Text.lower key) with
    | none => exact .fail s _
    | some base =>
      dsimp only
      split
      · cases param.bind Argument.literal? with
        | none => exact .fail s _
        | some name =>
          dsimp only
          cases known : s.lookup (Text.lower (Text.trim name)) with
          | none => exact .fail s _
          | some slot =>
            have lt : slot < s.slots.size := fits _ _ known
            have here : s.slots[slot]? = some s.slots[slot] := Array.getElem?_eq_getElem lt
            dsimp only
            rw [here]
            exact .finds rfl (.pure _)
      · refine (compileParam_within fits n body _ base.param param).bind
          (compileParam_ranks s n body _ base.param param) fun param k _ _ => ?_
        exact .first (Ranks.returned s base.returns param body) fun t l _ _ => .pure _

theorem compileSteps_within (fits : s.Fits) (n : Nat) (body : String) (index : Nat) (current : String) :
    ∀ parts : List Part,
      Within n (compileStepsIndexed s body index current parts) (compileSteps s body index current parts)
  | [] => by
    rw [compileStepsIndexed, compileSteps]
    exact .pure _
  | ⟨key, param⟩ :: rest => by
    rw [compileStepsIndexed, compileSteps]
    dsimp only
    cases s.registries.types.resolve? current (Text.lower key) with
    | none => exact .fail s _
    | some found =>
      obtain ⟨owner, subTag⟩ := found
      refine (compileParam_within fits n body _ subTag.param param).bind
        (compileParam_ranks s n body _ subTag.param param) fun param k _ _ => ?_
      refine .first (Ranks.returned s subTag.returns param body) fun t l _ _ => ?_
      exact (compileSteps_within fits l body (index + 1) t rest).bind (compileSteps_ranks s l body (index + 1) t rest)
        fun more m _ _ => .pure _

theorem compileParam_within (fits : s.Fits) (n : Nat) (body key : String) (rule : ParamRule) :
    ∀ param : Option Argument,
      Within n (compileParamIndexed s body key rule param) (compileParam s body key rule param)
  | none => by
    unfold compileParamIndexed compileParam
    cases rule with
    | required _ => exact .fail s _
    | none | optional _ => exact .pure _
  | some a => by
    unfold compileParamIndexed compileParam
    cases rule with
    | none => exact .fail s _
    | required _ | optional _ =>
      exact (compileArgument_within fits n a).bind (compileArgument_ranks s n a) fun c k _ _ => .pure _

theorem compileOptional_within (fits : s.Fits) (n : Nat) : ∀ a : Option Argument,
    Within n (compileOptionalIndexed s a) (compileOptional s a)
  | none => by
    rw [compileOptionalIndexed, compileOptional]
    exact .pure _
  | some a => by
    rw [compileOptionalIndexed, compileOptional]
    exact (compileArgument_within fits n a).bind (compileArgument_ranks s n a) fun c k _ _ => .pure _

end

theorem compileNamed_within (fits : s.Fits) (n : Nat) (named : String × Argument) :
    Within n (compileNamedIndexed s named) (compileNamed s named) :=
  (compileArgument_within fits n named.2).bind (compileArgument_ranks s n named.2) fun _ _ _ _ => .pure _

end

/-! ### Instructions -/

theorem Compilation.Fits.tagScope {c : Compilation} (h : c.Fits) (r : Registries) (line : Nat) :
    (c.tagScope r line).Fits :=
  fun _ _ hs => h.lookup hs

theorem compileArguments_within {s : TagScope} (fits : s.Fits) (n : Nat) (i : Instruction) :
    Within n (compileArgumentsIndexed s i) (compileArguments s i) := by
  have argRanks := fun a k => compileArgument_ranks s k a
  have namedRanks := fun a k => compileNamed_ranks s k a
  have args : ∀ k, Within k _ _ := fun _ => Within.mapM argRanks (fun le below => below.mono le)
    (fun a k => compileArgument_within fits k a) i.args
  have named : ∀ k, Within k _ _ := fun _ => Within.mapM namedRanks (fun le below => below.mono le)
    (fun a k => compileNamed_within fits k a) i.named
  refine (args n).bind (Ranks.mapM argRanks (fun le below => below.mono le) i.args) fun _ k _ _ => ?_
  exact (named k).bind (Ranks.mapM namedRanks (fun le below => below.mono le) i.named) fun _ _ _ _ => .pure _

namespace Compilation

theorem add_eq_compileArguments (c : Compilation) (r : Registries) (i : Instruction) : c.add r i = do
    let ((args, named), table) ← (compileArguments ((c.leave c.entries.size).tagScope r i.line) i).run c.table
    let d ← i.declaration r.commands (args.map (·.typeName))
    return (c.leave c.entries.size).extend r i args named table d := by
  rw [add_eq, compileArguments, StateT.run_bind, bind_assoc]
  refine bind_congr fun args => ?_
  rw [StateT.run_bind, bind_assoc]
  rfl

/-- The next instruction is compiled without looking beyond the end of a table. -/
theorem Fits.addIndexed {c : Compilation} (h : c.Fits) (r : Registries) (i : Instruction) :
    InBounds (c.addIndexed r i) (c.add r i) := by
  have same := compileArguments_within ((h.leave c.entries.size).tagScope r i.line) 0 i c.table h.ranked
    (Nat.zero_le _)
  rw [add_eq_compileArguments]
  show Except.bind ((compileArgumentsIndexed ((c.leave c.entries.size).tagScope r i.line) i).run.run c.table) _ =
    Except.map some (Except.bind _ _)
  rw [same]
  cases (compileArguments ((c.leave c.entries.size).tagScope r i.line) i).run c.table with
  | error e => rfl
  | ok x =>
    obtain ⟨⟨args, named⟩, table⟩ := x
    show Except.bind (i.declaration r.commands (args.map (·.typeName))) _ =
      Except.map some (Except.bind (i.declaration r.commands (args.map (·.typeName))) _)
    cases i.declaration r.commands (args.map (·.typeName)) <;> rfl

end Compilation

/-- Compiling never looks beyond the end of a table, whatever an engine knows, whatever instructions are compiled and
    whatever variables are predefined. -/
theorem compileIndexed_inBounds (r : Registries) (instructions : List Instruction)
    (predefined : List (String × String)) :
    InBounds (compileIndexed r instructions predefined) (compile r instructions predefined) :=
  (InBounds.foldlM (fun _ i fits => fits.addIndexed r i) (fun _ _ _ fits added => fits.add added)
    (Compilation.Fits.start predefined)).bind fun _ _ => .pure _

end CommandScript
