import CommandScript.Proofs.Chains.Agreement

/-! How the chains of a table are made. A chain that starts at a slot starts at that of a variable in sight, and a
    sub-tag that asks for a parameter has one, and one that takes none has none; whoever adds a chain has looked for
    that. What holds of all chains so made holds of every chain of the table. -/

namespace CommandScript

/-- Whether a parameter is there if a rule asks for it, and not if the rule has none. -/
def ParamRule.Met (rule : ParamRule) (param : Option CompiledArgument) : Prop :=
  match rule with
  | .none => param = Option.none
  | .optional _ => True
  | .required _ => param.isSome = true

/-- Steps whose sub-tags have the parameters that they ask for. -/
def ParamsMet (steps : List ChainStep) : Prop :=
  ∀ step ∈ steps, step.subTag.param.Met step.param

/-- A table of chains whose sub-tags have the parameters that they ask for. -/
def ChainTable.ParamsMet (table : ChainTable) : Prop :=
  ∀ (i : Nat) (e : TableEntry), table[i]? = some e → CommandScript.ParamsMet e.chain.steps

/-- Where a chain may start in a scope: at the slot of a variable in sight, or at a base. -/
def TagScope.InSight (s : TagScope) (start : ChainStart) : Prop :=
  ∀ x, start = .slot x → ∃ name, s.lookup name = some x

/-- A chain as it is made in a scope. -/
structure Chain.MadeIn (s : TagScope) (c : Chain) : Prop where
  start : s.InSight c.start
  params : ParamsMet c.steps

/-- A table all of whose chains have a property. -/
def ChainTable.Each (K : Chain → Prop) (table : ChainTable) : Prop :=
  ∀ (i : Nat) (e : TableEntry), table[i]? = some e → K e.chain

/-! ### Compiling -/

/-- Compiling that adds chains with a property to a table of such chains, and whose result has another. -/
def Compiling.Meets {α : Type} (K : Chain → Prop) (Q : α → Prop) (x : Compiling α) : Prop :=
  ∀ table table' a, ChainTable.Each K table → x.run table = .ok (a, table') → ChainTable.Each K table' ∧ Q a

namespace Compiling.Meets

variable {α β : Type} {K : Chain → Prop} {Q : α → Prop} {R : β → Prop}

theorem pure {a : α} (h : Q a) : Meets K Q (Pure.pure a : Compiling α) := by
  intro table table' b met hrun
  cases hrun
  exact ⟨met, h⟩

theorem fail (s : TagScope) (f : CompileFault) : Meets K Q (s.fail f) := by
  intro table table' b met hrun
  exact absurd hrun run_fail_ne_ok

theorem bind {x : Compiling α} {f : α → Compiling β} (hx : Meets K Q x) (hf : ∀ a, Q a → Meets K R (f a)) :
    Meets K R (x >>= f) := by
  intro table table' b met hrun
  obtain ⟨a, between, ha, hb⟩ := run_bind_eq_ok.mp hrun
  obtain ⟨met', q⟩ := hx table between a met ha
  exact hf a q between table' b met' hb

/-- What only makes up a result of another adds no chain. -/
theorem then_pure {x : Compiling α} {f : α → β} (hx : Meets K Q x) (h : ∀ a, Q a → R (f a)) :
    Meets K R (x >>= fun a => Pure.pure (f a)) :=
  hx.bind fun a q => pure (h a q)

theorem returned {s : TagScope} {returns : Returns} {param : Option CompiledArgument} {body : String} :
    Meets K (fun _ => True) (s.returned returns param body) := by
  intro table table' t met hrun
  obtain ⟨-, rfl⟩ := run_returned_eq_ok hrun
  exact ⟨met, trivial⟩

theorem shareChain {key typeName : String} {c : Chain} (h : K c) :
    Meets K (fun _ => True) (CommandScript.shareChain key c typeName) := by
  intro table table' i met hrun
  refine ⟨fun j e he => ?_, trivial⟩
  rcases shareChain_eq_ok hrun with ⟨-, -, -, rfl⟩ | ⟨-, rfl⟩
  · exact met j e he
  · rw [Array.getElem?_push] at he
    split at he
    · cases he
      exact h
    · exact met j e he

theorem mapM {f : α → Compiling β} (h : ∀ a, Meets K (fun _ => True) (f a)) :
    ∀ as : List α, Meets K (fun _ => True) (as.mapM f)
  | [] => by
    rw [List.mapM_nil]
    exact pure trivial
  | a :: rest => by
    rw [List.mapM_cons]
    exact (h a).bind fun b _ => (mapM h rest).then_pure fun _ _ => trivial

end Compiling.Meets

open Compiling

section
variable {s : TagScope} {K : Chain → Prop}

mutual

/-- What holds of the chains that are made in a scope holds of those that compiling adds. -/
theorem compileArgument_meets (made : ∀ c : Chain, c.MadeIn s → K c) : ∀ a : Argument,
    Meets K (fun _ => True) (compileArgument s a)
  | ⟨segments, _⟩ => by
    rw [compileArgument]
    refine (compileSegments_meets made segments).bind fun parts _ => ?_
    intro table table' a met hrun
    cases hrun
    exact ⟨met, trivial⟩

theorem compileSegments_meets (made : ∀ c : Chain, c.MadeIn s → K c) : ∀ segments : List Segment,
    Meets K (fun _ => True) (compileSegments s segments)
  | [] => by
    rw [compileSegments]
    exact Meets.pure trivial
  | segment :: rest => by
    rw [compileSegments]
    exact (compileSegment_meets made segment).bind fun part _ =>
      (compileSegments_meets made rest).then_pure fun _ _ => trivial

theorem compileSegment_meets (made : ∀ c : Chain, c.MadeIn s → K c) : ∀ segment : Segment,
    Meets K (fun _ => True) (compileSegment s segment)
  | .text _ => by
    rw [compileSegment]
    exact Meets.pure trivial
  | .tag t => by
    rw [compileSegment]
    exact (compileTag_meets made t).then_pure fun _ _ => trivial

theorem compileTag_meets (made : ∀ c : Chain, c.MadeIn s → K c) : ∀ t : Tag,
    Meets K (fun _ => True) (compileTag s t)
  | ⟨parts, fallback⟩ => by
    rw [compileTag]
    refine (compileParts_meets made _ parts).bind fun ⟨start, steps⟩ ⟨sight, params⟩ => ?_
    exact (compileOptional_meets made fallback).bind fun f _ => Meets.shareChain (made _ ⟨sight, params⟩)

theorem compileParts_meets (made : ∀ c : Chain, c.MadeIn s → K c) (body : String) : ∀ parts : List Part,
    Meets K (fun c => s.InSight c.1.start ∧ ParamsMet c.2.steps) (compileParts s body parts)
  | [] => by
    rw [compileParts]
    exact Meets.fail s _
  | first :: rest => by
    rw [compileParts]
    exact (compileStart_meets made body first).bind fun start sight =>
      (compileSteps_meets made body 1 start.typeName rest).then_pure fun _ params => ⟨sight, params⟩

theorem compileStart_meets (made : ∀ c : Chain, c.MadeIn s → K c) (body : String) : ∀ first : Part,
    Meets K (fun c => s.InSight c.start) (compileStart s body first)
  | ⟨key, param⟩ => by
    rw [compileStart]
    dsimp only
    cases s.registries.bases.get? (Text.lower key) with
    | none => exact Meets.fail s _
    | some base =>
      dsimp only
      split
      · split
        · exact Meets.fail s _
        · split
          · exact Meets.fail s _
          · rename_i slot here
            refine Meets.pure fun x hx => ?_
            cases hx
            exact ⟨_, here⟩
      · refine (compileParam_meets made body (Text.lower key) base.param param).bind fun param _ =>
          Meets.returned.then_pure fun _ _ x hx => ?_
        cases hx

theorem compileSteps_meets (made : ∀ c : Chain, c.MadeIn s → K c) (body : String) (index : Nat) (current : String) :
    ∀ parts : List Part, Meets K (fun c => ParamsMet c.steps) (compileSteps s body index current parts)
  | [] => by
    rw [compileSteps]
    exact Meets.pure fun step hs => absurd hs List.not_mem_nil
  | ⟨key, param⟩ :: rest => by
    rw [compileSteps]
    dsimp only
    cases s.registries.types.resolve? current (Text.lower key) with
    | none => exact Meets.fail s _
    | some found =>
      obtain ⟨owner, subTag⟩ := found
      refine (compileParam_meets made body (Text.lower key) subTag.param param).bind fun param hparam => ?_
      refine Meets.returned.bind fun typeName _ => ?_
      refine (compileSteps_meets made body (index + 1) typeName rest).then_pure fun more hmore => ?_
      exact List.forall_mem_cons.mpr ⟨hparam, hmore⟩

theorem compileParam_meets (made : ∀ c : Chain, c.MadeIn s → K c) (body key : String) (rule : ParamRule) :
    ∀ param : Option Argument, Meets K rule.Met (compileParam s body key rule param)
  | none => by
    unfold compileParam
    cases rule with
    | required _ => exact Meets.fail s _
    | none => exact Meets.pure rfl
    | optional _ => exact Meets.pure trivial
  | some a => by
    unfold compileParam
    cases rule with
    | none => exact Meets.fail s _
    | required _ => exact (compileArgument_meets made a).then_pure fun _ _ => rfl
    | optional _ => exact (compileArgument_meets made a).then_pure fun _ _ => trivial

theorem compileOptional_meets (made : ∀ c : Chain, c.MadeIn s → K c) : ∀ a : Option Argument,
    Meets K (fun _ => True) (compileOptional s a)
  | none => by
    rw [compileOptional]
    exact Meets.pure trivial
  | some a => by
    rw [compileOptional]
    exact (compileArgument_meets made a).then_pure fun _ _ => trivial

end

end

/-! ### Instructions -/

namespace Compilation
variable {r : Registries} {c c' : Compilation} {i : Instruction}

/-- What holds of the chains that are made where an instruction stands is kept by adding the instruction. -/
theorem add_each {K : Chain → Prop}
    (made : ∀ chain : Chain, chain.MadeIn ((c.leave c.entries.size).tagScope r i.line) → K chain)
    (each : c.table.Each K) (h : c.add r i = .ok c') : c'.table.Each K := by
  obtain ⟨args, table, named, table', d, hargs, hnamed, -, rfl⟩ := add_eq_ok h
  have namedMeets : ∀ a : String × Argument, Meets K (fun _ => True)
      (compileNamed ((c.leave c.entries.size).tagScope r i.line) a) := fun a =>
    (compileArgument_meets made a.2).then_pure fun _ _ => trivial
  have first := (Meets.mapM (compileArgument_meets made) i.args _ _ _ each hargs).1
  have second := (Meets.mapM namedMeets i.named _ _ _ first hnamed).1
  show ((c.leave c.entries.size).declared i table' d).2.table.Each K
  rw [declared_table]
  exact second

theorem add_paramsMet (met : c.table.ParamsMet) (h : c.add r i = .ok c') : c'.table.ParamsMet :=
  add_each (fun _ made => made.params) met h

end Compilation

theorem paramsMet_of_foldlM {r : Registries} {predefined : List (String × String)} {is : List Instruction}
    {c : Compilation} (h : is.foldlM (fun c i => c.add r i) (Compilation.start predefined) = .ok c) :
    c.table.ParamsMet := by
  refine foldlM_keeps (fun c => c.table.ParamsMet) (fun c i c' met hadd => Compilation.add_paramsMet met hadd) ?_ h
  rw [(start_empty predefined).2]
  intro i e he
  cases he

end CommandScript
