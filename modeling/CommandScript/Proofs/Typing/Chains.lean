import CommandScript.Proofs.Scoping.Lexical
import CommandScript.Proofs.Typing.Parameters
import CommandScript.Proofs.Typing.Values

/-! Chains keep to their static types. The running value has at each position the type that the compiler has found for
    it, so that a conversion is only left out where it would do nothing, and every sub-tag is called with what it asks
    for. -/

namespace CommandScript

/-! ### Calls of a chain -/

section
variable (run : Nat → Except Failure Value) (env : Environment)

/-- The call that a step makes on the running value. It makes none where that or the parameter is `null`. -/
def ChainStep.call (step : ChainStep) (value : Value) : Except Failure (Option SubTagCall) :=
  if value.isNull || (step.adapt value).isNull then .ok none
  else do
    let param ← paramWith run step.param step.prepare
    return if param.any Value.isNull then none else some ⟨step.adapt value, param, env.types⟩

/-- A chain goes on with what its next call gives. -/
theorem stepsWith_cons (body : String) (value : Value) (step : ChainStep) (rest : List ChainStep) :
    stepsWith run env body value (step :: rest) = (do
      match ← step.call run env value with
      | none => return .null
      | some call => stepsWith run env body (← faultIn body (step.subTag.run call)) rest) := by
  rw [stepsWith, ChainStep.call]
  by_cases hv : value.isNull = true
  · rw [if_pos hv, if_pos (by rw [hv, Bool.true_or])]
    rfl
  by_cases ha : (step.adapt value).isNull = true
  · rw [if_neg hv, if_pos ha, if_pos (by rw [ha, Bool.or_true])]
    rfl
  rw [if_neg hv, if_neg ha, if_neg (by rw [Bool.or_eq_true]; exact not_or.mpr ⟨hv, ha⟩), bind_assoc]
  refine bind_congr fun param => ?_
  cases param.any Value.isNull <;> rfl

theorem stepsWith_null (body : String) (steps : List ChainStep) : stepsWith run env body .null steps = .ok .null := by
  cases steps <;> rfl

theorem stepsWith_append (body : String) (value : Value) (steps rest : List ChainStep) :
    stepsWith run env body value (steps ++ rest) = (do
      stepsWith run env body (← stepsWith run env body value steps) rest) := by
  induction steps generalizing value with
  | nil => rfl
  | cons step steps ih =>
    rw [List.cons_append, stepsWith_cons, stepsWith_cons, bind_assoc]
    refine bind_congr fun call => ?_
    cases call with
    | none => exact (stepsWith_null run env body rest).symm
    | some call =>
      rw [bind_assoc]
      exact bind_congr fun next => ih next

end

section
variable {run : Nat → Except Failure Value} {env : Environment} {step : ChainStep} {v w : Value} {c : SubTagCall}

/-- A call that is made has a value and, if any, a parameter that is there. -/
theorem ChainStep.call_eq_some (h : step.call run env v = .ok (some c)) :
    (step.adapt v).isNull = false ∧ ∃ param, paramWith run step.param step.prepare = .ok param ∧
      param.any Value.isNull = false ∧ c = ⟨step.adapt v, param, env.types⟩ := by
  rw [ChainStep.call] at h
  split at h
  · cases h
  rename_i present
  obtain ⟨param, hparam, h⟩ := bind_eq_ok.mp h
  refine ⟨by simp_all, param, hparam, ?_⟩
  cases hnull : param.any Value.isNull with
  | true =>
    rw [hnull] at h
    cases h
  | false =>
    rw [hnull] at h
    cases h
    exact ⟨rfl, rfl⟩

end

/-! ### Static types along a chain -/

/-- The static type after a number of steps behind a value of the type `first`. -/
def Registries.typeAfter (r : Registries) (first : String) (steps : List ChainStep) : Nat → Option String
  | 0 => some first
  | k + 1 => steps[k]?.bind fun step => r.returned step.subTag.returns step.param

/-- The static type that a chain begins with: that of the slot, or what the base returns. -/
def ChainStart.typeName? (r : Registries) (slots : Array Slot) : ChainStart → Option String
  | slot i => slots[i]?.map (·.typeName)
  | base b param _ => r.returned b.returns param

/-- The static type of the running value of a chain after a number of steps. -/
def Chain.typeAt? (r : Registries) (slots : Array Slot) (c : Chain) (k : Nat) : Option String :=
  (c.start.typeName? r slots).bind fun first => r.typeAfter first c.steps k

/-- A chain that stops after a number of steps. -/
def Chain.upTo (c : Chain) (k : Nat) : Chain :=
  { c with steps := c.steps.take k, fallback := none }

section
variable {run : Nat → Except Failure Value} {env : Environment}

theorem Chain.evaluateWith_upTo (c : Chain) (k : Nat) : (c.upTo k).evaluateWith run env = (do
    stepsWith run env c.body (← c.start.evaluateWith run env c.body) (c.steps.take k)) := by
  rw [Chain.evaluateWith, Chain.upTo]
  dsimp only
  refine bind_congr fun first => ?_
  exact bind_pure _

/-- The running value behind a step is what the call of the step gives. -/
theorem Chain.evaluateWith_upTo_succ {c : Chain} {k : Nat} {step : ChainStep} (h : c.steps[k]? = some step) :
    (c.upTo (k + 1)).evaluateWith run env = (do
      match ← step.call run env (← (c.upTo k).evaluateWith run env) with
      | none => return .null
      | some call => faultIn c.body (step.subTag.run call)) := by
  rw [Chain.evaluateWith_upTo, Chain.evaluateWith_upTo, List.take_add_one, h, bind_assoc]
  refine bind_congr fun first => ?_
  rw [Option.toList_some, stepsWith_append]
  refine bind_congr fun value => ?_
  rw [stepsWith_cons]
  refine bind_congr fun call => ?_
  cases call with
  | none => rfl
  | some call => exact bind_pure _

end

/-- A step as it is compiled behind a value of the type `current`, with the type that it leads to. -/
structure StepTyped (r : Registries) (current : String) (step : ChainStep) (next : String) : Prop where
  owner : ∃ owner, r.types.resolve? current step.subTag.name = some (owner, step.subTag) ∧
    step.adapt = r.adapt owner.name current
  prepare : step.prepare = r.prepare step.subTag.param
  met : step.subTag.param.Met step.param
  returned : r.returned step.subTag.returns step.param = some next

/-- Steps as they are compiled behind a value of a type, with the type that they end with. -/
inductive StepsTyped (r : Registries) : String → List ChainStep → String → Prop
  | nil (t : String) : StepsTyped r t [] t
  | cons {current next last : String} {step : ChainStep} {rest : List ChainStep} :
      StepTyped r current step next → StepsTyped r next rest last → StepsTyped r current (step :: rest) last

section
variable {r : Registries} {first next last : String} {step : ChainStep} {steps : List ChainStep}

theorem typeAfter_cons (h : r.returned step.subTag.returns step.param = some next) (k : Nat) :
    r.typeAfter first (step :: steps) (k + 1) = r.typeAfter next steps k := by
  cases k with
  | zero => exact h
  | succ k => rfl

namespace StepsTyped

/-- The first steps lead to the type at their end. -/
theorem take (h : StepsTyped r first steps last) {k : Nat} (le : k ≤ steps.length) :
    ∃ t, r.typeAfter first steps k = some t ∧ StepsTyped r first (steps.take k) t := by
  induction h generalizing k with
  | nil t =>
    obtain rfl : k = 0 := Nat.le_zero.mp le
    exact ⟨t, rfl, .nil t⟩
  | @cons current next last step rest typed _ ih =>
    cases k with
    | zero => exact ⟨current, rfl, .nil current⟩
    | succ k =>
      obtain ⟨t, ht, hsteps⟩ := ih (Nat.le_of_succ_le_succ le)
      exact ⟨t, (typeAfter_cons typed.returned k).trans ht, .cons typed hsteps⟩

/-- The step at a position is compiled behind the type there. -/
theorem getElem? (h : StepsTyped r first steps last) {k : Nat} (hk : steps[k]? = some step) :
    ∃ t next, r.typeAfter first steps k = some t ∧ StepTyped r t step next := by
  induction h generalizing k with
  | nil t => cases hk
  | @cons current next last head rest typed _ ih =>
    cases k with
    | zero =>
      cases hk
      exact ⟨current, next, rfl, typed⟩
    | succ k =>
      obtain ⟨t, next', ht, hstep⟩ := ih hk
      exact ⟨t, next', (typeAfter_cons typed.returned k).trans ht, hstep⟩

theorem typeAfter_length (h : StepsTyped r first steps last) : r.typeAfter first steps steps.length = some last := by
  induction h with
  | nil t => rfl
  | cons typed _ ih => exact (typeAfter_cons typed.returned _).trans ih

end StepsTyped

theorem resolve?_name {types : TypeRegistry} {current key : String} {owner : TagType} {s : SubTag}
    (h : types.resolve? current key = some (owner, s)) : owner ∈ types.types ∧ s ∈ owner.subTags ∧ s.name = key :=
  resolveFrom_mem (fun _ ht => (TypeRegistry.get?_mem ht).1) h

/-- What the keys of a chain stand for are steps as they are compiled, if they have the parameters that they ask
    for. -/
theorem stepsTyped_of_stepsOf {table : ChainTable} {keys : List (String × Option (List CompiledPart))}
    (h : r.stepsOf table first keys = some (steps, last)) (met : ParamsMet steps) :
    StepsTyped r first steps last := by
  induction keys generalizing first steps with
  | nil =>
    cases h
    exact .nil _
  | cons key rest ih =>
    obtain ⟨⟨owner, subTag⟩, hr, h⟩ := Option.bind_eq_some_iff.mp h
    obtain ⟨t, ht, h⟩ := Option.bind_eq_some_iff.mp h
    obtain ⟨⟨more, last'⟩, hmore, h⟩ := Option.bind_eq_some_iff.mp h
    cases h
    obtain ⟨hstep, hrest⟩ := List.forall_mem_cons.mp met
    refine .cons ⟨⟨owner, ?_, rfl⟩, rfl, hstep, ht⟩ (ih hmore hrest)
    rw [(resolve?_name hr).2.2]
    exact hr

end

/-! ### One step -/

section
variable {run : Nat → Except Failure Value} {env : Environment} {current next : String} {step : ChainStep}
  {v w : Value} {c : SubTagCall}

theorem builtin_adapt_hasType {owner : String} (h : IsBuiltinType owner) (hv : v.HasType current) :
    (Registries.builtin.adapt owner current v).HasType owner := by
  rw [Registries.adapt]
  split
  · rename_i same
    rw [same]
    exact hv
  · exact builtin_convert_hasType h v

/-- What is asked for is what a parameter is made. -/
theorem StepTyped.param_fits (h : StepTyped .builtin current step next) {s : SubTag} (hs : s.AsksPlainly)
    (same : s = step.subTag) {param : Option Value} (hparam : paramWith run step.param step.prepare = .ok param)
    (present : param.any Value.isNull = false) :
    (step.subTag.param = .none → param = none) ∧ ∀ {t : String}, step.subTag.param.typeName? = some t →
      ∃ p, param = some p ∧ p.isNull = false ∧ p.typeName = t := by
  subst same
  have met := h.met
  have prepare := h.prepare
  rcases hs with hrule | ⟨t, hrule, builtin, known⟩
  · rw [hrule] at met
    refine ⟨fun _ => ?_, fun ht => ?_⟩
    · rw [met] at hparam
      cases hparam
      rfl
    · rw [hrule] at ht
      cases ht
  · rw [hrule] at met prepare
    obtain ⟨a, ha⟩ := Option.isSome_iff_exists.mp met
    rw [ha, prepare] at hparam
    obtain ⟨x, -, hparam⟩ := bind_eq_ok.mp hparam
    cases hparam
    refine ⟨fun hnone => ?_, fun {t'} ht => ?_⟩
    · rw [hrule] at hnone
      cases hnone
    · rw [hrule] at ht
      cases ht
      have typed : (Registries.builtin.prepare (.required t) x).HasType t := builtin_convert_hasType builtin x
      exact ⟨_, rfl, present, typed.typeName_eq present known⟩

/-- A step that is compiled behind a type calls its sub-tag on a value of the type with what that asks for. -/
theorem StepTyped.call_fits (h : StepTyped .builtin current step next) (hv : v.HasType current)
    (hc : step.call run env v = .ok (some c)) : ∃ owner, TypeRegistry.builtin.resolve? current step.subTag.name =
      some (owner, step.subTag) ∧ c.Fits owner.name step.subTag.param := by
  obtain ⟨owner, hr, hadapt⟩ := h.owner
  obtain ⟨ht, hs, -⟩ := resolve?_name hr
  obtain ⟨present, param, hparam, paramPresent, rfl⟩ := ChainStep.call_eq_some hc
  have adapted : (step.adapt v).HasType owner.name := by
    rw [hadapt]
    exact builtin_adapt_hasType ⟨owner, ht, rfl⟩ hv
  obtain ⟨noParam, hasParam⟩ := h.param_fits (builtin_askPlainly owner ht _ hs) rfl hparam paramPresent
  exact ⟨owner, hr, present, adapted.typeName_eq present (builtin_name_ne_dynamic ht hs), noParam, hasParam⟩

/-- An argument that is plain text has that text for its value. -/
theorem CompiledArgument.evaluateWith_of_literal? {a : CompiledArgument} {text : String}
    (h : a.literal? = some text) :
    a.evaluateWith run = .ok (.text text) := by
  rw [CompiledArgument.literal?] at h
  rw [CompiledArgument.evaluateWith]
  split at h
  · rename_i same
    cases h
    rw [same]
  · cases h

/-- What the call of a step gives has the type that the step leads to. For `as`, that is what the text of the parameter
    names, and the parameter is that text when it is called. -/
theorem StepTyped.result_hasType (h : StepTyped .builtin current step next)
    (types : env.types = Registries.builtin.types.conversions) (hc : step.call run env v = .ok (some c))
    (hw : step.subTag.run c = .ok w) : w.HasType next := by
  obtain ⟨owner, hr, -⟩ := h.owner
  obtain ⟨ht, hs, -⟩ := resolve?_name hr
  have word := builtin_keepWord owner ht _ hs
  have returned := h.returned
  rw [SubTag.KeepsWord] at word
  cases hret : step.subTag.returns with
  | fixed t =>
    rw [hret] at word returned
    cases returned
    exact word c w hw
  | special resolve =>
    rw [hret] at word returned
    obtain ⟨rfl, hrule, hrun⟩ := word
    rw [hrun] at hw
    cases hw
    have named := toOption_eq_some.mp returned
    obtain ⟨-, param, hparam, -, rfl⟩ := ChainStep.call_eq_some hc
    cases literal : step.param.bind CompiledArgument.literal? with
    | none =>
      rw [literal] at named
      cases named
    | some text =>
      rw [literal] at named
      obtain ⟨a, ha, plain⟩ := Option.bind_eq_some_iff.mp literal
      have prepared : param = some (.text text) := by
        rw [ha, paramWith, CompiledArgument.evaluateWith_of_literal? plain, h.prepare, hrule] at hparam
        cases hparam
        exact congrArg some (builtin_convert_eq_self (Value.text_hasType text))
      exact asResult_hasType (fun canonical => builtin_convert_hasType (isBuiltinType_of_canonicalName? canonical) _)
        types prepared named

end

end CommandScript
