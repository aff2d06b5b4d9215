import CommandScript.Proofs.Typing.Chains

/-! Compiled chains are sound for their static types, in whatever slots they are evaluated that have values of their
    types. The one thing that may give a value of another type is a fallback that is plain text: its type is read off
    the text, but its value is text. -/

namespace CommandScript

/-- Slots with values of the types that are declared for them. A slot that is not there is `null`. -/
def SlotsTyped (declared : Array Slot) (slots : Array Value) : Prop :=
  ∀ (i : Nat) (s : Slot), declared[i]? = some s → (slots[i]?.getD .null).HasType s.typeName

/-- The chains that instructions are compiled to, with their static types. -/
def chainTable (r : Registries) (instructions : List Instruction) (predefined : List (String × String)) :
    Except CompileError ChainTable := do
  let c ← instructions.foldlM (fun c i => c.add r i) (Compilation.start predefined)
  return c.table

/-- A chain that keeps to its static types when it is evaluated. -/
structure TableEntry.KeepsTypes (r : Registries) (declared : Array Slot) (env : Environment) (e : TableEntry) :
    Prop where
  /-- There is a static type for each position. -/
  typed {k : Nat} : k ≤ e.chain.steps.length → (e.chain.typeAt? r declared k).isSome = true
  /-- The one at the end is that of the chain, but for its fallback. -/
  ends : (e.chain.typeAt? r declared e.chain.steps.length).map (Registries.typeOf · e.chain.fallback) =
    some e.typeName
  /-- The running value has the type of its position. -/
  value {k : Nat} {v : Value} {t : String} : e.chain.typeAt? r declared k = some t →
    (e.chain.upTo k).evaluateWith env.value env = .ok v → v.HasType t
  /-- Each sub-tag that is called gets what it asks for, and so needs no default. -/
  call {k : Nat} {step : ChainStep} {v : Value} {c : SubTagCall} : e.chain.steps[k]? = some step →
    (e.chain.upTo k).evaluateWith env.value env = .ok v → step.call env.value env v = .ok (some c) →
      ∃ t owner, e.chain.typeAt? r declared k = some t ∧
        r.types.resolve? t step.subTag.name = some (owner, step.subTag) ∧
        c.Fits owner.name step.subTag.param ∧ c.NoDefaults owner.name step.subTag.param
  /-- Each sub-tag is called so: what the call gives is the running value behind it. -/
  called {k : Nat} {step : ChainStep} : e.chain.steps[k]? = some step →
    (e.chain.upTo (k + 1)).evaluateWith env.value env = (do
      match ← step.call env.value env (← (e.chain.upTo k).evaluateWith env.value env) with
      | none => return .null
      | some call => faultIn e.chain.body (step.subTag.run call))

/-! ### Whole chains -/

section
variable {run : Nat → Except Failure Value} {env : Environment} {body : String} {v w : Value}

theorem faultIn_eq_ok {x : Except TagFault Value} : faultIn body x = .ok v ↔ x = .ok v := by
  cases x with
  | error e => exact ⟨fun h => (by cases h), fun h => (by cases h)⟩
  | ok w => exact ⟨fun h => (by cases h; rfl), fun h => (by cases h; rfl)⟩

variable (types : env.types = Registries.builtin.types.conversions)
include types

theorem StepsTyped.value_hasType {first last : String} {steps : List ChainStep}
    (h : StepsTyped .builtin first steps last) (hv : v.HasType first) (hw : stepsWith run env body v steps = .ok w) :
    w.HasType last := by
  induction h generalizing v with
  | nil t =>
    cases hw
    exact hv
  | cons typed _ ih =>
    rw [stepsWith_cons] at hw
    obtain ⟨call, hcall, hw⟩ := bind_eq_ok.mp hw
    cases call with
    | none =>
      cases hw
      exact Value.null_hasType _
    | some call =>
      obtain ⟨next, hnext, hw⟩ := bind_eq_ok.mp hw
      exact ih (typed.result_hasType types hcall (faultIn_eq_ok.mp hnext)) hw

theorem start_hasType {declared : Array Slot} {table : ChainTable} {name : String} {slot : Option Nat}
    {param : Option (List CompiledPart)} {start : ChainStart} {first : String}
    (h : Registries.builtin.startOf declared table name slot param = some (start, first))
    (slots : SlotsTyped declared env.slots) (hv : start.evaluateWith run env body = .ok v) : v.HasType first := by
  obtain ⟨base, hb, h⟩ := Option.bind_eq_some_iff.mp h
  split at h
  · obtain ⟨i, -, h⟩ := Option.bind_eq_some_iff.mp h
    obtain ⟨s, hs, h⟩ := Option.bind_eq_some_iff.mp h
    cases h
    cases hv
    exact slots i s hs
  · obtain ⟨t, ht, h⟩ := Option.bind_eq_some_iff.mp h
    cases h
    obtain ⟨p, -, hv⟩ := bind_eq_ok.mp hv
    have hv := faultIn_eq_ok.mp hv
    have word := builtin_bases_keepWord base (List.mem_of_find?_eq_some hb)
    rw [TagBase.KeepsWord] at word
    cases hret : base.returns with
    | fixed t' =>
      rw [hret] at word ht
      cases ht
      exact word p env.baseContext v types hv
    | special _ =>
      rw [hret] at word
      exact word.elim

end

theorem start_typeName? {r : Registries} {declared : Array Slot} {table : ChainTable} {name : String}
    {slot : Option Nat} {param : Option (List CompiledPart)} {start : ChainStart} {first : String}
    (h : r.startOf declared table name slot param = some (start, first)) :
    start.typeName? r declared = some first := by
  obtain ⟨base, -, h⟩ := Option.bind_eq_some_iff.mp h
  split at h
  · obtain ⟨i, -, h⟩ := Option.bind_eq_some_iff.mp h
    obtain ⟨s, hs, h⟩ := Option.bind_eq_some_iff.mp h
    cases h
    exact congrArg (Option.map _) hs
  · obtain ⟨t, ht, h⟩ := Option.bind_eq_some_iff.mp h
    cases h
    exact ht

/-- A chain of a table, with the static types at its start and behind its steps. -/
structure TableEntry.Typed (declared : Array Slot) (table : ChainTable) (i : Nat) (e : TableEntry)
    (first last : String) : Prop where
  start : e.chain.start.typeName? .builtin declared = some first
  startValue {run : Nat → Except Failure Value} {env : Environment} {body : String} {v : Value} :
    env.types = Registries.builtin.types.conversions → SlotsTyped declared env.slots →
      e.chain.start.evaluateWith run env body = .ok v → v.HasType first
  steps : StepsTyped .builtin first e.chain.steps last
  typeName : e.typeName = Registries.typeOf last e.chain.fallback
  fallback : ∀ a ∈ e.chain.fallback, a.typeName = partsType table a.parts ∧ Below i a.parts

section
variable {declared : Array Slot} {table : ChainTable} {i : Nat} {e : TableEntry} {first last : String}
  {env : Environment} {v : Value}

theorem typed_of_sound (sound : Sound .builtin declared table) (met : table.ParamsMet) (he : table[i]? = some e) :
    ∃ first last, e.Typed declared table i first last := by
  obtain ⟨k, -, -, before, hk⟩ := sound.keyed he
  have below := before_of_chainOf before hk
  obtain ⟨⟨start, first⟩, hstart, hk⟩ := Option.bind_eq_some_iff.mp hk
  obtain ⟨⟨steps, last⟩, hsteps, hk⟩ := Option.bind_eq_some_iff.mp hk
  have parts := Option.some.inj hk
  have hchain := congrArg Prod.fst parts
  have hstartEq : start = e.chain.start := congrArg Chain.start hchain
  have hstepsEq : steps = e.chain.steps := congrArg Chain.steps hchain
  have hfallback : k.fallback.map (argumentOf table) = e.chain.fallback := congrArg Chain.fallback hchain
  subst hstartEq hstepsEq
  refine ⟨first, last, start_typeName? hstart, fun types slots hv => start_hasType types hstart slots hv,
    stepsTyped_of_stepsOf hsteps (met i e he), ?_, fun a ha => ⟨?_, below.fallback a ha⟩⟩
  · rw [← hfallback]
    exact (congrArg Prod.snd parts).symm
  · rw [← hfallback] at ha
    obtain ⟨parts, -, rfl⟩ := Option.map_eq_some_iff.mp ha
    rfl

namespace TableEntry.Typed

theorem typeAt?_eq (h : e.Typed declared table i first last) (k : Nat) :
    e.chain.typeAt? .builtin declared k = Registries.builtin.typeAfter first e.chain.steps k := by
  rw [Chain.typeAt?, h.start, Option.bind_some]

theorem value_hasType (h : e.Typed declared table i first last)
    (types : env.types = Registries.builtin.types.conversions) (slots : SlotsTyped declared env.slots) {k : Nat}
    {t : String} (hsteps : StepsTyped .builtin first (e.chain.steps.take k) t)
    (hv : (e.chain.upTo k).evaluateWith env.value env = .ok v) : v.HasType t := by
  rw [Chain.evaluateWith_upTo] at hv
  obtain ⟨start, hstart, hv⟩ := bind_eq_ok.mp hv
  exact hsteps.value_hasType types (h.startValue types slots hstart) hv

theorem keepsTypes (h : e.Typed declared table i first last)
    (types : env.types = Registries.builtin.types.conversions) (slots : SlotsTyped declared env.slots) :
    e.KeepsTypes .builtin declared env where
  typed le := by
    obtain ⟨t, ht, -⟩ := h.steps.take le
    rw [h.typeAt?_eq, ht]
    rfl
  ends := by
    rw [h.typeAt?_eq, h.steps.typeAfter_length, h.typeName]
    rfl
  value {k v t} ht hv := by
    rw [h.typeAt?_eq] at ht
    have le : k ≤ e.chain.steps.length := by
      cases k with
      | zero => exact Nat.zero_le _
      | succ k =>
        obtain ⟨step, hstep, -⟩ := Option.bind_eq_some_iff.mp ht
        exact (List.getElem?_eq_some_iff.mp hstep).1
    obtain ⟨t', ht', hsteps⟩ := h.steps.take le
    cases ht.symm.trans ht'
    exact h.value_hasType types slots hsteps hv
  call {k step v c} hk hv hc := by
    obtain ⟨t, next, ht, hstep⟩ := h.steps.getElem? hk
    have le : k ≤ e.chain.steps.length := Nat.le_of_lt (List.getElem?_eq_some_iff.mp hk).1
    obtain ⟨t', ht', hsteps⟩ := h.steps.take le
    cases ht.symm.trans ht'
    obtain ⟨owner, hr, fits⟩ := hstep.call_fits (h.value_hasType types slots hsteps hv) hc
    exact ⟨t, owner, (h.typeAt?_eq k).trans ht, hr, fits, fits.noDefaults⟩
  called hk := Chain.evaluateWith_upTo_succ hk

end TableEntry.Typed

end

/-! ### Compiled code -/

/-- Compiled code has the chains of a table that is sound for the slots of the code. -/
theorem table_of_compile {instructions : List Instruction} {predefined : List (String × String)} {code : Code}
    (h : compile .builtin instructions predefined = .ok code) : ∃ table,
    chainTable .builtin instructions predefined = .ok table ∧ code.chains = table.map (·.chain) ∧
      Sound .builtin code.slots table ∧ table.ParamsMet := by
  obtain ⟨c, hfold, h⟩ := bind_eq_ok.mp h
  cases h
  obtain ⟨v, follows⟩ := follows_of_foldlM plainNames_builtin hfold
  exact ⟨c.table, bind_eq_ok.mpr ⟨c, hfold, rfl⟩, rfl, follows.sound, paramsMet_of_foldlM hfold⟩

/-- Every chain of compiled code keeps to its static types, in whatever it is evaluated whose slots do. -/
theorem compile_keepsTypes {instructions : List Instruction} {predefined : List (String × String)} {code : Code}
    (h : compile .builtin instructions predefined = .ok code) : ∃ table,
    chainTable .builtin instructions predefined = .ok table ∧ code.chains = table.map (·.chain) ∧
      ∀ slots vars, SlotsTyped code.slots slots → ∀ (i : Nat) (e : TableEntry), table[i]? = some e →
        e.KeepsTypes .builtin code.slots ⟨slots, vars, Registries.builtin.types.conversions, code.chains⟩ := by
  obtain ⟨table, htable, hchains, sound, met⟩ := table_of_compile h
  refine ⟨table, htable, hchains, fun slots vars typed i e he => ?_⟩
  obtain ⟨first, last, entry⟩ := typed_of_sound sound met he
  exact entry.keepsTypes rfl typed

/-! ### Source texts -/

/-- A source text as compiled, with its instructions and its chains. -/
def tableOfSource? (source : String) : Option (List Instruction × Code × ChainTable) := do
  let row ← (parseScript CommandRegistry.builtin source).toOption
  let code ← (compile .builtin row []).toOption
  let table ← (chainTable .builtin row []).toOption
  return (row, code, table)

theorem of_tableOfSource? {source : String} {p : List Instruction × Code × ChainTable → Bool}
    (h : (tableOfSource? source).any p = true) : ∃ row code table,
      parseScript CommandRegistry.builtin source = .ok row ∧ compile .builtin row [] = .ok code ∧
        chainTable .builtin row [] = .ok table ∧ p (row, code, table) = true := by
  obtain ⟨x, accepted, h⟩ := (Option.any_eq_true _ _).mp h
  obtain ⟨row, hrow, accepted⟩ := Option.bind_eq_some_iff.mp accepted
  obtain ⟨code, hcode, accepted⟩ := Option.bind_eq_some_iff.mp accepted
  obtain ⟨table, htable, accepted⟩ := Option.bind_eq_some_iff.mp accepted
  cases accepted
  exact ⟨row, code, table, toOption_eq_some.mp hrow, toOption_eq_some.mp hcode, toOption_eq_some.mp htable, h⟩

/-- A tag whose type changes on the way, with a tag for a parameter. -/
def mixedTag : String :=
  "define x 5; echo <\x7bvar[x].add[<\x7bvar[x]\x7d>].is_even.as[text].append[!]\x7d>"

theorem compile_keepsTypes_mixedTag : ∃ row code table, parseScript CommandRegistry.builtin mixedTag = .ok row ∧
    compile .builtin row [] = .ok code ∧ chainTable .builtin row [] = .ok table ∧
      table.toList.map (fun e => (List.range (e.chain.steps.length + 1)).map (e.chain.typeAt? .builtin code.slots)) =
        [[some "integer"], [some "integer", some "integer", some "boolean", some "text", some "text"]] ∧
      SlotsTyped code.slots #[.integer 5] ∧ ∀ (i : Nat) (e : TableEntry), table[i]? = some e →
        e.KeepsTypes .builtin code.slots ⟨#[.integer 5], [], Registries.builtin.types.conversions, code.chains⟩ := by
  have found : (tableOfSource? mixedTag).any (fun (_, code, table) =>
      table.toList.map (fun e => (List.range (e.chain.steps.length + 1)).map (e.chain.typeAt? .builtin code.slots)) =
        [[some "integer"], [some "integer", some "integer", some "boolean", some "text", some "text"]] &&
      code.slots.toList = [⟨"x", "integer"⟩]) = true := by
    decide +kernel
  obtain ⟨row, code, table, hp, hc, ht, found⟩ := of_tableOfSource? found
  simp only [Bool.and_eq_true, decide_eq_true_eq] at found
  obtain ⟨types, slots⟩ := found
  have typed : SlotsTyped code.slots #[.integer 5] := by
    intro i s hs
    rw [← Array.getElem?_toList, slots] at hs
    cases i with
    | zero =>
      cases hs
      exact Value.integer_hasType 5
    | succ i => cases hs
  obtain ⟨table', ht', -, keeps⟩ := compile_keepsTypes hc
  cases ht.symm.trans ht'
  exact ⟨row, code, table, hp, hc, ht, types, typed, keeps _ _ typed⟩

end CommandScript
