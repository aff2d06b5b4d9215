import CommandScript.Proofs.Chains.Evaluation

/-! What the compiler makes of an argument has the value that the argument has when it is read from its source. By
    induction on the source: each tag comes to a chain of the table, new or there before, that has the value and the
    type of the tag. -/

namespace CommandScript

/-! ### Compiling step by step -/

theorem run_bind_eq_ok {α β : Type} {x : Compiling α} {f : α → Compiling β} {table table' : ChainTable} {b : β} :
    (x >>= f).run table = .ok (b, table') ↔
      ∃ a between, x.run table = .ok (a, between) ∧ (f a).run between = .ok (b, table') := by
  rw [StateT.run_bind]
  constructor
  · intro h
    obtain ⟨⟨a, between⟩, hx, hf⟩ := bind_eq_ok.mp h
    exact ⟨a, between, hx, hf⟩
  · rintro ⟨a, between, hx, hf⟩
    exact bind_eq_ok.mpr ⟨(a, between), hx, hf⟩

theorem run_fail_ne_ok {α : Type} {s : TagScope} {f : CompileFault} {table : ChainTable} {x : α × ChainTable} :
    (s.fail f : Compiling α).run table ≠ .ok x := by
  intro h
  cases h

theorem run_returned_eq_ok {s : TagScope} {returns : Returns} {param : Option CompiledArgument} {body t : String}
    {table table' : ChainTable} (h : (s.returned returns param body).run table = .ok (t, table')) :
    s.registries.returned returns param = some t ∧ table' = table := by
  cases returns with
  | fixed t' =>
    cases h
    exact ⟨rfl, rfl⟩
  | special resolve =>
    rw [TagScope.returned] at h
    rw [Registries.returned]
    cases hr : resolve (param.bind CompiledArgument.literal?) s.registries.types.conversions with
    | error f =>
      rw [hr] at h
      exact absurd h run_fail_ne_ok
    | ok t' =>
      rw [hr] at h
      cases h
      exact ⟨rfl, rfl⟩

theorem TagScope.creator_eq (s : TagScope) (typeName : String) :
    s.creator typeName = fun v => s.registries.types.convert v typeName := by
  funext v
  rw [creator, TypeRegistry.convert]
  cases s.registries.types.get? typeName <;> rfl

theorem TagScope.preparation_eq (s : TagScope) (rule : ParamRule) :
    s.preparation rule = s.registries.prepare rule := by
  funext v
  rw [preparation, Registries.prepare]
  cases rule.typeName? with
  | none => rfl
  | some t =>
    dsimp only
    rw [s.creator_eq]

theorem TagScope.adapt_eq (s : TagScope) (owner current : String) :
    (if owner = current then id else s.creator owner) = s.registries.adapt owner current := by
  funext v
  rw [Registries.adapt]
  by_cases h : owner = current
  · rw [if_pos h, if_pos h]
    rfl
  · rw [if_neg h, if_neg h, s.creator_eq]

/-- A chain is found by the text of its key, or added at the end of the table. -/
theorem shareChain_eq_ok {key typeName : String} {chain : Chain} {table table' : ChainTable} {i : Nat}
    (h : (shareChain key chain typeName).run table = .ok (i, table')) :
    (∃ e, table[i]? = some e ∧ e.key = key ∧ table' = table) ∨
      i = table.size ∧ table' = table.push ⟨key, chain, typeName⟩ := by
  rw [shareChain] at h
  obtain ⟨t, between, ht, h⟩ := run_bind_eq_ok.mp h
  cases ht
  cases hf : table.findIdx? (·.key == key) with
  | none =>
    rw [hf] at h
    cases h
    exact Or.inr ⟨rfl, rfl⟩
  | some j =>
    rw [hf] at h
    cases h
    obtain ⟨lt, hk, -⟩ := Array.findIdx?_eq_some_iff_getElem.mp hf
    exact Or.inl ⟨_, Array.getElem?_eq_getElem lt, eq_of_beq hk, rfl⟩

section
variable {s : TagScope} {body : String} {table table' : ChainTable}

/-- A parameter that its key admits is compiled as it stands. -/
theorem compileParam_eq_ok {key : String} {rule : ParamRule} {param : Option Argument} {c : Option CompiledArgument}
    (h : (compileParam s body key rule param).run table = .ok (c, table')) :
    (compileOptional s param).run table = .ok (c, table') := by
  unfold compileParam at h
  cases param with
  | none =>
    rw [compileOptional]
    cases rule with
    | required _ => exact absurd h run_fail_ne_ok
    | none | optional _ => exact h
  | some a =>
    rw [compileOptional]
    cases rule with
    | none => exact absurd h run_fail_ne_ok
    | required _ | optional _ => exact h

/-- A key after the first is a sub-tag that is found, with its parameter compiled. -/
theorem compileSteps_cons_eq_ok {index : Nat} {current : String} {part : Part} {rest : List Part} {c : CompiledSteps}
    (h : (compileSteps s body index current (part :: rest)).run table = .ok (c, table')) :
    ∃ owner subTag param between typeName more,
      s.registries.types.resolve? current (Text.lower part.key) = some (owner, subTag) ∧
      (compileOptional s part.param).run table = .ok (param, between) ∧
      s.registries.returned subTag.returns param = some typeName ∧
      (compileSteps s body (index + 1) typeName rest).run between = .ok (more, table') ∧
      c = ⟨⟨s.registries.adapt owner.name current, subTag, param, s.registries.prepare subTag.param⟩ :: more.steps,
        (Text.lower part.key, param.map (·.parts)) :: more.keys, more.typeName⟩ := by
  obtain ⟨key, param⟩ := part
  rw [compileSteps] at h
  dsimp only at h ⊢
  cases hr : s.registries.types.resolve? current (Text.lower key) with
  | none =>
    rw [hr] at h
    exact absurd h run_fail_ne_ok
  | some found =>
    obtain ⟨owner, subTag⟩ := found
    rw [hr] at h
    dsimp only at h
    obtain ⟨p, t₁, hp, h⟩ := run_bind_eq_ok.mp h
    obtain ⟨t, t₂, ht, h⟩ := run_bind_eq_ok.mp h
    obtain ⟨more, t₃, hmore, h⟩ := run_bind_eq_ok.mp h
    cases h
    obtain ⟨returned, rfl⟩ := run_returned_eq_ok ht
    refine ⟨owner, subTag, p, _, t, more, rfl, compileParam_eq_ok hp, returned, hmore, ?_⟩
    rw [s.adapt_eq, s.preparation_eq]

theorem compileTag_nil_ne_ok {fallback : Option Argument} {x : Nat × ChainTable} :
    (compileTag s ⟨[], fallback⟩).run table ≠ .ok x := by
  intro h
  rw [compileTag] at h
  obtain ⟨_, _, hparts, -⟩ := run_bind_eq_ok.mp h
  rw [compileParts] at hparts
  exact absurd hparts run_fail_ne_ok

/-- A tag is compiled key by key, then its fallback, and then it is given its chain. -/
theorem compileTag_cons_eq_ok {first : Part} {rest : List Part} {fallback : Option Argument} {i : Nat}
    (h : (compileTag s ⟨first :: rest, fallback⟩).run table = .ok (i, table')) :
    ∃ body start t₁ steps t₂ f t₃, body = (Tag.mk (first :: rest) fallback).bodyText ∧
      (compileStart s body first).run table = .ok (start, t₁) ∧
      (compileSteps s body 1 start.typeName rest).run t₁ = .ok (steps, t₂) ∧
      (compileOptional s fallback).run t₂ = .ok (f, t₃) ∧
      (shareChain (ChainKey.text ⟨start.base, start.slot, start.param, steps.keys, f.map (·.parts)⟩)
        ⟨start.start, steps.steps, f, body⟩ (Registries.typeOf steps.typeName f)).run t₃ = .ok (i, table') := by
  rw [compileTag] at h
  obtain ⟨⟨start, steps⟩, t₁, hparts, h⟩ := run_bind_eq_ok.mp h
  rw [compileParts] at hparts
  obtain ⟨start', t₂, hstart, hparts⟩ := run_bind_eq_ok.mp hparts
  obtain ⟨steps', t₃, hsteps, hparts⟩ := run_bind_eq_ok.mp hparts
  cases hparts
  obtain ⟨f, t₄, hf, h⟩ := run_bind_eq_ok.mp h
  exact ⟨_, start, t₂, steps, t₁, f, t₄, rfl, hstart, hsteps, hf, h⟩

end

/-! ### Scopes and environments -/

/-- A scope for compiling in which variables are found as `find` does, with their types. -/
structure TagScope.Finds (s : TagScope) (find : String → Option Variable) : Prop where
  lookup : ∀ name, s.lookup name = (find name).map (·.slot)
  typed : ∀ {name : String} {x : Variable}, find name = some x →
    ∃ slot, s.slots[x.slot]? = some slot ∧ slot.typeName = x.typeName

/-- An environment that has the chains of a table. -/
structure Environment.Holds (env : Environment) (r : Registries) (table : ChainTable) : Prop where
  ordered : env.Ordered
  types : env.types = r.types.conversions
  chain : ∀ {i : Nat} {e : TableEntry}, table[i]? = some e → env.chains[i]? = some e.chain

theorem Environment.Holds.mono {env : Environment} {r : Registries} {table table' : ChainTable}
    (h : env.Holds r table') (grows : Grows table table') : env.Holds r table :=
  ⟨h.ordered, h.types, fun hi => h.chain (grows.keeps hi)⟩

/-- Registries whose names can stand in the keys of chains. -/
structure Registries.PlainNames (r : Registries) : Prop where
  base : ∀ {name : String} {b : TagBase}, r.bases.get? name = some b → ChainKey.IsName name
  step : ∀ {current key : String} {x : TagType × SubTag}, r.types.resolve? current key = some x →
    ChainKey.IsName key

/-! ### Agreement -/

section
variable (s : Sight) (table : ChainTable)

/-- A chain with the type and the value of a tag. -/
structure TagAgrees (t : Tag) (i : Nat) : Prop where
  typed : ∃ e, table[i]? = some e ∧ s.tagType t = some e.typeName
  value : ∀ {env : Environment}, env.Holds s.registries table →
    (env.value i).toOption = s.tagValue s.registries.adapt env.slots env.vars t

/-- A part with what a segment has. -/
inductive SegmentAgrees : Segment → CompiledPart → Prop where
  | text (w : String) : SegmentAgrees (.text w) (.text w)
  | tag {t : Tag} {i : Nat} : TagAgrees s table t i → SegmentAgrees (.tag t) (.chain i)

/-- A compiled argument with what an argument has. -/
structure ArgumentAgrees (a : Argument) (c : CompiledArgument) : Prop where
  parts : List.Forall₂ (SegmentAgrees s table) a.segments c.parts
  typeName : c.typeName = partsType table c.parts

/-- The compiled beginning of a tag, with what its first key has. -/
structure StartAgrees (slots : Array Slot) (first : Part) (c : CompiledStart) : Prop where
  name : ChainKey.IsName c.base
  below : ∀ parts ∈ c.param, Below table.size parts
  resolved : s.registries.startOf slots table c.base c.slot c.param = some (c.start, c.typeName)
  typed : s.startType first = some c.typeName
  value : ∀ {env : Environment}, env.Holds s.registries table → ∀ body,
    (c.start.evaluateWith env.value env body).toOption = s.startValue s.registries.adapt env.slots env.vars first

/-- The compiled keys after the first, with what they have behind a value of the type `current`. -/
structure StepsAgree (current : String) (steps : List Part) (c : CompiledSteps) : Prop where
  names : ∀ step ∈ c.keys, ChainKey.IsName step.1
  below : ∀ step ∈ c.keys, ∀ parts ∈ step.2, Below table.size parts
  resolved : s.registries.stepsOf table current c.keys = some (c.steps, c.typeName)
  typed : s.stepsType current steps = some c.typeName
  value : ∀ {env : Environment}, env.Holds s.registries table → ∀ body v,
    (stepsWith env.value env body v c.steps).toOption =
      s.stepsValue s.registries.adapt env.slots env.vars current v steps

end

section
variable {s : Sight} {table table' : ChainTable}

theorem TagAgrees.mono {t : Tag} {i : Nat} (h : TagAgrees s table t i) (grows : Grows table table') :
    TagAgrees s table' t i := by
  obtain ⟨e, he, ht⟩ := h.typed
  exact ⟨⟨e, grows.keeps he, ht⟩, fun holds => h.value (holds.mono grows)⟩

theorem SegmentAgrees.mono {a : Segment} {p : CompiledPart} (h : SegmentAgrees s table a p)
    (grows : Grows table table') : SegmentAgrees s table' a p := by
  cases h with
  | text w => exact .text w
  | tag ht => exact .tag (ht.mono grows)

theorem below_of_segments {segments : List Segment} {parts : List CompiledPart}
    (h : List.Forall₂ (SegmentAgrees s table) segments parts) : Below table.size parts := by
  induction h with
  | nil => exact fun i hi => absurd hi List.not_mem_nil
  | cons h _ ih =>
    intro i hi
    rcases List.mem_cons.mp hi with rfl | hi
    · cases h with
      | tag ht =>
        obtain ⟨e, he, -⟩ := ht.typed
        exact (Array.getElem?_eq_some_iff.mp he).1
    · exact ih i hi

/-- The text of parts is that of their segments. -/
theorem joinParts_of_segments {segments : List Segment} {parts : List CompiledPart}
    (h : List.Forall₂ (SegmentAgrees s table) segments parts) {env : Environment}
    (holds : env.Holds s.registries table) :
    (joinParts env.value parts).toOption = s.segmentsText s.registries.adapt env.slots env.vars segments := by
  induction h with
  | nil => rfl
  | cons h _ ih =>
    cases h with
    | text w =>
      rw [joinParts, Sight.segmentsText, toOption_bind, ih, Option.map_eq_bind]
      rfl
    | tag ht =>
      rw [joinParts, Sight.segmentsText, toOption_bind, ht.value holds]
      refine Option.bind_congr fun v _ => ?_
      rw [toOption_bind, ih]
      rfl

/-- Segments and parts that agree: none, one text, one tag, or several. -/
theorem segments_cases {segments : List Segment} {parts : List CompiledPart}
    (h : List.Forall₂ (SegmentAgrees s table) segments parts) :
    (segments = [] ∧ parts = []) ∨ (∃ w, segments = [.text w] ∧ parts = [.text w]) ∨
    (∃ t i, TagAgrees s table t i ∧ segments = [.tag t] ∧ parts = [.chain i]) ∨
    ∃ a b more p q rest, segments = a :: b :: more ∧ parts = p :: q :: rest := by
  cases h with
  | nil => exact Or.inl ⟨rfl, rfl⟩
  | cons h hrest =>
    cases hrest with
    | nil =>
      cases h with
      | text w => exact Or.inr (Or.inl ⟨w, rfl, rfl⟩)
      | tag ht => exact Or.inr (Or.inr (Or.inl ⟨_, _, ht, rfl, rfl⟩))
    | cons _ _ => exact Or.inr (Or.inr (Or.inr ⟨_, _, _, _, _, _, rfl, rfl⟩))

namespace ArgumentAgrees
variable {a : Argument} {c : CompiledArgument}

theorem mono (h : ArgumentAgrees s table a c) (grows : Grows table table') : ArgumentAgrees s table' a c :=
  ⟨h.parts.imp fun _ _ hp => hp.mono grows,
    h.typeName.trans (grows.partsType_eq (below_of_segments h.parts)).symm⟩

theorem argumentOf_eq (h : ArgumentAgrees s table a c) : argumentOf table c.parts = c := by
  rw [argumentOf, ← h.typeName]

theorem typed (h : ArgumentAgrees s table a c) : s.argumentType a = some c.typeName := by
  rw [h.typeName]
  obtain ⟨segments, quoted⟩ := a
  rcases segments_cases h.parts with
    ⟨rfl, hp⟩ | ⟨w, rfl, hp⟩ | ⟨t, i, ht, rfl, hp⟩ | ⟨a, b, more, p, q, rest, rfl, hp⟩ <;> rw [hp]
  · rfl
  · rfl
  · obtain ⟨e, he, ht⟩ := ht.typed
    rw [Sight.argumentType, ht, partsType, he]
    rfl
  · cases a <;> cases p <;> rfl

theorem literal (h : ArgumentAgrees s table a c) : c.literal? = a.sole? := by
  rw [CompiledArgument.literal?]
  obtain ⟨segments, quoted⟩ := a
  rcases segments_cases h.parts with
    ⟨rfl, hp⟩ | ⟨w, rfl, hp⟩ | ⟨t, i, ht, rfl, hp⟩ | ⟨a, b, more, p, q, rest, rfl, hp⟩ <;> rw [hp]
  · rfl
  · rfl
  · rfl
  · cases a <;> cases p <;> rfl

/-- The value of a compiled argument is that of its source. -/
theorem value (h : ArgumentAgrees s table a c) {env : Environment} (holds : env.Holds s.registries table) :
    (c.evaluateWith env.value).toOption = s.argumentValue s.registries.adapt env.slots env.vars a := by
  have joined := joinParts_of_segments h.parts holds
  rw [CompiledArgument.evaluateWith]
  obtain ⟨segments, quoted⟩ := a
  rcases segments_cases h.parts with
    ⟨rfl, hp⟩ | ⟨w, rfl, hp⟩ | ⟨t, i, ht, rfl, hp⟩ | ⟨a, b, more, p, q, rest, rfl, hp⟩ <;> rw [hp] at joined ⊢
  · rfl
  · rw [Sight.argumentValue, ← joined]
    · simp [joinParts, Except.toOption]
    · intro t h
      cases h
  · exact ht.value holds
  · rw [Sight.argumentValue, ← joined, ← toOption_map]
    · cases p <;> rfl
    · intro t h
      cases h

end ArgumentAgrees

/-! ### Parameters -/

section
variable {p : Option Argument} {c : Option CompiledArgument}

theorem param_mono (h : Option.Rel (ArgumentAgrees s table) p c) (grows : Grows table table') :
    Option.Rel (ArgumentAgrees s table') p c := by
  cases h with
  | none => exact .none
  | some h => exact .some (h.mono grows)

theorem param_below (h : Option.Rel (ArgumentAgrees s table) p c) :
    ∀ parts ∈ c.map (·.parts), Below table.size parts := by
  intro parts hp
  cases h with
  | none => cases hp
  | some h =>
    cases hp
    exact below_of_segments h.parts

theorem param_argumentOf (h : Option.Rel (ArgumentAgrees s table) p c) :
    (c.map (·.parts)).map (argumentOf table) = c := by
  cases h with
  | none => rfl
  | some h => exact congrArg some h.argumentOf_eq

theorem param_returned (h : Option.Rel (ArgumentAgrees s table) p c) (returns : Returns) :
    s.returned returns p = s.registries.returned returns c := by
  have literal : c.bind CompiledArgument.literal? = p.bind Argument.sole? := by
    cases h with
    | none => rfl
    | some h => exact h.literal
  cases returns with
  | fixed t => rfl
  | special resolve => rw [Sight.returned, Registries.returned, literal]

theorem param_value (h : Option.Rel (ArgumentAgrees s table) p c) (rule : ParamRule) {env : Environment}
    (holds : env.Holds s.registries table) :
    (paramWith env.value c (s.registries.prepare rule)).toOption =
      s.paramValue s.registries.adapt env.slots env.vars rule p := by
  cases h with
  | none => rfl
  | some h =>
    rw [paramWith, Sight.paramValue, toOption_bind, h.value holds]
    rfl

end

theorem StartAgrees.mono {slots : Array Slot} {first : Part} {c : CompiledStart}
    (h : StartAgrees s table slots first c) (grows : Grows table table') : StartAgrees s table' slots first c where
  name := h.name
  below parts hp := (h.below parts hp).mono grows.size_le
  resolved := startOf_grows grows (fun hs => hs) h.below h.resolved
  typed := h.typed
  value holds := h.value (holds.mono grows)

theorem StepsAgree.mono {current : String} {steps : List Part} {c : CompiledSteps}
    (h : StepsAgree s table current steps c) (grows : Grows table table') : StepsAgree s table' current steps c where
  names := h.names
  below step hs parts hp := (h.below step hs parts hp).mono grows.size_le
  resolved := (stepsOf_grows grows h.below).trans h.resolved
  typed := h.typed
  value holds := h.value (holds.mono grows)

end

/-! ### The compiler -/

/-- What compiling does to the table. -/
structure Extends (s : TagScope) (table table' : ChainTable) : Prop where
  grows : Grows table table'
  sound : Sound s.registries s.slots table'

theorem Extends.trans {s : TagScope} {table table' table'' : ChainTable} (h : Extends s table table')
    (h' : Extends s table' table'') : Extends s table table'' :=
  ⟨h.grows.trans h'.grows, h'.sound⟩

/-- A chain that is what a key stands for is found as such, whether it is shared or added. -/
theorem shareChain_agrees {s : TagScope} {table table' : ChainTable} (sound : Sound s.registries s.slots table)
    {k : ChainKey} (plain : k.Plain) (before : k.Before table.size) {body typeName : String} {c : Chain}
    (hc : s.registries.chainOf s.slots table k body = some (c, typeName)) {i : Nat}
    (h : (shareChain k.text c typeName).run table = .ok (i, table')) :
    Extends s table table' ∧ ∃ e, table'[i]? = some e ∧ e.typeName = typeName ∧
      e.chain = { c with body := e.chain.body } := by
  rcases shareChain_eq_ok h with ⟨e, he, hkey, rfl⟩ | ⟨rfl, rfl⟩
  · obtain ⟨k', hk', plain', -, hc'⟩ := sound.keyed he
    obtain rfl : k' = k := ChainKey.text_injective plain' plain (hk'.symm.trans hkey)
    obtain ⟨hchain, htype⟩ := chainOf_body hc' hc
    exact ⟨⟨Grows.refl _, sound⟩, e, he, htype, hchain⟩
  · have grows : Grows table (table.push ⟨k.text, c, typeName⟩) := grows_push _
    refine ⟨⟨grows, ⟨fun {j e} he => ?_⟩⟩, _, Array.getElem?_push_size, rfl, rfl⟩
    rw [Array.getElem?_push] at he
    split at he
    · rename_i hj
      cases he
      subst hj
      have hbody : c.body = body := by
        obtain ⟨_, -, hc⟩ := Option.bind_eq_some_iff.mp hc
        obtain ⟨_, -, hc⟩ := Option.bind_eq_some_iff.mp hc
        cases hc
        rfl
      exact ⟨k, rfl, plain, before, hbody ▸ chainOf_grows grows (fun hs => hs) before hc⟩
    · exact sound.keyed_of_grows grows (fun hs => hs) he

section
variable {s : TagScope} {find : String → Option Variable}

theorem compileStart_slot {key : String} {param : Option Argument} {body : String} {base : TagBase}
    {table table' : ChainTable} {c : CompiledStart} (finds : s.Finds find) (plain : s.registries.PlainNames)
    (hb : s.registries.bases.get? (Text.lower key) = some base) (slot : base.readsSlot = true)
    (h : (compileStart s body ⟨key, param⟩).run table = .ok (c, table')) :
    table' = table ∧ StartAgrees ⟨s.registries, find⟩ table s.slots ⟨key, param⟩ c := by
  rw [compileStart] at h
  dsimp only at h
  rw [hb] at h
  dsimp only at h
  rw [if_pos slot] at h
  cases hl : param.bind Argument.literal? with
  | none =>
    rw [hl] at h
    exact absurd h run_fail_ne_ok
  | some name =>
    rw [hl] at h
    dsimp only at h
    rw [finds.lookup] at h
    cases hx : find (Text.lower (Text.trim name)) with
    | none =>
      rw [hx] at h
      exact absurd h run_fail_ne_ok
    | some x =>
      rw [hx] at h
      obtain ⟨y, hy, htype⟩ := finds.typed hx
      cases h
      have named : Sight.named ⟨s.registries, find⟩ param = some x := by
        rw [Sight.named, hl]
        exact hx
      refine ⟨rfl, plain.base hb, fun _ hp => (by cases hp), ?_, ?_, fun _ _ => ?_⟩
      · simp [Registries.startOf, hb, slot, hy]
      · simp [Sight.startType, hb, slot, named, hy, htype]
      · simp [ChainStart.evaluateWith, Sight.startValue, hb, slot, named, Except.toOption]

theorem start_agrees {key : String} {param : Option Argument} {base : TagBase} {table : ChainTable}
    {c : Option CompiledArgument} {typeName : String} (plain : s.registries.PlainNames)
    (hb : s.registries.bases.get? (Text.lower key) = some base) (noSlot : base.readsSlot = false)
    (agree : Option.Rel (ArgumentAgrees ⟨s.registries, find⟩ table) param c)
    (ht : s.registries.returned base.returns c = some typeName) :
    StartAgrees ⟨s.registries, find⟩ table s.slots ⟨key, param⟩
      ⟨.base base c (s.preparation base.param), Text.lower key, none, c.map (·.parts), typeName⟩ where
  name := plain.base hb
  below := param_below agree
  resolved := by
    rw [Registries.startOf, hb, param_argumentOf agree, s.preparation_eq]
    simp [noSlot, ht]
  typed := by
    rw [Sight.startType, hb]
    simp [noSlot, param_returned agree, ht]
  value := by
    intro env holds body
    rw [ChainStart.evaluateWith, s.preparation_eq, toOption_bind, param_value agree base.param holds,
      Sight.startValue, hb]
    simp only [noSlot, Option.bind_eq_bind, Option.bind_some, Bool.false_eq_true, if_false]
    refine Option.bind_congr fun p _ => ?_
    rw [toOption_faultIn, Environment.baseContext, holds.types]

theorem steps_agree {key current typeName : String} {param : Option Argument} {rest : List Part} {owner : TagType}
    {subTag : SubTag} {table : ChainTable} {c : Option CompiledArgument} {more : CompiledSteps}
    (plain : s.registries.PlainNames)
    (hr : s.registries.types.resolve? current (Text.lower key) = some (owner, subTag))
    (agree : Option.Rel (ArgumentAgrees ⟨s.registries, find⟩ table) param c)
    (ht : s.registries.returned subTag.returns c = some typeName)
    (ih : StepsAgree ⟨s.registries, find⟩ table typeName rest more) :
    StepsAgree ⟨s.registries, find⟩ table current (⟨key, param⟩ :: rest)
      ⟨⟨s.registries.adapt owner.name current, subTag, c, s.registries.prepare subTag.param⟩ :: more.steps,
        (Text.lower key, c.map (·.parts)) :: more.keys, more.typeName⟩ where
  names := by
    intro step hs
    rcases List.mem_cons.mp hs with rfl | hs
    · exact plain.step hr
    · exact ih.names step hs
  below := by
    intro step hs
    rcases List.mem_cons.mp hs with rfl | hs
    · exact param_below agree
    · exact ih.below step hs
  resolved := by
    rw [Registries.stepsOf, hr, param_argumentOf agree]
    simp [ht, ih.resolved]
  typed := by
    rw [Sight.stepsType, hr]
    simp [param_returned agree, ht, ih.typed]
  value := by
    intro env holds body v
    rw [stepsWith, Sight.stepsValue]
    by_cases hv : v.isNull = true
    · rw [if_pos hv, if_pos hv]
      rfl
    rw [if_neg hv, if_neg hv, hr]
    dsimp only [Option.bind_eq_bind, Option.bind_some]
    by_cases hw : (s.registries.adapt owner.name current v).isNull = true
    · rw [if_pos hw, if_pos hw]
      rfl
    rw [if_neg hw, if_neg hw, toOption_bind, param_value agree subTag.param holds]
    refine Option.bind_congr fun p _ => ?_
    by_cases hp : p.any Value.isNull = true
    · rw [if_pos hp, if_pos hp]
      rfl
    rw [if_neg hp, if_neg hp, toOption_bind, toOption_faultIn, holds.types]
    refine Option.bind_congr fun next _ => ?_
    rw [param_returned agree, ht]
    exact ih.value holds body next

/-- The chain that a tag is given is the one put together from its keys and its fallback, but for the source form. -/
theorem tag_shared {first : Part} {rest : List Part} {fallback : Option Argument} {body : String}
    {table table' : ChainTable} {start : CompiledStart} {steps : CompiledSteps}
    {f : Option CompiledArgument} {i : Nat} (sound : Sound s.registries s.slots table)
    (hstart : StartAgrees ⟨s.registries, find⟩ table s.slots first start)
    (hsteps : StepsAgree ⟨s.registries, find⟩ table start.typeName rest steps)
    (hf : Option.Rel (ArgumentAgrees ⟨s.registries, find⟩ table) fallback f)
    (h : (shareChain (ChainKey.text ⟨start.base, start.slot, start.param, steps.keys, f.map (·.parts)⟩)
      ⟨start.start, steps.steps, f, body⟩ (Registries.typeOf steps.typeName f)).run table = .ok (i, table')) :
    Extends s table table' ∧ ∃ e, table'[i]? = some e ∧ e.typeName = Registries.typeOf steps.typeName f ∧
      e.chain = { (⟨start.start, steps.steps, f, body⟩ : Chain) with body := e.chain.body } := by
  have hc : s.registries.chainOf s.slots table
      ⟨start.base, start.slot, start.param, steps.keys, f.map (·.parts)⟩ body =
        some (⟨start.start, steps.steps, f, body⟩, Registries.typeOf steps.typeName f) := by
    rw [Registries.chainOf]
    dsimp only
    rw [hstart.resolved, param_argumentOf hf]
    simp [hsteps.resolved]
  exact shareChain_agrees sound ⟨hstart.name, hsteps.names⟩ ⟨hstart.below, hsteps.below, param_below hf⟩ hc h

theorem tag_agrees {first : Part} {rest : List Part} {fallback : Option Argument} {body : String}
    {table table' : ChainTable} {start : CompiledStart} {steps : CompiledSteps}
    {f : Option CompiledArgument} {i : Nat} (sound : Sound s.registries s.slots table)
    (hstart : StartAgrees ⟨s.registries, find⟩ table s.slots first start)
    (hsteps : StepsAgree ⟨s.registries, find⟩ table start.typeName rest steps)
    (hf : Option.Rel (ArgumentAgrees ⟨s.registries, find⟩ table) fallback f)
    (h : (shareChain (ChainKey.text ⟨start.base, start.slot, start.param, steps.keys, f.map (·.parts)⟩)
      ⟨start.start, steps.steps, f, body⟩ (Registries.typeOf steps.typeName f)).run table = .ok (i, table')) :
    Extends s table table' ∧ TagAgrees ⟨s.registries, find⟩ table' ⟨first :: rest, fallback⟩ i := by
  obtain ⟨hext, e, he, htype, hchain⟩ := tag_shared sound hstart hsteps hf h
  refine ⟨hext, ⟨e, he, ?_⟩, fun {env} holds => ?_⟩
  · have parts : Sight.partsType ⟨s.registries, find⟩ (first :: rest) = some steps.typeName := by
      rw [Sight.partsType, hstart.typed]
      exact hsteps.typed
    rw [htype]
    cases hf with
    | none => rw [Sight.tagType, parts, Registries.typeOf]
    | some hf =>
      rw [Sight.tagType, parts, Registries.typeOf]
      simp [hf.typed]
  · have below := holds.mono hext.grows
    rw [Environment.value_eq holds.ordered (holds.chain he), hchain, Chain.evaluateWith_body, Chain.evaluateWith,
      Sight.tagValue, Sight.partsValue, toOption_bind, hstart.value below, hstart.typed]
    simp only [Option.bind_eq_bind, Option.bind_some, Option.bind_assoc]
    refine Option.bind_congr fun v _ => ?_
    rw [toOption_bind, hsteps.value below]
    refine Option.bind_congr fun v _ => ?_
    cases hf with
    | none =>
      cases v <;> rfl
    | some hf =>
      dsimp only
      split
      · exact hf.value below
      · rfl

mutual

theorem compileArgument_agrees (finds : s.Finds find) (plain : s.registries.PlainNames) :
    ∀ (a : Argument) {table table' : ChainTable} {c : CompiledArgument}, Sound s.registries s.slots table →
      (compileArgument s a).run table = .ok (c, table') →
      Extends s table table' ∧ ArgumentAgrees ⟨s.registries, find⟩ table' a c
  | ⟨segments, quoted⟩, table, table', c, sound, h => by
    rw [compileArgument] at h
    obtain ⟨parts, between, hparts, h⟩ := run_bind_eq_ok.mp h
    obtain ⟨hext, agree⟩ := compileSegments_agrees finds plain segments sound hparts
    cases h
    exact ⟨hext, agree, rfl⟩

theorem compileSegments_agrees (finds : s.Finds find) (plain : s.registries.PlainNames) :
    ∀ (segments : List Segment) {table table' : ChainTable} {parts : List CompiledPart},
      Sound s.registries s.slots table → (compileSegments s segments).run table = .ok (parts, table') →
      Extends s table table' ∧ List.Forall₂ (SegmentAgrees ⟨s.registries, find⟩ table') segments parts
  | [], table, table', parts, sound, h => by
    rw [compileSegments] at h
    cases h
    exact ⟨⟨Grows.refl _, sound⟩, .nil⟩
  | segment :: rest, table, table', parts, sound, h => by
    rw [compileSegments] at h
    obtain ⟨part, between, hpart, h⟩ := run_bind_eq_ok.mp h
    obtain ⟨more, last, hmore, h⟩ := run_bind_eq_ok.mp h
    cases h
    obtain ⟨hext, agree⟩ := compileSegment_agrees finds plain segment sound hpart
    obtain ⟨hext', agree'⟩ := compileSegments_agrees finds plain rest hext.sound hmore
    exact ⟨hext.trans hext', .cons (agree.mono hext'.grows) agree'⟩

theorem compileSegment_agrees (finds : s.Finds find) (plain : s.registries.PlainNames) :
    ∀ (segment : Segment) {table table' : ChainTable} {part : CompiledPart}, Sound s.registries s.slots table →
      (compileSegment s segment).run table = .ok (part, table') →
      Extends s table table' ∧ SegmentAgrees ⟨s.registries, find⟩ table' segment part
  | .text w, table, table', part, sound, h => by
    rw [compileSegment] at h
    cases h
    exact ⟨⟨Grows.refl _, sound⟩, .text w⟩
  | .tag t, table, table', part, sound, h => by
    rw [compileSegment] at h
    obtain ⟨i, last, ht, h⟩ := run_bind_eq_ok.mp h
    cases h
    obtain ⟨hext, agree⟩ := compileTag_agrees finds plain t sound ht
    exact ⟨hext, .tag agree⟩

theorem compileTag_agrees (finds : s.Finds find) (plain : s.registries.PlainNames) :
    ∀ (t : Tag) {table table' : ChainTable} {i : Nat}, Sound s.registries s.slots table →
      (compileTag s t).run table = .ok (i, table') →
      Extends s table table' ∧ TagAgrees ⟨s.registries, find⟩ table' t i
  | ⟨[], fallback⟩, table, table', i, sound, h => by
    exact absurd h compileTag_nil_ne_ok
  | ⟨first :: rest, fallback⟩, table, table', i, sound, h => by
    obtain ⟨body, start, t₁, steps, t₂, f, t₃, -, hstart, hsteps, hf, h⟩ := compileTag_cons_eq_ok h
    obtain ⟨ext₁, agree₁⟩ := compileStart_agrees finds plain first sound hstart
    obtain ⟨ext₂, agree₂⟩ := compileSteps_agrees finds plain rest ext₁.sound hsteps
    obtain ⟨ext₃, agree₃⟩ := compileOptional_agrees finds plain fallback ext₂.sound hf
    have grows := ext₂.grows.trans ext₃.grows
    obtain ⟨ext₄, agree⟩ := tag_agrees ext₃.sound (agree₁.mono grows) (agree₂.mono ext₃.grows) agree₃ h
    exact ⟨((ext₁.trans ext₂).trans ext₃).trans ext₄, agree⟩

theorem compileStart_agrees (finds : s.Finds find) (plain : s.registries.PlainNames) :
    ∀ (first : Part) {body : String} {table table' : ChainTable} {c : CompiledStart},
      Sound s.registries s.slots table → (compileStart s body first).run table = .ok (c, table') →
      Extends s table table' ∧ StartAgrees ⟨s.registries, find⟩ table' s.slots first c
  | ⟨key, param⟩, body, table, table', c, sound, h => by
    cases hb : s.registries.bases.get? (Text.lower key) with
    | none =>
      rw [compileStart] at h
      dsimp only at h
      rw [hb] at h
      dsimp only at h
      exact absurd h run_fail_ne_ok
    | some base =>
      by_cases slot : base.readsSlot = true
      · obtain ⟨rfl, agree⟩ := compileStart_slot finds plain hb slot h
        exact ⟨⟨Grows.refl _, sound⟩, agree⟩
      rw [compileStart] at h
      dsimp only at h
      rw [hb] at h
      dsimp only at h
      rw [if_neg slot] at h
      obtain ⟨p, t₁, hp, h⟩ := run_bind_eq_ok.mp h
      obtain ⟨t, t₂, ht, h⟩ := run_bind_eq_ok.mp h
      cases h
      obtain ⟨hext, agree⟩ := compileOptional_agrees finds plain param sound (compileParam_eq_ok hp)
      obtain ⟨htype, rfl⟩ := run_returned_eq_ok ht
      exact ⟨hext, start_agrees plain hb (Bool.eq_false_iff.mpr slot) agree htype⟩

theorem compileSteps_agrees (finds : s.Finds find) (plain : s.registries.PlainNames) :
    ∀ (steps : List Part) {body : String} {index : Nat} {current : String} {table table' : ChainTable}
      {c : CompiledSteps}, Sound s.registries s.slots table →
      (compileSteps s body index current steps).run table = .ok (c, table') →
      Extends s table table' ∧ StepsAgree ⟨s.registries, find⟩ table' current steps c
  | [], body, index, current, table, table', c, sound, h => by
    rw [compileSteps] at h
    cases h
    exact ⟨⟨Grows.refl _, sound⟩, fun _ hs => absurd hs List.not_mem_nil, fun _ hs => absurd hs List.not_mem_nil, rfl,
      rfl, fun _ _ _ => rfl⟩
  | ⟨key, param⟩ :: rest, body, index, current, table, table', c, sound, h => by
    obtain ⟨owner, subTag, p, t₁, typeName, more, hr, hp, returned, hmore, rfl⟩ := compileSteps_cons_eq_ok h
    obtain ⟨ext₁, agree₁⟩ := compileOptional_agrees finds plain param sound hp
    obtain ⟨ext₂, agree₂⟩ := compileSteps_agrees finds plain rest ext₁.sound hmore
    exact ⟨ext₁.trans ext₂, steps_agree plain hr (param_mono agree₁ ext₂.grows) returned agree₂⟩

theorem compileOptional_agrees (finds : s.Finds find) (plain : s.registries.PlainNames) :
    ∀ (param : Option Argument) {table table' : ChainTable} {c : Option CompiledArgument},
      Sound s.registries s.slots table → (compileOptional s param).run table = .ok (c, table') →
      Extends s table table' ∧ Option.Rel (ArgumentAgrees ⟨s.registries, find⟩ table') param c
  | none, table, table', c, sound, h => by
    rw [compileOptional] at h
    cases h
    exact ⟨⟨Grows.refl _, sound⟩, .none⟩
  | some a, table, table', c, sound, h => by
    rw [compileOptional] at h
    obtain ⟨c, between, hc, h⟩ := run_bind_eq_ok.mp h
    cases h
    obtain ⟨hext, agree⟩ := compileArgument_agrees finds plain a sound hc
    exact ⟨hext, .some agree⟩

end

end

end CommandScript
