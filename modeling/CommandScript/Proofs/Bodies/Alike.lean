import CommandScript.Proofs.Chains.Scopes
import CommandScript.Proofs.Scoping.Reading

/-! Arguments that are compiled twice, in two scopes and into two tables. Where the first scope finds a variable, the
    second finds one that stands for it, of the same type; then the chains that a tag is given in the two tables have
    the same type, and read variables that stand for each other, at every depth. -/

namespace CommandScript

/-! ### One argument in two tables -/

section
variable (bases : BaseRegistry) (own whole : ChainTable) (same : String → Nat → Nat → Prop)

mutual

/-- Compiled arguments that have, in their tables, the same type and the same tags. -/
inductive SameArgument : Argument → CompiledArgument → CompiledArgument → Prop
  | segments {segments : List Segment} {quoted : Bool} {c d : CompiledArgument} (typeName : c.typeName = d.typeName)
    (parts : SameSegments segments c.parts d.parts) : SameArgument ⟨segments, quoted⟩ c d

/-- Parts in a row that have, in their tables, the same text and the same tags. -/
inductive SameSegments : List Segment → List CompiledPart → List CompiledPart → Prop
  | nil : SameSegments [] [] []
  | text {text : String} {rest : List Segment} {cs ds : List CompiledPart} (later : SameSegments rest cs ds) :
    SameSegments (.text text :: rest) (.text text :: cs) (.text text :: ds)
  | tag {t : Tag} {i j : Nat} {rest : List Segment} {cs ds : List CompiledPart} (tag : SameTag t i j)
    (later : SameSegments rest cs ds) : SameSegments (.tag t :: rest) (.chain i :: cs) (.chain j :: ds)

/-- Places of chains for a tag that have, in their tables, the same type, and the same keys and fallback. -/
inductive SameTag : Tag → Nat → Nat → Prop
  | chains {first : Part} {rest : List Part} {other : Option Argument} {i j : Nat} {e f : TableEntry}
    (here : own[i]? = some e) (there : whole[j]? = some f) (typeName : e.typeName = f.typeName)
    (start : SameStart first e.chain.start f.chain.start) (steps : SameSteps rest e.chain.steps f.chain.steps)
    (fallback : SameOptional other e.chain.fallback f.chain.fallback) : SameTag ⟨first :: rest, other⟩ i j

/-- Beginnings of chains that read variables that are the same, or begin with one base and the same parameter. -/
inductive SameStart : Part → ChainStart → ChainStart → Prop
  | variable {first : Part} {name : String} {x y : Nat} (reads : first.reads? bases = some name)
    (same : same name x y) : SameStart first (.slot x) (.slot y)
  | base {first : Part} {base : TagBase} {c d : Option CompiledArgument} {prepare : Value → Value}
    (other : first.reads? bases = none) (param : SameOptional first.param c d) :
    SameStart first (.base base c prepare) (.base base d prepare)

/-- Steps in a row with the same sub-tags and the same parameters. -/
inductive SameSteps : List Part → List ChainStep → List ChainStep → Prop
  | nil : SameSteps [] [] []
  | cons {part : Part} {rest : List Part} {c d : Option CompiledArgument} {adapt prepare : Value → Value}
    {subTag : SubTag} {cs ds : List ChainStep} (param : SameOptional part.param c d) (later : SameSteps rest cs ds) :
    SameSteps (part :: rest) (⟨adapt, subTag, c, prepare⟩ :: cs) (⟨adapt, subTag, d, prepare⟩ :: ds)

/-- Arguments that may be missing, and are the same if they are there. -/
inductive SameOptional : Option Argument → Option CompiledArgument → Option CompiledArgument → Prop
  | none : SameOptional none none none
  | some {a : Argument} {c d : CompiledArgument} (argument : SameArgument a c d) :
    SameOptional (some a) (some c) (some d)

end

variable {bases own whole same}

theorem SameSegments.partsType_eq {segments : List Segment} {cs ds : List CompiledPart}
    (h : SameSegments bases own whole same segments cs ds) : partsType own cs = partsType whole ds := by
  cases h with
  | nil => rfl
  | text later => cases later <;> rfl
  | tag tag later =>
    cases later with
    | nil =>
      cases tag with
      | chains here there typeName =>
        rw [partsType, partsType, here, there]
        exact typeName
    | text | tag => rfl

theorem SameArgument.literal_eq {a : Argument} {c d : CompiledArgument}
    (h : SameArgument bases own whole same a c d) :
    c.literal? = d.literal? := by
  obtain ⟨cs, _⟩ := c
  obtain ⟨ds, _⟩ := d
  cases h with
  | segments _ parts =>
    cases parts with
    | nil => rfl
    | text later => cases later <;> rfl
    | tag _ later => cases later <;> rfl

theorem SameOptional.literal_eq {a : Option Argument} {c d : Option CompiledArgument}
    (h : SameOptional bases own whole same a c d) :
    c.bind CompiledArgument.literal? = d.bind CompiledArgument.literal? := by
  cases h with
  | none => rfl
  | some argument => exact argument.literal_eq

theorem SameOptional.typeOf_eq {a : Option Argument} {c d : Option CompiledArgument}
    (h : SameOptional bases own whole same a c d) (last : String) :
    Registries.typeOf last c = Registries.typeOf last d := by
  cases h with
  | none => rfl
  | some argument =>
    cases argument with
    | segments typeName => rw [Registries.typeOf, Registries.typeOf, typeName]

/-- The type of a result depends on what is written in the parameter only. -/
theorem SameOptional.returned_eq {a : Option Argument} {c d : Option CompiledArgument}
    (h : SameOptional bases own whole same a c d) (r : Registries) (returns : Returns) :
    r.returned returns c = r.returned returns d := by
  cases returns with
  | fixed t => rfl
  | special resolve => rw [Registries.returned, Registries.returned, h.literal_eq]

end

/-! ### What a tag is compiled to -/

section
variable {s : TagScope} {body : String} {table table' : ChainTable}

/-- A first key is a variable that is found, or a base whose parameter is compiled. -/
theorem compileStart_eq_ok {first : Part} {c : CompiledStart}
    (h : (compileStart s body first).run table = .ok (c, table')) :
    (∃ name x, first.reads? s.registries.bases = some name ∧ s.lookup name = some x ∧ table' = table ∧
      c = ⟨.slot x, Text.lower first.key, some x, none, (s.slots[x]?.map (·.typeName)).getD "text"⟩) ∨
    first.reads? s.registries.bases = none ∧ ∃ base param typeName,
      s.registries.bases.get? (Text.lower first.key) = some base ∧
      (compileOptional s first.param).run table = .ok (param, table') ∧
      s.registries.returned base.returns param = some typeName ∧
      c = ⟨.base base param (s.preparation base.param), Text.lower first.key, none,
        param.map (·.parts), typeName⟩ := by
  cases hn : first.reads? s.registries.bases with
  | some name =>
    rw [compileStart_reads s hn] at h
    cases hx : s.lookup name with
    | none =>
      rw [hx] at h
      exact absurd h run_fail_ne_ok
    | some x =>
      rw [hx] at h
      cases h
      exact Or.inl ⟨name, x, rfl, hx, rfl, rfl⟩
  | none =>
    obtain ⟨key, param⟩ := first
    rw [compileStart] at h
    dsimp only at h ⊢
    cases hb : s.registries.bases.get? (Text.lower key) with
    | none =>
      rw [hb] at h
      exact absurd h run_fail_ne_ok
    | some base =>
      rw [hb] at h
      dsimp only at h
      rw [Part.reads?, hb, Option.any_some] at hn
      by_cases slot : base.readsSlot = true
      · rw [if_pos slot, Option.map_eq_none_iff] at hn
        rw [if_pos slot, hn] at h
        exact absurd h run_fail_ne_ok
      rw [if_neg slot] at h
      obtain ⟨p, t₁, hp, h⟩ := run_bind_eq_ok.mp h
      obtain ⟨t, t₂, ht, h⟩ := run_bind_eq_ok.mp h
      cases h
      obtain ⟨returned, rfl⟩ := run_returned_eq_ok ht
      exact Or.inr ⟨rfl, base, p, t, rfl, compileParam_eq_ok hp, returned, rfl⟩

/-- A tag is given a chain with its keys and its fallback. -/
theorem compileTag_eq_ok {find : String → Option Variable} (finds : s.Finds find) (plain : s.registries.PlainNames)
    {first : Part} {rest : List Part} {fallback : Option Argument} {i : Nat}
    (sound : Sound s.registries s.slots table)
    (h : (compileTag s ⟨first :: rest, fallback⟩).run table = .ok (i, table')) :
    ∃ body start t₁ steps t₂ f t₃ e, (compileStart s body first).run table = .ok (start, t₁) ∧
      (compileSteps s body 1 start.typeName rest).run t₁ = .ok (steps, t₂) ∧
      (compileOptional s fallback).run t₂ = .ok (f, t₃) ∧
      Extends s table t₁ ∧ Extends s t₁ t₂ ∧ Extends s t₂ t₃ ∧ Grows t₃ table' ∧ table'[i]? = some e ∧
      e.typeName = Registries.typeOf steps.typeName f ∧
      e.chain.start = start.start ∧ e.chain.steps = steps.steps ∧ e.chain.fallback = f := by
  obtain ⟨body, start, t₁, steps, t₂, f, t₃, -, hstart, hsteps, hf, h⟩ := compileTag_cons_eq_ok h
  obtain ⟨ext₁, agree₁⟩ := compileStart_agrees finds plain first sound hstart
  obtain ⟨ext₂, agree₂⟩ := compileSteps_agrees finds plain rest ext₁.sound hsteps
  obtain ⟨ext₃, agree₃⟩ := compileOptional_agrees finds plain fallback ext₂.sound hf
  have grows := ext₂.grows.trans ext₃.grows
  obtain ⟨ext₄, e, he, htype, hchain⟩ :=
    tag_shared ext₃.sound (agree₁.mono grows) (agree₂.mono ext₃.grows) agree₃ h
  exact ⟨body, start, t₁, steps, t₂, f, t₃, e, hstart, hsteps, hf, ext₁, ext₂, ext₃, ext₄.grows, he, htype,
    congrArg Chain.start hchain, congrArg Chain.steps hchain, congrArg Chain.fallback hchain⟩

end

/-! ### Compiling twice -/

/-- Two scopes for compiling, where the second finds all variables that the first finds, of the same types. -/
structure ScopesMeet (same : String → Nat → Nat → Prop) (s u : TagScope) : Prop where
  registries : u.registries = s.registries
  plain : s.registries.PlainNames
  finds : ∃ find, s.Finds find
  finds' : ∃ find, u.Finds find
  lookup {name : String} {x : Nat} : s.lookup name = some x → ∃ y, u.lookup name = some y ∧ same name x y ∧
    s.slots[x]?.map (·.typeName) = u.slots[y]?.map (·.typeName)

section
variable {same : String → Nat → Nat → Prop} {s u : TagScope} {own whole : ChainTable}

theorem ScopesMeet.plain' (meet : ScopesMeet same s u) : u.registries.PlainNames :=
  meet.registries ▸ meet.plain

mutual

/-- What is compiled in two scopes that meet is the same in all tables that the two grow to. -/
theorem compileArgument_meet (meet : ScopesMeet same s u) :
    ∀ (a : Argument) {t t' w w' : ChainTable} {c d : CompiledArgument},
    Sound s.registries s.slots t → Sound u.registries u.slots w →
      (compileArgument s a).run t = .ok (c, t') → (compileArgument u a).run w = .ok (d, w') →
        Grows t' own → Grows w' whole → SameArgument s.registries.bases own whole same a c d
  | ⟨segments, quoted⟩, t, t', w, w', c, d, sound, sound', h, h', grows, grows' => by
    obtain ⟨_, finds⟩ := meet.finds
    obtain ⟨_, finds'⟩ := meet.finds'
    have typed := ((compileArgument_agrees finds meet.plain ⟨segments, quoted⟩ sound h).2.mono grows).typeName
    have typed' := ((compileArgument_agrees finds' meet.plain' ⟨segments, quoted⟩ sound' h').2.mono grows').typeName
    rw [compileArgument] at h h'
    obtain ⟨parts, between, hparts, h⟩ := run_bind_eq_ok.mp h
    obtain ⟨parts', between', hparts', h'⟩ := run_bind_eq_ok.mp h'
    cases h
    cases h'
    have same := compileSegments_meet meet segments sound sound' hparts hparts' grows grows'
    exact .segments (typed.trans (same.partsType_eq.trans typed'.symm)) same
termination_by structural a => a

theorem compileSegments_meet (meet : ScopesMeet same s u) :
    ∀ (segments : List Segment) {t t' w w' : ChainTable} {cs ds : List CompiledPart},
    Sound s.registries s.slots t → Sound u.registries u.slots w →
      (compileSegments s segments).run t = .ok (cs, t') → (compileSegments u segments).run w = .ok (ds, w') →
        Grows t' own → Grows w' whole → SameSegments s.registries.bases own whole same segments cs ds
  | [], t, t', w, w', cs, ds, sound, sound', h, h', grows, grows' => by
    rw [compileSegments] at h h'
    cases h
    cases h'
    exact .nil
  | segment :: rest, t, t', w, w', cs, ds, sound, sound', h, h', grows, grows' => by
    obtain ⟨_, finds⟩ := meet.finds
    obtain ⟨_, finds'⟩ := meet.finds'
    rw [compileSegments] at h h'
    obtain ⟨c, between, hc, h⟩ := run_bind_eq_ok.mp h
    obtain ⟨more, last, hmore, h⟩ := run_bind_eq_ok.mp h
    cases h
    obtain ⟨d, between', hd, h'⟩ := run_bind_eq_ok.mp h'
    obtain ⟨more', last', hmore', h'⟩ := run_bind_eq_ok.mp h'
    cases h'
    have sound₁ := (compileSegment_agrees finds meet.plain segment sound hc).1.sound
    have sound₁' := (compileSegment_agrees finds' meet.plain' segment sound' hd).1.sound
    have later := compileSegments_meet meet rest sound₁ sound₁' hmore hmore' grows grows'
    have grows₁ := (compileSegments_agrees finds meet.plain rest sound₁ hmore).1.grows.trans grows
    have grows₁' := (compileSegments_agrees finds' meet.plain' rest sound₁' hmore').1.grows.trans grows'
    cases segment with
    | text text =>
      rw [compileSegment] at hc hd
      cases hc
      cases hd
      exact .text later
    | tag tag =>
      rw [compileSegment] at hc hd
      obtain ⟨i, _, hi, hc⟩ := run_bind_eq_ok.mp hc
      obtain ⟨j, _, hj, hd⟩ := run_bind_eq_ok.mp hd
      cases hc
      cases hd
      exact .tag (compileTag_meet meet tag sound sound' hi hj grows₁ grows₁') later
termination_by structural a => a

theorem compileTag_meet (meet : ScopesMeet same s u) : ∀ (tag : Tag) {t t' w w' : ChainTable} {i j : Nat},
    Sound s.registries s.slots t → Sound u.registries u.slots w →
      (compileTag s tag).run t = .ok (i, t') → (compileTag u tag).run w = .ok (j, w') →
        Grows t' own → Grows w' whole → SameTag s.registries.bases own whole same tag i j
  | ⟨[], _⟩, _, _, _, _, _, _, _, _, h, _, _, _ => absurd h compileTag_nil_ne_ok
  | ⟨first :: rest, fallback⟩, t, t', w, w', i, j, sound, sound', h, h', grows, grows' => by
    obtain ⟨_, finds⟩ := meet.finds
    obtain ⟨_, finds'⟩ := meet.finds'
    obtain ⟨_, start, t₁, steps, t₂, f, t₃, e, hstart, hsteps, hf, ext₁, ext₂, ext₃, grows₄, he, typed, chain_start,
      chain_steps, chain_fallback⟩ := compileTag_eq_ok finds meet.plain sound h
    obtain ⟨_, start', w₁, steps', w₂, f', w₃, e', hstart', hsteps', hf', ext₁', ext₂', ext₃', grows₄', he', typed',
      chain_start', chain_steps', chain_fallback'⟩ := compileTag_eq_ok finds' meet.plain' sound' h'
    have grows₃ := grows₄.trans grows
    have grows₃' := grows₄'.trans grows'
    have grows₂ := ext₃.grows.trans grows₃
    have grows₂' := ext₃'.grows.trans grows₃'
    obtain ⟨startType, sameStart⟩ := compileStart_meet meet first sound sound' hstart hstart'
      (ext₂.grows.trans grows₂) (ext₂'.grows.trans grows₂')
    rw [← startType] at hsteps'
    obtain ⟨stepsType, sameSteps⟩ := compileSteps_meet meet rest ext₁.sound ext₁'.sound hsteps hsteps' grows₂ grows₂'
    have sameFallback := compileOptional_meet meet fallback ext₂.sound ext₂'.sound hf hf' grows₃ grows₃'
    refine .chains (grows.keeps he) (grows'.keeps he') ?_ ?_ ?_ ?_
    · rw [typed, typed', stepsType, sameFallback.typeOf_eq]
    · rw [chain_start, chain_start']
      exact sameStart
    · rw [chain_steps, chain_steps']
      exact sameSteps
    · rw [chain_fallback, chain_fallback']
      exact sameFallback
termination_by structural a => a

theorem compileStart_meet (meet : ScopesMeet same s u) :
    ∀ (first : Part) {body body' : String} {t t' w w' : ChainTable} {c d : CompiledStart},
    Sound s.registries s.slots t → Sound u.registries u.slots w →
      (compileStart s body first).run t = .ok (c, t') → (compileStart u body' first).run w = .ok (d, w') →
        Grows t' own → Grows w' whole →
          c.typeName = d.typeName ∧ SameStart s.registries.bases own whole same first c.start d.start
  | ⟨key, param⟩, body, body', t, t', w, w', c, d, sound, sound', h, h', grows, grows' => by
    have start := compileStart_eq_ok h
    have start' := compileStart_eq_ok h'
    rw [meet.registries] at start'
    rcases start with ⟨name, x, reads, hx, rfl, rfl⟩ | ⟨other, base, p, typeName, hb, hp, returned, rfl⟩
    · rcases start' with ⟨name', y, reads', hy, rfl, rfl⟩ | ⟨other', -⟩
      · cases reads.symm.trans reads'
        obtain ⟨y', hy', sameVariable, types⟩ := meet.lookup hx
        cases hy.symm.trans hy'
        exact ⟨congrArg (·.getD "text") types, .variable reads sameVariable⟩
      · cases reads.symm.trans other'
    · rcases start' with ⟨name', y, reads', -⟩ | ⟨-, base', p', typeName', hb', hp', returned', rfl⟩
      · cases other.symm.trans reads'
      · cases hb.symm.trans hb'
        have sameParam := compileOptional_meet meet param sound sound' hp hp' grows grows'
        rw [← sameParam.returned_eq] at returned'
        rw [s.preparation_eq, u.preparation_eq, meet.registries]
        exact ⟨Option.some.inj (returned.symm.trans returned'), .base other sameParam⟩
termination_by structural a => a

theorem compileSteps_meet (meet : ScopesMeet same s u) :
    ∀ (steps : List Part) {body body' : String} {index : Nat} {current : String} {t t' w w' : ChainTable}
      {c d : CompiledSteps},
    Sound s.registries s.slots t → Sound u.registries u.slots w →
      (compileSteps s body index current steps).run t = .ok (c, t') →
        (compileSteps u body' index current steps).run w = .ok (d, w') → Grows t' own → Grows w' whole →
          c.typeName = d.typeName ∧ SameSteps s.registries.bases own whole same steps c.steps d.steps
  | [], body, body', index, current, t, t', w, w', c, d, sound, sound', h, h', grows, grows' => by
    rw [compileSteps] at h h'
    cases h
    cases h'
    exact ⟨rfl, .nil⟩
  | ⟨key, param⟩ :: rest, body, body', index, current, t, t', w, w', c, d, sound, sound', h, h', grows, grows' => by
    obtain ⟨_, finds⟩ := meet.finds
    obtain ⟨_, finds'⟩ := meet.finds'
    obtain ⟨owner, subTag, p, t₁, typeName, more, resolved, hp, returned, hmore, rfl⟩ := compileSteps_cons_eq_ok h
    have step' := compileSteps_cons_eq_ok h'
    rw [meet.registries] at step'
    obtain ⟨owner', subTag', p', w₁, typeName', more', resolved', hp', returned', hmore', rfl⟩ := step'
    cases resolved.symm.trans resolved'
    have ext₁ := (compileOptional_agrees finds meet.plain param sound hp).1
    have ext₁' := (compileOptional_agrees finds' meet.plain' param sound' hp').1
    have ext₂ := (compileSteps_agrees finds meet.plain rest ext₁.sound hmore).1
    have ext₂' := (compileSteps_agrees finds' meet.plain' rest ext₁'.sound hmore').1
    have sameParam := compileOptional_meet meet param sound sound' hp hp' (ext₂.grows.trans grows)
      (ext₂'.grows.trans grows')
    rw [← sameParam.returned_eq] at returned'
    cases returned.symm.trans returned'
    obtain ⟨last, later⟩ := compileSteps_meet meet rest ext₁.sound ext₁'.sound hmore hmore' grows grows'
    exact ⟨last, .cons sameParam later⟩
termination_by structural a => a

theorem compileOptional_meet (meet : ScopesMeet same s u) :
    ∀ (a : Option Argument) {t t' w w' : ChainTable} {c d : Option CompiledArgument},
    Sound s.registries s.slots t → Sound u.registries u.slots w →
      (compileOptional s a).run t = .ok (c, t') → (compileOptional u a).run w = .ok (d, w') →
        Grows t' own → Grows w' whole → SameOptional s.registries.bases own whole same a c d
  | none, t, t', w, w', c, d, sound, sound', h, h', grows, grows' => by
    rw [compileOptional] at h h'
    cases h
    cases h'
    exact .none
  | some a, t, t', w, w', c, d, sound, sound', h, h', grows, grows' => by
    rw [compileOptional] at h h'
    obtain ⟨c, _, hc, h⟩ := run_bind_eq_ok.mp h
    obtain ⟨d, _, hd, h'⟩ := run_bind_eq_ok.mp h'
    cases h
    cases h'
    exact .some (compileArgument_meet meet a sound sound' hc hd grows grows')
termination_by structural a => a

end

end

end CommandScript
