import CommandScript.Proofs.Chains.Interpretation
import CommandScript.Proofs.Chains.KeyText

/-! The table of chains while it grows. A chain stays where it is once it is there, names chains before it only, and is
    the one that its key stands for, so that whoever finds it by its key finds what it would have added itself. -/

namespace CommandScript

/-! ### Growing -/

/-- A table that has the chains of another where they are. -/
structure Grows (table table' : ChainTable) : Prop where
  keeps : ∀ {i : Nat} {e : TableEntry}, table[i]? = some e → table'[i]? = some e

/-- Parts that name chains before a place only. -/
def Below (n : Nat) (parts : List CompiledPart) : Prop :=
  ∀ i, .chain i ∈ parts → i < n

section
variable {table table' table'' : ChainTable} {parts : List CompiledPart}

theorem Grows.refl (table : ChainTable) : Grows table table :=
  ⟨fun h => h⟩

theorem Grows.trans (h : Grows table table') (h' : Grows table' table'') : Grows table table'' :=
  ⟨fun hi => h'.keeps (h.keeps hi)⟩

theorem Grows.size_le (h : Grows table table') : table.size ≤ table'.size := by
  cases hs : table.size with
  | zero => exact Nat.zero_le _
  | succ n =>
    have here : table[n]? = some table[n] := Array.getElem?_eq_getElem (by omega)
    exact (Array.getElem?_eq_some_iff.mp (h.keeps here)).1

theorem grows_push (e : TableEntry) : Grows table (table.push e) := by
  refine ⟨fun {i e'} hi => ?_⟩
  rw [Array.getElem?_push, if_neg, hi]
  have := (Array.getElem?_eq_some_iff.mp hi).1
  omega

theorem Below.mono {n m : Nat} (h : Below n parts) (le : n ≤ m) : Below m parts :=
  fun i hi => Nat.lt_of_lt_of_le (h i hi) le

/-- Growing keeps the types of arguments. -/
theorem Grows.partsType_eq (h : Grows table table') (below : Below table.size parts) :
    partsType table' parts = partsType table parts := by
  match parts with
  | [] | [.text _] | .text _ :: _ :: _ | .chain _ :: _ :: _ => rfl
  | [.chain i] =>
    have lt : i < table.size := below i (List.mem_singleton.mpr rfl)
    have here : table[i]? = some table[i] := Array.getElem?_eq_getElem lt
    rw [partsType, partsType, here, h.keeps here]

end

/-! ### What a key stands for -/

/-- An argument of a chain by its parts. -/
def argumentOf (table : ChainTable) (parts : List CompiledPart) : CompiledArgument :=
  ⟨parts, partsType table parts⟩

namespace Registries
variable (r : Registries)

/-- The type of a result, by the parameter as compiled. -/
def returned (returns : Returns) (param : Option CompiledArgument) : Option String :=
  match returns with
  | .fixed t => some t
  | .special resolve => (resolve (param.bind CompiledArgument.literal?) r.types.conversions).toOption

/-- What the beginning of a key stands for, and its type. -/
def startOf (slots : Array Slot) (table : ChainTable) (name : String) (slot : Option Nat)
    (param : Option (List CompiledPart)) : Option (ChainStart × String) := do
  let base ← r.bases.get? name
  if base.readsSlot then
    let slot ← slot
    let s ← slots[slot]?
    return (.slot slot, s.typeName)
  else
    let param := param.map (argumentOf table)
    return (.base base param (r.prepare base.param), ← r.returned base.returns param)

/-- What the keys after the first stand for behind a value of the type `current`, and the type they end with. -/
def stepsOf (table : ChainTable) (current : String) :
    List (String × Option (List CompiledPart)) → Option (List ChainStep × String)
  | [] => some ([], current)
  | (key, param) :: rest => do
    let (owner, subTag) ← r.types.resolve? current key
    let param := param.map (argumentOf table)
    let (more, last) ← stepsOf table (← r.returned subTag.returns param) rest
    return (⟨r.adapt owner.name current, subTag, param, r.prepare subTag.param⟩ :: more, last)

/-- The type of a tag, by the type of its keys and its fallback. -/
def typeOf (last : String) (fallback : Option CompiledArgument) : String :=
  match fallback with
  | some f => if f.typeName = last then last else "dynamic"
  | none => last

/-- The chain that a key stands for, with its type. The source form is the only thing that a key does not tell. -/
def chainOf (slots : Array Slot) (table : ChainTable) (k : ChainKey) (body : String) : Option (Chain × String) := do
  let (start, first) ← r.startOf slots table k.base k.slot k.param
  let (steps, last) ← r.stepsOf table first k.steps
  let fallback := k.fallback.map (argumentOf table)
  return (⟨start, steps, fallback, body⟩, typeOf last fallback)

end Registries

/-- A key whose arguments name chains before a place only. -/
structure ChainKey.Before (k : ChainKey) (n : Nat) : Prop where
  param : ∀ parts ∈ k.param, Below n parts
  steps : ∀ step ∈ k.steps, ∀ parts ∈ step.2, Below n parts
  fallback : ∀ parts ∈ k.fallback, Below n parts

/-- A chain whose arguments name chains before a place only. -/
structure Chain.Before (c : Chain) (n : Nat) : Prop where
  start : ∀ {b a prepare}, c.start = .base b (some a) prepare → Below n a.parts
  steps : ∀ step ∈ c.steps, ∀ a ∈ step.param, Below n a.parts
  fallback : ∀ a ∈ c.fallback, Below n a.parts

/-- A table whose chains are what their keys stand for. -/
structure Sound (r : Registries) (slots : Array Slot) (table : ChainTable) : Prop where
  keyed : ∀ {i : Nat} {e : TableEntry}, table[i]? = some e → ∃ k : ChainKey, e.key = k.text ∧ k.Plain ∧ k.Before i ∧
    r.chainOf slots table k e.chain.body = some (e.chain, e.typeName)

section
variable {r : Registries} {slots slots' : Array Slot} {table table' : ChainTable}

theorem ChainKey.Before.mono {k : ChainKey} {n m : Nat} (h : k.Before n) (le : n ≤ m) : k.Before m :=
  ⟨fun parts hp => (h.param parts hp).mono le, fun step hs parts hp => (h.steps step hs parts hp).mono le,
    fun parts hp => (h.fallback parts hp).mono le⟩

theorem Grows.argumentOf_eq (h : Grows table table') {param : Option (List CompiledPart)}
    (below : ∀ parts ∈ param, Below table.size parts) :
    param.map (argumentOf table') = param.map (argumentOf table) := by
  cases param with
  | none => rfl
  | some parts => rw [Option.map_some, Option.map_some, argumentOf, argumentOf, h.partsType_eq (below parts rfl)]

theorem startOf_grows (h : Grows table table')
    (hslots : ∀ {i : Nat} {s : Slot}, slots[i]? = some s → slots'[i]? = some s)
    {name : String} {slot : Option Nat} {param : Option (List CompiledPart)}
    (below : ∀ parts ∈ param, Below table.size parts) {x : ChainStart × String}
    (hx : r.startOf slots table name slot param = some x) : r.startOf slots' table' name slot param = some x := by
  unfold Registries.startOf at hx ⊢
  rw [h.argumentOf_eq below]
  obtain ⟨base, hb, hx⟩ := Option.bind_eq_some_iff.mp hx
  rw [hb, Option.bind_eq_bind, Option.bind_some]
  split at hx
  · rename_i hslot
    rw [if_pos hslot]
    obtain ⟨i, hi, hx⟩ := Option.bind_eq_some_iff.mp hx
    obtain ⟨s, hs, hx⟩ := Option.bind_eq_some_iff.mp hx
    rw [hi, Option.bind_eq_bind, Option.bind_some, hslots hs]
    exact hx
  · rename_i hslot
    rw [if_neg hslot]
    exact hx

theorem stepsOf_grows (h : Grows table table') {current : String}
    {keys : List (String × Option (List CompiledPart))}
    (below : ∀ step ∈ keys, ∀ parts ∈ step.2, Below table.size parts) :
    r.stepsOf table' current keys = r.stepsOf table current keys := by
  induction keys generalizing current with
  | nil => rfl
  | cons step rest ih =>
    obtain ⟨key, param⟩ := step
    have hp := h.argumentOf_eq (below _ List.mem_cons_self)
    have hrest : ∀ t, r.stepsOf table' t rest = r.stepsOf table t rest := fun t =>
      ih fun step hs => below step (List.mem_cons_of_mem _ hs)
    simp only [Registries.stepsOf, hp, hrest]

/-- What a key stands for stays so while the table and the slots grow. -/
theorem chainOf_grows (h : Grows table table')
    (hslots : ∀ {i : Nat} {s : Slot}, slots[i]? = some s → slots'[i]? = some s)
    {k : ChainKey} (before : k.Before table.size) {body : String} {x : Chain × String}
    (hx : r.chainOf slots table k body = some x) : r.chainOf slots' table' k body = some x := by
  unfold Registries.chainOf at hx ⊢
  obtain ⟨⟨start, first⟩, hstart, hx⟩ := Option.bind_eq_some_iff.mp hx
  rw [startOf_grows h hslots before.param hstart, Option.bind_eq_bind, Option.bind_some]
  dsimp only at hx ⊢
  rw [stepsOf_grows h before.steps, h.argumentOf_eq before.fallback]
  exact hx

theorem Sound.keyed_of_grows (sound : Sound r slots table) (h : Grows table table')
    (hslots : ∀ {i : Nat} {s : Slot}, slots[i]? = some s → slots'[i]? = some s) {i : Nat} {e : TableEntry}
    (he : table[i]? = some e) :
    ∃ k : ChainKey, e.key = k.text ∧ k.Plain ∧ k.Before i ∧
      r.chainOf slots' table' k e.chain.body = some (e.chain, e.typeName) := by
  obtain ⟨k, hk, plain, before, hc⟩ := sound.keyed he
  have lt := (Array.getElem?_eq_some_iff.mp he).1
  exact ⟨k, hk, plain, before, chainOf_grows h hslots (before.mono (Nat.le_of_lt lt)) hc⟩

/-- More slots keep a table sound. -/
theorem Sound.of_slots (sound : Sound r slots table)
    (hslots : ∀ {i : Nat} {s : Slot}, slots[i]? = some s → slots'[i]? = some s) : Sound r slots' table :=
  ⟨fun he => sound.keyed_of_grows (Grows.refl table) hslots he⟩

/-- The same key stands for the same chain, but for the source form. -/
theorem chainOf_body {k : ChainKey} {body body' : String} {c c' : Chain} {t t' : String}
    (h : r.chainOf slots table k body = some (c, t)) (h' : r.chainOf slots table k body' = some (c', t')) :
    c = { c' with body := c.body } ∧ t = t' := by
  unfold Registries.chainOf at h h'
  obtain ⟨start, hstart, h⟩ := Option.bind_eq_some_iff.mp h
  obtain ⟨steps, hsteps, h⟩ := Option.bind_eq_some_iff.mp h
  rw [hstart, Option.bind_eq_bind, Option.bind_some] at h'
  dsimp only at h'
  rw [hsteps] at h'
  cases h
  cases h'
  exact ⟨rfl, rfl⟩

/-- What a key stands for names what the key names. -/
theorem before_of_chainOf {k : ChainKey} {n : Nat} (before : k.Before n) {body : String} {c : Chain} {t : String}
    (h : r.chainOf slots table k body = some (c, t)) : c.Before n := by
  have arguments : ∀ (param : Option (List CompiledPart)), (∀ parts ∈ param, Below n parts) →
      ∀ a ∈ param.map (argumentOf table), Below n a.parts := by
    intro param hp a ha
    obtain ⟨parts, hparts, rfl⟩ := Option.map_eq_some_iff.mp ha
    exact hp parts hparts
  have steps : ∀ {keys : List (String × Option (List CompiledPart))} {current : String} {steps : List ChainStep}
      {last : String}, (∀ step ∈ keys, ∀ parts ∈ step.2, Below n parts) →
      r.stepsOf table current keys = some (steps, last) → ∀ step ∈ steps, ∀ a ∈ step.param, Below n a.parts := by
    intro keys
    induction keys with
    | nil =>
      intro current steps last _ h step hs
      cases h
      exact absurd hs List.not_mem_nil
    | cons key rest ih =>
      intro current steps last hk h step hs
      obtain ⟨⟨owner, subTag⟩, -, h⟩ := Option.bind_eq_some_iff.mp h
      obtain ⟨t, -, h⟩ := Option.bind_eq_some_iff.mp h
      obtain ⟨⟨more, last'⟩, hmore, h⟩ := Option.bind_eq_some_iff.mp h
      cases h
      rcases List.mem_cons.mp hs with rfl | hs
      · exact arguments key.2 (hk key List.mem_cons_self)
      · exact ih (fun step hs => hk step (List.mem_cons_of_mem _ hs)) hmore step hs
  unfold Registries.chainOf at h
  obtain ⟨⟨start, first⟩, hstart, h⟩ := Option.bind_eq_some_iff.mp h
  obtain ⟨⟨more, last⟩, hsteps, h⟩ := Option.bind_eq_some_iff.mp h
  cases h
  refine ⟨fun {b a prepare} hb => ?_, steps before.steps hsteps, arguments k.fallback before.fallback⟩
  obtain ⟨base, -, hstart⟩ := Option.bind_eq_some_iff.mp hstart
  split at hstart
  · obtain ⟨i, -, hstart⟩ := Option.bind_eq_some_iff.mp hstart
    obtain ⟨s, -, hstart⟩ := Option.bind_eq_some_iff.mp hstart
    cases hstart
    cases hb
  · obtain ⟨t, -, hstart⟩ := Option.bind_eq_some_iff.mp hstart
    cases hstart
    obtain ⟨-, ha, -⟩ := ChainStart.base.inj hb
    exact arguments k.param before.param a ha

end

end CommandScript
