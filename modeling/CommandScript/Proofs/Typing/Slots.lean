import CommandScript.Proofs.Typing.Declared

/-! Commands leave the slots of their frame typed. Slots are written by `define`, by `set` in all its modes, and by the
    loops, each with a conversion or with a value whose type is known; nothing else writes any. -/

namespace CommandScript

/-! ### Frames -/

/-- A frame whose slots hold `null` or values of the types that are declared for them. Where a type is not one that
    comes with every engine, it asks for nothing. -/
def Frame.Typed (f : Frame) : Prop :=
  ∀ (i : Nat) (s : Slot), f.script.code.slots[i]? = some s → IsBuiltinType s.typeName →
    (f.slots[i]?.getD .null).HasType s.typeName

instance (v : Value) (t : String) : Decidable (v.HasType t) :=
  inferInstanceAs (Decidable (v.isNull = true ∨ t = "dynamic" ∨ v.typeName = t))

instance (t : String) : Decidable (IsBuiltinType t) :=
  inferInstanceAs (Decidable (∃ type ∈ TypeRegistry.builtin.types, type.name = t))

theorem Frame.typed_iff (f : Frame) : f.Typed ↔ ∀ i : Fin f.script.code.slots.size,
    IsBuiltinType f.script.code.slots[i].typeName →
      (f.slots[i.1]?.getD .null).HasType f.script.code.slots[i].typeName := by
  constructor
  · intro h i known
    exact h i.1 _ (Array.getElem?_eq_getElem i.2) known
  · intro h i s hs known
    obtain ⟨lt, rfl⟩ := Array.getElem?_eq_some_iff.mp hs
    exact h ⟨i, lt⟩ known

instance (f : Frame) : Decidable f.Typed :=
  decidable_of_iff' _ f.typed_iff

/-- A value that a slot of a script may be given. -/
def Script.Admits (script : Script) (slot : Nat) (v : Value) : Prop :=
  ∀ s, script.code.slots[slot]? = some s → IsBuiltinType s.typeName → v.HasType s.typeName

/-- A value that the variable of a loop may be given, if the loop has one. -/
def Script.LoopAdmits (script : Script) (owner : Nat) (v : Value) : Prop :=
  ∀ e slot, script.code.entries[owner]? = some e → e.declares = some slot → script.Admits slot v

namespace Frame.Typed

variable {f g : Frame} (h : f.Typed)
include h

theorem of_same (script : g.script = f.script) (slots : g.slots = f.slots) : g.Typed := by
  intro i s hs known
  rw [script] at hs
  rw [slots]
  exact h i s hs known

theorem setSlot {slot : Nat} {v : Value} (hv : f.script.Admits slot v) : (f.setSlot slot v).Typed := by
  intro i s hs known
  show ((f.slots.setIfInBounds slot v)[i]?.getD .null).HasType s.typeName
  rw [Array.getElem?_setIfInBounds]
  split
  · rename_i same
    subst same
    split
    · exact hv s hs known
    · exact Value.null_hasType _
  · exact h i s hs known

/-- Where all types are known, all slots hold what their types ask for. -/
theorem slotsTyped (known : SlotsKnown f.script.code.slots) : SlotsTyped f.script.code.slots f.slots := by
  intro i s hs
  exact h i s hs (known s (Array.mem_of_getElem? hs))

end Frame.Typed

/-! ### What `set` makes -/

section
variable {mode : SetMode} {current input v : Value} {t : String}

theorem integerUpdate_hasType (h : Act.integerUpdate mode current input = .ok v) : v.HasType "integer" := by
  unfold Act.integerUpdate at h
  split at h
  · dsimp only at h
    split at h
    · cases h
      exact Value.integer_hasType _
    · cases h
    · cases h
  · cases h

theorem numberUpdate_hasType (h : Act.numberUpdate mode current input = .ok v) : v.HasType "number" := by
  unfold Act.numberUpdate at h
  split at h
  · cases mode with
    | divide =>
      dsimp only at h
      split at h
      · cases h
      · cases h
        exact Value.number_hasType _
    | assign | add | subtract | multiply =>
      cases h
      exact Value.number_hasType _
  · cases h

/-- Whole numbers and numbers are of no other type. -/
theorem builtin_isA {a : String} (ha : a = "integer" ∨ a = "number") (known : IsBuiltinType t)
    (h : TypeRegistry.builtin.isA t a = true) (least : a = "number" → TypeRegistry.builtin.isA t "integer" = false) :
    t = a := by
  have integers : ∀ t ∈ TypeRegistry.builtin.types, TypeRegistry.builtin.isA t.name "integer" = true →
      t.name = "integer" := by decide
  have numbers : ∀ t ∈ TypeRegistry.builtin.types, TypeRegistry.builtin.isA t.name "number" = true →
      TypeRegistry.builtin.isA t.name "integer" = false → t.name = "number" := by decide
  obtain ⟨t, ht, rfl⟩ := known
  rcases ha with rfl | rfl
  · exact integers t ht h
  · exact numbers t ht h (least rfl)

/-- What `set` gives a variable of a known type is of the type, in every mode and for every value. -/
theorem updated_hasType (known : IsBuiltinType t) (h : Act.updated .builtin mode t current input = .ok v) :
    v.HasType t := by
  unfold Act.updated at h
  split at h
  · cases h
    exact builtin_convert_hasType known input
  split at h
  · rename_i isInteger
    rw [builtin_isA (Or.inl rfl) known isInteger fun other => absurd other (by decide)]
    exact integerUpdate_hasType h
  rename_i notInteger
  split at h
  · rename_i isNumber
    rw [builtin_isA (Or.inr rfl) known isNumber fun _ => Bool.eq_false_iff.mpr notInteger]
    exact numberUpdate_hasType h
  split at h
  · rename_i isList
    cases h
    rw [isList.1]
    exact Value.list_hasType _
  · cases h

end

/-! ### Engines -/

namespace Engine

/-- An engine with the same registries as before. -/
def SameRegistries (e e' : Engine) : Prop :=
  e'.registries = e.registries

theorem sameRegistries_bind {m : EngineM α} {k : α → EngineM β} {e : Engine} (hm : SameRegistries e (m.on e).2)
    (hk : ∀ x e', SameRegistries e' ((k x).on e').2) : SameRegistries e ((m >>= k).on e).2 := by
  rw [EngineM.on_bind]
  generalize m.on e = r at hm
  obtain ⟨_ | x, e'⟩ := r
  · exact hm
  · exact (hk x e').trans hm

theorem Posted.sameRegistries {e e' : Engine} (h : Posted e e') : SameRegistries e e' := by
  obtain ⟨outbox, -, rfl⟩ := h
  exact rfl

theorem sameRegistries_scriptOfSource (name source : String) (e : Engine) :
    SameRegistries e ((scriptOfSource name source).on e).2 := by
  refine sameRegistries_bind (m := get) rfl fun e₁ e₂ => ?_
  dsimp only
  split
  · exact rfl
  · exact sameRegistries_bind (posted_post _ e₂).sameRegistries fun _ e₃ => rfl

theorem sameRegistries_scriptFile? (name : String) (e : Engine) : SameRegistries e ((scriptFile? name).on e).2 := by
  refine sameRegistries_bind (m := get) rfl fun e₁ e₂ => ?_
  dsimp only
  split
  · exact rfl
  · exact rfl
  · split
    · exact rfl
    · exact sameRegistries_bind (sameRegistries_scriptOfSource _ _ e₂) fun _ e₃ =>
        sameRegistries_bind rfl fun _ e₄ => rfl
    · exact sameRegistries_bind (posted_post _ e₂).sameRegistries fun _ e₃ => rfl

theorem sameRegistries_findScript? (name : String) (e : Engine) : SameRegistries e ((findScript? name).on e).2 := by
  refine sameRegistries_bind (m := get) rfl fun e₁ e₂ => ?_
  split
  · exact rfl
  · exact sameRegistries_scriptFile? name e₂

end Engine

/-! ### Acts -/

/-- A scene in which a script runs with typed slots, in an engine that has the types that every engine has. -/
structure Scene.Typed (script : Script) (s : Scene) : Prop where
  script : s.frame.script = script
  types : s.engine.registries.types = .builtin
  frame : s.frame.Typed

/-- Something that leaves the slots of the frame typed, whatever it comes to, and whose result has a property. -/
def Act.Typed (script : Script) (site : Site) (Q : α → Prop) (a : Act α) : Prop :=
  ∀ s : Scene, s.Typed script → (a.on site s).2.Typed script ∧ ∀ x, (a.on site s).1 = .ok x → Q x

namespace Act

/-- Something that leaves the slots of the frame typed, with any result. -/
abbrev Safe (script : Script) (site : Site) (a : Act α) : Prop :=
  Typed script site (fun _ => True) a

variable {script : Script} {site : Site}

namespace Typed

variable {Q : α → Prop} {R : β → Prop}

theorem pure {x : α} (h : Q x) : Typed script site Q (pure x : Act α) := fun s hs =>
  ⟨hs, fun y hy => by cases hy; exact h⟩

theorem fail (f : RuntimeFault) : Typed script site Q (fail f : Act α) := fun s hs => ⟨hs, fun _ h => (by cases h)⟩

theorem failInternal (f : InternalFault) : Typed script site Q (failInternal f : Act α) := fun s hs =>
  ⟨hs, fun _ h => (by cases h)⟩

theorem throw (f : Failure) : Typed script site Q (throw f : Act α) := fun s hs => ⟨hs, fun _ h => (by cases h)⟩

theorem read : Typed script site (· = site) (read : Act Site) := fun _ hs =>
  ⟨hs, fun x hx => by cases hx; rfl⟩

theorem get : Typed script site (Scene.Typed script) (get : Act Scene) := fun s hs =>
  ⟨hs, fun x hx => by cases hx; exact hs⟩

theorem change {f : Scene → Scene} (h : ∀ s, s.Typed script → (f s).Typed script) :
    Safe script site (modify f : Act Unit) := fun s hs => ⟨h s hs, fun _ _ => trivial⟩

theorem bind {a : Act α} {k : α → Act β} (ha : Typed script site Q a) (hk : ∀ x, Q x → Typed script site R (k x)) :
    Typed script site R (a >>= k) := by
  intro s hs
  obtain ⟨first, result⟩ := ha s hs
  rw [on_bind]
  generalize a.on site s = r at first result
  obtain ⟨_ | x, t⟩ := r
  · exact ⟨first, fun _ h => (by cases h)⟩
  · exact hk x (result x rfl) t first

theorem frame : Typed script site (fun f => f.script = script ∧ f.Typed) frame :=
  get.bind fun _ hs => pure ⟨hs.script, hs.frame⟩

theorem instruction : Typed script site (· = site.entry.instruction) instruction :=
  read.bind fun _ hx => pure (by rw [hx])

theorem types : Typed script site (· = .builtin) types :=
  get.bind fun _ hs => pure hs.types

theorem argCount : Safe script site argCount :=
  read.bind fun _ _ => pure trivial

theorem mapM {f : α → Act β} (hf : ∀ x, Safe script site (f x)) (l : List α) :
    Safe script site (l.mapM f) := by
  induction l with
  | nil => exact pure trivial
  | cons x rest ih =>
    rw [List.mapM_cons]
    exact (hf x).bind fun y _ => ih.bind fun ys _ => pure trivial

/-- Changing what a frame knows, and not its slots. -/
theorem onFrame {change : Frame → Frame} (scripts : ∀ f, (change f).script = f.script)
    (slots : ∀ f, (change f).slots = f.slots) : Safe script site (onFrame change) :=
  Typed.change fun _ hs => ⟨(scripts _).trans hs.script, hs.types, hs.frame.of_same (scripts _) (slots _)⟩

/-- Giving a slot a value that it may be given. -/
theorem setSlot {slot : Nat} {v : Value} (h : script.Admits slot v) :
    Safe script site (Act.onFrame (·.setSlot slot v)) :=
  change fun _ hs => ⟨hs.script, hs.types, hs.frame.setSlot (by rw [hs.script]; exact h)⟩

theorem setEngine {e : Engine} (h : e.registries.types = .builtin) :
    Safe script site (modify fun s => { s with engine := e } : Act Unit) :=
  change fun _ hs => ⟨hs.script, h, hs.frame⟩

theorem onEngine {m : EngineM α} (h : ∀ e : Engine, e.SameRegistries (m.on e).2) :
    Safe script site (onEngine m) := by
  intro s hs
  have same := h s.engine
  rw [on_onEngine]
  exact ⟨⟨hs.script, (congrArg Registries.types same).trans hs.types, hs.frame⟩, fun _ _ => trivial⟩

end Typed

/-! ### Messages, arguments and moves -/

theorem safe_say (kind : MessageKind) (text : String) : Safe script site (say kind text) :=
  Typed.read.bind fun _ _ => Typed.frame.bind fun _ _ =>
    Typed.onEngine fun e => (Engine.posted_emit _ _ _ _ e).sameRegistries

theorem safe_evaluate (a : CompiledArgument) : Safe script site (evaluate a) := by
  refine Typed.frame.bind fun f _ => Typed.types.bind fun t _ => ?_
  dsimp only
  split
  · exact Typed.pure trivial
  · exact Typed.throw _

theorem safe_arg (position : Nat) : Safe script site (arg position) := by
  refine Typed.read.bind fun x _ => ?_
  split
  · exact safe_evaluate _
  · exact Typed.pure trivial

theorem safe_argText (position : Nat) : Safe script site (argText position) :=
  (safe_arg position).bind fun _ _ => Typed.pure trivial

theorem safe_argWords : Safe script site argWords :=
  Typed.read.bind fun _ _ => (Typed.mapM safe_evaluate _).bind fun _ _ => Typed.pure trivial

theorem safe_expect (expected : Expected) (v : Value) (read? : Value → Option α) :
    Safe script site (expect expected v read?) := by
  unfold expect
  split
  · exact Typed.pure trivial
  · exact Typed.instruction.bind fun _ _ => Typed.fail _

theorem safe_booleanArg (position : Nat) : Safe script site (booleanArg position) :=
  (safe_arg position).bind fun v _ => safe_expect .boolean v Value.asBoolean?

theorem safe_namedVars : Safe script site namedVars :=
  Typed.read.bind fun _ _ => Typed.mapM (fun _ => (safe_evaluate _).bind fun _ _ => Typed.pure trivial) _

theorem safe_jump (target : Nat) : Safe script site (jump target) := by
  refine Typed.frame.bind fun f hf => ?_
  split
  · rename_i g hg
    unfold Frame.jump? at hg
    split at hg
    · cases hg
    · cases hg
      exact Typed.change fun s hs => ⟨hf.1, hs.types, hf.2.of_same rfl rfl⟩
  · exact Typed.fail _

theorem safe_skipBlock : Safe script site skipBlock := by
  refine Typed.instruction.bind fun i _ => ?_
  split
  · exact Typed.pure trivial
  · exact Typed.read.bind fun _ _ => Typed.frame.bind fun _ _ => safe_jump _

/-- A block that is entered or passed over. -/
theorem safe_enter (taken : Bool) : Safe script site (do
    if !taken then skipBlock
    return Flow.proceed) := by
  cases taken with
  | false => exact safe_skipBlock.bind fun _ _ => Typed.pure trivial
  | true => exact Typed.pure trivial

theorem safe_loopStart (owner : Nat) : Safe script site (loopStart owner) := by
  refine Typed.frame.bind fun f _ => ?_
  split
  · exact Typed.pure trivial
  · exact Typed.failInternal _

theorem safe_setLoopVariable {owner : Nat} {v : Value} (h : script.LoopAdmits owner v) :
    Safe script site (setLoopVariable owner v) := by
  refine Typed.frame.bind fun f hf => ?_
  split
  · rename_i slot hslot
    obtain ⟨e, he, hslot⟩ := Option.bind_eq_some_iff.mp hslot
    rw [hf.1] at he
    exact Typed.setSlot (h e slot he hslot)
  · exact Typed.pure trivial

end Act

end CommandScript
