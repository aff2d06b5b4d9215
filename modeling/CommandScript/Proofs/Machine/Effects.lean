import CommandScript.Proofs.Machine.Source
import CommandScript.Proofs.Structured.Loops

/-! What a command does to its frame and to the engine. Most of what a command does leaves the frame at its place; the
    few ways to move it are listed once, and every command has one of them. -/

namespace CommandScript

/-! ### Engines -/

/-- What an engine comes to, and the engine that is left. -/
def EngineM.on (m : EngineM α) (e : Engine) : Except Failure α × Engine :=
  m.run.run e

namespace EngineM

theorem on_pure (x : α) (e : Engine) : (pure x : EngineM α).on e = (.ok x, e) := rfl

theorem on_get (e : Engine) : (get : EngineM Engine).on e = (.ok e, e) := rfl

theorem on_set (e' e : Engine) : (MonadStateOf.set e' : EngineM PUnit).on e = (.ok ⟨⟩, e') := rfl

theorem on_bind (m : EngineM α) (k : α → EngineM β) (e : Engine) :
    (m >>= k).on e =
      match m.on e with
      | (.ok x, e) => (k x).on e
      | (.error f, e) => (.error f, e) := by
  show (m >>= k).run.run e = _
  simp only [on, ExceptT.run_bind, StateT.run_bind]
  generalize m.run.run e = r
  obtain ⟨_ | _, _⟩ := r <;> rfl

end EngineM

namespace Outbox

/-- An output after some more messages. -/
structure Leads (o o' : Outbox) : Prop where
  breaksAt : o'.breaksAt = o.breaksAt
  le : o.messages.size ≤ o'.messages.size

theorem Leads.refl (o : Outbox) : o.Leads o :=
  ⟨rfl, Nat.le_refl _⟩

theorem Leads.trans {o₁ o₂ o₃ : Outbox} (h : o₁.Leads o₂) (h' : o₂.Leads o₃) : o₁.Leads o₃ :=
  ⟨h'.breaksAt.trans h.breaksAt, Nat.le_trans h.le h'.le⟩

theorem leads_post (o : Outbox) (m : Message) : o.Leads (o.post m).2 :=
  ⟨rfl, by simp [post]⟩

/-- On the way from `o` to `o'`, an output breaks off after a message, and again after one of the next two. -/
def BreaksAgain (o o' : Outbox) : Prop :=
  ∃ n next, o.messages.size < n ∧ n < next ∧ next ≤ n + 2 ∧ next ≤ o'.messages.size ∧ o.breaksAt n = true ∧
    o.breaksAt next = true

theorem Leads.breaksAgain {o₁ o₂ o₃ : Outbox} (h : o₁.Leads o₂) (again : o₂.BreaksAgain o₃) : o₁.BreaksAgain o₃ := by
  obtain ⟨n, next, lt, more, near, within, broke, broke'⟩ := again
  rw [h.breaksAt] at broke broke'
  exact ⟨n, next, Nat.lt_of_le_of_lt h.le lt, more, near, within, broke, broke'⟩

theorem BreaksAgain.leads {o₁ o₂ o₃ : Outbox} (again : o₁.BreaksAgain o₂) (h : o₂.Leads o₃) : o₁.BreaksAgain o₃ := by
  obtain ⟨n, next, lt, more, near, within, broke⟩ := again
  exact ⟨n, next, lt, more, near, Nat.le_trans within h.le, broke⟩

end Outbox

namespace Engine

/-- An engine after some messages. -/
def Posted (e e' : Engine) : Prop :=
  ∃ outbox, e.outbox.Leads outbox ∧ e' = { e with outbox := outbox }

theorem Posted.trans {e₁ e₂ e₃ : Engine} (h : Posted e₁ e₂) (h' : Posted e₂ e₃) : Posted e₁ e₃ := by
  obtain ⟨o, leads, rfl⟩ := h
  obtain ⟨o', leads', rfl⟩ := h'
  exact ⟨o', leads.trans leads', rfl⟩

theorem posted_post (m : Message) (e : Engine) : Posted e ((post m).on e).2 := by
  refine ⟨(e.outbox.post m).2, e.outbox.leads_post m, ?_⟩
  rw [post, EngineM.on_bind, EngineM.on_get]
  dsimp only
  rw [EngineM.on_bind, EngineM.on_set]
  dsimp only
  split <;> rfl

theorem posted_emit (own : Bool) (verbosity : Verbosity) (text : String) (kind : MessageKind) (e : Engine) :
    Posted e ((emit own verbosity text kind).on e).2 := by
  unfold emit
  split
  · rw [EngineM.on_bind]
    have first := posted_post ⟨own, kind, text⟩ e
    generalize (post ⟨own, kind, text⟩).on e = r at first
    obtain ⟨_ | _, e'⟩ := r
    · exact first
    · dsimp only
      split
      · exact first.trans (posted_post _ _)
      · exact first
  · exact ⟨e.outbox, .refl _, rfl⟩

section
variable {P : Script → Prop}

theorem Gives.posted {e e' : Engine} (h : e.Gives P) (posted : Posted e e') : e'.Gives P := by
  obtain ⟨outbox, -, rfl⟩ := posted
  exact h.of_same rfl rfl rfl rfl rfl

variable (closed : Script.Closed P)
include closed

/-- The script of a text that an engine loads has what all its scripts have, and so has the report in its place. -/
theorem Gives.scriptOfSource {e : Engine} (h : e.Gives P) {load : Loader} (hl : e.loader = some load)
    {file source : String} (hs : load file = .ok (some source)) (name : String) :
    ((Engine.scriptOfSource name source).on e).2.Gives P ∧
      ∀ s, ((Engine.scriptOfSource name source).on e).1 = .ok s → P s := by
  rw [Engine.scriptOfSource, EngineM.on_bind, EngineM.on_get]
  dsimp only
  cases hc : e.compileScript name source [] with
  | ok s =>
    refine ⟨h, fun s' hs' => ?_⟩
    cases hs'
    exact h.loaded load hl file source hs name s hc
  | error err =>
    dsimp only
    rw [EngineM.on_bind]
    have posted := posted_post ⟨false, .bad, err.report (Text.lower name)⟩ e
    unfold output
    generalize (post ⟨false, .bad, err.report (Text.lower name)⟩).on e = r at posted
    obtain ⟨_ | _, e'⟩ := r
    · exact ⟨h.posted posted, fun _ hs' => (by cases hs')⟩
    · refine ⟨h.posted posted, fun s' hs' => ?_⟩
      cases hs'
      exact closed.report h.commands name _ _

theorem Gives.scriptFile? {e : Engine} (h : e.Gives P) (name : String) :
    ((Engine.scriptFile? name).on e).2.Gives P ∧
      ∀ s, ((Engine.scriptFile? name).on e).1 = .ok (some s) → P s := by
  rw [Engine.scriptFile?, EngineM.on_bind, EngineM.on_get]
  dsimp only
  split
  · rename_i s _ hs
    refine ⟨h, fun s' hs' => ?_⟩
    cases hs'
    exact h.scripts _ (mem_of_lookup hs)
  · exact ⟨h, fun _ hs' => (by cases hs')⟩
  · rename_i load hs hl
    split
    · exact ⟨h, fun _ hs' => (by cases hs')⟩
    · rename_i source hsource
      rw [EngineM.on_bind]
      have made := h.scriptOfSource closed hl hsource name
      generalize (Engine.scriptOfSource name source).on e = r at made
      obtain ⟨_ | s, e'⟩ := r
      · exact ⟨made.1, fun _ hs' => (by cases hs')⟩
      · refine ⟨made.1.keepScript _ (made.2 s rfl), fun s' hs' => ?_⟩
        cases hs'
        exact made.2 s rfl
    · rename_i text hsource
      rw [EngineM.on_bind]
      have posted := posted_post ⟨false, .bad, s!"Generating script for file '{name}': " ++ text⟩ e
      unfold output
      generalize (post ⟨false, .bad, s!"Generating script for file '{name}': " ++ text⟩).on e = r at posted
      obtain ⟨_ | _, e'⟩ := r
      · exact ⟨h.posted posted, fun _ hs' => (by cases hs')⟩
      · exact ⟨h.posted posted, fun _ hs' => (by cases hs')⟩

theorem Gives.findScript? {e : Engine} (h : e.Gives P) (name : String) :
    ((Engine.findScript? name).on e).2.Gives P ∧
      ∀ s, ((Engine.findScript? name).on e).1 = .ok (some s) → P s := by
  rw [Engine.findScript?, EngineM.on_bind, EngineM.on_get]
  dsimp only
  split
  · rename_i s hs
    refine ⟨h, fun s' hs' => ?_⟩
    cases hs'
    exact h.functions _ (mem_of_lookup hs)
  · exact h.scriptFile? closed name

end

end Engine

/-! ### What leaves the queues of an engine alone -/

namespace Engine

/-- An engine after something that neither starts nor ends a queue, and that adds no handlers but such with a
    property. -/
structure Aside (P : Script → Prop) (e e' : Engine) : Prop where
  outbox : e.outbox.Leads e'.outbox
  queues : e'.queues = e.queues
  nextId : e'.nextId = e.nextId
  released : e'.released = e.released
  handles : e.Handles P → e'.Handles P

namespace Aside

variable {P : Script → Prop} {e e' e'' : Engine}

theorem refl (e : Engine) : Aside P e e :=
  ⟨.refl _, rfl, rfl, rfl, id⟩

theorem trans (h : Aside P e e') (h' : Aside P e' e'') : Aside P e e'' where
  outbox := h.outbox.trans h'.outbox
  queues := h'.queues.trans h.queues
  nextId := h'.nextId.trans h.nextId
  released := h'.released.trans h.released
  handles := h'.handles ∘ h.handles

theorem of_events (outbox : e'.outbox = e.outbox) (queues : e'.queues = e.queues) (nextId : e'.nextId = e.nextId)
    (released : e'.released = e.released) (events : e'.events = e.events) : Aside P e e' where
  outbox := outbox ▸ .refl _
  queues := queues
  nextId := nextId
  released := released
  handles h entry hm := h entry (events ▸ hm)

theorem posted (h : Posted e e') : Aside P e e' := by
  obtain ⟨outbox, leads, rfl⟩ := h
  exact ⟨leads, rfl, rfl, rfl, id⟩

theorem registerHandler (event : String) {h : Handler} (hh : P h.script) : Aside P e (e.registerHandler event h) :=
  ⟨.refl _, rfl, rfl, rfl, fun handles => handles.registerHandler event hh⟩

theorem removeHandler (event name : String) : Aside P e (e.removeHandler event name).2 := by
  have handles : e.Handles P → (e.removeHandler event name).2.Handles P := fun h => h.removeHandler event name
  unfold Engine.removeHandler at handles ⊢
  dsimp only at handles ⊢
  split at handles
  · exact refl e
  · exact ⟨.refl _, rfl, rfl, rfl, handles⟩

end Aside

section
variable {P : Script → Prop}

theorem aside_post (m : Message) (e : Engine) : Aside P e ((post m).on e).2 :=
  .posted (posted_post m e)

theorem aside_bind {m : EngineM α} {k : α → EngineM β} {e : Engine} (hm : Aside P e (m.on e).2)
    (hk : ∀ x e', Aside P e' ((k x).on e').2) : Aside P e ((m >>= k).on e).2 := by
  rw [EngineM.on_bind]
  generalize m.on e = r at hm
  obtain ⟨_ | x, e'⟩ := r
  · exact hm
  · exact hm.trans (hk x e')

theorem aside_scriptOfSource (name source : String) (e : Engine) :
    Aside P e ((scriptOfSource name source).on e).2 := by
  refine aside_bind (.refl e) fun e₁ e₂ => ?_
  dsimp only
  split
  · exact .refl e₂
  · exact aside_bind (aside_post _ e₂) fun _ e₃ => .refl e₃

theorem aside_scriptFile? (name : String) (e : Engine) : Aside P e ((scriptFile? name).on e).2 := by
  refine aside_bind (.refl e) fun e₁ e₂ => ?_
  dsimp only
  split
  · exact .refl e₂
  · exact .refl e₂
  · split
    · exact .refl e₂
    · exact aside_bind (aside_scriptOfSource _ _ e₂) fun _ e₃ =>
        aside_bind (.of_events rfl rfl rfl rfl rfl) fun _ e₄ => .refl e₄
    · exact aside_bind (aside_post _ e₂) fun _ e₃ => .refl e₃

theorem aside_findScript? (name : String) (e : Engine) : Aside P e ((findScript? name).on e).2 := by
  refine aside_bind (.refl e) fun e₁ e₂ => ?_
  split
  · exact .refl e₂
  · exact aside_scriptFile? name e₂

end

end Engine

/-! ### What leaves a frame at its place -/

/-- A scene after something that leaves its frame at its place, with as many slots, and the queues of the engine alone,
    and that adds no scripts to the engine but such with a property. -/
structure Scene.Keeps (P : Script → Prop) (s t : Scene) : Prop where
  script : t.frame.script = s.frame.script
  slots : t.frame.slots.size = s.frame.slots.size
  pc : t.frame.pc = s.frame.pc
  floor : t.frame.floor = s.frame.floor
  loops : t.frame.loops = s.frame.loops
  branches : t.frame.branches = s.frame.branches
  gives : s.engine.Gives P → t.engine.Gives P
  aside : s.engine.Aside P t.engine

namespace Scene.Keeps

variable {P : Script → Prop} {s t u : Scene}

theorem refl (s : Scene) : s.Keeps P s :=
  ⟨rfl, rfl, rfl, rfl, rfl, rfl, id, .refl _⟩

theorem trans (h : s.Keeps P t) (h' : t.Keeps P u) : s.Keeps P u where
  script := h'.script.trans h.script
  slots := h'.slots.trans h.slots
  pc := h'.pc.trans h.pc
  floor := h'.floor.trans h.floor
  loops := h'.loops.trans h.loops
  branches := h'.branches.trans h.branches
  gives := h'.gives ∘ h.gives
  aside := h.aside.trans h'.aside

end Scene.Keeps

/-- What a command does that leaves the frame at its place, whatever it comes to. -/
def Act.Steady (P : Script → Prop) (a : Act α) : Prop :=
  ∀ (site : Site) (s : Scene), s.Keeps P (a.on site s).2

namespace Act

variable {P : Script → Prop}

namespace Steady

theorem pure (x : α) : Steady P (pure x : Act α) := fun _ s => .refl s

theorem fail (f : RuntimeFault) : Steady P (fail f : Act α) := fun _ s => .refl s

theorem failInternal (f : InternalFault) : Steady P (failInternal f : Act α) := fun _ s => .refl s

theorem throw (f : Failure) : Steady P (throw f : Act α) := fun _ s => .refl s

theorem read : Steady P (read : Act Site) := fun _ s => .refl s

theorem get : Steady P (get : Act Scene) := fun _ s => .refl s

theorem frame : Steady P frame := fun _ s => .refl s

theorem bind {a : Act α} {k : α → Act β} (ha : Steady P a) (hk : ∀ x, Steady P (k x)) : Steady P (a >>= k) := by
  intro site s
  have first := ha site s
  rw [on_bind]
  generalize a.on site s = r at first
  obtain ⟨_ | x, t⟩ := r
  · exact first
  · exact first.trans (hk x site t)

theorem mapM {f : α → Act β} (hf : ∀ x, Steady P (f x)) (l : List α) : Steady P (l.mapM f) := by
  induction l with
  | nil => exact Steady.pure []
  | cons x rest ih =>
    rw [List.mapM_cons]
    exact (hf x).bind fun y => ih.bind fun ys => Steady.pure (y :: ys)

/-- Changing what a frame knows, and not where it is. -/
theorem onFrame {change : Frame → Frame} (script : ∀ f, (change f).script = f.script)
    (slots : ∀ f, (change f).slots.size = f.slots.size) (pc : ∀ f, (change f).pc = f.pc)
    (floor : ∀ f, (change f).floor = f.floor) (loops : ∀ f, (change f).loops = f.loops)
    (branches : ∀ f, (change f).branches = f.branches) : Steady P (onFrame change) := fun _ s =>
  ⟨script s.frame, slots s.frame, pc s.frame, floor s.frame, loops s.frame, branches s.frame, id, .refl _⟩

/-- Changing what an engine knows, and neither the scripts it gives nor its queues. -/
theorem modifyEngine (change : Engine → Engine) (keeps : ∀ e, e.Gives P → (change e).Gives P)
    (aside : ∀ e : Engine, e.Aside P (change e)) :
    Steady P (modify fun s => { s with engine := change s.engine } : Act Unit) := fun _ s =>
  ⟨rfl, rfl, rfl, rfl, rfl, rfl, keeps s.engine, aside s.engine⟩

end Steady

theorem steady_say (kind : MessageKind) (text : String) : Steady P (say kind text) := by
  intro site s
  have posted := Engine.posted_emit site.ownOutput s.frame.verbosity text kind s.engine
  rw [on_say]
  exact ⟨rfl, rfl, rfl, rfl, rfl, rfl, fun h => h.posted posted, .posted posted⟩

theorem steady_setSlot (slot : Nat) (v : Value) : Steady P (onFrame (·.setSlot slot v)) :=
  Steady.onFrame (fun _ => rfl) (fun _ => Array.size_setIfInBounds) (fun _ => rfl) (fun _ => rfl) (fun _ => rfl)
    fun _ => rfl

theorem steady_evaluate (a : CompiledArgument) : Steady P (evaluate a) := by
  refine Steady.frame.bind fun f => Steady.get.bind fun t => ?_
  split
  · exact Steady.pure _
  · exact Steady.throw _

theorem steady_arg (position : Nat) : Steady P (arg position) := by
  refine Steady.read.bind fun site => ?_
  split
  · exact steady_evaluate _
  · exact Steady.pure _

theorem steady_argText (position : Nat) : Steady P (argText position) :=
  (steady_arg position).bind fun _ => Steady.pure _

theorem steady_argCount : Steady P argCount :=
  Steady.read.bind fun _ => Steady.pure _

theorem steady_argWords : Steady P argWords :=
  Steady.read.bind fun _ => (Steady.mapM steady_evaluate _).bind fun _ => Steady.pure _

theorem steady_instruction : Steady P instruction :=
  Steady.read.bind fun _ => Steady.pure _

theorem steady_expect (expected : Expected) (v : Value) (read? : Value → Option α) :
    Steady P (expect expected v read?) := by
  unfold expect
  split
  · exact Steady.pure _
  · exact steady_instruction.bind fun _ => Steady.fail _

theorem steady_booleanArg (position : Nat) : Steady P (booleanArg position) :=
  (steady_arg position).bind fun v => steady_expect .boolean v Value.asBoolean?

theorem steady_namedVars : Steady P namedVars :=
  Steady.read.bind fun _ => Steady.mapM (fun _ => (steady_evaluate _).bind fun _ => Steady.pure _) _

end Act

end CommandScript
