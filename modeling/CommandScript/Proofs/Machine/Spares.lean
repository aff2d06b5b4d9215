import CommandScript.Proofs.Typing.Frames

/-! What every command leaves alone. No command touches the variables without a slot, what is scheduled or what the
    engine knows; only `determine` adds determinations, only `event` changes handlers, and `call` changes nothing of its
    frame. -/

namespace CommandScript

/-! ### Engines -/

namespace Engine

/-- An engine after something that leaves its handlers and what is scheduled alone. -/
structure SameLists (e e' : Engine) : Prop where
  events : e'.events = e.events
  autorun : e'.autorun = e.autorun

namespace SameLists

variable {e e' e'' : Engine}

theorem refl (e : Engine) : SameLists e e :=
  ⟨rfl, rfl⟩

theorem trans (h : SameLists e e') (h' : SameLists e' e'') : SameLists e e'' :=
  ⟨h'.events.trans h.events, h'.autorun.trans h.autorun⟩

theorem posted (h : Posted e e') : SameLists e e' := by
  obtain ⟨outbox, -, rfl⟩ := h
  exact ⟨rfl, rfl⟩

theorem bind {m : EngineM α} {k : α → EngineM β} (hm : SameLists e (m.on e).2)
    (hk : ∀ x e', SameLists e' ((k x).on e').2) : SameLists e ((m >>= k).on e).2 := by
  rw [EngineM.on_bind]
  generalize m.on e = r at hm
  obtain ⟨_ | x, e'⟩ := r
  · exact hm
  · exact hm.trans (hk x e')

theorem scriptOfSource (name source : String) (e : Engine) :
    SameLists e ((Engine.scriptOfSource name source).on e).2 := by
  refine bind (.refl e) fun e₁ e₂ => ?_
  dsimp only
  split
  · exact .refl e₂
  · exact bind (.posted (posted_post _ e₂)) fun _ e₃ => .refl e₃

theorem scriptFile? (name : String) (e : Engine) : SameLists e ((Engine.scriptFile? name).on e).2 := by
  refine bind (.refl e) fun e₁ e₂ => ?_
  dsimp only
  split
  · exact .refl e₂
  · exact .refl e₂
  · split
    · exact .refl e₂
    · exact bind (scriptOfSource _ _ e₂) fun _ e₃ => bind ⟨rfl, rfl⟩ fun _ e₄ => .refl e₄
    · exact bind (.posted (posted_post _ e₂)) fun _ e₃ => .refl e₃

theorem findScript? (name : String) (e : Engine) : SameLists e ((Engine.findScript? name).on e).2 := by
  refine bind (.refl e) fun e₁ e₂ => ?_
  split
  · exact .refl e₂
  · exact scriptFile? name e₂

end SameLists

end Engine

/-! ### Scenes -/

/-- A scene after something that an action may do: what the action has no hand in is as before. -/
structure Scene.Spares (a : Action) (s t : Scene) : Prop where
  vars : t.frame.vars = s.frame.vars
  determinations : a ≠ .determine → t.frame.determinations = s.frame.determinations
  frame : a = .call → t.frame = s.frame
  events : a ≠ .event → t.engine.events = s.engine.events
  autorun : t.engine.autorun = s.engine.autorun
  registries : t.engine.registries = s.engine.registries

namespace Scene.Spares

variable {a : Action} {s t u : Scene}

theorem refl (s : Scene) : s.Spares a s :=
  ⟨rfl, fun _ => rfl, fun _ => rfl, fun _ => rfl, rfl, rfl⟩

theorem trans (h : s.Spares a t) (h' : t.Spares a u) : s.Spares a u where
  vars := h'.vars.trans h.vars
  determinations other := (h'.determinations other).trans (h.determinations other)
  frame calls := (h'.frame calls).trans (h.frame calls)
  events other := (h'.events other).trans (h.events other)
  autorun := h'.autorun.trans h.autorun
  registries := h'.registries.trans h.registries

end Scene.Spares

/-- What an action may do, whatever it comes to. -/
def Act.Spares (a : Action) (x : Act α) : Prop :=
  ∀ (site : Site) (s : Scene), s.Spares a (x.on site s).2

namespace Act

variable {a : Action}

namespace Spares

theorem pure (x : α) : Spares a (pure x : Act α) := fun _ s => .refl s

theorem fail (f : RuntimeFault) : Spares a (fail f : Act α) := fun _ s => .refl s

theorem failInternal (f : InternalFault) : Spares a (failInternal f : Act α) := fun _ s => .refl s

theorem throw (f : Failure) : Spares a (throw f : Act α) := fun _ s => .refl s

theorem read : Spares a (read : Act Site) := fun _ s => .refl s

theorem get : Spares a (get : Act Scene) := fun _ s => .refl s

theorem frame : Spares a frame := fun _ s => .refl s

theorem instruction : Spares a instruction := fun _ s => .refl s

theorem argCount : Spares a argCount := fun _ s => .refl s

theorem bind {x : Act α} {k : α → Act β} (hx : Spares a x) (hk : ∀ y, Spares a (k y)) : Spares a (x >>= k) := by
  intro site s
  have first := hx site s
  rw [on_bind]
  generalize x.on site s = r at first
  obtain ⟨_ | y, t⟩ := r
  · exact first
  · exact first.trans (hk y site t)

theorem map {x : Act α} (hx : Spares a x) (g : α → β) : Spares a (do return g (← x)) :=
  hx.bind fun y => .pure (g y)

theorem mapM {f : α → Act β} (hf : ∀ x, Spares a (f x)) (l : List α) : Spares a (l.mapM f) := by
  induction l with
  | nil => exact .pure []
  | cons x rest ih =>
    rw [List.mapM_cons]
    exact (hf x).bind fun y => ih.bind fun ys => .pure (y :: ys)

theorem onEngine {m : EngineM α} (same : ∀ e : Engine, e.SameLists (m.on e).2)
    (registries : ∀ e : Engine, e.SameRegistries (m.on e).2) : Spares a (onEngine m) := by
  intro site s
  rw [on_onEngine]
  exact ⟨rfl, fun _ => rfl, fun _ => rfl, fun _ => (same s.engine).events, (same s.engine).autorun,
    registries s.engine⟩

/-- Changing the frame of an instruction that is no `call`, in what is neither a variable nor a determination. -/
theorem onFrame (other : a ≠ .call) {change : Frame → Frame} (vars : ∀ f, (change f).vars = f.vars)
    (determinations : ∀ f, (change f).determinations = f.determinations) : Spares a (onFrame change) := fun _ s =>
  ⟨vars s.frame, fun _ => determinations s.frame, fun h => absurd h other, fun _ => rfl, rfl, rfl⟩

/-- Changing the engine, and its handlers for `event` only. -/
theorem modifyEngine (change : Engine → Engine) (events : a ≠ .event → ∀ e, (change e).events = e.events)
    (autorun : ∀ e, (change e).autorun = e.autorun) (registries : ∀ e, (change e).registries = e.registries) :
    Spares a (modify fun s => { s with engine := change s.engine } : Act Unit) := fun _ s =>
  ⟨rfl, fun _ => rfl, fun _ => rfl, fun other => events other s.engine, autorun s.engine, registries s.engine⟩

/-- Changing the engine to one made from that which was seen. -/
theorem update (change : Engine → Engine) (events : a ≠ .event → ∀ e, (change e).events = e.events)
    (autorun : ∀ e, (change e).autorun = e.autorun) (registries : ∀ e, (change e).registries = e.registries)
    {k : Scene → Act α} (hk : ∀ s, Spares a (k s)) : Spares a (do
      let s ← MonadState.get
      modify fun t => { t with engine := change s.engine }
      k s) := by
  intro site s
  have changed := modifyEngine change events autorun registries site s
  rw [on_modify] at changed
  rw [on_bind, on_get]
  dsimp only
  rw [on_bind, on_modify]
  exact changed.trans (hk s site _)

end Spares

/-! ### Arguments and messages -/

theorem spares_say (kind : MessageKind) (text : String) : Spares a (say kind text) :=
  Spares.read.bind fun _ => Spares.frame.bind fun _ =>
    .onEngine (fun e => .posted (Engine.posted_emit _ _ _ _ e)) fun e => (Engine.posted_emit _ _ _ _ e).sameRegistries

theorem spares_evaluate (x : CompiledArgument) : Spares a (evaluate x) := by
  refine Spares.frame.bind fun f => Spares.get.bind fun s => ?_
  split
  · exact .pure _
  · exact .throw _

theorem spares_arg (position : Nat) : Spares a (arg position) := by
  refine Spares.read.bind fun site => ?_
  split
  · exact spares_evaluate _
  · exact .pure _

theorem spares_argText (position : Nat) : Spares a (argText position) :=
  (spares_arg position).map _

theorem spares_argWords : Spares a argWords :=
  Spares.read.bind fun _ => (Spares.mapM spares_evaluate _).map _

theorem spares_expect (expected : Expected) (v : Value) (read? : Value → Option α) :
    Spares a (expect expected v read?) := by
  unfold expect
  split
  · exact .pure _
  · exact Spares.instruction.bind fun _ => .fail _

theorem spares_booleanArg (position : Nat) : Spares a (booleanArg position) :=
  (spares_arg position).bind fun v => spares_expect .boolean v Value.asBoolean?

theorem spares_namedVars : Spares a namedVars :=
  Spares.read.bind fun _ => .mapM (fun _ => (spares_evaluate _).bind fun _ => .pure _) _

/-! ### Moving on -/

section
variable (other : a ≠ .call)
include other

theorem spares_setSlot (slot : Nat) (v : Value) : Spares a (onFrame (·.setSlot slot v)) :=
  .onFrame other (fun _ => rfl) fun _ => rfl

theorem spares_jump (target : Nat) : Spares a (jump target) := by
  intro site s
  rw [jump, on_bind, on_frame]
  dsimp only
  unfold Frame.jump?
  split
  · rename_i f hf
    split at hf
    · cases hf
    · cases hf
      exact ⟨rfl, fun _ => rfl, fun h => absurd h other, fun _ => rfl, rfl, rfl⟩
  · exact Spares.fail _ site s

theorem spares_skipBlock : Spares a skipBlock := by
  refine Spares.instruction.bind fun i => ?_
  split
  · exact .pure _
  · exact Spares.read.bind fun _ => Spares.frame.bind fun _ => spares_jump other _

/-- Goes on into the block, or past it. -/
theorem spares_enter (taken : Bool) : Spares a (do
    if !taken then skipBlock
    return Flow.proceed) := by
  dsimp only
  split
  · exact (spares_skipBlock other).map _
  · exact .pure _

theorem spares_setLoopVariable (owner : Nat) (v : Value) : Spares a (setLoopVariable owner v) := by
  refine Spares.frame.bind fun f => ?_
  split
  · exact spares_setSlot other _ _
  · exact .pure _

theorem spares_nextRound (owner : Nat) (next : Option (LoopState × Value)) : Spares a (nextRound owner next) := by
  unfold nextRound
  split
  · refine Spares.bind (.onFrame other (fun _ => rfl) fun _ => rfl) fun _ =>
      (spares_setLoopVariable other _ _).bind fun _ => Spares.bind (Spares.frame.bind fun f => ?_) fun start =>
        (spares_jump other start).map _
    split
    · exact .pure _
    · exact .failInternal _
  · exact Spares.bind (.onFrame other (fun _ => rfl) fun _ => rfl) fun _ => .pure _

end

theorem spares_bodyScript (name : String) : Spares a (bodyScript name) := by
  refine Spares.instruction.bind fun i => ?_
  split
  · exact .failInternal _
  · refine Spares.get.bind fun s => Spares.frame.bind fun f => ?_
    split
    · exact .pure _
    · exact .fail _

theorem spares_findScript (name : String) : Spares a (findScript name) := by
  refine (Spares.onEngine (Engine.SameLists.findScript? name)
    (Engine.sameRegistries_findScript? name)).bind fun found => ?_
  split
  · exact .pure _
  · exact .fail _

/-! ### Commands -/

theorem spares_help : Spares a help := by
  refine Spares.get.bind fun s => Spares.argCount.bind fun n => ?_
  split
  · exact (spares_say _ _).map _
  · refine (spares_argText 0).bind fun text => ?_
    dsimp only
    split
    · exact .fail _
    · exact (spares_say _ _).bind fun _ => (spares_say _ _).map _

theorem spares_determine : Spares .determine determine := by
  refine (spares_arg 0).bind fun value => (spares_say _ _).bind fun _ => Spares.map (fun site s => ?_) _
  exact ⟨rfl, fun h => absurd rfl h, fun h => (by cases h), fun _ => rfl, rfl, rfl⟩

theorem spares_call : Spares a call := by
  have called : Spares a (do
      let script ← findScript (← argText 0)
      let vars ← namedVars
      say .good s!"Calling '{script.name}'."
      return Flow.enter script vars) :=
    (spares_argText 0).bind fun _ => (spares_findScript _).bind fun _ => spares_namedVars.bind fun _ =>
      (spares_say _ _).map _
  refine Spares.read.bind fun site => ?_
  split
  · exact Spares.bind (.fail (α := Unit) _) fun _ => called
  · exact called

theorem spares_launch : Spares a launch :=
  (spares_argText 0).bind fun _ => (spares_findScript _).bind fun _ => spares_namedVars.bind fun _ =>
    (spares_say _ _).bind fun _ => Spares.instruction.map _

theorem spares_priorityArg : Spares a priorityArg := by
  refine Spares.argCount.bind fun n => ?_
  split
  · exact .pure _
  · refine (spares_arg 3).bind fun value => ?_
    split
    · exact .fail _
    · split
      · exact .pure _
      · exact .fail _

theorem spares_event : Spares .event event := by
  have other : Action.event ≠ .call := nofun
  refine (spares_argText 0).bind fun action => (spares_argText 1).bind fun event =>
    (spares_argText 2).bind fun h => ?_
  dsimp only
  split
  · have removed : ∀ e : Engine, ∃ events,
        (e.removeHandler (Text.lower event) (Text.lower h)).2 = { e with events := events } := fun e => by
      unfold Engine.removeHandler
      dsimp only
      split
      · exact ⟨e.events, rfl⟩
      · exact ⟨_, rfl⟩
    refine Spares.update (fun e => (e.removeHandler (Text.lower event) (Text.lower h)).2)
      (fun h => absurd rfl h) (fun e => ?_) (fun e => ?_) fun s => ?_
    · obtain ⟨events, h⟩ := removed e
      rw [h]
    · obtain ⟨events, h⟩ := removed e
      rw [h]
    · split
      · exact (spares_say _ _).map _
      · exact (spares_say _ _).map _
  · refine spares_priorityArg.bind fun priority => (spares_bodyScript _).bind fun script => ?_
    refine (Spares.modifyEngine (fun e => e.registerHandler (Text.lower event)
      ⟨Text.lower (Text.lower h), script, priority, true⟩) (fun h => absurd rfl h) (fun _ => rfl)
        fun _ => rfl).bind fun _ => ?_
    exact (spares_say _ _).bind fun _ => (spares_skipBlock other).map _

theorem spares_custom (respond : List Value → Reply) : Spares a (custom respond) := by
  refine Spares.read.bind fun site => (Spares.mapM spares_evaluate _).bind fun values => ?_
  split
  · exact .pure _
  · exact .pure _
  · exact .pure _
  · exact .throw _
  · exact .failInternal _

theorem spares_wait : Spares a wait := by
  refine (spares_arg 0).bind fun v => (spares_expect _ _ _).bind fun seconds => Spares.read.bind fun site => ?_
  split
  · exact (spares_say _ _).map _
  · exact (spares_say _ _).map _

section
variable (other : a ≠ .call)
include other

theorem spares_debug : Spares a debug := by
  refine (spares_argText 0).bind fun text => ?_
  split
  · exact .fail _
  · exact Spares.bind (.onFrame other (fun _ => rfl) fun _ => rfl) fun _ => (spares_say _ _).map _

/-- Gives a slot a value, and may say so before. -/
theorem spares_store (slot : Nat) (v : Value) (loud : Prop) [Decidable loud] (text : String) : Spares a (do
    if loud then say .good text
    onFrame (·.setSlot slot v)
    return Flow.proceed) := by
  dsimp only
  split
  · exact (spares_say _ _).bind fun _ => (spares_setSlot other _ _).map _
  · exact (spares_setSlot other _ _).map _

theorem spares_define : Spares a define := by
  refine Spares.read.bind fun site => ?_
  split
  · exact .failInternal _
  · exact Spares.frame.bind fun f => Spares.get.bind fun s => (spares_arg 1).bind fun v => Spares.frame.bind fun f =>
      spares_store other _ _ _ _

theorem spares_set : Spares a set := by
  refine (spares_argText 0).bind fun text => Spares.read.bind fun site => ?_
  split
  · exact .fail _
  · refine (spares_argText 1).bind fun op => ?_
    dsimp only
    split
    · exact .fail _
    · refine Spares.frame.bind fun f => (spares_arg 2).bind fun input => Spares.get.bind fun s => ?_
      split
      · exact .fail _
      · exact spares_store other _ _ _ _

theorem spares_ifBlock : Spares a ifBlock :=
  (spares_booleanArg 0).bind fun taken => Spares.read.bind fun _ =>
    Spares.bind (.onFrame other (fun _ => rfl) fun _ => rfl) fun _ => spares_enter other taken

theorem spares_elseBlock : Spares a elseBlock := by
  refine Spares.instruction.bind fun i => ?_
  split
  · exact .failInternal _
  · rename_i link _
    refine Spares.frame.bind fun f => ?_
    have decided : ∀ taken : Bool, Spares a (do
        let index := (← MonadReader.read).index
        Act.onFrame (·.setBranch index (f.branchTaken link || taken))
        if !taken then skipBlock
        return Flow.proceed) := fun taken =>
      Spares.read.bind fun _ => Spares.bind (.onFrame other (fun _ => rfl) fun _ => rfl) fun _ =>
        spares_enter other taken
    dsimp only
    split
    · exact decided false
    · refine Spares.argCount.bind fun n => ?_
      split
      · exact (spares_booleanArg 1).bind fun taken => decided taken
      · exact decided true

theorem spares_repeatBlock : Spares a repeatBlock := by
  refine Spares.instruction.bind fun i => ?_
  split
  · exact Spares.frame.bind fun f => spares_nextRound other _ _
  · refine (spares_arg 0).bind fun v => (spares_expect _ _ _).bind fun total => Spares.read.bind fun site => ?_
    dsimp only
    split
    · exact (spares_say _ _).bind fun _ => (spares_skipBlock other).map _
    · exact Spares.bind (.onFrame other (fun _ => rfl) fun _ => rfl) fun _ =>
        (spares_setLoopVariable other _ _).map _

theorem spares_foreach : Spares a foreach := by
  refine Spares.instruction.bind fun i => ?_
  split
  · exact Spares.frame.bind fun f => spares_nextRound other _ _
  · refine (spares_arg 0).bind fun v => Spares.read.bind fun site => ?_
    dsimp only
    split
    · exact (spares_skipBlock other).map _
    · exact Spares.bind (.onFrame other (fun _ => rfl) fun _ => rfl) fun _ =>
        (spares_setLoopVariable other _ _).map _

/-- What `once` does when its mark is known. -/
theorem spares_markOnce (id : String) (mode : OnceMode) : Spares a (do
    let (isNew, engine) := (← MonadState.get).engine.markOnce id
    modify fun s => { s with engine := engine }
    if isNew then
      say .good s!"Once block '{id}' entered."
      return Flow.proceed
    match mode with
    | .error => Act.fail (.onceRepeated id)
    | .warning => say .bad (onceRepeatedMessage id)
    | .quiet => Pure.pure ()
    skipBlock
    return Flow.proceed) := by
  have skipped : Spares a (do
    skipBlock
    return Flow.proceed) := (spares_skipBlock other).map _
  have marked : ∀ e : Engine, (e.markOnce id).2 = e ∨ ∃ ids, (e.markOnce id).2 = { e with once := ids } := fun e => by
    unfold Engine.markOnce
    dsimp only
    split
    · exact Or.inl rfl
    · exact Or.inr ⟨_, rfl⟩
  refine Spares.update (fun e => (e.markOnce id).2) (fun _ e => ?_) (fun e => ?_) (fun e => ?_) fun s => ?_
  · rcases marked e with h | ⟨ids, h⟩ <;> rw [h]
  · rcases marked e with h | ⟨ids, h⟩ <;> rw [h]
  · rcases marked e with h | ⟨ids, h⟩ <;> rw [h]
  · split
    · exact (spares_say _ _).map _
    · cases mode with
      | error => exact Spares.bind (.fail (α := Unit) _) fun _ => skipped
      | warning => exact (spares_say _ _).bind fun _ => skipped
      | quiet => exact skipped

theorem spares_once : Spares a once := by
  refine (spares_argText 0).bind fun text => Spares.argCount.bind fun n => ?_
  have marked := spares_markOnce other (Text.lower text)
  split
  · refine (spares_argText 1).bind fun word => ?_
    split
    · exact marked _
    · exact Spares.bind (.fail (α := OnceMode) _) fun mode => marked mode
  · exact marked .error

theorem spares_goto : Spares a goto := by
  refine (spares_argText 0).bind fun text => Spares.frame.bind fun f => ?_
  dsimp only
  split
  · exact .fail _
  · exact Spares.bind (.onFrame other (fun _ => rfl) fun _ => rfl) fun _ => (spares_say _ _).map _

theorem spares_tryBlock : Spares a tryBlock := by
  refine Spares.instruction.bind fun i => ?_
  split
  · refine Spares.frame.bind fun f => ?_
    split
    · exact (spares_say _ _).map _
    · exact .pure _
  · exact Spares.read.bind fun _ => Spares.bind (.onFrame other (fun _ => rfl) fun _ => rfl) fun _ => .pure _

theorem spares_catchBlock : Spares a catchBlock :=
  Spares.frame.bind fun _ => Spares.instruction.bind fun _ => spares_enter other _

theorem spares_function : Spares a function := by
  refine (spares_argText 0).bind fun text => (spares_bodyScript _).bind fun script => ?_
  refine (Spares.modifyEngine (fun e => e.registerFunction (Text.lower text) script) (fun _ _ => rfl)
    (fun _ => rfl) fun _ => rfl).bind fun _ => ?_
  exact (spares_say _ _).bind fun _ => (spares_skipBlock other).map _

end

end Act

/-- Every command leaves alone what it has no hand in. -/
theorem Action.spares (a : Action) : a.perform.Spares a := by
  cases a with
  | echo => exact Act.spares_argWords.bind fun _ => (Act.spares_say _ _).map _
  | help => exact Act.spares_help
  | noop => exact .pure _
  | debug => exact Act.spares_debug nofun
  | define => exact Act.spares_define nofun
  | set => exact Act.spares_set nofun
  | determine => exact Act.spares_determine
  | error => exact Act.spares_argWords.bind fun _ => .fail _
  | stop => exact (Act.spares_say _ _).map _
  | compileError => exact (Act.spares_argText 0).bind fun _ => .fail _
  | ifBlock => exact Act.spares_ifBlock nofun
  | elseBlock => exact Act.spares_elseBlock nofun
  | repeatBlock => exact Act.spares_repeatBlock nofun
  | foreach => exact Act.spares_foreach nofun
  | once => exact Act.spares_once nofun
  | goto => exact Act.spares_goto nofun
  | mark => exact .pure _
  | tryBlock => exact Act.spares_tryBlock nofun
  | catchBlock => exact Act.spares_catchBlock nofun
  | wait => exact Act.spares_wait
  | function => exact Act.spares_function nofun
  | call => exact Act.spares_call
  | run => exact Act.spares_launch
  | event => exact Act.spares_event
  | custom respond => exact Act.spares_custom respond

/-! ### Machines -/

namespace Machine

variable {m : Machine} {f g : Frame} {below : List Frame} {entry : Entry} {r : Except ScriptError Flow} {e : Engine}

theorem perform_spares {c : Command} (hc : entry.command = some c) (performed : m.perform f below entry = (r, e, g)) :
    Scene.Spares c.action ⟨m.engine, f.next⟩ ⟨e, g⟩ := by
  rw [perform, hc] at performed
  have spares := c.action.spares ⟨entry, f.pc, below.length + 1, m.running.delayable, m.running.ownOutput⟩
    ⟨m.engine, f.next⟩
  cases performed
  exact spares

/-- Without a command, nothing is done. -/
theorem perform_of_none (hc : entry.command = none) (performed : m.perform f below entry = (r, e, g)) :
    e = m.engine ∧ g = f.next := by
  rw [perform, hc] at performed
  cases performed
  exact ⟨rfl, rfl⟩

theorem perform_registries (performed : m.perform f below entry = (r, e, g)) :
    e.registries = m.engine.registries := by
  cases hc : entry.command with
  | none =>
    obtain ⟨rfl, -⟩ := perform_of_none hc performed
    rfl
  | some c => exact (perform_spares hc performed).registries

/-- A step leaves what the engine knows alone. -/
theorem registries_step {m' : Machine} (next : m.step = .next m') : m'.engine.registries = m.engine.registries := by
  rcases step_cases next with
    (leaves | ⟨failure, c, callers, -, -, rfl⟩) | ⟨-, ⟨-, rfl⟩ | ⟨f, below, -, -, rfl⟩ | ⟨f, below, entry, -, rfl⟩⟩
  · obtain ⟨queues, engine⟩ := leaves.engine
    rw [engine]
  · exact registries_handle ⟨m.engine, c.queue, callers⟩ failure.toScriptError
  · rfl
  · rfl
  · rw [execute_eq]
    generalize performed : m.awake.perform f below entry = p
    obtain ⟨r, e, g⟩ := p
    exact (registries_conclude m.awake below r e g).trans (perform_registries performed)

end Machine

end CommandScript
