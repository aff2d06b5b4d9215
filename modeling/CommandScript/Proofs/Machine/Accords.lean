import CommandScript.Proofs.Machine.Effects

/-! The same command in two engines. A command sees of an engine what it knows of types and commands, the outcome of
    its messages and, where it looks for a script, registers one or marks a name, the outcome of that. In two engines
    that agree on all this it comes to the same and does the same to its frame, and they go on to agree. -/

namespace CommandScript

/-! ### Engines -/

/-- The outcome is the same in related engines, and leaves them related. -/
def EngineM.Accords (R : Engine → Engine → Prop) (m : EngineM α) : Prop :=
  ∀ e e', R e e' → (m.on e').1 = (m.on e).1 ∧ R (m.on e).2 (m.on e').2

namespace EngineM

variable {R : Engine → Engine → Prop}

theorem Accords.pure (x : α) : Accords R (pure x : EngineM α) :=
  fun _ _ related => ⟨rfl, related⟩

theorem Accords.bind {m : EngineM α} {k : α → EngineM β} (hm : Accords R m) (hk : ∀ x, Accords R (k x)) :
    Accords R (m >>= k) := by
  intro e e' related
  obtain ⟨same, next⟩ := hm e e' related
  rw [on_bind, on_bind]
  generalize m.on e = r at same next
  generalize m.on e' = r' at same next
  obtain ⟨_ | x, t⟩ := r <;> obtain ⟨_, t'⟩ := r' <;> cases same
  · exact ⟨rfl, next⟩
  · exact hk x _ _ next

/-- Reading the engine does no harm where the rest is the same for both. -/
theorem Accords.get {k : Engine → EngineM α} (hk : ∀ e, Accords R (k e))
    (same : ∀ {e e'}, R e e' → k e' = k e) : Accords R (get >>= k) := by
  intro e e' related
  rw [on_bind, on_bind, on_get, on_get]
  dsimp only
  rw [same related]
  exact hk e e e' related

end EngineM

namespace Engine

/-- A relation of engines that know the same types and commands, and for which a message goes through in both or in
    neither. -/
structure Accord (R : Engine → Engine → Prop) : Prop where
  registries : ∀ {e e'}, R e e' → e'.registries = e.registries
  post : ∀ m, (post m).Accords R

theorem Accord.emit {R : Engine → Engine → Prop} (accord : Accord R) (own : Bool) (verbosity : Verbosity)
    (text : String) (kind : MessageKind) : (emit own verbosity text kind).Accords R := by
  unfold Engine.emit
  split
  · refine (accord.post _).bind fun _ => ?_
    split
    · exact accord.post _
    · exact .pure _
  · exact .pure _

/-- Such a relation of engines that also know the same scripts, and go on to when both keep another one. -/
structure Library (R : Engine → Engine → Prop) : Prop extends Accord R where
  functions : ∀ {e e'}, R e e' → e'.functions = e.functions
  scripts : ∀ {e e'}, R e e' → e'.scripts = e.scripts
  loader : ∀ {e e'}, R e e' → e'.loader = e.loader
  extension : ∀ {e e'}, R e e' → e'.extension = e.extension
  verbosity : ∀ {e e'}, R e e' → e'.verbosity = e.verbosity
  keep : ∀ {e e'}, R e e' → ∀ key s,
    R { e with scripts := setKey key s e.scripts } { e' with scripts := setKey key s e'.scripts }

section
variable {R : Engine → Engine → Prop} (library : Library R)
include library

theorem Library.scriptOfSource (name source : String) : (scriptOfSource name source).Accords R := by
  refine .get (fun e => ?_) fun related => ?_
  · split
    · exact .pure _
    · exact (library.post _).bind fun _ => .pure _
  · simp only [compileScript, library.registries related, library.verbosity related]

theorem Library.scriptFile? (name : String) : (scriptFile? name).Accords R := by
  refine .get (fun e => ?_) fun related => ?_
  · dsimp only
    split
    · exact .pure _
    · exact .pure _
    · split
      · exact .pure _
      · refine (library.scriptOfSource _ _).bind fun s => EngineM.Accords.bind ?_ fun _ => .pure _
        exact fun e e' related => ⟨rfl, library.keep related _ _⟩
      · exact (library.post _).bind fun _ => .pure _
  · simp only [library.scripts related, library.loader related, library.extension related]

theorem Library.findScript? (name : String) : (findScript? name).Accords R := by
  refine .get (fun e => ?_) fun related => ?_
  · split
    · exact .pure _
    · exact library.scriptFile? name
  · simp only [Engine.function?, library.functions related]

end

/-- Such a relation that stays whatever both mark or register. -/
structure Twins (R : Engine → Engine → Prop) : Prop extends Library R where
  markOnce : ∀ {e e'}, R e e' → ∀ id, (e'.markOnce id).1 = (e.markOnce id).1 ∧ R (e.markOnce id).2 (e'.markOnce id).2
  registerFunction : ∀ {e e'}, R e e' → ∀ name s, R (e.registerFunction name s) (e'.registerFunction name s)
  registerHandler : ∀ {e e'}, R e e' → ∀ event h, R (e.registerHandler event h) (e'.registerHandler event h)
  removeHandler : ∀ {e e'}, R e e' → ∀ event name,
    (e'.removeHandler event name).1 = (e.removeHandler event name).1 ∧
      R (e.removeHandler event name).2 (e'.removeHandler event name).2

end Engine

/-! ### Parts of commands -/

namespace Act

/-- What comes of a frame in related engines: the result and the frame are the same, and the script is as before. -/
structure Agree (R : Engine → Engine → Prop) (f : Frame) (r r' : Except Failure α × Scene) : Prop where
  result : r'.1 = r.1
  frame : r'.2.frame = r.2.frame
  script : r.2.frame.script = f.script
  engine : R r.2.engine r'.2.engine

/-- What does the same in related engines. -/
def Accords (R : Engine → Engine → Prop) (x : Act α) : Prop :=
  ∀ (site : Site) (f : Frame) {e e' : Engine}, R e e' → Agree R f (x.on site ⟨e, f⟩) (x.on site ⟨e', f⟩)

namespace Accords

variable {R : Engine → Engine → Prop}

theorem pure (x : α) : Accords R (pure x : Act α) := fun _ _ _ _ related => ⟨rfl, rfl, rfl, related⟩

theorem throw (f : Failure) : Accords R (throw f : Act α) := fun _ _ _ _ related => ⟨rfl, rfl, rfl, related⟩

theorem fail (f : RuntimeFault) : Accords R (fail f : Act α) := .throw _

theorem failInternal (f : InternalFault) : Accords R (failInternal f : Act α) := .throw _

theorem read : Accords R (read : Act Site) := fun _ _ _ _ related => ⟨rfl, rfl, rfl, related⟩

theorem frame : Accords R frame := fun _ _ _ _ related => ⟨rfl, rfl, rfl, related⟩

theorem instruction : Accords R instruction := fun _ _ _ _ related => ⟨rfl, rfl, rfl, related⟩

theorem argCount : Accords R argCount := fun _ _ _ _ related => ⟨rfl, rfl, rfl, related⟩

theorem onFrame {change : Frame → Frame} (script : ∀ f, (change f).script = f.script) : Accords R (onFrame change) :=
  fun _ f _ _ related => ⟨rfl, rfl, script f, related⟩

theorem onEngine {m : EngineM α} (hm : m.Accords R) : Accords R (onEngine m) := by
  intro site f e e' related
  rw [on_onEngine, on_onEngine]
  obtain ⟨same, next⟩ := hm e e' related
  exact ⟨same, rfl, rfl, next⟩

theorem bind {x : Act α} {k : α → Act β} (hx : Accords R x) (hk : ∀ y, Accords R (k y)) : Accords R (x >>= k) := by
  intro site f e e' related
  obtain ⟨same, frame, script, next⟩ := hx site f related
  rw [on_bind, on_bind]
  generalize x.on site ⟨e, f⟩ = r at same frame script next
  generalize x.on site ⟨e', f⟩ = r' at same frame script next
  obtain ⟨_ | y, e₁, g⟩ := r <;> obtain ⟨_, e₁', g'⟩ := r' <;> cases same <;> cases frame
  · exact ⟨rfl, rfl, script, next⟩
  · obtain ⟨same, frame, script', next⟩ := hk y site g next
    exact ⟨same, frame, script'.trans script, next⟩

theorem map {x : Act α} (hx : Accords R x) (g : α → β) : Accords R (do return g (← x)) :=
  hx.bind fun y => .pure (g y)

theorem mapM {g : α → Act β} (hg : ∀ x, Accords R (g x)) (l : List α) : Accords R (l.mapM g) := by
  induction l with
  | nil => exact .pure []
  | cons x rest ih =>
    rw [List.mapM_cons]
    exact (hg x).bind fun y => ih.map (y :: ·)

/-- Reading the engine does no harm where the rest is the same for both. -/
theorem get {k : Scene → Act α} (hk : ∀ s, Accords R (k s))
    (same : ∀ {e e'} (f : Frame), R e e' → k ⟨e', f⟩ = k ⟨e, f⟩) : Accords R (get >>= k) := by
  intro site f e e' related
  rw [on_bind, on_bind, on_get, on_get]
  dsimp only
  rw [same f related]
  exact hk ⟨e, f⟩ site f related

/-- Changing the engine in a way that keeps the relation. -/
theorem modifyEngine (change : Engine → Engine) (keeps : ∀ e e', R e e' → R (change e) (change e')) :
    Accords R (modify fun s => { s with engine := change s.engine } : Act Unit) :=
  fun _ _ _ _ related => ⟨rfl, rfl, rfl, keeps _ _ related⟩

end Accords

section
variable {R : Engine → Engine → Prop} (accord : Engine.Accord R)
include accord

theorem accords_say (kind : MessageKind) (text : String) : (say kind text).Accords R :=
  Accords.read.bind fun _ => Accords.frame.bind fun _ => .onEngine (accord.emit _ _ _ _)

theorem accords_types : types.Accords R := fun _ _ _ _ related =>
  ⟨congrArg (fun known => Except.ok (Registries.types known)) (accord.registries related), rfl, rfl, related⟩

theorem accords_evaluate (a : CompiledArgument) : (evaluate a).Accords R := by
  refine Accords.frame.bind fun f => (accords_types accord).bind fun known => ?_
  dsimp only
  split
  · exact .pure _
  · exact .throw _

theorem accords_arg (position : Nat) : (arg position).Accords R := by
  refine Accords.read.bind fun site => ?_
  split
  · exact accords_evaluate accord _
  · exact .pure _

theorem accords_argText (position : Nat) : (argText position).Accords R :=
  (accords_arg accord position).map _

theorem accords_argWords : argWords.Accords R :=
  Accords.read.bind fun _ => (Accords.mapM (accords_evaluate accord) _).map _

omit accord in
theorem accords_expect (expected : Expected) (v : Value) (read? : Value → Option α) :
    (expect expected v read?).Accords R := by
  unfold expect
  split
  · exact .pure _
  · exact Accords.instruction.bind fun _ => .fail _

theorem accords_booleanArg (position : Nat) : (booleanArg position).Accords R :=
  (accords_arg accord position).bind fun _ => accords_expect _ _ _

theorem accords_namedVars : namedVars.Accords R :=
  Accords.read.bind fun _ => .mapM (fun _ => (accords_evaluate accord _).map _) _

omit accord in
theorem accords_jump (target : Nat) : (jump target).Accords R := by
  intro site f e e' related
  rw [jump, on_bind, on_bind, on_frame, on_frame]
  dsimp only
  unfold Frame.jump?
  split
  · rename_i g hg
    split at hg
    · cases hg
    · cases hg
      exact ⟨rfl, rfl, rfl, related⟩
  · exact ⟨rfl, rfl, rfl, related⟩

omit accord in
theorem accords_skipBlock : skipBlock.Accords R := by
  refine Accords.instruction.bind fun i => ?_
  split
  · exact .pure _
  · exact Accords.read.bind fun _ => Accords.frame.bind fun _ => accords_jump _

omit accord in
theorem accords_enter (taken : Bool) : Accords R (do
    if !taken then skipBlock
    return Flow.proceed) := by
  dsimp only
  split
  · exact accords_skipBlock.map _
  · exact .pure _

omit accord in
theorem accords_setLoopVariable (owner : Nat) (v : Value) : (setLoopVariable owner v).Accords R := by
  refine Accords.frame.bind fun f => ?_
  split
  · exact .onFrame fun _ => rfl
  · exact .pure _

omit accord in
theorem accords_nextRound (owner : Nat) (next : Option (LoopState × Value)) : (nextRound owner next).Accords R := by
  unfold nextRound
  split
  · refine Accords.bind (.onFrame fun _ => rfl) fun _ => (accords_setLoopVariable _ _).bind fun _ =>
      Accords.bind (Accords.frame.bind fun f => ?_) fun _ => (accords_jump _).map _
    split
    · exact .pure _
    · exact .failInternal _
  · exact Accords.bind (.onFrame fun _ => rfl) fun _ => .pure _

theorem accords_bodyScript (name : String) : (bodyScript name).Accords R := by
  refine Accords.instruction.bind fun i => ?_
  split
  · exact .failInternal _
  · refine .get (fun s => Accords.frame.bind fun f => ?_) fun f related => ?_
    · split
      · exact .pure _
      · exact .fail _
    · rw [accord.registries related]

/-! ### Commands -/

theorem accords_help : help.Accords R := by
  refine .get (fun s => Accords.argCount.bind fun n => ?_) fun f related => ?_
  · split
    · exact (accords_say accord _ _).map _
    · refine (accords_argText accord 0).bind fun text => ?_
      dsimp only
      split
      · exact .fail _
      · exact (accords_say accord _ _).bind fun _ => (accords_say accord _ _).map _
  · rw [accord.registries related]

theorem accords_debug : debug.Accords R := by
  refine (accords_argText accord 0).bind fun text => ?_
  split
  · exact .fail _
  · exact Accords.bind (.onFrame fun _ => rfl) fun _ => (accords_say accord _ _).map _

theorem accords_store (slot : Nat) (v : Value) (loud : Prop) [Decidable loud] (text : String) : Accords R (do
    if loud then say .good text
    onFrame (·.setSlot slot v)
    return Flow.proceed) := by
  dsimp only
  split
  · exact (accords_say accord _ _).bind fun _ => Accords.bind (.onFrame fun _ => rfl) fun _ => .pure _
  · exact Accords.bind (.onFrame fun _ => rfl) fun _ => .pure _

theorem accords_define : define.Accords R := by
  refine Accords.read.bind fun site => ?_
  split
  · exact .failInternal _
  · exact Accords.frame.bind fun f => (accords_types accord).bind fun _ => (accords_arg accord 1).bind fun _ =>
      Accords.frame.bind fun _ => accords_store accord _ _ _ _

theorem accords_set : set.Accords R := by
  refine (accords_argText accord 0).bind fun text => Accords.read.bind fun site => ?_
  split
  · exact .fail _
  · refine (accords_argText accord 1).bind fun op => ?_
    dsimp only
    split
    · exact .fail _
    · refine Accords.frame.bind fun f => (accords_arg accord 2).bind fun input =>
        (accords_types accord).bind fun t => ?_
      split
      · exact .fail _
      · exact accords_store accord _ _ _ _

theorem accords_determine : determine.Accords R :=
  (accords_arg accord 0).bind fun _ => (accords_say accord _ _).bind fun _ =>
    Accords.bind (.onFrame fun _ => rfl) fun _ => .pure _

theorem accords_ifBlock : ifBlock.Accords R :=
  (accords_booleanArg accord 0).bind fun _ => Accords.read.bind fun _ => Accords.bind (.onFrame fun _ => rfl) fun _ =>
    accords_enter _

theorem accords_elseBlock : elseBlock.Accords R := by
  refine Accords.instruction.bind fun i => ?_
  split
  · exact .failInternal _
  · rename_i link _
    refine Accords.frame.bind fun f => ?_
    have decided : ∀ taken : Bool, Accords R (do
        let index := (← MonadReader.read).index
        Act.onFrame (·.setBranch index (f.branchTaken link || taken))
        if !taken then skipBlock
        return Flow.proceed) := fun taken =>
      Accords.read.bind fun _ => Accords.bind (.onFrame fun _ => rfl) fun _ => accords_enter taken
    dsimp only
    split
    · exact decided false
    · refine Accords.argCount.bind fun n => ?_
      split
      · exact (accords_booleanArg accord 1).bind decided
      · exact decided true

theorem accords_repeatBlock : repeatBlock.Accords R := by
  refine Accords.instruction.bind fun i => ?_
  split
  · exact Accords.frame.bind fun _ => accords_nextRound _ _
  · refine (accords_arg accord 0).bind fun v => (accords_expect _ _ _).bind fun total =>
      Accords.read.bind fun site => ?_
    dsimp only
    split
    · exact (accords_say accord _ _).bind fun _ => accords_skipBlock.map _
    · exact Accords.bind (.onFrame fun _ => rfl) fun _ => (accords_setLoopVariable _ _).map _

theorem accords_foreach : foreach.Accords R := by
  refine Accords.instruction.bind fun i => ?_
  split
  · exact Accords.frame.bind fun _ => accords_nextRound _ _
  · refine (accords_arg accord 0).bind fun v => Accords.read.bind fun site => ?_
    dsimp only
    split
    · exact accords_skipBlock.map _
    · exact Accords.bind (.onFrame fun _ => rfl) fun _ => (accords_setLoopVariable _ _).map _

theorem accords_goto : goto.Accords R := by
  refine (accords_argText accord 0).bind fun text => Accords.frame.bind fun f => ?_
  dsimp only
  split
  · exact .fail _
  · exact Accords.bind (.onFrame fun _ => rfl) fun _ => (accords_say accord _ _).map _

theorem accords_tryBlock : tryBlock.Accords R := by
  refine Accords.instruction.bind fun i => ?_
  split
  · refine Accords.frame.bind fun f => ?_
    split
    · exact (accords_say accord _ _).map _
    · exact .pure _
  · exact Accords.read.bind fun _ => Accords.bind (.onFrame fun _ => rfl) fun _ => .pure _

omit accord in
theorem accords_catchBlock : catchBlock.Accords R :=
  Accords.frame.bind fun _ => Accords.instruction.bind fun _ => accords_enter _

theorem accords_wait : wait.Accords R := by
  refine (accords_arg accord 0).bind fun v => (accords_expect _ _ _).bind fun seconds =>
    Accords.read.bind fun site => ?_
  split
  · exact (accords_say accord _ _).map _
  · exact (accords_say accord _ _).map _

theorem accords_custom (respond : List Value → Reply) : (custom respond).Accords R := by
  refine Accords.read.bind fun site => (Accords.mapM (accords_evaluate accord) _).bind fun values => ?_
  split
  · exact .pure _
  · exact .pure _
  · exact .pure _
  · exact .throw _
  · exact .failInternal _

theorem accords_priorityArg : priorityArg.Accords R := by
  refine Accords.argCount.bind fun n => ?_
  split
  · exact .pure _
  · refine (accords_arg accord 3).bind fun value => ?_
    split
    · exact .fail _
    · split
      · exact .pure _
      · exact .fail _

end

/-! ### Commands that look for a script -/

section
variable {R : Engine → Engine → Prop} (library : Engine.Library R)
include library

theorem accords_findScript (name : String) : (findScript name).Accords R := by
  refine (Accords.onEngine (library.findScript? name)).bind fun found => ?_
  split
  · exact .pure _
  · exact .fail _

theorem accords_call : call.Accords R := by
  have called : Accords R (do
      let script ← findScript (← argText 0)
      let vars ← namedVars
      say .good s!"Calling '{script.name}'."
      return Flow.enter script vars) :=
    (accords_argText library.toAccord 0).bind fun _ => (accords_findScript library _).bind fun _ =>
      (accords_namedVars library.toAccord).bind fun _ => (accords_say library.toAccord _ _).map _
  refine Accords.read.bind fun site => ?_
  split
  · exact (Accords.fail (α := Unit) _).bind fun _ => called
  · exact called

theorem accords_launch : launch.Accords R :=
  (accords_argText library.toAccord 0).bind fun _ => (accords_findScript library _).bind fun _ =>
    (accords_namedVars library.toAccord).bind fun _ => (accords_say library.toAccord _ _).bind fun _ =>
      Accords.instruction.map _

end

/-! ### Commands that change what an engine keeps -/

section
variable {R : Engine → Engine → Prop} (twins : Engine.Twins R)
include twins

/-- What `once` does when its mark is known. -/
theorem accords_markOnce (id : String) (mode : OnceMode) : Accords R (do
    let (isNew, engine) := (← MonadState.get).engine.markOnce id
    modify fun s => { s with engine := engine }
    if isNew then
      say .good s!"Once block '{id}' entered."
      return Flow.proceed
    match mode with
    | .error => Act.fail (.onceRepeated id)
    | .warning => say .bad (onceRepeatedMessage id)
    | .quiet => Pure.pure ()
    skipBlock
    return Flow.proceed) := by
  have skipped : Accords R (do
    skipBlock
    return Flow.proceed) := accords_skipBlock.map _
  intro site f e e' related
  obtain ⟨same, next⟩ := twins.markOnce related id
  rw [on_bind, on_bind, on_get, on_get]
  dsimp only
  rw [on_bind, on_bind, on_modify, on_modify, same]
  dsimp only
  split
  · exact ((accords_say twins.toAccord _ _).map _) site f next
  · cases mode with
    | error => exact ((Accords.fail (α := Unit) _).bind fun _ => skipped) site f next
    | warning => exact ((accords_say twins.toAccord _ _).bind fun _ => skipped) site f next
    | quiet => exact skipped site f next

theorem accords_once : once.Accords R := by
  refine (accords_argText twins.toAccord 0).bind fun text => Accords.argCount.bind fun n => ?_
  have marked := accords_markOnce twins (Text.lower text)
  split
  · refine (accords_argText twins.toAccord 1).bind fun word => ?_
    split
    · exact marked _
    · exact (Accords.fail (α := OnceMode) _).bind fun mode => marked mode
  · exact marked .error

theorem accords_function : function.Accords R := by
  refine (accords_argText twins.toAccord 0).bind fun text =>
    (accords_bodyScript twins.toAccord _).bind fun script => ?_
  refine (Accords.modifyEngine (fun e => e.registerFunction (Text.lower text) script) fun e e' related =>
    twins.registerFunction related _ _).bind fun _ => ?_
  exact (accords_say twins.toAccord _ _).bind fun _ => accords_skipBlock.map _

theorem accords_event : event.Accords R := by
  refine (accords_argText twins.toAccord 0).bind fun action => (accords_argText twins.toAccord 1).bind fun event =>
    (accords_argText twins.toAccord 2).bind fun name => ?_
  dsimp only
  split
  · intro site f e e' related
    obtain ⟨same, next⟩ := twins.removeHandler related (Text.lower event) (Text.lower name)
    rw [on_bind, on_bind, on_get, on_get]
    dsimp only
    rw [on_bind, on_bind, on_modify, on_modify, same]
    dsimp only
    split
    · exact ((accords_say twins.toAccord _ _).map _) site f next
    · exact ((accords_say twins.toAccord _ _).map _) site f next
  · refine (accords_priorityArg twins.toAccord).bind fun priority =>
      (accords_bodyScript twins.toAccord _).bind fun script => ?_
    refine (Accords.modifyEngine (fun e => e.registerHandler (Text.lower event)
      ⟨Text.lower (Text.lower name), script, priority, true⟩) fun e e' related =>
        twins.registerHandler related _ _).bind fun _ => ?_
    exact (accords_say twins.toAccord _ _).bind fun _ => accords_skipBlock.map _

end

end Act

/-! ### All commands -/

/-- The commands that neither change what an engine keeps for all queues nor run another script. -/
def Action.isSolitary : Action → Bool
  | .once | .function | .call | .run | .event => false
  | _ => true

section
variable {R : Engine → Engine → Prop} (accord : Engine.Accord R)
include accord

theorem Action.accords_of_isSolitary {a : Action} (solitary : a.isSolitary = true) : a.perform.Accords R := by
  cases a with
  | echo => exact (Act.accords_argWords accord).bind fun _ => (Act.accords_say accord _ _).map _
  | help => exact Act.accords_help accord
  | noop | mark => exact .pure _
  | debug => exact Act.accords_debug accord
  | define => exact Act.accords_define accord
  | set => exact Act.accords_set accord
  | determine => exact Act.accords_determine accord
  | error => exact (Act.accords_argWords accord).bind fun _ => .fail _
  | stop => exact (Act.accords_say accord _ _).map _
  | compileError => exact (Act.accords_argText accord 0).bind fun _ => .fail _
  | ifBlock => exact Act.accords_ifBlock accord
  | elseBlock => exact Act.accords_elseBlock accord
  | repeatBlock => exact Act.accords_repeatBlock accord
  | foreach => exact Act.accords_foreach accord
  | goto => exact Act.accords_goto accord
  | tryBlock => exact Act.accords_tryBlock accord
  | catchBlock => exact Act.accords_catchBlock
  | wait => exact Act.accords_wait accord
  | custom respond => exact Act.accords_custom accord respond
  | once | function | call | run | event => cases solitary

omit accord in
theorem Action.accords (twins : Engine.Twins R) (a : Action) : a.perform.Accords R := by
  cases a with
  | once => exact Act.accords_once twins
  | function => exact Act.accords_function twins
  | call => exact Act.accords_call twins.toLibrary
  | run => exact Act.accords_launch twins.toLibrary
  | event => exact Act.accords_event twins
  | _ => exact accords_of_isSolitary twins.toAccord rfl

end

end CommandScript
