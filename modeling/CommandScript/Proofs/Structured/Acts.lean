import CommandScript.Proofs.Structured.Semantics

/-! What commands do, step by step, and the commands that do the same wherever they stand. Such a command neither
    sees nor changes the place of its frame: where it is, what is discarded, and how loops and branches stand. The
    arguments of an instruction come to the values that they have in its frame, and evaluating them changes nothing. -/

namespace CommandScript

/-! ### Steps of a command -/

namespace Act

/-- What a command comes to at a site, and the scene it leaves. -/
def on (a : Act α) (site : Site) (s : Scene) : Except Failure α × Scene :=
  ((a.run site).run).run s

@[simp] theorem on_pure (x : α) (site : Site) (s : Scene) : (pure x : Act α).on site s = (.ok x, s) := rfl

@[simp] theorem on_bind (a : Act α) (k : α → Act β) (site : Site) (s : Scene) :
    (a >>= k).on site s =
      match a.on site s with
      | (.ok x, s) => (k x).on site s
      | (.error f, s) => (.error f, s) := by
  show ((a >>= k).run site).run.run s = _
  simp only [on, ReaderT.run_bind, ExceptT.run_bind, StateT.run_bind]
  generalize (a.run site).run.run s = r
  obtain ⟨_ | _, _⟩ := r <;> rfl

@[simp] theorem on_read (site : Site) (s : Scene) : (read : Act Site).on site s = (.ok site, s) := rfl

@[simp] theorem on_get (site : Site) (s : Scene) : (get : Act Scene).on site s = (.ok s, s) := rfl

@[simp] theorem on_set (t : Scene) (site : Site) (s : Scene) :
    (MonadStateOf.set t : Act PUnit).on site s = (.ok ⟨⟩, t) := rfl

@[simp] theorem on_modify (change : Scene → Scene) (site : Site) (s : Scene) :
    (modify change : Act Unit).on site s = (.ok (), change s) := rfl

@[simp] theorem on_throw (f : Failure) (site : Site) (s : Scene) :
    (throw f : Act α).on site s = (.error f, s) := rfl

@[simp] theorem on_fail (f : RuntimeFault) (site : Site) (s : Scene) :
    (fail f : Act α).on site s = (.error (.error (.runtime f)), s) := rfl

@[simp] theorem on_failInternal (f : InternalFault) (site : Site) (s : Scene) :
    (failInternal f : Act α).on site s = (.error (.error (.internal f)), s) := rfl

@[simp] theorem on_frame (site : Site) (s : Scene) : frame.on site s = (.ok s.frame, s) := rfl

@[simp] theorem on_onFrame (change : Frame → Frame) (site : Site) (s : Scene) :
    (onFrame change).on site s = (.ok (), { s with frame := change s.frame }) := rfl

@[simp] theorem on_instruction (site : Site) (s : Scene) :
    instruction.on site s = (.ok site.entry.instruction, s) := rfl

@[simp] theorem on_argCount (site : Site) (s : Scene) :
    argCount.on site s = (.ok site.entry.args.length, s) := rfl

@[simp] theorem on_onEngine (m : EngineM α) (site : Site) (s : Scene) :
    (onEngine m).on site s = ((m.run.run s.engine).1, { s with engine := (m.run.run s.engine).2 }) := by
  rw [onEngine, on_bind, on_get]
  show (MonadStateOf.set { s with engine := (m.run.run s.engine).2 } >>= fun _ => _ : Act α).on site s = _
  rw [on_bind, on_set]
  dsimp only
  rw [show m s.engine = m.run.run s.engine from rfl]
  cases (m.run.run s.engine).1 <;> rfl

theorem on_say (kind : MessageKind) (text : String) (site : Site) (s : Scene) :
    (say kind text).on site s =
      (((Engine.emit site.ownOutput s.frame.verbosity text kind).run.run s.engine).1,
        { s with engine := ((Engine.emit site.ownOutput s.frame.verbosity text kind).run.run s.engine).2 }) := by
  rw [say, on_bind, on_read]
  dsimp only
  rw [on_bind, on_frame]
  dsimp only
  rw [on_onEngine]

end Act

/-! ### Places -/

/-- Where a frame is. -/
structure Place where
  pc : Nat
  floor : Nat
  loops : List (Nat × LoopState)
  branches : List (Nat × Bool)

/-- Where a frame is. -/
def Frame.place (f : Frame) : Place :=
  ⟨f.pc, f.floor, f.loops, f.branches⟩

/-- A frame moved to a place. -/
def Frame.at (f : Frame) (p : Place) : Frame :=
  { f with pc := p.pc, floor := p.floor, loops := p.loops, branches := p.branches }

/-- A scene whose frame is moved to a place. -/
def Scene.at (s : Scene) (p : Place) : Scene :=
  { s with frame := s.frame.at p }

@[simp] theorem Frame.at_place (f : Frame) : f.at f.place = f := rfl

theorem Frame.bind_place (f : Frame) (binding : String × Value) :
    (f.bind binding).place = f.place ∧ (f.bind binding).script = f.script ∧
      (f.bind binding).slots.size = f.slots.size := by
  rw [Frame.bind]
  split
  · exact ⟨rfl, rfl, Array.size_setIfInBounds⟩
  · exact ⟨rfl, rfl, rfl⟩

/-- A script begins at its first instruction, with nothing discarded, no loop running and a value in each slot. -/
theorem Frame.start_place (script : Script) (vars : Vars) :
    (Frame.start script vars).place = ⟨0, 0, [], []⟩ ∧ (Frame.start script vars).script = script ∧
      (Frame.start script vars).slots.size = script.code.slots.size := by
  have keeps : ∀ (vars : Vars) (f : Frame), (vars.foldl Frame.bind f).place = f.place ∧
      (vars.foldl Frame.bind f).script = f.script ∧ (vars.foldl Frame.bind f).slots.size = f.slots.size := by
    intro vars
    induction vars with
    | nil => exact fun _ => ⟨rfl, rfl, rfl⟩
    | cons binding rest ih =>
      intro f
      obtain ⟨hplace, hscript, hslots⟩ := ih (f.bind binding)
      obtain ⟨place, script, slots⟩ := f.bind_place binding
      exact ⟨hplace.trans place, hscript.trans script, hslots.trans slots⟩
  obtain ⟨hplace, hscript, hslots⟩ := keeps vars
    { script := script, slots := Array.replicate script.code.slots.size .null, vars := [],
      verbosity := script.verbosity }
  exact ⟨hplace, hscript, hslots.trans Array.size_replicate⟩

/-- What a command does that does the same at every place. -/
structure Act.Blind (a : Act α) : Prop where
  index : ∀ site index s, a.on { site with index := index } s = a.on site s
  place : ∀ site s p, a.on site (s.at p) = ((a.on site s).1, (a.on site s).2.at p)
  script : ∀ site s, (a.on site s).2.frame.script = s.frame.script

namespace Act

theorem Blind.pure (x : α) : Blind (pure x : Act α) :=
  ⟨fun _ _ _ => rfl, fun _ _ _ => rfl, fun _ _ => rfl⟩

theorem Blind.fail (f : RuntimeFault) : Blind (fail f : Act α) :=
  ⟨fun _ _ _ => rfl, fun _ _ _ => rfl, fun _ _ => rfl⟩

theorem Blind.failInternal (f : InternalFault) : Blind (failInternal f : Act α) :=
  ⟨fun _ _ _ => rfl, fun _ _ _ => rfl, fun _ _ => rfl⟩

theorem Blind.throw (f : Failure) : Blind (throw f : Act α) :=
  ⟨fun _ _ _ => rfl, fun _ _ _ => rfl, fun _ _ => rfl⟩

theorem Blind.bind {a : Act α} {k : α → Act β} (ha : Blind a) (hk : ∀ x, Blind (k x)) : Blind (a >>= k) where
  index site index s := by
    rw [on_bind, on_bind, ha.index]
    generalize a.on site s = r
    obtain ⟨_ | x, t⟩ := r
    · rfl
    · exact (hk x).index site index t
  place site s p := by
    rw [on_bind, on_bind, ha.place]
    generalize a.on site s = r
    obtain ⟨_ | x, t⟩ := r
    · rfl
    · exact (hk x).place site t p
  script site s := by
    have hs := ha.script site s
    rw [on_bind]
    generalize a.on site s = r at hs
    obtain ⟨_ | x, t⟩ := r
    · exact hs
    · exact ((hk x).script site t).trans hs

/-- Reading the site is blind if the place is not used. -/
theorem Blind.read {k : Site → Act α} (hk : ∀ site, Blind (k site))
    (same : ∀ site index, k { site with index := index } = k site) : Blind (read >>= k) where
  index site index s := by
    rw [on_bind, on_bind]
    show (k { site with index := index }).on { site with index := index } s = (k site).on site s
    rw [same, (hk site).index]
  place site s p := (hk site).place site s p
  script site s := (hk site).script site s

/-- Reading the scene is blind if the place of the frame is not used. -/
theorem Blind.get {k : Scene → Act α} (hk : ∀ s, Blind (k s)) (same : ∀ s p, k (s.at p) = k s) :
    Blind (get >>= k) where
  index site index s := (hk s).index site index s
  place site s p := by
    rw [on_bind, on_bind]
    show (k (s.at p)).on site (s.at p) = _
    rw [same, (hk s).place]
    rfl
  script site s := (hk s).script site s

/-- Reading the frame is blind if its place is not used. -/
theorem Blind.frame {k : Frame → Act α} (hk : ∀ f, Blind (k f)) (same : ∀ f p, k (f.at p) = k f) :
    Blind (frame >>= k) where
  index site index s := (hk s.frame).index site index s
  place site s p := by
    rw [on_bind, on_bind]
    show (k (s.frame.at p)).on site (s.at p) = _
    rw [same, (hk s.frame).place]
    rfl
  script site s := (hk s.frame).script site s

/-- Changing the frame is blind if the change is the same at every place. -/
theorem Blind.onFrame {change : Frame → Frame} (same : ∀ f p, change (f.at p) = (change f).at p)
    (script : ∀ f, (change f).script = f.script) : Blind (onFrame change) where
  index _ _ _ := rfl
  place _ s p := congrArg (fun f => (Except.ok (), Scene.mk s.engine f)) (same s.frame p)
  script _ s := script s.frame

/-- Changing the engine is blind. -/
theorem Blind.modifyEngine (change : Engine → Engine) :
    Blind (modify fun s => { s with engine := change s.engine } : Act Unit) :=
  ⟨fun _ _ _ => rfl, fun _ _ _ => rfl, fun _ _ => rfl⟩

/-- What an engine does is blind. -/
theorem Blind.onEngine (m : EngineM α) : Blind (onEngine m) where
  index site index s := by rw [on_onEngine, on_onEngine]
  place site s p := by
    rw [on_onEngine, on_onEngine]
    rfl
  script site s := by rw [on_onEngine]

theorem Blind.mapM {f : α → Act β} (hf : ∀ x, Blind (f x)) (l : List α) : Blind (l.mapM f) := by
  induction l with
  | nil => exact Blind.pure []
  | cons x rest ih =>
    rw [List.mapM_cons]
    exact (hf x).bind fun y => ih.bind fun ys => Blind.pure (y :: ys)

/-! ### Arguments and messages -/

theorem blind_instruction : Blind instruction :=
  Blind.read (fun _ => Blind.pure _) fun _ _ => rfl

theorem blind_argCount : Blind argCount :=
  Blind.read (fun _ => Blind.pure _) fun _ _ => rfl

theorem blind_types : Blind types :=
  Blind.get (fun _ => Blind.pure _) fun _ _ => rfl

theorem blind_say (kind : MessageKind) (text : String) : Blind (say kind text) :=
  Blind.read (fun _ => Blind.frame (fun _ => Blind.onEngine _) fun _ _ => rfl) fun _ _ => rfl

theorem blind_evaluate (a : CompiledArgument) : Blind (evaluate a) := by
  refine Blind.frame (fun f => blind_types.bind fun t => ?_) fun _ _ => rfl
  dsimp only
  split
  · exact Blind.pure _
  · exact Blind.throw _

theorem blind_arg (position : Nat) : Blind (arg position) := by
  refine Blind.read (fun site => ?_) fun _ _ => rfl
  split
  · exact blind_evaluate _
  · exact Blind.pure _

theorem blind_argText (position : Nat) : Blind (argText position) :=
  (blind_arg position).bind fun _ => Blind.pure _

theorem blind_argWords : Blind argWords :=
  Blind.read (fun _ => (Blind.mapM blind_evaluate _).bind fun _ => Blind.pure _) fun _ _ => rfl

theorem blind_expect (expected : Expected) (v : Value) (read? : Value → Option α) :
    Blind (expect expected v read?) := by
  unfold expect
  split
  · exact Blind.pure _
  · exact blind_instruction.bind fun _ => Blind.fail _

theorem blind_booleanArg (position : Nat) : Blind (booleanArg position) :=
  (blind_arg position).bind fun v => blind_expect .boolean v Value.asBoolean?

theorem blind_onceMode : Blind onceMode := by
  refine blind_argCount.bind fun n => ?_
  split
  · refine (blind_argText 1).bind fun text => ?_
    split
    · exact Blind.pure _
    · exact Blind.fail _
  · exact Blind.pure _

theorem blind_recordOnce (id : String) (mode : OnceMode) : Blind (recordOnce id mode) := by
  refine Blind.get (fun s => ?_) fun _ _ => rfl
  refine Blind.bind (Blind.modifyEngine fun _ => (s.engine.markOnce id).2) fun _ => ?_
  split
  · exact (blind_say _ _).bind fun _ => Blind.pure _
  · split
    · exact (Blind.fail _).bind fun _ => Blind.pure _
    · exact (blind_say _ _).bind fun _ => Blind.pure _
    · exact Blind.pure _

theorem blind_enterOnce : Blind enterOnce :=
  (blind_argText 0).bind fun _ => blind_onceMode.bind fun _ => blind_recordOnce _ _

/-! ### Commands that are blind -/

/-- What a blind command does that only ever lets the queue go on. -/
structure Plain (a : Act Flow) : Prop extends Blind a where
  proceeds : ∀ {site s flow t}, a.on site s = (.ok flow, t) → flow = .proceed

theorem Plain.pure : Plain (pure .proceed) :=
  ⟨Blind.pure _, fun h => (by cases h; rfl)⟩

theorem Plain.fail (f : RuntimeFault) : Plain (fail f) :=
  ⟨Blind.fail f, fun h => (by cases h)⟩

theorem Plain.failInternal (f : InternalFault) : Plain (failInternal f) :=
  ⟨Blind.failInternal f, fun h => (by cases h)⟩

theorem proceeds_bind {a : Act α} {k : α → Act Flow} (hk : ∀ x, Plain (k x)) {site : Site} {s t : Scene}
    {flow : Flow} (h : (a >>= k).on site s = (.ok flow, t)) : flow = .proceed := by
  rw [on_bind] at h
  generalize a.on site s = r at h
  obtain ⟨_ | x, u⟩ := r
  · cases h
  · exact (hk x).proceeds h

theorem Plain.bind {a : Act α} {k : α → Act Flow} (ha : Blind a) (hk : ∀ x, Plain (k x)) : Plain (a >>= k) :=
  ⟨ha.bind fun x => (hk x).toBlind, proceeds_bind hk⟩

theorem Plain.read {k : Site → Act Flow} (hk : ∀ site, Plain (k site))
    (same : ∀ site index, k { site with index := index } = k site) : Plain (read >>= k) :=
  ⟨Blind.read (fun site => (hk site).toBlind) same, proceeds_bind hk⟩

theorem Plain.get {k : Scene → Act Flow} (hk : ∀ s, Plain (k s)) (same : ∀ s p, k (s.at p) = k s) :
    Plain (get >>= k) :=
  ⟨Blind.get (fun s => (hk s).toBlind) same, proceeds_bind hk⟩

theorem Plain.frame {k : Frame → Act Flow} (hk : ∀ f, Plain (k f)) (same : ∀ f p, k (f.at p) = k f) :
    Plain (frame >>= k) :=
  ⟨Blind.frame (fun f => (hk f).toBlind) same, proceeds_bind hk⟩

theorem plain_echo : Plain Action.echo.perform :=
  Plain.bind blind_argWords fun _ => Plain.bind (blind_say _ _) fun _ => Plain.pure

theorem plain_help : Plain help := by
  refine Plain.get (fun s => Plain.bind blind_argCount fun n => ?_) fun _ _ => rfl
  split
  · exact Plain.bind (blind_say _ _) fun _ => Plain.pure
  · refine Plain.bind (blind_argText 0) fun text => ?_
    dsimp only
    split
    · exact Plain.fail _
    · exact Plain.bind (blind_say _ _) fun _ => Plain.bind (blind_say _ _) fun _ => Plain.pure

theorem plain_debug : Plain debug := by
  refine Plain.bind (blind_argText 0) fun text => ?_
  split
  · exact Plain.fail _
  · refine Plain.bind (Blind.onFrame (fun _ _ => rfl) fun _ => rfl) fun _ => ?_
    exact Plain.bind (blind_say _ _) fun _ => Plain.pure

theorem blind_setSlot (slot : Nat) (v : Value) : Blind (onFrame (·.setSlot slot v)) :=
  Blind.onFrame (fun _ _ => rfl) fun _ => rfl

theorem plain_define : Plain define := by
  refine Plain.read (fun site => ?_) fun _ _ => rfl
  split
  · exact Plain.failInternal _
  · refine Plain.frame (fun f => ?_) fun _ _ => rfl
    refine Plain.bind blind_types fun t => Plain.bind (blind_arg 1) fun v => ?_
    refine Plain.frame (fun f => ?_) fun _ _ => rfl
    split
    · exact Plain.bind (blind_say _ _) fun _ => Plain.bind (blind_setSlot _ _) fun _ => Plain.pure
    · exact Plain.bind (blind_setSlot _ _) fun _ => Plain.pure

theorem plain_set : Plain set := by
  refine Plain.bind (blind_argText 0) fun text => Plain.read (fun site => ?_) fun _ _ => rfl
  split
  · exact Plain.fail _
  · refine Plain.bind (blind_argText 1) fun op => ?_
    dsimp only
    split
    · exact Plain.fail _
    · refine Plain.frame (fun f => Plain.bind (blind_arg 2) fun input => ?_) fun _ _ => rfl
      refine Plain.bind blind_types fun t => ?_
      split
      · exact Plain.fail _
      · split
        · exact Plain.bind (blind_say _ _) fun _ => Plain.bind (blind_setSlot _ _) fun _ => Plain.pure
        · exact Plain.bind (blind_setSlot _ _) fun _ => Plain.pure

theorem plain_determine : Plain determine := by
  refine Plain.bind (blind_arg 0) fun value => Plain.bind (blind_say _ _) fun _ => ?_
  exact Plain.bind (Blind.onFrame (fun _ _ => rfl) fun _ => rfl) fun _ => Plain.pure

theorem plain_error : Plain Action.error.perform :=
  Plain.bind blind_argWords fun _ => Plain.fail _

end Act

/-- The commands that neither move on in their script nor run another. -/
def Action.isPlain : Action → Bool
  | .echo | .help | .noop | .debug | .define | .set | .determine | .error => true
  | _ => false

theorem Action.plain_of_isPlain {a : Action} (h : a.isPlain = true) : a.perform.Plain := by
  cases a with
  | echo => exact Act.plain_echo
  | help => exact Act.plain_help
  | noop => exact Act.Plain.pure
  | debug => exact Act.plain_debug
  | define => exact Act.plain_define
  | set => exact Act.plain_set
  | determine => exact Act.plain_determine
  | error => exact Act.plain_error
  | _ => cases h

/-! ### Arguments -/

/-- What the arguments of an instruction are evaluated in. -/
def Scene.environment (s : Scene) : Environment :=
  ⟨s.frame.slots, s.frame.vars, s.engine.registries.types.conversions, s.frame.script.code.chains⟩

/-- What the argument of an instruction at a position comes to; `null` if there is none. -/
def Scene.argument (s : Scene) (entry : Entry) (position : Nat) : Except Failure Value :=
  match entry.args[position]? with
  | some a => a.evaluate s.environment
  | none => .ok .null

namespace Act

theorem on_evaluate (a : CompiledArgument) (site : Site) (s : Scene) :
    (evaluate a).on site s = (a.evaluate s.environment, s) := by
  rw [evaluate, on_bind, on_frame]
  dsimp only
  rw [types, on_bind, on_bind, on_get]
  dsimp only [on_pure]
  rw [← Scene.environment]
  cases a.evaluate s.environment <;> rfl

theorem on_arg (position : Nat) (site : Site) (s : Scene) :
    (arg position).on site s = (s.argument site.entry position, s) := by
  rw [arg, on_bind, on_read]
  dsimp only
  rw [Scene.argument]
  cases site.entry.args[position]? with
  | none => rfl
  | some a => exact on_evaluate a site s

theorem on_argText (position : Nat) (site : Site) (s : Scene) :
    (argText position).on site s = ((s.argument site.entry position).map Value.toText, s) := by
  rw [argText, on_bind, on_arg]
  cases s.argument site.entry position <;> rfl

end Act

end CommandScript
