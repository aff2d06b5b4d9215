import CommandScript.Proofs.Machine.Messages
import CommandScript.Proofs.Machine.Stacks

/-! The machines that come up when scripts from source texts run, and what one step of such a machine comes to. -/

namespace CommandScript

namespace Machine

/-! ### One instruction -/

/-- The machine with the engine and the frames of the queue at work replaced. -/
def withFrames (m : Machine) (e : Engine) (frames : List Frame) : Machine :=
  { m with engine := e, running := { m.running with frames := frames } }

/-- What the instruction `entry` at the innermost frame `f` comes to, with the engine and the frame it leaves, before
    the queue goes on. -/
def perform (m : Machine) (f : Frame) (below : List Frame) (entry : Entry) :
    Except ScriptError Flow × Engine × Frame :=
  match entry.command with
  | none => (.error (.runtime (.unknownCommand entry.instruction.name)), m.engine, f.next)
  | some command =>
    let (result, scene) := command.action.perform.on
      ⟨entry, f.pc, below.length + 1, m.running.delayable, m.running.ownOutput⟩ ⟨m.engine, f.next⟩
    (result.mapError Failure.toScriptError, scene.engine, scene.frame)

/-- Goes on with what the instruction of the innermost frame has come to. -/
def conclude (m : Machine) (below : List Frame) : Except ScriptError Flow × Engine × Frame → Machine
  | (.ok flow, e, g) => (m.withFrames e (g :: below)).follow flow
  | (.error error, e, g) => (m.withFrames e (g :: below)).handle error

theorem execute_eq (m : Machine) (f : Frame) (below : List Frame) (entry : Entry) :
    m.execute f below entry = m.conclude below (m.perform f below entry) := by
  unfold execute perform
  cases entry.command with
  | none => rfl
  | some command =>
    dsimp only
    rw [Act.on, Frame.next]
    generalize StateT.run (ExceptT.run (ReaderT.run command.action.perform _)) _ = r
    obtain ⟨_ | _, _⟩ := r <;> rfl

/-- The machine with nothing that keeps the queue at work from running. -/
def awake (m : Machine) : Machine :=
  { m with running := { m.running with waitingOn := none } }

/-- The queue at work stands at an instruction, and nothing keeps it from running. -/
structure StandsAt (m : Machine) (f : Frame) (below : List Frame) (entry : Entry) : Prop where
  running : m.running.running = true
  kept : m.running.result.brokeOff = none
  gate : m.running.waitingOn.any (fun g => !m.engine.isReleased g) = false
  wait : ¬0 < m.running.wait
  frames : m.running.frames = f :: below
  here : f.script.code.entries[f.pc]? = some entry

variable {m m' : Machine} {f : Frame} {below : List Frame} {entry : Entry}

/-- The queue at work as it is left, if it has ended, is given up, or something keeps it from running. -/
def left? (m : Machine) : Option Queue :=
  if !m.running.running || m.running.result.brokeOff.isSome then some m.running
  else if m.running.waitingOn.any fun g => !m.engine.isReleased g then some m.running
  else if 0 < m.running.wait then some m.awake.running
  else none

theorem step_of_left {q : Queue} (h : m.left? = some q) : m.step = ({ m with running := q } : Machine).yield := by
  unfold left? at h
  unfold Machine.step
  dsimp only
  split at h
  · rename_i ended
    cases h
    rw [if_pos ended]
  · rename_i running
    rw [if_neg running]
    split at h
    · rename_i gate
      cases h
      rw [if_pos gate]
    · rename_i gate
      rw [if_neg gate]
      split at h
      · rename_i wait
        cases h
        rw [if_pos wait]
        rfl
      · cases h

theorem left?_eq_none : m.left? = none ↔ m.running.running = true ∧ m.running.result.brokeOff = none ∧
    m.running.waitingOn.any (fun g => !m.engine.isReleased g) = false ∧ ¬0 < m.running.wait := by
  unfold left?
  constructor
  · intro h
    split at h
    · cases h
    · split at h
      · cases h
      · split at h
        · cases h
        · simp_all
  · rintro ⟨running, kept, gate, wait⟩
    simp [running, kept, gate, wait]

theorem step_of_free (h : m.left? = none) : m.step =
    match m.running.frames with
    | [] => .next m.awake.stop
    | f :: below =>
      match f.script.code.entries[f.pc]? with
      | none => .next { m.awake with running := m.awake.running.completeFrame }
      | some entry => .next (m.awake.execute f below entry) := by
  obtain ⟨running, kept, gate, wait⟩ := left?_eq_none.mp h
  unfold Machine.step
  dsimp only
  rw [if_neg (by simp [running, kept]), if_neg (by simp [gate]), if_neg wait]
  rfl

theorem StandsAt.free (h : m.StandsAt f below entry) : m.left? = none :=
  left?_eq_none.mpr ⟨h.running, h.kept, h.gate, h.wait⟩

theorem StandsAt.step (h : m.StandsAt f below entry) : m.step = .next (m.awake.execute f below entry) := by
  simp only [step_of_free h.free, h.frames, h.here]

/-- The queue at work is left: the one that started it goes on. -/
structure Leaves (m m' : Machine) : Prop where
  kept : m.running.result.brokeOff = none
  engine : ∃ queues, m'.engine = { m.engine with queues := queues }
  callers : ∃ c waitingOn, m.callers = c :: m'.callers ∧ m'.running = { c.queue with waitingOn := waitingOn }
  left : ∃ q, m.left? = some q ∧ ({ m with running := q } : Machine).yield = .next m'

/-- The queue at work is given up: to the one that started it, this is an error. -/
def GivesUp (m m' : Machine) : Prop :=
  ∃ failure c callers, m.running.result.brokeOff = some failure ∧ m.callers = c :: callers ∧
    m' = handle ⟨m.engine, c.queue, callers⟩ failure.toScriptError

theorem GivesUp.left (h : m.GivesUp m') : m.left? = some m.running := by
  obtain ⟨failure, _, _, broke, -⟩ := h
  rw [left?, broke, Option.isSome_some, Bool.or_true, if_pos rfl]

theorem result_of_left? {q : Queue} (left : m.left? = some q) : q.result = m.running.result := by
  unfold left? at left
  split at left
  · cases left
    rfl
  · split at left
    · cases left
      rfl
    · split at left
      · cases left
        rfl
      · cases left

theorem leaves_of_left {q : Queue} (left : m.left? = some q) (h : m.step = .next m') :
    m.Leaves m' ∨ m.GivesUp m' := by
  rw [step_of_left left] at h
  have yields := h
  unfold yield at h
  split at h
  · cases h
  · rename_i c callers hc
    dsimp only at h
    split at h
    · rename_i failure broke
      cases h
      rw [result_of_left? left] at broke
      exact Or.inr ⟨failure, c, callers, broke, hc, rfl⟩
    · rename_i kept
      rw [result_of_left? left] at kept
      split at h
      · cases h
        exact Or.inl ⟨kept, ⟨_, rfl⟩, ⟨c, _, hc, rfl⟩, q, left, yields⟩
      · cases h
        exact Or.inl ⟨kept, ⟨_, rfl⟩, ⟨c, _, hc, rfl⟩, q, left, yields⟩

/-- A step leaves the queue at work or gives it up, ends it, completes its innermost frame, or runs an instruction. -/
theorem step_cases (h : m.step = .next m') :
    (m.Leaves m' ∨ m.GivesUp m') ∨ m.left? = none ∧ ((m.running.frames = [] ∧ m' = m.awake.stop) ∨
      (∃ f below, m.running.frames = f :: below ∧ f.script.code.entries[f.pc]? = none ∧
        m' = { m.awake with running := m.awake.running.completeFrame }) ∨
      ∃ f below entry, m.StandsAt f below entry ∧ m' = m.awake.execute f below entry) := by
  cases left : m.left? with
  | some q => exact Or.inl (leaves_of_left left h)
  | none =>
    rw [step_of_free left] at h
    refine Or.inr ⟨rfl, ?_⟩
    split at h
    · rename_i frames
      cases h
      exact Or.inl ⟨frames, rfl⟩
    · rename_i f below frames
      split at h
      · rename_i finished
        cases h
        exact Or.inr (Or.inl ⟨f, below, frames, finished, rfl⟩)
      · rename_i entry here
        obtain ⟨running, kept, gate, wait⟩ := left?_eq_none.mp left
        cases h
        exact Or.inr (Or.inr ⟨f, below, entry, ⟨running, kept, gate, wait, frames, here⟩, rfl⟩)

/-- A machine comes to rest with the queue that it was made for. -/
theorem rest_cases {e : Engine} {q : Queue} (h : m.step = .rest e q) :
    m.callers = [] ∧ m.left? = some q ∧ m.engine = e := by
  cases left : m.left? with
  | none =>
    rw [step_of_free left] at h
    split at h
    · cases h
    · split at h <;> cases h
  | some q' =>
    rw [step_of_left left, yield] at h
    split at h
    · rename_i callers
      cases h
      exact ⟨callers, rfl, rfl⟩
    · dsimp only at h
      split at h
      · cases h
      · split at h <;> cases h

/-- The outermost frame of the queue at work, as the instruction that is next leaves it. -/
def outermost? (m : Machine) : Option Frame :=
  match m.running.frames with
  | [] => none
  | f :: below =>
    match f.script.code.entries[f.pc]? with
    | none => (f :: below).getLast?
    | some entry => ((m.awake.perform f below entry).2.2 :: below).getLast?

theorem StandsAt.outermost? (h : m.StandsAt f below entry) {r : Except ScriptError Flow} {e : Engine} {g : Frame}
    (performed : m.awake.perform f below entry = (r, e, g)) : m.outermost? = (g :: below).getLast? := by
  rw [Machine.outermost?, h.frames]
  dsimp only
  rw [h.here]
  dsimp only
  rw [performed]

/-! ### What an instruction does to the stack -/

/-- What is performed is the action that goes by the name of the instruction. -/
theorem perform_of_name (m : Machine) (below : List Frame) (here : f.script.code.entries[f.pc]? = some entry)
    (ordered : f.script.code.Ordered) {name : String} (hname : entry.instruction.name = name) {a : Action}
    (known : (CommandRegistry.builtin.get? name).map (·.action) = some a) :
    ∃ r t, a.perform.on ⟨entry, f.pc, below.length + 1, m.running.delayable, m.running.ownOutput⟩
      ⟨m.engine, f.next⟩ = (r, t) ∧
        m.perform f below entry = (r.mapError Failure.toScriptError, t.engine, t.frame) := by
  obtain ⟨c, hc, rfl⟩ := ordered.action here hname known
  rw [perform, hc]
  exact ⟨_, _, (Prod.eta _).symm, rfl⟩

/-- What an instruction comes to in an engine, with the engine and the frame it leaves. -/
structure Performs (P : Script → Prop) (start : Engine) (f : Frame) (below : List Frame) (entry : Entry)
    (r : Except ScriptError Flow) (e : Engine) (g : Frame) : Prop where
  script : g.script = f.script
  slots : g.slots.size = f.slots.size
  moves : f.next.Moves f.pc entry g r
  others : ∀ owner, owner ≠ f.pc → g.branchTaken owner = f.branchTaken owner
  gives : e.Gives P
  aside : start.Aside P e
  flow : ∀ flow, r = .ok flow → ∃ c, entry.command = some c ∧ flow.Fits P c.action (below.length + 1)

section
variable {P : Script → Prop} (closed : Script.Closed P) (ordered : ∀ {s : Script}, P s → s.code.Ordered)
include closed ordered

theorem performs (below : List Frame) (gives : m.engine.Gives P) (sound : f.Sound P)
    (here : f.script.code.entries[f.pc]? = some entry) :
    Performs P m.engine f below entry (m.perform f below entry).1 (m.perform f below entry).2.1
      (m.perform f below entry).2.2 := by
  unfold perform
  cases hc : entry.command with
  | none => exact ⟨rfl, rfl, .stay rfl rfl rfl, fun _ _ => rfl, gives, .refl _, fun _ h => (by cases h)⟩
  | some c =>
    have order := ordered sound.script
    have known := order.get? here
    rw [hc] at known
    have ready : Site.Ready P ⟨entry, f.pc, below.length + 1, m.running.delayable, m.running.ownOutput⟩
        ⟨m.engine, f.next⟩ := ⟨here, rfl, sound.floor, order, sound.script, gives⟩
    have effect := Action.does closed (name?_builtin known.symm) ready
    refine ⟨effect.script, effect.slots, effect.moves.mapError _, effect.others, effect.gives, effect.aside,
      fun flow hflow => ⟨c, hc, ?_⟩⟩
    refine effect.flow flow ?_
    dsimp only at hflow
    generalize (c.action.perform.on _ _).1 = r at hflow ⊢
    cases r with
    | error _ => cases hflow
    | ok _ =>
      cases hflow
      rfl

/-- What becomes of the queue at work within a step that neither leaves it nor starts another. -/
inductive Fate (P : Script → Prop) (m m' : Machine) : Prop
  /-- It goes on. It may have some seconds to wait before, if it can wait. -/
  | onward {e : Engine} {frames : List Frame} {wait : Float} (aside : m.engine.Aside P e) (some : frames ≠ [])
    (waits : m.running.delayable = true ∨ wait = m.running.wait)
    (eq : m' = { m.awake with engine := e, running := { m.awake.running with frames := frames, wait := wait } })
  /-- Its last frame completes. -/
  | completes {f : Frame} (frames : m.running.frames = [f]) (outermost : m.outermost? = some f)
    (eq : m' = { m.awake with running := { m.awake.running with
      frames := [],
      result := { m.running.result with determinations := f.determinations, bindings := f.bindings } } })
  /-- It ends without frames. -/
  | ends (frames : m.running.frames = []) (eq : m' = m.awake.stop)
  /-- It is stopped in the middle. -/
  | stops {e : Engine} {f : Frame} {errored : Bool} (aside : m.engine.Aside P e) (frames : m.running.frames ≠ [])
    (outermost : m.outermost? = some f)
    (eq : m' = { m.awake with
      engine := e.release (.queue m.running.id),
      running := { m.awake.running with
        frames := [], running := false,
        result := { m.running.result with
          determinations := f.determinations, bindings := f.bindings, errored := errored } } })
  /-- It is given up in the middle. -/
  | breaks {e : Engine} {frames : List Frame} {failure : Failure} (aside : m.engine.Aside P e) (some : frames ≠ [])
    (again : m.engine.outbox.BreaksAgain e.outbox)
    (eq : m' = { m.awake with engine := e, running := { m.awake.running with
      frames := frames, result := { m.running.result with brokeOff := Option.some failure } } })

/-- What a step of a machine comes to. -/
inductive Next (P : Script → Prop) (m m' : Machine) : Prop
  /-- The queue at work is left. -/
  | leaves (leaves : m.Leaves m')
  /-- The queue at work is given up. -/
  | givesUp (givesUp : m.GivesUp m')
  /-- The queue at work goes on or ends. -/
  | goes (gives : m'.engine.Gives P) (progress : Progress P m.running.frames m'.running.frames)
    (free : m.left? = none) (fate : m.Fate P m')
  /-- The queue at work starts another. -/
  | launches {f g : Frame} {below : List Frame} {script : Script} {vars : Vars} {entry : Entry} {e : Engine}
    {waits : Bool} (at_ : m.StandsAt f below entry) (name : entry.instruction.name = "run")
    (current : g.current? = some entry) (advances : f.Advances g) (gives : m'.engine.Gives P) (given : P script)
    (aside : m.engine.Aside P e)
    (eq : m' = ⟨{ e with nextId := e.nextId + 1 },
      { id := e.nextId, frames := [Frame.start script vars], delayable := true, ownOutput := m.running.ownOutput },
      ⟨{ m.awake.running with frames := g :: below }, waits⟩ :: m.callers⟩)

omit closed ordered in
theorem Fate.callers (h : m.Fate P m') : m'.callers = m.callers := by
  cases h with
  | onward _ _ _ eq | completes _ _ eq | ends _ eq | stops _ _ _ eq | breaks _ _ _ eq =>
    rw [eq]
    rfl

omit closed ordered in
/-- A queue that cannot wait does not. -/
theorem Fate.still (h : m.Fate P m') (delayable : m.running.delayable = false) : m'.running.delayable = false ∧
    m'.running.waitingOn = none ∧ m'.running.wait = m.running.wait := by
  cases h with
  | onward _ _ waits eq =>
    rw [eq]
    exact ⟨delayable, rfl, waits.resolve_left (by rw [delayable]; exact Bool.false_ne_true)⟩
  | completes _ _ eq | ends _ eq | stops _ _ _ eq | breaks _ _ _ eq =>
    rw [eq]
    exact ⟨delayable, rfl, rfl⟩

omit closed ordered in
theorem Fate.outbox (h : m.Fate P m') : m.engine.outbox.Leads m'.engine.outbox := by
  cases h with
  | onward aside _ _ eq | stops aside _ _ eq | breaks aside _ _ eq =>
    rw [eq]
    exact aside.outbox
  | completes _ _ eq | ends _ eq =>
    rw [eq]
    exact .refl _

/-- A machine whose engine gives scripts with a property, with sound stacks of such scripts on all queues. -/
structure Sound (P : Script → Prop) (m : Machine) : Prop where
  gives : m.engine.Gives P
  running : SoundStack P m.running.frames
  callers : ∀ c ∈ m.callers, SoundStack P c.queue.frames

omit closed ordered in
/-- Completing the innermost frame leaves it, or ends the stack. -/
theorem next_completeFrame (gives : m.engine.Gives P) (free : m.left? = none) (frames : m.running.frames = f :: below)
    (finished : f.script.code.entries[f.pc]? = none) :
    Next P m { m.awake with running := m.awake.running.completeFrame } := by
  have assigned : ∀ (bindings : Vars) (p : Frame),
      p.Resumes (bindings.foldl (fun p binding => p.setVar binding.1 binding.2) p) := fun bindings => by
    induction bindings with
    | nil => exact Frame.Resumes.refl
    | cons binding rest ih =>
      intro p
      have more := ih (p.setVar binding.1 binding.2)
      exact ⟨more.script, more.slots, more.floor, more.loops, more.le, more.within⟩
  have stack : m.awake.running.frames = f :: below := frames
  cases below with
  | nil =>
    have completed : m.awake.running.completeFrame = { m.awake.running with
        frames := [],
        result := { m.running.result with determinations := f.determinations, bindings := f.bindings } } := by
      unfold Queue.completeFrame
      rw [stack]
      rfl
    have outermost : m.outermost? = some f := by
      rw [outermost?, frames]
      dsimp only
      rw [finished]
      rfl
    rw [completed]
    exact .goes gives (.ended _) free (.completes frames outermost rfl)
  | cons parent rest =>
    have completed : m.awake.running.completeFrame = { m.awake.running with
        frames := f.bindings.foldl (fun p binding => p.setVar binding.1 binding.2)
          (parent.setVar "determinations" (.list f.determinations)) :: rest } := by
      unfold Queue.completeFrame
      rw [stack]
    rw [completed]
    refine .goes gives ?_ free (.onward (.refl _) (List.cons_ne_nil _ _) (Or.inr rfl) rfl)
    have resumes := assigned f.bindings (parent.setVar "determinations" (.list f.determinations))
    rw [frames]
    exact .left (List.cons_ne_nil f []) ⟨resumes.script, resumes.slots, resumes.floor, resumes.loops, resumes.le,
      resumes.within⟩

omit closed ordered in
/-- An error that no frame catches is reported, and the queue ends by it. Where the output breaks off, and again on the
    report of that, the queue is given up. -/
theorem handle_uncaught {error : ScriptError}
    (h : catchError (trace m.running.frames error) m.running.frames = none) :
    (¬m.BreaksTwice error ∧ ∃ e, Engine.Posted m.engine e ∧ m.handle error = { m with engine := e }.stopWithError) ∨
      m.BreaksTwice error ∧ ∃ e, Engine.Posted m.engine e ∧ m.engine.outbox.BreaksAgain e.outbox ∧
        m.handle error = { m with engine := e }.breakOff (.breakOff outputFailure) := by
  rw [handle_uncaught_eq h]
  cases first : m.engine.outbox.breaks? (m.report error).length with
  | none =>
    refine Or.inl ⟨fun ⟨taken, broke, _⟩ => ?_, _, .send _ _, rfl⟩
    cases first.symm.trans broke
  | some taken =>
    dsimp only
    cases second : (m.engine.send ((m.report error).take taken)).outbox.breaks? (m.secondReport error).length with
    | none =>
      refine Or.inl ⟨fun ⟨taken', broke, again⟩ => ?_, _, (Engine.Posted.send _ _).trans (.send _ _), rfl⟩
      cases first.symm.trans broke
      rw [second] at again
      cases again
    | some again =>
      exact Or.inr ⟨⟨taken, first, by rw [second]; rfl⟩, _, (Engine.Posted.send _ _).trans (.send _ _),
        breaksAgain_of_breaks? first second, rfl⟩

omit closed ordered in
/-- Handling an error goes on where it is caught, or ends the queue, or gives it up. -/
theorem handle_cases (m : Machine) (error : ScriptError) :
    (∃ above f below g, m.running.frames = above ++ f :: below ∧ f.Resumes g ∧
      m.handle error = { m with running := { m.running with frames := g :: below } }) ∨
    (∃ e, Engine.Posted m.engine e ∧ m.handle error = { m with engine := e }.stopWithError) ∨
      ∃ e, Engine.Posted m.engine e ∧ m.engine.outbox.BreaksAgain e.outbox ∧
        m.handle error = { m with engine := e }.breakOff (.breakOff outputFailure) := by
  cases hcaught : catchError (trace m.running.frames error) m.running.frames with
  | none =>
    rcases handle_uncaught hcaught with ⟨-, ends⟩ | ⟨-, breaks⟩
    · exact Or.inr (Or.inl ends)
    · exact Or.inr (Or.inr breaks)
  | some frames' =>
    obtain ⟨above, f, below, target, hframes, ht, rfl⟩ := catchError_eq_some hcaught
    refine Or.inl ⟨above, f, below, caughtAt f target (trace m.running.frames error), hframes, caughtAt_resumes ht _,
      ?_⟩
    unfold handle
    dsimp only
    rw [hcaught]

omit closed ordered in
theorem Performs.advances {r : Except ScriptError Flow} {start e : Engine} {g k : Frame}
    (done : Performs P start f below entry r e g) (here : f.script.code.entries[f.pc]? = some entry)
    (resumes : g.Resumes k) : f.Advances k :=
  ⟨entry, g, r, here, done.script, done.slots, done.moves, resumes⟩

omit closed ordered in
/-- An instruction that begins a script or starts a queue has moved nowhere, so its frame stands behind it. -/
theorem Performs.current {flow : Flow} {start e : Engine} {g : Frame}
    (done : Performs P start f below entry (.ok flow) e g) (here : f.script.code.entries[f.pc]? = some entry)
    (begins : flow ≠ .proceed) : g.current? = some entry := by
  have pc : g.pc = f.pc + 1 := by
    cases done.moves with
    | stay pc => exact pc
    | goto _ _ _ _ _ _ proceeds => exact absurd (proceeds _ rfl) begins
    | skip | begin | back | ended => exact absurd rfl begins
  rw [Frame.current?, pc, if_neg (Nat.succ_ne_zero _), Nat.add_sub_cancel, done.script]
  exact here

omit closed ordered in
/-- A queue with frames that is stopped keeps what its outermost frame has. -/
theorem stop_eq {f : Frame} (last : m.running.frames.getLast? = some f) : m.stop =
    { m with
      engine := m.engine.release (.queue m.running.id),
      running := { m.running with
        frames := [], running := false,
        result := { m.running.result with determinations := f.determinations, bindings := f.bindings } } } := by
  unfold stop Queue.stop
  dsimp only
  rw [last]

omit closed ordered in
/-- The queue at work goes on with the error of its instruction. -/
theorem StandsAt.next_error {error : ScriptError} {e : Engine} {g : Frame} (at_ : m.StandsAt f below entry)
    (performed : m.awake.perform f below entry = (.error error, e, g))
    (done : Performs P m.engine f below entry (.error error) e g) :
    Next P m (m.awake.conclude below (.error error, e, g)) := by
  rw [conclude]
  rcases handle_cases (m.awake.withFrames e (g :: below)) error with
    ⟨above, d, rest, k, hframes, resumes, handled⟩ | ⟨e', posted, handled⟩ | ⟨e', posted, again, handled⟩
  · rw [handled]
    refine .goes done.gives ?_ at_.free (.onward done.aside (List.cons_ne_nil _ _) (Or.inr rfl) rfl)
    rw [at_.frames]
    cases above with
    | nil =>
      cases hframes
      exact .moved (done.advances at_.here resumes)
    | cons _ above =>
      cases hframes
      exact .left (List.cons_ne_nil f above) resumes
  · obtain ⟨d, last⟩ : ∃ d, (g :: below).getLast? = some d :=
      ⟨_, List.getLast?_eq_some_getLast (List.cons_ne_nil _ _)⟩
    rw [handled, stopWithError, stop_eq (f := d) last]
    refine .goes ((done.gives.posted posted).of_same rfl rfl rfl rfl rfl) (.ended _) at_.free ?_
    exact .stops (done.aside.trans (.posted posted)) (by simp [at_.frames])
      ((at_.outermost? performed).trans last) rfl
  · rw [handled]
    refine .goes (done.gives.posted posted) ?_ at_.free (.breaks (done.aside.trans (.posted posted))
      (List.cons_ne_nil _ _) (done.aside.outbox.breaksAgain again) rfl)
    rw [at_.frames]
    exact .moved (done.advances at_.here (Frame.Resumes.refl g))

omit closed ordered in
/-- The queue at work goes on as its instruction says. -/
theorem StandsAt.next_flow {flow : Flow} {e : Engine} {g : Frame} (at_ : m.StandsAt f below entry)
    (order : f.script.code.Ordered) (performed : m.awake.perform f below entry = (.ok flow, e, g))
    (done : Performs P m.engine f below entry (.ok flow) e g) :
    Next P m (m.awake.conclude below (.ok flow, e, g)) := by
  obtain ⟨c, hc, fits⟩ := done.flow flow rfl
  have known := order.get? at_.here
  rw [hc] at known
  have named : ∀ {name : String}, c.action.name? = some name → entry.instruction.name = name := fun h =>
    Option.some.inj ((name?_builtin known.symm).symm.trans h)
  have advances := done.advances at_.here (Frame.Resumes.refl g)
  have moved : Progress P m.running.frames (g :: below) := by
    rw [at_.frames]
    exact .moved advances
  have onward : ∀ {frames : List Frame} {wait : Float}, frames ≠ [] →
      (m.running.delayable = true ∨ wait = m.running.wait) → m.Fate P
        { m.awake with engine := e, running := { m.awake.running with frames := frames, wait := wait } } :=
    fun some waits => .onward done.aside some waits rfl
  cases flow with
  | proceed => exact .goes done.gives moved at_.free (onward (List.cons_ne_nil _ _) (Or.inr rfl))
  | pause seconds =>
    unfold conclude follow
    dsimp only
    -- A queue that cannot wait goes on at once.
    split
    · rename_i delays
      exact .goes done.gives moved at_.free
        (onward (List.cons_ne_nil _ _) (Or.inl (Bool.and_eq_true_iff.mp delays).1))
    · exact .goes done.gives moved at_.free (onward (List.cons_ne_nil _ _) (Or.inr rfl))
  | await _ => exact absurd fits id
  | completeFrame => exact absurd fits id
  | stopQueue =>
    obtain ⟨d, last⟩ : ∃ d, (g :: below).getLast? = some d :=
      ⟨_, List.getLast?_eq_some_getLast (List.cons_ne_nil _ _)⟩
    rw [conclude, follow, stop_eq (f := d) last]
    refine .goes (done.gives.of_same rfl rfl rfl rfl rfl) (.ended _) at_.free ?_
    exact .stops done.aside (by simp [at_.frames]) ((at_.outermost? performed).trans last) rfl
  | enter script vars =>
    obtain ⟨action, room, gives⟩ := fits
    have calling : g.Calling := ⟨entry, done.current at_.here (fun h => nomatch h), named (by rw [action]; rfl)⟩
    refine .goes done.gives ?_ at_.free (onward (List.cons_ne_nil _ _) (Or.inr rfl))
    rw [at_.frames]
    exact .entered advances calling room gives
  | launch script vars waits =>
    obtain ⟨action, gives⟩ := fits
    exact .launches at_ (named (by rw [action]; rfl)) (done.current at_.here fun h => nomatch h) advances
      (done.gives.of_same rfl rfl rfl rfl rfl) gives done.aside rfl

/-- One step of a sound machine. -/
theorem Sound.next (sound : m.Sound P) (h : m.step = .next m') : Next P m m' := by
  rcases step_cases h with
    leaves | ⟨free, ⟨hnil, rfl⟩ | ⟨f, below, frames, finished, rfl⟩ | ⟨f, below, entry, at_, rfl⟩⟩
  · exact leaves.elim .leaves .givesUp
  · exact .goes (sound.gives.of_same rfl rfl rfl rfl rfl) (.ended _) free (.ends hnil rfl)
  · exact next_completeFrame sound.gives free frames finished
  · have stack := sound.running
    rw [at_.frames] at stack
    have top := stack.sound f List.mem_cons_self
    have done := performs (m := m.awake) closed ordered below sound.gives top at_.here
    rw [execute_eq]
    generalize performed : m.awake.perform f below entry = p at done
    obtain ⟨error | flow, e, g⟩ := p
    · exact at_.next_error performed done
    · exact at_.next_flow (ordered top.script) performed done

omit closed ordered in
theorem callers_handle (m : Machine) (error : ScriptError) : (m.handle error).callers = m.callers := by
  rcases handle_cases m error with ⟨_, _, _, _, -, -, handled⟩ | ⟨e, -, handled⟩ | ⟨e, -, -, handled⟩ <;>
    exact (congrArg callers handled).trans rfl

omit closed ordered in
/-- Handling an error sends messages, and may release the queue at work. -/
theorem engine_handle (m : Machine) (error : ScriptError) : ∃ outbox released, m.engine.outbox.Leads outbox ∧
    (m.handle error).engine = { m.engine with outbox := outbox, released := released } := by
  rcases handle_cases m error with
    ⟨_, _, _, _, -, -, handled⟩ | ⟨e, ⟨outbox, leads, rfl⟩, handled⟩ | ⟨e, ⟨outbox, leads, rfl⟩, -, handled⟩
  · exact ⟨_, m.engine.released, .refl _, by rw [handled]⟩
  · exact ⟨_, _, leads, by rw [handled]; rfl⟩
  · exact ⟨_, m.engine.released, leads, by rw [handled]; rfl⟩

omit closed ordered in
/-- Handling an error leaves a sound machine. -/
theorem Sound.handle (sound : m.Sound P) (error : ScriptError) : (m.handle error).Sound P := by
  rcases handle_cases m error with
    ⟨above, f, below, g, frames, resumes, handled⟩ | ⟨e, posted, handled⟩ | ⟨e, posted, -, handled⟩
  · have stack := sound.running
    rw [frames] at stack
    rw [handled]
    exact ⟨sound.gives, stack.below.top ((stack.below.sound f List.mem_cons_self).resumes resumes), sound.callers⟩
  · rw [handled]
    exact ⟨(sound.gives.posted posted).of_same rfl rfl rfl rfl rfl, soundStack_nil, sound.callers⟩
  · rw [handled]
    exact ⟨sound.gives.posted posted, sound.running, sound.callers⟩

omit closed ordered in
/-- Without the queue at work, a sound machine is sound. -/
theorem Sound.callers_cons (sound : m.Sound P) {c : Caller} {callers : List Caller} (h : m.callers = c :: callers) :
    Sound P ⟨m.engine, c.queue, callers⟩ := by
  have others := sound.callers
  rw [h] at others
  exact ⟨sound.gives, others c List.mem_cons_self, fun k hk => others k (List.mem_cons_of_mem _ hk)⟩

/-- A sound machine stays sound. -/
theorem Sound.step (sound : m.Sound P) (h : m.step = .next m') : m'.Sound P := by
  cases sound.next closed ordered h with
  | givesUp givesUp =>
    obtain ⟨failure, c, callers, -, hc, rfl⟩ := givesUp
    exact (sound.callers_cons hc).handle _
  | leaves leaves =>
    obtain ⟨queues, hengine⟩ := leaves.engine
    obtain ⟨c, waitingOn, hcallers, hrunning⟩ := leaves.callers
    have others := sound.callers
    rw [hcallers] at others
    refine ⟨?_, ?_, fun c hc => others c (List.mem_cons_of_mem _ hc)⟩
    · rw [hengine]
      exact sound.gives.of_same rfl rfl rfl rfl rfl
    · rw [hrunning]
      exact others c List.mem_cons_self
  | goes gives progress _ fate =>
    exact ⟨gives, sound.running.progress ordered progress, by rw [fate.callers]; exact sound.callers⟩
  | launches at_ _ _ advances gives given _ eq =>
    have stack := sound.running
    rw [at_.frames] at stack
    have top := stack.sound _ List.mem_cons_self
    refine ⟨gives, by rw [eq]; exact soundStack_start given _, fun k hk => ?_⟩
    rw [eq] at hk
    rcases List.mem_cons.mp hk with rfl | hk
    · exact stack.top (top.advances (ordered top.script) advances).1
    · exact sound.callers k hk

/-- A step only adds messages. -/
theorem Sound.outbox (sound : m.Sound P) (h : m.step = .next m') : m.engine.outbox.Leads m'.engine.outbox := by
  cases sound.next closed ordered h with
  | leaves leaves =>
    obtain ⟨queues, hengine⟩ := leaves.engine
    rw [hengine]
    exact .refl _
  | givesUp givesUp =>
    obtain ⟨failure, c, callers, -, -, rfl⟩ := givesUp
    obtain ⟨outbox, released, leads, handled⟩ := engine_handle ⟨m.engine, c.queue, callers⟩ failure.toScriptError
    rw [handled]
    exact leads
  | goes _ _ _ fate => exact fate.outbox
  | launches _ _ _ _ _ _ aside eq =>
    rw [eq]
    exact aside.outbox

/-- No queue of a machine is given up. -/
structure Kept (m : Machine) : Prop where
  running : m.running.result.brokeOff = none
  callers : ∀ c ∈ m.callers, c.queue.result.brokeOff = none

/-- A queue is given up only where the output breaks off again. -/
theorem Sound.kept (sound : m.Sound P) (kept : m.Kept) (h : m.step = .next m')
    (once : ¬m.engine.outbox.BreaksAgain m'.engine.outbox) : m'.Kept := by
  cases sound.next closed ordered h with
  | leaves leaves =>
    obtain ⟨c, waitingOn, hcallers, hrunning⟩ := leaves.callers
    have others := kept.callers
    rw [hcallers] at others
    refine ⟨?_, fun k hk => others k (List.mem_cons_of_mem _ hk)⟩
    rw [hrunning]
    exact others c List.mem_cons_self
  | givesUp givesUp =>
    obtain ⟨failure, _, _, broke, -, -⟩ := givesUp
    cases kept.running.symm.trans broke
  | goes _ _ _ fate =>
    refine ⟨?_, by rw [fate.callers]; exact kept.callers⟩
    cases fate with
    | onward _ _ _ eq | completes _ _ eq | stops _ _ _ eq =>
      rw [eq]
      exact kept.running
    | ends frames eq =>
      rw [eq, stop, Queue.stop]
      dsimp only
      split <;> exact kept.running
    | breaks _ _ again eq =>
      rw [eq] at once
      exact absurd again once
  | launches _ _ _ _ _ _ _ eq =>
    rw [eq]
    exact ⟨rfl, List.forall_mem_cons.mpr ⟨kept.running, kept.callers⟩⟩

/-- A run of steps only adds messages, and comes to rest with a queue that is given up only where the output breaks off
    again. -/
theorem Sound.run {steps : Nat} {e : Engine} {q : Queue} (sound : m.Sound P) (run : m.run steps = some (e, q)) :
    m.engine.outbox.Leads e.outbox ∧
      (m.Kept → ¬m.engine.outbox.BreaksAgain e.outbox → q.result.brokeOff = none) := by
  induction steps generalizing m with
  | zero => cases run
  | succ steps ih =>
    rw [Machine.run] at run
    split at run
    · rename_i m' next
      have leads := sound.outbox closed ordered next
      obtain ⟨more, settles⟩ := ih (sound.step closed ordered next) run
      refine ⟨leads.trans more, fun kept once => ?_⟩
      exact settles (sound.kept closed ordered kept next fun again => once (again.leads more)) fun again =>
        once (leads.breaksAgain again)
    · rename_i rest
      cases run
      obtain ⟨-, left, rfl⟩ := rest_cases rest
      exact ⟨.refl _, fun kept _ => (congrArg RunResult.brokeOff (result_of_left? left)).trans kept.running⟩

end

/-! ### Reachable machines -/

/-- The machines that come up when scripts from source texts run in engines whose other scripts come from source texts
    as well. -/
inductive Reachable : Machine → Prop
  /-- A script begins on a queue of its own. -/
  | start {e : Engine} (engine : e.FromSource) {script : Script} (source : script.FromSource) (vars : Vars)
    (delayable ownOutput : Bool) :
    Reachable ⟨(e.newQueue script vars delayable ownOutput).2, (e.newQueue script vars delayable ownOutput).1, []⟩
  | step {m m' : Machine} (h : Reachable m) (next : m.step = .next m') : Reachable m'
  /-- A queue goes on later, in an engine in which other things may have happened. -/
  | resume {m : Machine} (h : Reachable m) {e : Engine} (engine : e.FromSource) (wait : Float)
    (waitingOn : Option Gate) : Reachable ⟨e, { m.running with wait := wait, waitingOn := waitingOn }, []⟩

theorem sound_start {P : Script → Prop} {e : Engine} (gives : e.Gives P) {script : Script} (h : P script)
    (vars : Vars) (delayable ownOutput : Bool) : Sound P
      ⟨(e.newQueue script vars delayable ownOutput).2, (e.newQueue script vars delayable ownOutput).1, []⟩ :=
  ⟨gives.of_same rfl rfl rfl rfl rfl, soundStack_start h vars, fun _ h => absurd h List.not_mem_nil⟩

/-- Every machine that comes up is sound. -/
theorem Reachable.sound (h : m.Reachable) : m.Sound Script.FromSource := by
  induction h with
  | start engine source vars delayable ownOutput =>
    exact sound_start (Engine.fromSource_iff.mp engine) source vars delayable ownOutput
  | step _ next ih => exact ih.step Script.closed_fromSource Script.FromSource.ordered next
  | resume _ engine _ _ ih =>
    exact ⟨Engine.fromSource_iff.mp engine, ih.running, fun _ h => absurd h List.not_mem_nil⟩

/-- A queue that has started another runs and stands behind its `run`. -/
structure Launching (q : Queue) : Prop where
  running : q.running = true
  kept : q.result.brokeOff = none
  behind : ∃ g below entry, q.frames = g :: below ∧ g.current? = some entry ∧ entry.instruction.name = "run"

theorem Reachable.launching (h : m.Reachable) : ∀ c ∈ m.callers, Launching c.queue := by
  induction h with
  | start | resume => exact fun _ hc => absurd hc List.not_mem_nil
  | @step m m' h next ih =>
    cases h.sound.next Script.closed_fromSource Script.FromSource.ordered next with
    | leaves leaves =>
      obtain ⟨c, _, hcallers, -⟩ := leaves.callers
      rw [hcallers] at ih
      exact fun k hk => ih k (List.mem_cons_of_mem _ hk)
    | givesUp givesUp =>
      obtain ⟨failure, c, callers, -, hcallers, rfl⟩ := givesUp
      rw [hcallers] at ih
      rw [callers_handle]
      exact fun k hk => ih k (List.mem_cons_of_mem _ hk)
    | goes _ _ _ fate =>
      rw [fate.callers]
      exact ih
    | launches at_ name current _ _ _ _ eq =>
      rw [eq]
      exact List.forall_mem_cons.mpr ⟨⟨at_.running, at_.kept, _, _, _, rfl, current, name⟩, ih⟩

/-- The machine after some steps, unless its queues have come to rest before. -/
def after? (m : Machine) : (steps : Nat) → Option Machine
  | 0 => some m
  | steps + 1 =>
    match m.step with
    | .next m => m.after? steps
    | .rest _ _ => none

theorem Reachable.of_after? {steps : Nat} (h : m.Reachable) (ha : m.after? steps = some m') : m'.Reachable := by
  induction steps generalizing m with
  | zero =>
    cases ha
    exact h
  | succ steps ih =>
    rw [after?] at ha
    split at ha
    · rename_i next
      exact ih (h.step next) ha
    · cases ha

theorem Reachable.outbox_of_after? {steps : Nat} (h : m.Reachable) (ha : m.after? steps = some m') :
    m.engine.outbox.Leads m'.engine.outbox := by
  induction steps generalizing m with
  | zero =>
    cases ha
    exact .refl _
  | succ steps ih =>
    rw [after?] at ha
    split at ha
    · rename_i next
      exact (h.sound.outbox Script.closed_fromSource Script.FromSource.ordered next).trans (ih (h.step next) ha)
    · cases ha

/-- The machine that comes up some steps after a source text has begun to run, in an engine that has nothing but the
    built-in commands and types. -/
def afterSource? (source : String) (steps : Nat) : Option Machine :=
  (Script.ofSource .builtin "main" source []).toOption.bind fun s =>
    after? ⟨(Engine.newQueue { registries := .builtin } s [] false false).2,
      (Engine.newQueue { registries := .builtin } s [] false false).1, []⟩ steps

/-- Nothing breaks off on the way. -/
theorem of_afterSource {source : String} {steps : Nat} (h : afterSource? source steps = some m) :
    m.Reachable ∧ m.engine.outbox.Whole := by
  obtain ⟨s, hs, hm⟩ := Option.bind_eq_some_iff.mp h
  have start := Reachable.start Engine.fromSource_new (.source rfl (toOption_eq_some.mp hs)) [] false false
  exact ⟨start.of_after? hm, Outbox.whole_of_never (start.outbox_of_after? hm).breaksAt⟩

theorem reachable_afterSource {source : String} {steps : Nat} (h : afterSource? source steps = some m) :
    m.Reachable :=
  (of_afterSource h).1

/-- The queue at work stands at an instruction of its innermost frame, for both of which `p` is true. -/
def standsWhere (m : Machine) (p : Frame → Entry → Bool) : Bool :=
  m.running.running && m.running.result.brokeOff.isNone && m.running.waitingOn.isNone &&
    !decide (0 < m.running.wait) && (m.running.frames.head?).any fun f => (f.script.code.entries[f.pc]?).any (p f)

theorem exists_of_standsWhere {p : Frame → Entry → Bool} (h : m.standsWhere p = true) :
    ∃ f below entry, m.StandsAt f below entry ∧ p f entry = true := by
  simp only [standsWhere, Bool.and_eq_true, Option.any_eq_true, Bool.not_eq_true', decide_eq_false_iff_not,
    Option.isNone_iff_eq_none] at h
  obtain ⟨⟨⟨⟨running, kept⟩, gate⟩, wait⟩, f, hf, entry, here, holds⟩ := h
  obtain ⟨below, frames⟩ := List.head?_eq_some_iff.mp hf
  exact ⟨f, below, entry, ⟨running, kept, by rw [gate]; rfl, wait, frames, here⟩, holds⟩

end Machine

end CommandScript
