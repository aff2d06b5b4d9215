import CommandScript.Engine.Host
import CommandScript.Proofs.Machine.Accords
import CommandScript.Proofs.Machine.Messages
import CommandScript.Proofs.Typing.Frames

/-! Queues that keep to themselves. Where no command of a queue changes what the engine keeps for
    all queues or runs another script, a run of the queue does the same in every engine with the
    same types and commands, and all that it leaves in the engine are its messages and its own gate.
    -/

namespace CommandScript

/-! ### Flows -/

/-- What has nothing to do with another script or another queue. -/
def Flow.isSolitary : Flow → Bool
  | .enter _ _ | .launch _ _ _ | .await (.queue _) => false
  | _ => true

/-- A command that goes on in its own script only. -/
def Act.Stays (x : Act Flow) : Prop :=
  ∀ site s flow t, x.on site s = (.ok flow, t) → flow.isSolitary = true

namespace Act

namespace Stays

theorem pure {flow : Flow} (h : flow.isSolitary = true) : Stays (pure flow) := by
  intro site s flow' t on
  cases on
  exact h

theorem throw (f : Failure) : Stays (throw f) := by
  intro site s flow t on
  cases on

theorem fail (f : RuntimeFault) : Stays (fail f) :=
  .throw _

theorem failInternal (f : InternalFault) : Stays (failInternal f) :=
  .throw _

theorem bind {x : Act α} {k : α → Act Flow} (hk : ∀ y, Stays (k y)) : Stays (x >>= k) := by
  intro site s flow t on
  rw [on_bind] at on
  generalize x.on site s = r at on
  obtain ⟨_ | y, u⟩ := r
  · cases on
  · exact hk y site u flow t on

theorem enter (taken : Bool) : Stays (do
    if !taken then skipBlock
    return .proceed) := by
  dsimp only
  split
  · exact .bind fun _ => .pure rfl
  · exact .pure rfl

theorem nextRound (owner : Nat) (next : Option (LoopState × Value)) : Stays (nextRound owner next) := by
  unfold Act.nextRound
  split
  · exact .bind fun _ => .bind fun _ => .bind fun _ => .bind fun _ => .pure rfl
  · exact .bind fun _ => .pure rfl

theorem elseBlock : Stays elseBlock := by
  refine .bind fun i => ?_
  split
  · exact .failInternal _
  · refine .bind fun f => ?_
    dsimp only
    split
    · exact .bind fun _ => .bind fun _ => .bind fun _ => .bind fun _ => .enter _
    · refine .bind fun n => ?_
      split
      · exact .bind fun _ => .bind fun _ => .bind fun _ => .enter _
      · exact .bind fun _ => .bind fun _ => .bind fun _ => .enter _

theorem repeatBlock : Stays repeatBlock := by
  refine .bind fun i => ?_
  split
  · exact .bind fun _ => .nextRound _ _
  · refine .bind fun v => .bind fun total => .bind fun site => ?_
    dsimp only
    split
    · exact .bind fun _ => .bind fun _ => .pure rfl
    · exact .bind fun _ => .bind fun _ => .pure rfl

theorem foreach : Stays foreach := by
  refine .bind fun i => ?_
  split
  · exact .bind fun _ => .nextRound _ _
  · refine .bind fun v => .bind fun site => ?_
    dsimp only
    split
    · exact .bind fun _ => .pure rfl
    · exact .bind fun _ => .bind fun _ => .pure rfl

theorem goto : Stays goto := by
  refine .bind fun text => .bind fun f => ?_
  dsimp only
  split
  · exact .fail _
  · exact .bind fun _ => .bind fun _ => .pure rfl

theorem tryBlock : Stays tryBlock := by
  refine .bind fun i => ?_
  split
  · refine .bind fun f => ?_
    split
    · exact .bind fun _ => .pure rfl
    · exact .pure rfl
  · exact .bind fun _ => .bind fun _ => .pure rfl

theorem wait : Stays wait := by
  refine .bind fun v => .bind fun seconds => .bind fun site => ?_
  split
  · exact .bind fun _ => .pure rfl
  · exact .bind fun _ => .pure rfl

theorem custom (respond : List Value → Reply) : Stays (custom respond) := by
  refine .bind fun site => .bind fun values => ?_
  split
  · exact .pure rfl
  · exact .pure rfl
  · exact .pure rfl
  · exact .throw _
  · exact .failInternal _

end Stays

end Act

theorem Action.stays {a : Action} (solitary : a.isSolitary = true) : a.perform.Stays := by
  have plain : a.isPlain = true → a.perform.Stays := by
    intro plain site s flow t on
    rw [(Action.plain_of_isPlain plain).proceeds on]
    rfl
  cases a with
  | echo | help | noop | debug | define | set | determine | error => exact plain rfl
  | stop => exact .bind fun _ => .pure rfl
  | compileError => exact .bind fun _ => .fail _
  | ifBlock => exact .bind fun _ => .bind fun _ => .bind fun _ => .enter _
  | elseBlock => exact .elseBlock
  | repeatBlock => exact .repeatBlock
  | foreach => exact .foreach
  | goto => exact .goto
  | mark => exact .pure rfl
  | tryBlock => exact .tryBlock
  | catchBlock => exact .bind fun _ => .bind fun _ => .enter _
  | wait => exact .wait
  | custom respond => exact .custom respond
  | once | function | call | run | event => cases solitary

/-! ### Engines -/

/-- A script none of whose commands changes what an engine keeps for all queues or runs another script. -/
def Script.Solitary (s : Script) : Prop :=
  ∀ entry ∈ s.code.entries.toList, entry.command.all (·.action.isSolitary) = true

/-- A queue all of whose scripts are such. -/
def Queue.Solitary (q : Queue) : Prop :=
  ∀ f ∈ q.frames, f.script.Solitary

instance (s : Script) : Decidable s.Solitary :=
  inferInstanceAs (Decidable
    (∀ entry ∈ s.code.entries.toList, entry.command.all (·.action.isSolitary) = true))

instance (q : Queue) : Decidable q.Solitary :=
  inferInstanceAs (Decidable (∀ f ∈ q.frames, f.script.Solitary))

theorem Script.Solitary.allows {s : Script} (h : s.Solitary) {index : Nat} {entry : Entry} {c : Command}
    (here : s.code.entries[index]? = some entry) (command : entry.command = some c) :
    c.action.isSolitary = true := by
  rw [← Array.getElem?_toList] at here
  have allowed := h entry (List.mem_of_getElem? here)
  rw [command] at allowed
  exact allowed

theorem Queue.Solitary.completeFrame {q : Queue} (h : q.Solitary) : q.completeFrame.Solitary := by
  intro f hf
  obtain ⟨d, hd, same⟩ := Queue.sameSlots_completeFrame hf
  rw [same.script]
  exact h d hd

namespace Engine

/-- An engine after some messages, with some gates opened. -/
def after (e : Engine) (sent : List Message) (opened : List Gate) : Engine :=
  { e.send sent with released := opened ++ e.released }

@[simp] theorem after_nil (e : Engine) : e.after [] [] = e := by
  simp [after]

@[simp] theorem send_after (e : Engine) (sent more : List Message) (opened : List Gate) :
    (e.after sent opened).send more = e.after (sent ++ more) opened := by
  simp [after, send, Array.append_assoc]

@[simp] theorem release_after (e : Engine) (sent : List Message) (opened : List Gate) (g : Gate) :
    (e.after sent opened).release g = e.after sent (g :: opened) := by
  simp [after, release]

theorem whole_after {e : Engine} (whole : e.outbox.Whole) (sent : List Message) (opened : List Gate) :
    (e.after sent opened).outbox.Whole :=
  whole_send whole sent

/-- Two engines that a queue without another to wait for cannot tell apart. -/
structure Similar (e e' : Engine) : Prop where
  registries : e'.registries = e.registries
  whole : e.outbox.Whole
  whole' : e'.outbox.Whole
  gates : ∀ key, e'.isReleased (.host key) = e.isReleased (.host key)

/-- A queue leaves engines as they are, but for its messages and its own gate. -/
theorem similar_after {e : Engine} (whole : e.outbox.Whole) (sent : List Message)
    {opened : List Gate} {id : Nat} (own : ∀ g ∈ opened, g = .queue id) :
    e.Similar (e.after sent opened) := by
  refine ⟨rfl, whole, whole_after whole sent opened, fun key => ?_⟩
  have apart : Gate.host key ∉ opened := by
    intro h
    cases own _ h
  simp [after, send, isReleased, apart]

/-- The engines `e` and `e'` have come from two others with the same messages of a queue, and with
    its gate opened in both or in neither. -/
def Abreast (e₀ e₀' : Engine) (id : Nat) (e e' : Engine) : Prop :=
  ∃ sent opened, (∀ g ∈ opened, g = Gate.queue id) ∧ e = e₀.after sent opened ∧ e' = e₀'.after sent opened

section
variable {e₀ e₀' e e' : Engine} {id : Nat}

theorem Abreast.send (h : Abreast e₀ e₀' id e e') (more : List Message) :
    Abreast e₀ e₀' id (e.send more) (e'.send more) := by
  obtain ⟨sent, opened, own, rfl, rfl⟩ := h
  exact ⟨sent ++ more, opened, own, send_after .., send_after ..⟩

theorem Abreast.release (h : Abreast e₀ e₀' id e e') :
    Abreast e₀ e₀' id (e.release (.queue id)) (e'.release (.queue id)) := by
  obtain ⟨sent, opened, own, rfl, rfl⟩ := h
  exact ⟨sent, .queue id :: opened, List.forall_mem_cons.mpr ⟨rfl, own⟩, release_after ..,
    release_after ..⟩

variable (alike : e₀.Similar e₀')
include alike

theorem Abreast.similar (h : Abreast e₀ e₀' id e e') : e.Similar e' := by
  obtain ⟨sent, opened, own, rfl, rfl⟩ := h
  have here := similar_after alike.whole sent own
  have there := similar_after alike.whole' sent own
  exact ⟨alike.registries, here.whole', there.whole', fun key =>
    (there.gates key).trans ((alike.gates key).trans (here.gates key).symm)⟩

theorem accord_abreast : Accord (Abreast e₀ e₀' id) where
  registries h := (Abreast.similar alike h).registries
  post m e e' h := by
    rw [on_post_whole (Abreast.similar alike h).whole, on_post_whole (Abreast.similar alike h).whole']
    exact ⟨rfl, Abreast.send h [m]⟩

end

end Engine

/-! ### Runs -/

namespace Machine

/-- Two machines that run one queue in two engines. -/
structure Abreast (e₀ e₀' : Engine) (id : Nat) (m m' : Machine) : Prop where
  engine : e₀.Abreast e₀' id m.engine m'.engine
  running : m'.running = m.running
  alone : m.callers = []
  alone' : m'.callers = []
  id : m.running.id = id
  solitary : m.running.Solitary
  free : ∀ other, m.running.waitingOn ≠ some (.queue other)

variable {e₀ e₀' e e' : Engine} {id : Nat} {m m' : Machine} {f g : Frame} {below : List Frame}
  {entry : Entry} {r : Except ScriptError Flow}

section
variable (alike : e₀.Similar e₀') (h : Abreast e₀ e₀' id m m')
include alike h

theorem Abreast.similar : m.engine.Similar m'.engine :=
  Engine.Abreast.similar alike h.engine

theorem Abreast.left? : m'.left? = m.left? := by
  have gate : (m.running.waitingOn.any fun g => !m'.engine.isReleased g) =
      m.running.waitingOn.any fun g => !m.engine.isReleased g := by
    cases hg : m.running.waitingOn with
    | none => rfl
    | some g =>
      cases g with
      | queue other => exact absurd hg (h.free other)
      | host key => simp [(h.similar alike).gates]
  unfold Machine.left? awake
  rw [h.running, gate]

omit alike in
theorem Abreast.awake : Abreast e₀ e₀' id m.awake m'.awake :=
  ⟨h.engine, congrArg (fun q : Queue => { q with waitingOn := none }) h.running, h.alone, h.alone',
    h.id, h.solitary, nofun⟩

omit alike in
theorem Abreast.stop : Abreast e₀ e₀' id m.stop m'.stop := by
  obtain ⟨engine, running, alone, alone', rfl, solitary, free⟩ := h
  refine ⟨?_, congrArg Queue.stop running, alone, alone', rfl, fun f hf => absurd hf List.not_mem_nil, ?_⟩
  · show Engine.Abreast _ _ _ (m.engine.release _) (m'.engine.release _)
    rw [running]
    exact Engine.Abreast.release engine
  · exact fun other waiting => free other waiting

omit alike in
/-- The queue at work changes alike in both machines. -/
theorem Abreast.change (change : Queue → Queue)
    (same : ∀ q, (change q).id = q.id ∧ (change q).waitingOn = q.waitingOn)
    (solitary : (change m.running).Solitary) :
    Abreast e₀ e₀' id { m with running := change m.running }
      { m' with running := change m'.running } where
  engine := h.engine
  running := congrArg change h.running
  alone := h.alone
  alone' := h.alone'
  id := (same _).1.trans h.id
  solitary := solitary
  free other waiting := h.free other ((same _).2.symm.trans waiting)

omit alike in
theorem Abreast.stopWithError : Abreast e₀ e₀' id m.stopWithError m'.stopWithError :=
  (h.change (fun q => { q with result := { q.result with errored := true } }) (fun _ => ⟨rfl, rfl⟩)
    h.solitary).stop

theorem Abreast.handle (error : ScriptError) : Abreast e₀ e₀' id (m.handle error) (m'.handle error) := by
  have report : m'.report error = m.report error := by
    unfold Machine.report alarm
    rw [h.running]
  rw [handle_whole (h.similar alike).whole, handle_whole (h.similar alike).whole', report]
  rw [show catchError (trace m'.running.frames error) m'.running.frames =
    catchError (trace m.running.frames error) m.running.frames by rw [h.running]]
  cases caught : catchError (trace m.running.frames error) m.running.frames with
  | none =>
    refine Abreast.stopWithError ⟨?_, h.running, h.alone, h.alone', h.id, h.solitary, h.free⟩
    exact Engine.Abreast.send h.engine _
  | some frames =>
    obtain ⟨above, d, below, target, hframes, boundary, rfl⟩ := catchError_eq_some caught
    have all : ∀ k ∈ d :: below, k.script.Solitary := fun k hk =>
      h.solitary k (by rw [hframes]; exact List.mem_append_right _ hk)
    refine h.change
      (fun q => { q with frames := caughtAt d target (trace m.running.frames error) :: below })
      (fun _ => ⟨rfl, rfl⟩) (List.forall_mem_cons.mpr ⟨?_, fun k hk => all k (List.mem_cons_of_mem _ hk)⟩)
    rw [(caughtAt_resumes boundary _).script]
    exact all d List.mem_cons_self

omit alike in
theorem Abreast.completeFrame : Abreast e₀ e₀' id { m with running := m.running.completeFrame }
    { m' with running := m'.running.completeFrame } := by
  refine h.change Queue.completeFrame (fun q => ?_) h.solitary.completeFrame
  unfold Queue.completeFrame
  split <;> exact ⟨rfl, rfl⟩

omit alike in
theorem Abreast.follow {flow : Flow} (solitary : flow.isSolitary = true) :
    Abreast e₀ e₀' id (m.follow flow) (m'.follow flow) := by
  cases flow with
  | proceed => exact h
  | pause seconds =>
    unfold Machine.follow
    dsimp only
    rw [h.running]
    split
    · exact ⟨h.engine, rfl, h.alone, h.alone', h.id, h.solitary, h.free⟩
    · exact h
  | await gate =>
    unfold Machine.follow
    dsimp only
    rw [h.running]
    split
    · refine ⟨h.engine, rfl, h.alone, h.alone', h.id, h.solitary, fun other waiting => ?_⟩
      cases waiting
      cases solitary
    · exact h
  | completeFrame => exact h.completeFrame
  | stopQueue => exact h.stop
  | enter _ _ | launch _ _ _ => cases solitary

/-- The instruction of one frame, in both engines. -/
theorem Abreast.perform (solitary : f.script.Solitary) (here : f.script.code.entries[f.pc]? = some entry)
    (performed : m.perform f below entry = (r, e, g)) :
    ∃ e', m'.perform f below entry = (r, e', g) ∧ e₀.Abreast e₀' id e e' ∧ g.script = f.script ∧
      ∀ flow, r = .ok flow → flow.isSolitary = true := by
  unfold Machine.perform at performed ⊢
  cases hc : entry.command with
  | none =>
    rw [hc] at performed
    cases performed
    exact ⟨m'.engine, rfl, h.engine, rfl, fun _ hr => by cases hr⟩
  | some c =>
    rw [hc] at performed
    dsimp only at performed ⊢
    have allowed := solitary.allows here hc
    rw [h.running]
    obtain ⟨same, frame, script, next⟩ :=
      Action.accords_of_isSolitary (Engine.accord_abreast alike) allowed
      ⟨entry, f.pc, below.length + 1, m.running.delayable, m.running.ownOutput⟩ f.next h.engine
    generalize on : c.action.perform.on _ ⟨m.engine, f.next⟩ = p at performed same frame script next
    generalize c.action.perform.on _ ⟨m'.engine, f.next⟩ = p' at same frame next
    obtain ⟨result, e₁, k⟩ := p
    obtain ⟨result', e₁', k'⟩ := p'
    cases same
    cases frame
    cases performed
    refine ⟨e₁', rfl, next, script, fun flow hr => ?_⟩
    cases result with
    | error _ => cases hr
    | ok _ =>
      cases hr
      exact Action.stays allowed _ _ _ _ on

theorem Abreast.execute (frames : m.running.frames = f :: below)
    (here : f.script.code.entries[f.pc]? = some entry) :
    Abreast e₀ e₀' id (m.execute f below entry) (m'.execute f below entry) := by
  have all := h.solitary
  unfold Queue.Solitary at all
  rw [frames] at all
  obtain ⟨top, rest⟩ := List.forall_mem_cons.mp all
  generalize performed : m.perform f below entry = p
  obtain ⟨r, e, g⟩ := p
  obtain ⟨e', performed', next, script, flows⟩ := h.perform alike top here performed
  rw [execute_eq, execute_eq, performed, performed']
  have left : Abreast e₀ e₀' id (m.withFrames e (g :: below)) (m'.withFrames e' (g :: below)) :=
    ⟨next, congrArg (fun q : Queue => { q with frames := g :: below }) h.running, h.alone, h.alone', h.id,
      List.forall_mem_cons.mpr ⟨script ▸ top, rest⟩, h.free⟩
  cases r with
  | error error => exact left.handle alike error
  | ok flow => exact left.follow (flows flow rfl)

/-- A step comes to the same for the queue in both engines. -/
theorem Abreast.step :
    (∃ n n', m.step = .next n ∧ m'.step = .next n' ∧ Abreast e₀ e₀' id n n') ∨
      ∃ q, m.step = .rest m.engine q ∧ m'.step = .rest m'.engine q := by
  cases left : m.left? with
  | some q =>
    refine Or.inr ⟨q, ?_, ?_⟩
    · rw [step_of_left left, yield]
      dsimp only
      rw [h.alone]
    · rw [step_of_left ((h.left? alike).trans left), yield]
      dsimp only
      rw [h.alone']
  | none =>
    rw [step_of_free left, step_of_free ((h.left? alike).trans left), h.running]
    have awake := h.awake
    split
    · exact Or.inl ⟨_, _, rfl, rfl, awake.stop⟩
    · rename_i f below frames
      split
      · exact Or.inl ⟨_, _, rfl, rfl, awake.completeFrame⟩
      · rename_i entry here
        exact Or.inl ⟨_, _, rfl, rfl, awake.execute alike frames here⟩

/-- A run comes to the same for the queue in both engines, and reaches its limit in both or in neither. -/
theorem Abreast.run (steps : Nat) : (m.run steps = none ∧ m'.run steps = none) ∨
    ∃ e e' q, m.run steps = some (e, q) ∧ m'.run steps = some (e', q) ∧ e₀.Abreast e₀' id e e' := by
  induction steps generalizing m m' with
  | zero => exact Or.inl ⟨rfl, rfl⟩
  | succ steps ih =>
    rw [Machine.run, Machine.run]
    rcases h.step alike with ⟨n, n', next, next', both⟩ | ⟨q, rest, rest'⟩
    · rw [next, next']
      exact ih both
    · rw [rest, rest']
      exact Or.inr ⟨m.engine, m'.engine, q, rfl, rfl, h.engine⟩

end

end Machine

/-! ### Ticks -/

namespace Engine

theorem after_inj {e : Engine} {sent sent' : List Message} {opened opened' : List Gate}
    (h : e.after sent opened = e.after sent' opened') : sent = sent' ∧ opened = opened' := by
  have messages := congrArg (fun e => e.outbox.messages) h
  have released := congrArg Engine.released h
  simp only [after, send, Array.append_right_inj] at messages
  exact ⟨by simpa using congrArg Array.toList messages, List.append_cancel_right released⟩

variable {e e' : Engine} {q : Queue} (solitary : q.Solitary)
  (free : ∀ other, q.waitingOn ≠ some (.queue other))
include solitary free

theorem Similar.runQueue? (alike : e.Similar e') (steps : Nat) :
    (Engine.runQueue? steps e q = none ∧ Engine.runQueue? steps e' q = none) ∨
      ∃ sent opened q', (∀ g ∈ opened, g = .queue q.id) ∧
        Engine.runQueue? steps e q = some (e.after sent opened, q') ∧
        Engine.runQueue? steps e' q = some (e'.after sent opened, q') := by
  have begins : Machine.Abreast e e' q.id ⟨e, q, []⟩ ⟨e', q, []⟩ :=
    ⟨⟨[], [], List.forall_mem_nil _, (after_nil e).symm, (after_nil e').symm⟩, rfl, rfl, rfl, rfl,
    solitary, free⟩
  rcases begins.run alike steps with neither | ⟨_, _, q', run, run', sent, opened, own, rfl, rfl⟩
  · exact Or.inl neither
  · exact Or.inr ⟨sent, opened, q', own, run, run'⟩

/-- Some seconds do the same to the queue in both engines, and leave the same there. -/
theorem Similar.tickQueue? (alike : e.Similar e') (steps : Nat) (delta : Float) :
    (Engine.tickQueue? steps delta e q = none ∧ Engine.tickQueue? steps delta e' q = none) ∨
      ∃ sent opened q', (∀ g ∈ opened, g = .queue q.id) ∧
        Engine.tickQueue? steps delta e q = some (e.after sent opened, q') ∧
          Engine.tickQueue? steps delta e' q = some (e'.after sent opened, q') := by
  have still : ∀ q' : Queue, ∃ sent opened q'', (∀ g ∈ opened, g = Gate.queue q.id) ∧
      some (e, q') = some (e.after sent opened, q'') ∧
      some (e', q') = some (e'.after sent opened, q'') := fun q' =>
    ⟨[], [], q', List.forall_mem_nil _, by rw [after_nil], by rw [after_nil]⟩
  unfold Engine.tickQueue?
  split
  · exact Or.inr (still q)
  · split
    · dsimp only
      split
      · exact Or.inr (still _)
      · exact Similar.runQueue? (q := { q with wait := 0 }) solitary free alike steps
    · exact Similar.runQueue? solitary free alike steps

/-- What a tick of the queue sends and opens does not hang on the engine. -/
theorem tickQueue?_solitary (whole : e.outbox.Whole) (steps : Nat) (delta : Float) :
    (∀ e', e.Similar e' → Engine.tickQueue? steps delta e' q = none) ∨
      ∃ sent opened q', (∀ g ∈ opened, g = .queue q.id) ∧
        ∀ e', e.Similar e' → Engine.tickQueue? steps delta e' q = some (e'.after sent opened, q') := by
  have self : e.Similar e := ⟨rfl, whole, whole, fun _ => rfl⟩
  rcases self.tickQueue? solitary free steps delta with ⟨none_, -⟩ | ⟨sent, opened, q', own, here, -⟩
  · refine Or.inl fun e' alike => ?_
    rcases alike.tickQueue? solitary free steps delta with ⟨-, none'⟩ | ⟨_, _, _, _, here, -⟩
    · exact none'
    · cases none_.symm.trans here
  · refine Or.inr ⟨sent, opened, q', own, fun e' alike => ?_⟩
    rcases alike.tickQueue? solitary free steps delta with
      ⟨none_, -⟩ | ⟨sent', opened', q'', -, here', there⟩
    · cases here.symm.trans none_
    · obtain ⟨same, rfl⟩ := Prod.mk.inj (Option.some.inj (here.symm.trans here'))
      obtain ⟨rfl, rfl⟩ := after_inj same
      exact there

end Engine

end CommandScript
