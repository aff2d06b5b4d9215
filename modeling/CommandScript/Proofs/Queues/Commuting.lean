import CommandScript.Proofs.Queues.Hosted

/-! The order of two queues in a tick. Where both keep to themselves and the output does not break
    off, it decides on the order of their messages and on nothing else: neither for the two, nor for
    those behind them. -/

namespace CommandScript

/-! ### Engines that differ in what was sent before -/

namespace Engine

/-- Two engines with the same gates open that have sent the same, the one behind `a` and the other
    behind `b`. -/
structure Alike (a b : Array Message) (e e' : Engine) : Prop where
  eq : ∃ outbox released, e' = { e with outbox := outbox, released := released }
  gates : ∀ g, e'.isReleased g = e.isReleased g
  whole : e.outbox.Whole
  whole' : e'.outbox.Whole
  breaksAt : e'.outbox.breaksAt = e.outbox.breaksAt
  messages : ∃ sent : List Message,
    e.outbox.messages = a ++ sent.toArray ∧ e'.outbox.messages = b ++ sent.toArray

namespace Alike

variable {a b : Array Message} {e e' : Engine}

theorem send (h : Alike a b e e') (more : List Message) : Alike a b (e.send more) (e'.send more) := by
  obtain ⟨sent, before, before'⟩ := h.messages
  refine ⟨?_, h.gates, whole_send h.whole more, whole_send h.whole' more, h.breaksAt,
    sent ++ more, ?_, ?_⟩
  · obtain ⟨outbox, released, rfl⟩ := h.eq
    exact ⟨_, released, rfl⟩
  · simp [Engine.send, before]
  · simp [Engine.send, before']

/-- Both engines change in the same way, which has nothing to do with messages and gates. -/
theorem change (h : Alike a b e e') (f : Engine → Engine)
    (apart : ∀ (e : Engine) outbox released, f { e with outbox := outbox, released := released } =
      { f e with outbox := outbox, released := released }) : Alike a b (f e) (f e') := by
  have outbox : ∀ e : Engine, (f e).outbox = e.outbox := fun e => by
    have kept := congrArg Engine.outbox (apart e e.outbox e.released)
    exact kept
  have released : ∀ e : Engine, (f e).released = e.released := fun e => by
    have kept := congrArg Engine.released (apart e e.outbox e.released)
    exact kept
  refine ⟨?_, fun g => ?_, ?_, ?_, ?_, ?_⟩
  · obtain ⟨outbox, released, rfl⟩ := h.eq
    exact ⟨outbox, released, apart e outbox released⟩
  · have := h.gates g
    unfold isReleased at this ⊢
    rw [released, released, this]
  · rw [outbox]
    exact h.whole
  · rw [outbox]
    exact h.whole'
  · rw [outbox, outbox]
    exact h.breaksAt
  · rw [outbox, outbox]
    exact h.messages

theorem release (h : Alike a b e e') (g : Gate) : Alike a b (e.release g) (e'.release g) := by
  refine ⟨?_, fun k => ?_, h.whole, h.whole', h.breaksAt, h.messages⟩
  · obtain ⟨outbox, released, rfl⟩ := h.eq
    exact ⟨outbox, g :: released, rfl⟩
  · have := h.gates k
    unfold isReleased at this ⊢
    rw [Engine.release, Engine.release, List.contains_cons, List.contains_cons, this]

theorem twins (a b : Array Message) : Twins (Alike a b) where
  registries h := by
    obtain ⟨outbox, released, rfl⟩ := h.eq
    rfl
  post m e e' h := by
    rw [on_post_whole h.whole, on_post_whole h.whole']
    exact ⟨rfl, h.send [m]⟩
  functions h := by
    obtain ⟨outbox, released, rfl⟩ := h.eq
    rfl
  scripts h := by
    obtain ⟨outbox, released, rfl⟩ := h.eq
    rfl
  loader h := by
    obtain ⟨outbox, released, rfl⟩ := h.eq
    rfl
  extension h := by
    obtain ⟨outbox, released, rfl⟩ := h.eq
    rfl
  verbosity h := by
    obtain ⟨outbox, released, rfl⟩ := h.eq
    rfl
  keep h key s := h.change (fun e => { e with scripts := setKey key s e.scripts }) fun _ _ _ => rfl
  markOnce h id := by
    refine ⟨?_, h.change (fun e => (e.markOnce id).2) fun e outbox released => ?_⟩
    · obtain ⟨outbox, released, rfl⟩ := h.eq
      unfold markOnce
      dsimp only
      split <;> rfl
    · unfold markOnce
      dsimp only
      split <;> rfl
  registerFunction h name s := h.change (fun e => e.registerFunction name s) fun _ _ _ => rfl
  registerHandler h event handler :=
    h.change (fun e => e.registerHandler event handler) fun _ _ _ => rfl
  removeHandler h event name := by
    refine ⟨?_, h.change (fun e => (e.removeHandler event name).2) fun e outbox released => ?_⟩
    · obtain ⟨outbox, released, rfl⟩ := h.eq
      unfold removeHandler
      dsimp only
      split <;> rfl
    · unfold removeHandler
      dsimp only
      split <;> rfl

end Alike

end Engine

/-! ### Runs in such engines -/

namespace Queue

theorem brokeOff_stop (q : Queue) : q.stop.result.brokeOff = q.result.brokeOff := by
  unfold stop
  dsimp only
  split <;> rfl

theorem brokeOff_completeFrame (q : Queue) : q.completeFrame.result.brokeOff = q.result.brokeOff := by
  unfold completeFrame
  split <;> rfl

end Queue

namespace Machine

/-- Two machines that run the same in such engines, where no queue is given up. -/
structure Alike (a b : Array Message) (m m' : Machine) : Prop where
  engine : m.engine.Alike a b m'.engine
  running : m'.running = m.running
  callers : m'.callers = m.callers
  intact : m.running.result.brokeOff = none
  others : ∀ c ∈ m.callers, c.queue.result.brokeOff = none

variable {a b : Array Message} {m m' : Machine} {f g : Frame} {below : List Frame} {entry : Entry}
  {r : Except ScriptError Flow} {e : Engine} (h : Alike a b m m')
include h

theorem Alike.eq : ∃ e', m' = { m with engine := e' } ∧ m.engine.Alike a b e' := by
  obtain ⟨e', q, callers⟩ := m'
  obtain ⟨engine, rfl, rfl⟩ := h
  exact ⟨e', rfl, engine⟩

/-- The queue at work changes alike in both machines. -/
theorem Alike.change (f : Queue → Queue) (keeps : ∀ q, (f q).result.brokeOff = q.result.brokeOff) :
    Alike a b { m with running := f m.running } { m' with running := f m'.running } :=
  ⟨h.engine, congrArg f h.running, h.callers, (keeps _).trans h.intact, h.others⟩

/-- Both engines change. -/
theorem Alike.withEngine {e e' : Engine} (alike : e.Alike a b e') :
    Alike a b { m with engine := e } { m' with engine := e' } :=
  ⟨alike, h.running, h.callers, h.intact, h.others⟩

theorem Alike.left? : m'.left? = m.left? := by
  obtain ⟨e', rfl, engine⟩ := h.eq
  unfold Machine.left? awake
  simp only [engine.gates]

theorem Alike.stop : Alike a b m.stop m'.stop := by
  obtain ⟨e', rfl, engine⟩ := h.eq
  exact (h.withEngine (engine.release _)).change Queue.stop Queue.brokeOff_stop

theorem Alike.stopWithError : Alike a b m.stopWithError m'.stopWithError :=
  (h.change (fun q => { q with result := { q.result with errored := true } }) fun _ => rfl).stop

theorem Alike.handle (error : ScriptError) : Alike a b (m.handle error) (m'.handle error) := by
  obtain ⟨e', rfl, engine⟩ := h.eq
  rw [handle_whole engine.whole, handle_whole engine.whole']
  dsimp only
  split
  · rename_i frames _
    exact h.change (fun q => { q with frames := frames }) fun _ => rfl
  · exact (h.withEngine (engine.send _)).stopWithError

theorem Alike.follow (flow : Flow) : Alike a b (m.follow flow) (m'.follow flow) := by
  obtain ⟨e', rfl, engine⟩ := h.eq
  cases flow with
  | proceed => exact h
  | pause seconds =>
    unfold Machine.follow
    dsimp only
    split
    · exact h.change (fun q => { q with wait := seconds }) fun _ => rfl
    · exact h
  | await gate =>
    unfold Machine.follow
    dsimp only
    split
    · exact h.change (fun q => { q with waitingOn := some gate }) fun _ => rfl
    · exact h
  | completeFrame => exact h.change Queue.completeFrame Queue.brokeOff_completeFrame
  | enter script vars =>
    exact h.change (fun q => { q with frames := Frame.start script vars :: q.frames }) fun _ => rfl
  | stopQueue => exact h.stop
  | launch script vars waits =>
    have numbered := engine.change (fun e => { e with nextId := e.nextId + 1 }) fun _ _ _ => rfl
    refine ⟨numbered, ?_, rfl, rfl, List.forall_mem_cons.mpr ⟨h.intact, h.others⟩⟩
    obtain ⟨outbox, released, rfl⟩ := engine.eq
    rfl

theorem Alike.execute (f : Frame) (below : List Frame) (entry : Entry) :
    Alike a b (m.execute f below entry) (m'.execute f below entry) := by
  obtain ⟨e', rfl, engine⟩ := h.eq
  have left : ∀ {e e' : Engine} (g : Frame), e.Alike a b e' →
      Alike a b (m.withFrames e (g :: below)) (m.withFrames e' (g :: below)) := fun g alike =>
    (h.withEngine alike).change (fun q => { q with frames := g :: below }) fun _ => rfl
  rw [execute_eq, execute_eq]
  unfold perform
  cases entry.command with
  | none => exact (left _ engine).handle _
  | some c =>
    dsimp only
    obtain ⟨result, frame, -, next⟩ := Action.accords (Engine.Alike.twins a b) c.action
      ⟨entry, f.pc, below.length + 1, m.running.delayable, m.running.ownOutput⟩ f.next engine
    rw [result, frame]
    cases (c.action.perform.on _ ⟨m.engine, f.next⟩).1 with
    | error failure => exact (left _ next).handle _
    | ok flow => exact (left _ next).follow flow

theorem Alike.yield : (∃ n n', m.yield = .next n ∧ m'.yield = .next n' ∧ Alike a b n n') ∨
    m.yield = .rest m.engine m.running ∧ m'.yield = .rest m'.engine m.running := by
  obtain ⟨e', rfl, engine⟩ := h.eq
  have others := h.others
  unfold Machine.yield
  dsimp only
  split
  · exact Or.inr ⟨rfl, rfl⟩
  · rename_i c callers hc
    rw [hc] at others
    obtain ⟨intact, others⟩ := List.forall_mem_cons.mp others
    simp only [h.intact]
    refine Or.inl ?_
    split
    · have listed := engine.change (fun e => { e with queues := e.queues ++ [m.running] })
        fun _ _ _ => rfl
      exact ⟨_, _, rfl, rfl, listed, rfl, rfl, intact, others⟩
    · exact ⟨_, _, rfl, rfl, engine, rfl, rfl, intact, others⟩

theorem Alike.step : (∃ n n', m.step = .next n ∧ m'.step = .next n' ∧ Alike a b n n') ∨
    ∃ q, m.step = .rest m.engine q ∧ m'.step = .rest m'.engine q ∧ q.result.brokeOff = none := by
  have awake : Alike a b m.awake m'.awake :=
    h.change (fun q => { q with waitingOn := none }) fun _ => rfl
  cases left : m.left? with
  | some q =>
    rw [step_of_left left, step_of_left (h.left?.trans left)]
    have intact : q.result.brokeOff = none := result_of_left? left ▸ h.intact
    have beside : Alike a b { m with running := q } { m' with running := q } :=
      ⟨h.engine, rfl, h.callers, intact, h.others⟩
    exact beside.yield.imp id fun ⟨rest, rest'⟩ => ⟨q, rest, rest', intact⟩
  | none =>
    rw [step_of_free left, step_of_free (h.left?.trans left), h.running]
    refine Or.inl ?_
    split
    · exact ⟨_, _, rfl, rfl, awake.stop⟩
    · split
      · exact ⟨_, _, rfl, rfl, awake.change Queue.completeFrame Queue.brokeOff_completeFrame⟩
      · exact ⟨_, _, rfl, rfl, awake.execute _ _ _⟩

theorem Alike.run (steps : Nat) : (m.run steps = none ∧ m'.run steps = none) ∨
    ∃ e e' q, m.run steps = some (e, q) ∧ m'.run steps = some (e', q) ∧ e.Alike a b e' ∧
      q.result.brokeOff = none := by
  induction steps generalizing m m' with
  | zero => exact Or.inl ⟨rfl, rfl⟩
  | succ steps ih =>
    rw [Machine.run, Machine.run]
    rcases h.step with ⟨n, n', next, next', alike⟩ | ⟨q, rest, rest', intact⟩
    · rw [next, next']
      exact ih alike
    · rw [rest, rest']
      exact Or.inr ⟨m.engine, m'.engine, q, rfl, rfl, h.engine, intact⟩

end Machine

namespace Engine

variable {a b : Array Message} {e e' : Engine} {steps : Nat} {delta : Float}

theorem Alike.tickQueue? (h : Alike a b e e') (steps : Nat) (delta : Float) {q : Queue}
    (intact : q.result.brokeOff = none) :
    (Engine.tickQueue? steps delta e q = none ∧ Engine.tickQueue? steps delta e' q = none) ∨
      ∃ t t' q', Engine.tickQueue? steps delta e q = some (t, q') ∧
        Engine.tickQueue? steps delta e' q = some (t', q') ∧ t.Alike a b t' ∧
        q'.result.brokeOff = none := by
  have runs : ∀ wait, Machine.Alike a b ⟨e, { q with wait := wait }, []⟩
    ⟨e', { q with wait := wait }, []⟩ :=
    fun _ => ⟨h, rfl, rfl, intact, List.forall_mem_nil _⟩
  unfold Engine.tickQueue?
  split
  · exact Or.inr ⟨e, e', _, rfl, rfl, h, intact⟩
  · split
    · dsimp only
      split
      · exact Or.inr ⟨e, e', _, rfl, rfl, h, intact⟩
      · exact (runs 0).run steps
    · exact (runs q.wait).run steps

/-- Lets some seconds pass for several queues none of which is given up. -/
def tickAll? (steps : Nat) (delta : Float) : Engine → List Queue → Option (Engine × List Queue)
  | e, [] => some (e, [])
  | e, q :: rest => do
    let (e, q) ← tickQueue? steps delta e q
    let (e, left) ← tickAll? steps delta e rest
    return (e, q.ifRunning ++ left)

theorem tickAll?_append (first rest : List Queue) : e.tickAll? steps delta (first ++ rest) = do
    let (e, left) ← tickAll? steps delta e first
    let (e, left') ← tickAll? steps delta e rest
    return (e, left ++ left') := by
  induction first generalizing e with
  | nil => exact (bind_pure _).symm
  | cons q first ih =>
    rw [List.cons_append, tickAll?, tickAll?]
    simp only [ih, bind_assoc, pure_bind, List.append_assoc]

theorem Alike.tickAll? (h : Alike a b e e') (steps : Nat) (delta : Float) {queues : List Queue}
    (intact : ∀ q ∈ queues, q.result.brokeOff = none) :
    (Engine.tickAll? steps delta e queues = none ∧ Engine.tickAll? steps delta e' queues = none) ∨
      ∃ t t' left, Engine.tickAll? steps delta e queues = some (t, left) ∧
        Engine.tickAll? steps delta e' queues = some (t', left) ∧ t.Alike a b t' := by
  induction queues generalizing e e' with
  | nil => exact Or.inr ⟨e, e', [], rfl, rfl, h⟩
  | cons q rest ih =>
    obtain ⟨first, intact⟩ := List.forall_mem_cons.mp intact
    rw [Engine.tickAll?, Engine.tickAll?]
    rcases h.tickQueue? steps delta first with ⟨none_, none'⟩ | ⟨t, t', q', ticked, ticked', alike, -⟩
    · exact Or.inl ⟨by rw [none_]; rfl, by rw [none']; rfl⟩
    · rw [ticked, ticked']
      simp only [Option.bind_eq_bind, Option.bind_some]
      rcases ih alike intact with ⟨none_, none'⟩ | ⟨u, u', left, rest, rest', alike⟩
      · exact Or.inl ⟨by rw [none_]; rfl, by rw [none']; rfl⟩
      · rw [rest, rest']
        exact Or.inr ⟨u, u', _, rfl, rfl, alike⟩

theorem Alike.refl {e : Engine} (whole : e.outbox.Whole) :
    Alike e.outbox.messages e.outbox.messages e e :=
  ⟨⟨e.outbox, e.released, rfl⟩, fun _ => rfl, whole, whole, rfl, [], by simp, by simp⟩

/-- Where the output does not break off, none of several queues is given up. -/
theorem tickQueues?_eq_tickAll? (whole : e.outbox.Whole) {queues : List Queue}
    (intact : ∀ q ∈ queues, q.result.brokeOff = none) :
    e.tickQueues? steps delta queues =
      (e.tickAll? steps delta queues).map fun (t, left) => (t, .ok left) := by
  induction queues generalizing e with
  | nil => rfl
  | cons q rest ih =>
    obtain ⟨first, intact⟩ := List.forall_mem_cons.mp intact
    rw [tickQueues?, tickAll?]
    rcases (Alike.refl whole).tickQueue? steps delta first with
      ⟨none_, -⟩ | ⟨t, t', q', ticked, -, alike, kept⟩
    · rw [none_]
      rfl
    · simp only [ticked, Option.bind_eq_bind, Option.bind_some, kept, ih alike.whole intact]
      cases tickAll? steps delta t rest with
      | none => rfl
      | some done => cases running : q'.running <;> simp [Queue.ifRunning, running, Except.map]

/-! ### Two neighbours -/

theorem tick?_eq_neighbours (whole : e.outbox.Whole) {before after : List Queue} {q₁ q₂ : Queue}
    (queues : e.queues = before ++ q₁ :: q₂ :: after)
    (intact : ∀ q ∈ e.queues, q.result.brokeOff = none) :
    e.tick? steps delta = do
      let (e, left) ← tickAll? steps delta { e with queues := [] } before
      let (e, q₁) ← tickQueue? steps delta e q₁
      let (e, q₂) ← tickQueue? steps delta e q₂
      let (e, right) ← tickAll? steps delta e after
      return { e with queues := left ++ (q₁.ifRunning ++ q₂.ifRunning ++ right) ++ e.queues } := by
  have alone : Outbox.Whole { e with queues := [] }.outbox := whole
  rw [tick?, tickQueues?_eq_tickAll? alone intact, queues, tickAll?_append, Option.bind_eq_bind,
    Option.bind_map]
  simp [tickAll?, Option.bind_assoc]

/-- A tick leaves an output that breaks off no more as one. -/
theorem whole_tickAll? {queues left : List Queue} {t : Engine} (whole : e.outbox.Whole)
    (intact : ∀ q ∈ queues, q.result.brokeOff = none)
    (ticked : e.tickAll? steps delta queues = some (t, left)) :
    t.outbox.Whole := by
  rcases (Alike.refl whole).tickAll? steps delta intact with ⟨none_, -⟩ | ⟨u, u', left', here, -, alike⟩
  · cases ticked.symm.trans none_
  · cases ticked.symm.trans here
    exact alike.whole

/-- What two queues send and open, in either order. -/
theorem alike_after (whole : e.outbox.Whole) (sent₁ sent₂ : List Message)
    (opened₁ opened₂ : List Gate) :
    Alike (e.outbox.messages ++ (sent₁ ++ sent₂).toArray)
      (e.outbox.messages ++ (sent₂ ++ sent₁).toArray)
      ((e.after sent₁ opened₁).after sent₂ opened₂) ((e.after sent₂ opened₂).after sent₁ opened₁) := by
  refine ⟨⟨_, _, rfl⟩, fun g => ?_, whole_after (whole_after whole _ _) _ _,
    whole_after (whole_after whole _ _) _ _, rfl, [], ?_, ?_⟩
  · simp only [isReleased, after, List.contains_append, send]
    rw [Bool.or_left_comm]
  · simp [after, send, Array.append_assoc]
  · simp [after, send, Array.append_assoc]

/-- Two neighbours that keep to themselves may go on in either order. Each comes to the same with
    the same messages; the other queues, before and behind them, and everything else in the engine
    are the same as well. Only the two stand in their order in the list of active queues, and the
    messages of the one before those of the other. -/
theorem Hosted.neighbours_commute (hosted : e.Hosted) (whole : e.outbox.Whole)
    {before after : List Queue} {q₁ q₂ : Queue} (queues : e.queues = before ++ q₁ :: q₂ :: after)
    (first : q₁.Solitary) (second : q₂.Solitary) (steps : Nat) (delta : Float) :
    (e.tick? steps delta = none ∧
      tick? steps delta { e with queues := before ++ q₂ :: q₁ :: after } = none) ∨
      ∃ t t' e₁ left right started q₁' q₂' sent₁ sent₂ opened₁ opened₂ rest,
        e.tick? steps delta = some t ∧
        tick? steps delta { e with queues := before ++ q₂ :: q₁ :: after } = some t' ∧
        tickQueues? steps delta { e with queues := [] } before = some (e₁, .ok left) ∧
        tickQueue? steps delta e₁ q₁ = some (e₁.after sent₁ opened₁, q₁') ∧
        tickQueue? steps delta (e₁.after sent₁ opened₁) q₂ =
          some ((e₁.after sent₁ opened₁).after sent₂ opened₂, q₂') ∧
        tickQueue? steps delta e₁ q₂ = some (e₁.after sent₂ opened₂, q₂') ∧
        tickQueue? steps delta (e₁.after sent₂ opened₂) q₁ =
          some ((e₁.after sent₂ opened₂).after sent₁ opened₁, q₁') ∧
        t.queues = left ++ (q₁'.ifRunning ++ q₂'.ifRunning ++ right) ++ started ∧
        t'.queues = left ++ (q₂'.ifRunning ++ q₁'.ifRunning ++ right) ++ started ∧
        t.outbox.messages = e₁.outbox.messages ++ (sent₁ ++ sent₂ ++ rest).toArray ∧
        t'.outbox.messages = e₁.outbox.messages ++ (sent₂ ++ sent₁ ++ rest).toArray ∧
        t' = { t with queues := t'.queues, outbox := t'.outbox, released := t'.released } ∧
        (∀ g, t'.isReleased g = t.isReleased g) ∧ t'.outbox.breaksAt = t.outbox.breaksAt := by
  have kept := hosted.kept
  have free₁ := (kept q₁ (by simp [queues])).warranted first
  have free₂ := (kept q₂ (by simp [queues])).warranted second
  have intact : ∀ q ∈ e.queues, q.result.brokeOff = none := fun q hq => (kept q hq).intact
  have exchanged : ∀ q ∈ before ++ q₂ :: q₁ :: after, q.result.brokeOff = none := fun q hq =>
    intact q (by rw [queues]; exact (List.Perm.append_left _ (.swap _ _ _)).mem_iff.mp hq)
  rw [tick?_eq_neighbours whole queues intact,
    tick?_eq_neighbours (e := { e with queues := before ++ q₂ :: q₁ :: after }) whole rfl exchanged]
  rw [queues] at intact
  have ahead : ∀ q ∈ before, q.result.brokeOff = none :=
    fun q hq => intact q (List.mem_append_left _ hq)
  have behind : ∀ q ∈ after, q.result.brokeOff = none := fun q hq => intact q (by simp [hq])
  rw [tickQueues?_eq_tickAll? (by exact whole) ahead]
  cases begun : tickAll? steps delta { e with queues := [] } before with
  | none => exact Or.inl ⟨rfl, rfl⟩
  | some begun' =>
  obtain ⟨e₁, left⟩ := begun'
  have whole₁ : e₁.outbox.Whole := whole_tickAll? (by exact whole) ahead begun
  have self : e₁.Similar e₁ := ⟨rfl, whole₁, whole₁, fun _ => rfl⟩
  simp only [Option.bind_eq_bind, Option.bind_some]
  rcases tickQueue?_solitary first free₁ whole₁ steps delta with
    none₁ | ⟨sent₁, opened₁, q₁', own₁, ticked₁⟩
  · -- The first has no end, whatever the second does before.
    refine Or.inl ⟨by rw [none₁ e₁ self]; rfl, ?_⟩
    rcases tickQueue?_solitary second free₂ whole₁ steps delta with
      none₂ | ⟨sent₂, opened₂, q₂', own₂, ticked₂⟩
    · rw [none₂ e₁ self]
      rfl
    · rw [ticked₂ e₁ self]
      simp only [Option.bind_some]
      rw [none₁ _ (similar_after whole₁ sent₂ own₂)]
      rfl
  rcases tickQueue?_solitary second free₂ whole₁ steps delta with
    none₂ | ⟨sent₂, opened₂, q₂', own₂, ticked₂⟩
  · refine Or.inl ⟨?_, by rw [none₂ e₁ self]; rfl⟩
    rw [ticked₁ e₁ self]
    simp only [Option.bind_some]
    rw [none₂ _ (similar_after whole₁ sent₁ own₁)]
    rfl
  have next₁ := ticked₁ _ (similar_after whole₁ sent₂ own₂)
  have next₂ := ticked₂ _ (similar_after whole₁ sent₁ own₁)
  rw [ticked₁ e₁ self, ticked₂ e₁ self]
  simp only [Option.bind_some, next₁, next₂]
  rcases (alike_after whole₁ sent₁ sent₂ opened₁ opened₂).tickAll? steps delta behind with
    ⟨none_, none'⟩ | ⟨u, u', right, ticked, ticked', alike⟩
  · exact Or.inl ⟨by rw [none_]; rfl, by rw [none']; rfl⟩
  rw [ticked, ticked']
  simp only [Option.bind_some]
  obtain ⟨rest, messages, messages'⟩ := alike.messages
  obtain ⟨outbox, released, hu⟩ := alike.eq
  refine Or.inr ⟨_, _, e₁, left, right, u.queues, q₁', q₂', sent₁, sent₂, opened₁, opened₂,
    rest, rfl, rfl, rfl, ticked₁ e₁ self, next₂, ticked₂ e₁ self, next₁, rfl, ?_, ?_, ?_, ?_,
    alike.gates, alike.breaksAt⟩
  · rw [hu]
  · simp [messages]
  · simp [messages']
  · rw [hu]

/-- An engine of an output in which two scripts have been started. -/
def startBoth? (outbox : Outbox) (first second : String) : Option Engine := do
  let a ← (Script.ofSource .builtin "a" first []).toOption
  let b ← (Script.ofSource .builtin "b" second []).toOption
  let (_, e) ← start? 30 { registries := .builtin, outbox := outbox } a [] false
  let (_, e) ← e.start? 30 b [] false
  return e

theorem whole_start? {script : Script} {vars : Vars} {own : Bool} {id : Nat} (whole : e.outbox.Whole)
    (done : e.start? steps script vars own = some (id, e')) : e'.outbox.Whole := by
  obtain ⟨⟨q, e₂⟩, started, eq⟩ := Option.map_eq_some_iff.mp done
  obtain ⟨⟨e₁, q⟩, run, kept⟩ := Option.bind_eq_some_iff.mp started
  have begins : Machine.Alike e.outbox.messages e.outbox.messages
      ⟨(e.newQueue script vars true own).2, (e.newQueue script vars true own).1, []⟩
      ⟨(e.newQueue script vars true own).2, (e.newQueue script vars true own).1, []⟩ :=
    ⟨Alike.refl (e := { e with nextId := e.nextId + 1 }) whole, rfl, rfl, rfl, List.forall_mem_nil _⟩
  rcases begins.run steps with ⟨none_, -⟩ | ⟨u, u', q', run', -, alike, -⟩
  · cases none_.symm.trans run
  · cases run'.symm.trans run
    cases kept
    cases eq
    rw [keep_eq]
    exact alike.whole

theorem hosted_startBoth {outbox : Outbox} {first second : String} {e : Engine}
    (h : startBoth? outbox first second = some e) : e.Hosted ∧ (outbox.Whole → e.outbox.Whole) := by
  obtain ⟨a, -, h⟩ := Option.bind_eq_some_iff.mp h
  obtain ⟨b, -, h⟩ := Option.bind_eq_some_iff.mp h
  obtain ⟨⟨_, e₁⟩, started, h⟩ := Option.bind_eq_some_iff.mp h
  obtain ⟨⟨_, e₂⟩, started', h⟩ := Option.bind_eq_some_iff.mp h
  cases h
  have fresh : Hosted { registries := .builtin, outbox := outbox } := .new rfl
  exact ⟨(fresh.start started).start started', fun whole =>
    whole_start? (whole_start? whole started) started'⟩

/-- The queues of an engine that has two. -/
def twoQueues? (e : Engine) : Option (Queue × Queue) :=
  match e.queues with
  | [q₁, q₂] => some (q₁, q₂)
  | _ => none

theorem queues_of_twoQueues? {e : Engine} {q₁ q₂ : Queue} (h : e.twoQueues? = some (q₁, q₂)) :
    e.queues = [q₁, q₂] := by
  unfold twoQueues? at h
  split at h
  · rename_i queues
    cases h
    exact queues
  · cases h

/-- Two scripts that speak after a second do so in the order of their queues, and change places with
    them. -/
theorem Hosted.neighbours_commute_speaking : ∃ (e t t' : Engine) (q₁ q₂ : Queue), e.Hosted ∧
    e.outbox.Whole ∧
    e.queues = [q₁, q₂] ∧ q₁.Solitary ∧ q₂.Solitary ∧ e.tick? 30 1 = some t ∧
      tick? 30 1 { e with queues := [q₂, q₁] } = some t' ∧
        t.outbox.messages.toList.map (·.text) = ["one", "two"] ∧
          t'.outbox.messages.toList.map (·.text) = ["two", "one"] ∧
            (∀ g, t'.isReleased g = t.isReleased g) ∧ t'.nextId = t.nextId := by
  have found : (startBoth? {} "wait 1; echo one; wait 1" "wait 1; echo two").any (fun e =>
      e.twoQueues?.any fun pair =>
        decide pair.1.Solitary && decide pair.2.Solitary &&
          (e.tick? 30 1).any (fun t => t.outbox.messages.toList.map (·.text) = ["one", "two"]) &&
          (tick? 30 1 { e with queues := [pair.2, pair.1] }).any fun t =>
            t.outbox.messages.toList.map (·.text) = ["two", "one"]) = true := by
    decide +kernel
  obtain ⟨e, started, found⟩ := (Option.any_eq_true _ _).mp found
  simp only [Bool.and_eq_true, Option.any_eq_true, decide_eq_true_eq] at found
  obtain ⟨⟨q₁, q₂⟩, pair, ⟨⟨first, second⟩, u, ticked, texts⟩, u', ticked', texts'⟩ := found
  have queues := queues_of_twoQueues? pair
  obtain ⟨hosted, stays⟩ := hosted_startBoth started
  have whole := stays (Outbox.whole_of_never rfl)
  have beside : e.queues = [] ++ q₁ :: q₂ :: [] := queues
  rcases hosted.neighbours_commute whole beside first second 30 1 with
    ⟨none_, -⟩ | ⟨t, t', _, _, _, _, _, _, _, _, _, _, _, here, there, -, -, -, -, -, -, -, -, -,
      same, gates, -⟩
  · cases none_.symm.trans ticked
  · cases here.symm.trans ticked
    cases there.symm.trans ticked'
    refine ⟨e, _, _, q₁, q₂, hosted, whole, queues, first, second, here, there, texts,
      texts', gates, ?_⟩
    rw [same]

/-- Where the output breaks off at its next message, that message is the error of whoever speaks
    first: the one that goes on first ends, and the other waits again. -/
theorem neighbours_apart_breakingOff : ∃ (e t t' : Engine) (q₁ q₂ : Queue), e.Hosted ∧
    e.queues = [q₁, q₂] ∧ q₁.Solitary ∧ q₂.Solitary ∧ e.tick? 30 1 = some t ∧
    tick? 30 1 { e with queues := [q₂, q₁] } = some t' ∧
      [q₁.id, q₂.id] = [1, 2] ∧ t.ids = [2] ∧ t'.ids = [1] := by
  have found : (startBoth? { breaksAt := (· = 1) } "wait 1; echo a; wait 1"
    "wait 1; echo b; wait 1").any (fun e =>
      e.twoQueues?.any fun pair =>
        decide pair.1.Solitary && decide pair.2.Solitary && [pair.1.id, pair.2.id] = [1, 2] &&
          (e.tick? 30 1).any (fun t => t.ids = [2]) &&
          (tick? 30 1 { e with queues := [pair.2, pair.1] }).any fun t => t.ids = [1]) = true := by
    decide +kernel
  obtain ⟨e, started, found⟩ := (Option.any_eq_true _ _).mp found
  simp only [Bool.and_eq_true, Option.any_eq_true, decide_eq_true_eq] at found
  obtain ⟨⟨q₁, q₂⟩, pair, ⟨⟨⟨first, second⟩, ids⟩, t, ticked, left⟩, t', ticked', left'⟩ := found
  exact ⟨e, t, t', q₁, q₂, (hosted_startBoth started).1, queues_of_twoQueues? pair, first, second,
    ticked, ticked', ids, left, left'⟩

end Engine

end CommandScript
