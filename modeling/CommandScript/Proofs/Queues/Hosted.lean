import CommandScript.Proofs.Queues.Operations
import CommandScript.Proofs.Queues.Solitary

/-! Engines as their hosts leave them, with any commands and any scripts. No active queue is given
    up, and a queue waits for another only where one of its scripts could start one. -/

namespace CommandScript

/-- If a queue waits for another, not all of its scripts keep to themselves. -/
def Queue.Warranted (q : Queue) : Prop :=
  q.Solitary → ∀ other, q.waitingOn ≠ some (.queue other)

theorem Queue.warranted_of_open {q : Queue} (h : q.waitingOn = none) : q.Warranted := by
  intro _ other waiting
  cases h.symm.trans waiting

/-- A queue that is not given up and has reason to wait. -/
structure Queue.Kept (q : Queue) : Prop where
  intact : q.result.brokeOff = none
  warranted : q.Warranted

namespace Engine

/-- One engine, on its way from `e`, with the same queues. -/
theorem twins_queues (queues : List Queue) : Twins fun a b => b = a ∧ a.queues = queues where
  registries := by
    rintro a b ⟨rfl, -⟩
    rfl
  post m := by
    rintro a b ⟨rfl, h⟩
    rw [on_post]
    exact ⟨rfl, rfl, h⟩
  functions := by
    rintro a b ⟨rfl, -⟩
    rfl
  scripts := by
    rintro a b ⟨rfl, -⟩
    rfl
  loader := by
    rintro a b ⟨rfl, -⟩
    rfl
  extension := by
    rintro a b ⟨rfl, -⟩
    rfl
  verbosity := by
    rintro a b ⟨rfl, -⟩
    rfl
  keep := by
    rintro a b ⟨rfl, h⟩ key s
    exact ⟨rfl, h⟩
  markOnce := by
    rintro a b ⟨rfl, h⟩ id
    refine ⟨rfl, rfl, ?_⟩
    unfold markOnce
    dsimp only
    split <;> exact h
  registerFunction := by
    rintro a b ⟨rfl, h⟩ name s
    exact ⟨rfl, h⟩
  registerHandler := by
    rintro a b ⟨rfl, h⟩ event handler
    exact ⟨rfl, h⟩
  removeHandler := by
    rintro a b ⟨rfl, h⟩ event name
    refine ⟨rfl, rfl, ?_⟩
    unfold removeHandler
    dsimp only
    split <;> exact h

end Engine

/-! ### One step -/

namespace Machine

/-- All queues of a machine wait with reason, and those that have started others had to. -/
structure Warranted (m : Machine) : Prop where
  running : m.running.Warranted
  callers : ∀ c ∈ m.callers, ¬c.queue.Solitary ∧ c.queue.waitingOn = none
  queues : ∀ q ∈ m.engine.queues, q.Kept

variable {m m' : Machine} {f g : Frame} {below : List Frame} {entry : Entry}
  {r : Except ScriptError Flow} {e : Engine} {q : Queue}

/-- An instruction leaves the queues of the engine and the script of its frame, and has to do with
    another script or another queue only where its command does not keep to itself. -/
theorem perform_keeps (here : f.script.code.entries[f.pc]? = some entry)
    (performed : m.perform f below entry = (r, e, g)) : e.queues = m.engine.queues ∧ g.script = f.script ∧
      ∀ flow, r = .ok flow → flow.isSolitary = true ∨ ¬f.script.Solitary := by
  unfold perform at performed
  cases hc : entry.command with
  | none =>
    rw [hc] at performed
    cases performed
    exact ⟨rfl, rfl, fun _ h => by cases h⟩
  | some c =>
    rw [hc] at performed
    dsimp only at performed
    obtain ⟨-, -, script, -, queues⟩ := Action.accords (Engine.twins_queues m.engine.queues) c.action
      ⟨entry, f.pc, below.length + 1, m.running.delayable, m.running.ownOutput⟩ f.next ⟨rfl, rfl⟩
    generalize on : c.action.perform.on _ ⟨m.engine, f.next⟩ = p at performed script queues
    obtain ⟨result, t⟩ := p
    cases performed
    refine ⟨queues, script, fun flow h => ?_⟩
    by_cases allowed : c.action.isSolitary = true
    · cases result with
      | error _ => cases h
      | ok _ =>
        cases h
        exact Or.inl (Action.stays allowed _ _ _ _ on)
    · exact Or.inr fun solitary => allowed (solitary.allows here hc)

theorem Warranted.handle (h : m.Warranted) (open_ : m.running.waitingOn = none) (error : ScriptError) :
    (m.handle error).Warranted := by
  rcases handle_cases m error with
    ⟨_, _, _, _, -, -, handled⟩ | ⟨e, ⟨outbox, -, rfl⟩, handled⟩ | ⟨e, ⟨outbox, -, rfl⟩, -, handled⟩
  all_goals
    rw [handled]
    exact ⟨Queue.warranted_of_open open_, h.callers, h.queues⟩

theorem Warranted.follow (h : m.Warranted) (open_ : m.running.waitingOn = none) {flow : Flow}
    (reason : flow.isSolitary = true ∨ ¬m.running.Solitary) : (m.follow flow).Warranted := by
  cases flow with
  | proceed => exact h
  | pause seconds =>
    unfold Machine.follow
    dsimp only
    split
    · exact ⟨Queue.warranted_of_open open_, h.callers, h.queues⟩
    · exact h
  | await gate =>
    unfold Machine.follow
    dsimp only
    split
    · refine ⟨fun solitary other waiting => ?_, h.callers, h.queues⟩
      cases waiting
      rcases reason with allowed | reason
      · cases allowed
      · exact reason solitary
    · exact h
  | completeFrame =>
    refine ⟨Queue.warranted_of_open ?_, h.callers, h.queues⟩
    unfold Machine.follow Queue.completeFrame
    dsimp only
    split <;> exact open_
  | stopQueue => exact ⟨Queue.warranted_of_open open_, h.callers, h.queues⟩
  | enter script vars => exact ⟨Queue.warranted_of_open open_, h.callers, h.queues⟩
  | launch script vars waits =>
    refine ⟨Queue.warranted_of_open rfl, List.forall_mem_cons.mpr ⟨⟨?_, open_⟩, h.callers⟩, h.queues⟩
    exact reason.resolve_left nofun

theorem Warranted.left (h : m.Warranted) (left : m.left? = some q) : q.Warranted := by
  unfold left? at left
  split at left
  · cases left
    exact h.running
  · split at left
    · cases left
      exact h.running
    · split at left
      · cases left
        exact Queue.warranted_of_open rfl
      · cases left

theorem Warranted.step (h : m.Warranted) (next : m.step = .next m') : m'.Warranted := by
  rcases step_cases next with
    (leaves | ⟨failure, c, callers, -, hc, rfl⟩) |
      ⟨-, ⟨-, rfl⟩ | ⟨f, below, -, -, rfl⟩ | ⟨f, below, entry, at_, rfl⟩⟩
  · obtain ⟨q, c, left, callers, settled⟩ := leaves.cases
    have started := h.callers
    rw [callers] at started
    obtain ⟨⟨reason, -⟩, started⟩ := List.forall_mem_cons.mp started
    rcases settled with ⟨-, eq⟩ | ⟨-, eq⟩
    · rw [eq]
      refine ⟨fun solitary => absurd solitary reason, started, fun k hk => ?_⟩
      rcases List.mem_append.mp hk with hk | hk
      · exact h.queues k hk
      · rw [List.mem_singleton.mp hk]
        exact ⟨result_of_left? left ▸ leaves.kept, h.left left⟩
    · rw [eq]
      exact ⟨fun solitary => absurd solitary reason, started, h.queues⟩
  · have started := h.callers
    rw [hc] at started
    obtain ⟨⟨-, open_⟩, started⟩ := List.forall_mem_cons.mp started
    exact Warranted.handle (m := ⟨m.engine, c.queue, callers⟩)
      ⟨Queue.warranted_of_open open_, started, h.queues⟩ open_ _
  · exact ⟨Queue.warranted_of_open rfl, h.callers, h.queues⟩
  · refine ⟨Queue.warranted_of_open ?_, h.callers, h.queues⟩
    unfold Queue.completeFrame
    split <;> rfl
  · rw [execute_eq]
    generalize performed : m.awake.perform f below entry = p
    obtain ⟨r, e, g⟩ := p
    obtain ⟨queues, script, flows⟩ := perform_keeps at_.here performed
    have left : (m.awake.withFrames e (g :: below)).Warranted :=
      ⟨Queue.warranted_of_open rfl, h.callers, fun k hk => h.queues k (queues ▸ hk)⟩
    cases r with
    | error error => exact left.handle rfl error
    | ok flow =>
      refine left.follow rfl ((flows flow rfl).imp id fun reason solitary => reason ?_)
      rw [← script]
      exact solitary g List.mem_cons_self

/-- A run leaves all queues with reason to wait, if they do. -/
theorem Warranted.run {steps : Nat} (h : m.Warranted) (run : m.run steps = some (e, q)) :
    q.Warranted ∧ ∀ k ∈ e.queues, k.Kept := by
  induction steps generalizing m with
  | zero => cases run
  | succ steps ih =>
    rw [Machine.run] at run
    split at run
    · rename_i next
      exact ih (h.step next) run
    · rename_i rest
      cases run
      obtain ⟨-, left, rfl⟩ := rest_cases rest
      exact ⟨h.left left, h.queues⟩

end Machine

/-! ### Hosts -/

namespace Engine

/-- An engine as its host leaves it, after any number of operations with it. -/
inductive Hosted : Engine → Prop
  | new {e : Engine} (queues : e.queues = []) : Hosted e
  | start {e e' : Engine} (h : Hosted e) {steps : Nat} {script : Script} {vars : Vars}
    {own : Bool} {id : Nat}
    (done : e.start? steps script vars own = some (id, e')) : Hosted e'
  | execute {e e' : Engine} (h : Hosted e) {steps : Nat} {script : Script} {vars : Vars}
    {result : RunResult}
    (done : e.execute? steps script vars = some (result, e')) : Hosted e'
  | tick {e e' : Engine} (h : Hosted e) {steps : Nat} {delta : Float}
    (done : e.tick? steps delta = some e') : Hosted e'
  | dispatch {e e' : Engine} (h : Hosted e) {steps : Nat} {event : Event} {result : Except Failure Event}
    (done : e.dispatch? steps event = some (result, e')) : Hosted e'
  | stopAll {e : Engine} (h : Hosted e) : Hosted e.stopAll
  /-- Anything that does not touch the queues. -/
  | other {e e' : Engine} (h : Hosted e) (queues : e'.queues = e.queues) : Hosted e'

variable {e e' : Engine} {steps : Nat} {q q' : Queue} (h : ∀ k ∈ e.queues, k.Kept)
include h

theorem warranted_begins (script : Script) (vars : Vars) (delayable own : Bool) : Machine.Warranted
    ⟨(e.newQueue script vars delayable own).2, (e.newQueue script vars delayable own).1, []⟩ :=
  ⟨Queue.warranted_of_open rfl, List.forall_mem_nil _, h⟩

theorem kept_execute? {script : Script} {vars : Vars} {result : RunResult}
    (done : e.execute? steps script vars = some (result, e')) : ∀ k ∈ e'.queues, k.Kept := by
  obtain ⟨⟨e₁, q⟩, run, done⟩ := Option.bind_eq_some_iff.mp done
  cases done
  exact ((warranted_begins h script vars false false).run run).2

theorem kept_start? {script : Script} {vars : Vars} {own : Bool} {id : Nat}
    (done : e.start? steps script vars own = some (id, e')) : ∀ k ∈ e'.queues, k.Kept := by
  obtain ⟨⟨q, e₂⟩, started, eq⟩ := Option.map_eq_some_iff.mp done
  obtain ⟨⟨e₁, q⟩, run, kept⟩ := Option.bind_eq_some_iff.mp started
  obtain ⟨new, others⟩ := (warranted_begins h script vars true own).run run
  cases kept
  cases eq
  unfold keep
  split
  · rename_i active
    obtain ⟨-, intact⟩ := Bool.and_eq_true_iff.mp active
    exact List.forall_mem_append.mpr
      ⟨others, List.forall_mem_singleton.mpr ⟨Option.isNone_iff_eq_none.mp intact, new⟩⟩
  · exact others

theorem kept_tickQueue? {delta : Float} (waits : q.Warranted)
    (done : e.tickQueue? steps delta q = some (e', q')) : q'.Warranted ∧ ∀ k ∈ e'.queues, k.Kept := by
  have runs : ∀ wait, e.runQueue? steps { q with wait := wait } = some (e', q') →
      q'.Warranted ∧ ∀ k ∈ e'.queues, k.Kept := fun wait run =>
    Machine.Warranted.run ⟨waits, List.forall_mem_nil _, h⟩ run
  unfold tickQueue? at done
  split at done
  · cases done
    exact ⟨waits, h⟩
  · split at done
    · dsimp only at done
      split at done
      · cases done
        exact ⟨waits, h⟩
      · exact runs 0 done
    · exact runs q.wait done

theorem kept_tickQueues? {delta : Float} {queues : List Queue} {left : Except Failure (List Queue)}
    (waits : ∀ k ∈ queues, k.Kept) (done : e.tickQueues? steps delta queues = some (e', left)) :
    (∀ k ∈ e'.queues, k.Kept) ∧ ∀ kept, left = .ok kept → ∀ k ∈ kept, k.Kept := by
  induction queues generalizing e left with
  | nil =>
    cases done
    exact ⟨h, fun _ eq => by cases eq; exact List.forall_mem_nil _⟩
  | cons q queues ih =>
    obtain ⟨first, waits⟩ := List.forall_mem_cons.mp waits
    obtain ⟨⟨e₁, q'⟩, ticked, done⟩ := Option.bind_eq_some_iff.mp done
    obtain ⟨first, others⟩ := kept_tickQueue? h first.warranted ticked
    dsimp only at done
    split at done
    · cases done
      exact ⟨others, fun _ eq => nomatch eq⟩
    · rename_i intact
      obtain ⟨⟨e₂, left'⟩, rest, done⟩ := Option.bind_eq_some_iff.mp done
      cases done
      obtain ⟨others, last⟩ := ih others waits rest
      refine ⟨others, fun kept eq => ?_⟩
      cases left' with
      | error _ => cases eq
      | ok left' =>
        cases eq
        split
        · exact List.forall_mem_cons.mpr ⟨⟨intact, first⟩, last _ rfl⟩
        · exact last _ rfl

theorem kept_dispatchFrom? {event : Event} {done : List String} {rounds : Nat}
    {result : Except Failure Event}
    (dispatched : e.dispatchFrom? steps event done rounds = some (result, e')) :
    ∀ k ∈ e'.queues, k.Kept := by
  induction rounds generalizing e event done with
  | zero => cases dispatched
  | succ rounds ih =>
    unfold dispatchFrom? at dispatched
    split at dispatched
    · cases dispatched
      exact h
    · rename_i handler _
      obtain ⟨⟨result₁, e₁⟩, ran, dispatched⟩ := Option.bind_eq_some_iff.mp dispatched
      have left := kept_execute? h ran
      dsimp only at dispatched
      split at dispatched
      · cases dispatched
        exact left
      · obtain ⟨outbox, -, posted⟩ := posted_applyDeterminations event result₁.determinations e₁
        generalize applied : (applyDeterminations event result₁.determinations).run e₁ = p at dispatched
        rw [EngineM.on, StateT.run, applied] at posted
        obtain ⟨_ | _, e₂⟩ := p
        · cases posted
          cases dispatched
          exact left
        · cases posted
          exact ih (e := { e₁ with outbox := outbox }) left dispatched

omit h in
/-- However a host goes on with an engine, its queues are not given up and have reason to wait for
    others. -/
theorem Hosted.kept (hosted : e.Hosted) : ∀ q ∈ e.queues, q.Kept := by
  induction hosted with
  | new queues => simp [queues]
  | start _ done ih => exact kept_start? ih done
  | execute _ done ih => exact kept_execute? ih done
  | tick _ done ih =>
    obtain ⟨⟨e₁, left⟩, ticked, done⟩ := Option.bind_eq_some_iff.mp done
    obtain ⟨others, last⟩ := kept_tickQueues? (List.forall_mem_nil _) ih ticked
    cases left with
    | ok left =>
      cases done
      exact List.forall_mem_append.mpr ⟨last left rfl, others⟩
    | error _ =>
      cases done
      exact others
  | dispatch _ done ih => exact kept_dispatchFrom? ih done
  | stopAll => exact List.forall_mem_nil _
  | other _ queues ih =>
    rw [queues]
    exact ih

end Engine

end CommandScript
