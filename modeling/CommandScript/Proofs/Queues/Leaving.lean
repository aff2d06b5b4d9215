import Mathlib.Logic.Basic
import CommandScript.Proofs.Queues.Operations

/-! How a queue is left. It has ended, and keeps what its outermost frame had at that moment; or it can wait, and has
    something to wait for. -/

namespace CommandScript

namespace Machine

variable {m m' n : Machine} {q : Queue} {f : Frame}

/-- A host sets a queue to work: a script begins, or an active queue goes on in the middle of a tick. -/
inductive Begins : Machine → Prop
  | script {e : Engine} (operated : e.Operated fun _ _ => True) {script : Script}
    (source : script.FromSource) (vars : Vars)
    (delayable own : Bool) :
    Begins ⟨(e.newQueue script vars delayable own).2, (e.newQueue script vars delayable own).1, []⟩
  | queue {e e' : Engine} (operated : e.Operated fun _ _ => True) {before after left : List Queue} {q q' : Queue}
    (queues : e.queues = before ++ q :: after) {steps : Nat} {delta : Float}
    (ticked : Engine.tickQueues? steps delta { e with queues := [] } before = some (e', .ok left))
    (wakes : q.wakes? delta = some q') : Begins ⟨e', q', []⟩

/-- The machines that come up. -/
inductive AtWork : Machine → Prop
  | begins {m : Machine} (begins : m.Begins) : AtWork m
  | step {m m' : Machine} (h : AtWork m) (next : m.step = .next m') : AtWork m'

theorem Begins.orderly (h : m.Begins) : ∃ others, m.Orderly False others ∧ m.running.running = true ∧
    m.running.frames ≠ [] := by
  cases h with
  | script operated source vars delayable own =>
    exact ⟨[], operated.orderly.weaken.begins source vars delayable own, rfl, List.cons_ne_nil _ _⟩
  | @queue e e' operated before after left q q' queues _ _ ticked wakes =>
    have taken : Engine.Orderly False (before ++ (q :: after)) { e with queues := [] } :=
      operated.orderly.weaken.relist (by simp [queues])
    obtain ⟨-, settled, -⟩ := taken.tickQueues? False.elim ticked
    obtain ⟨orderly, -⟩ := settled left rfl
    have first : (left ++ q :: after).Perm (q :: (left ++ after)) := List.perm_middle
    obtain ⟨orderly, -, running, frames, -⟩ := (orderly.perm first).wakes wakes
    exact ⟨_, orderly, running, frames⟩

theorem AtWork.orderly (h : m.AtWork) : ∃ others, m.Orderly False others := by
  induction h with
  | begins begins =>
    obtain ⟨others, orderly, -⟩ := begins.orderly
    exact ⟨others, orderly⟩
  | step _ next ih =>
    obtain ⟨others, orderly⟩ := ih
    exact ⟨others, orderly.step False.elim next⟩

/-! ### How a queue ends -/

/-- With the step from `n` to `m` the stack of the queue at work is empty. Its result is what the outermost frame `f`
    had then. -/
structure Empties (f : Frame) (n m : Machine) : Prop where
  next : n.step = .next m
  same : m.running.id = n.running.id
  before : n.running.frames ≠ []
  after : m.running.frames = []
  outermost : n.outermost? = some f
  determinations : m.running.result.determinations = f.determinations
  bindings : m.running.result.bindings = f.bindings

/-- With the step from `n` to `m` the queue at work is given up, and the one that has started it ends by that, with what
    its outermost frame `f` has. -/
structure Abandons (f : Frame) (n m : Machine) : Prop where
  givesUp : n.GivesUp m
  caller : ∃ c, n.callers = c :: m.callers ∧ m.running.id = c.queue.id ∧ c.queue.frames.getLast? = some f
  ended : m.running.running = false
  determinations : m.running.result.determinations = f.determinations
  bindings : m.running.result.bindings = f.bindings

theorem GivesUp.abandons (h : m.GivesUp m') (some : ∀ c ∈ m.callers, c.queue.frames ≠ [])
    (after : m'.running.frames = []) : ∃ f, Abandons f m m' := by
  have givesUp := h
  obtain ⟨failure, c, callers, -, hc, rfl⟩ := h
  have frames : c.queue.frames ≠ [] := some c (by rw [hc]; exact List.mem_cons_self)
  have last := List.getLast?_eq_some_getLast frames
  rcases handle_cases ⟨m.engine, c.queue, callers⟩ failure.toScriptError with
    ⟨_, _, _, _, -, -, handled⟩ | ⟨e, -, handled⟩ | ⟨e, -, -, handled⟩
  · rw [handled] at after
    cases after
  · rw [stopWithError, stop_eq (f := c.queue.frames.getLast frames) last] at handled
    refine ⟨_, givesUp, ⟨c, ?_, ?_, last⟩, ?_, ?_, ?_⟩ <;> rw [handled]
    exact hc
  · rw [handled] at after
    exact absurd after frames

/-- A step to a queue without frames empties its stack, or ends a queue that had none, or ends the queue that has
    started one that is given up. -/
theorem AtWork.empties (h : m.AtWork) (next : m.step = .next m') (after : m'.running.frames = []) :
    (∃ f, Empties f m m') ∨ (m.running.running = true ∧ m'.running.running = false ∧ m.running.frames = [] ∧
      m'.running.result = m.running.result) ∨ ∃ f, Abandons f m m' := by
  obtain ⟨others, orderly⟩ := h.orderly
  cases orderly.sound.next Script.closed_fromSource Script.FromSource.ordered next with
  | leaves leaves =>
    obtain ⟨c, waitingOn, callers, hrunning⟩ := leaves.callers
    rw [hrunning] at after
    exact absurd after (orderly.caller callers).1
  | givesUp givesUp =>
    exact Or.inr (Or.inr (givesUp.abandons (fun c hc => (orderly.calling c hc).1) after))
  | goes _ _ free fate =>
    cases fate with
    | onward _ frames _ eq =>
      rw [eq] at after
      exact absurd after frames
    | @completes f last outermost eq =>
      refine Or.inl ⟨f, next, ?_, by simp [last], after, outermost, ?_, ?_⟩ <;> rw [eq]
      rfl
    | ends frames eq =>
      refine Or.inr (Or.inl ⟨(left?_eq_none.mp free).1, by rw [eq]; rfl, frames, ?_⟩)
      simp [eq, stop, Queue.stop, awake, frames]
    | @stops _ f _ _ frames outermost eq =>
      refine Or.inl ⟨f, next, ?_, frames, after, outermost, ?_, ?_⟩ <;> rw [eq]
      rfl
    | breaks _ frames _ eq =>
      rw [eq] at after
      exact absurd after frames
  | launches _ _ _ _ _ _ _ eq =>
    rw [eq] at after
    cases after

/-- The queue at work has ended, and its result is what its outermost frame `f` had: when it was stopped in the middle,
    be it for a queue it had started, or when the frame completed, just before the last step. -/
inductive EndedWith (f : Frame) (m : Machine) : Prop
  | stopped {n : Machine} (before : n.AtWork) (empties : Empties f n m)
  | completed {n k : Machine} (before : n.AtWork) (empties : Empties f n k) (running : k.running.running = true)
    (next : k.step = .next m) (same : m.running.result = k.running.result)
  | abandoned {n : Machine} (before : n.AtWork) (abandons : Abandons f n m)

theorem EndedWith.result (h : EndedWith f m) :
    m.running.result.determinations = f.determinations ∧ m.running.result.bindings = f.bindings := by
  cases h with
  | stopped _ ends | abandoned _ ends => exact ⟨ends.determinations, ends.bindings⟩
  | completed _ empties _ _ same =>
    rw [same]
    exact ⟨empties.determinations, empties.bindings⟩

theorem AtWork.endedWith (h : m.AtWork) (ended : m.running.running = false) (frames : m.running.frames = []) :
    ∃ f, EndedWith f m := by
  cases h with
  | begins begins =>
    obtain ⟨_, -, running, -⟩ := begins.orderly
    cases running.symm.trans ended
  | @step k _ before next =>
    rcases before.empties next frames with ⟨f, empties⟩ | ⟨running, -, frames, same⟩ | ⟨f, abandons⟩
    · exact ⟨f, .stopped before empties⟩
    · -- The queue had no frames when the last step was made, so the step before has completed the last of them.
      cases before with
      | begins begins =>
        obtain ⟨_, -, -, some⟩ := begins.orderly
        exact absurd frames some
      | @step n _ first next' =>
        rcases first.empties next' frames with ⟨f, empties⟩ | ⟨-, ended', -⟩ | ⟨f, abandons⟩
        · exact ⟨f, .completed first empties running next same⟩
        · cases running.symm.trans ended'
        · cases running.symm.trans abandons.ended
    · exact ⟨f, .abandoned before abandons⟩

/-! ### What is left -/

/-- A queue that has ended, with the result of its outermost frame. -/
structure LeavesEnded (m : Machine) (q : Queue) : Prop where
  ended : q.running = false
  frames : q.frames = []
  released : m.engine.isReleased (.queue q.id) = true
  result : ∃ f, EndedWith f m ∧ q.result.determinations = f.determinations ∧ q.result.bindings = f.bindings

/-- A queue that can wait, and has something to wait for. -/
structure LeavesWaiting (m : Machine) (q : Queue) : Prop where
  delayable : q.delayable = true
  running : q.running = true
  frames : q.frames ≠ []
  closed : m.engine.isReleased (.queue q.id) = false
  waits : 0 < q.wait ∨ ∃ g, q.waitingOn = some g ∧ m.engine.isReleased g = false

/-- A run comes to rest where the queue that began it is left. -/
theorem AtWork.left_of_run {steps : Nat} {e : Engine} (h : m.AtWork) (run : m.run steps = some (e, q)) :
    ∃ n : Machine, n.AtWork ∧ n.engine = e ∧ n.left? = some q := by
  induction steps generalizing m with
  | zero => cases run
  | succ steps ih =>
    rw [Machine.run] at run
    split at run
    · rename_i next
      exact ih (h.step next) run
    · rename_i rest
      cases run
      obtain ⟨-, left, engine⟩ := rest_cases rest
      exact ⟨m, h, engine, left⟩

/-- Whenever a queue is left that is not given up, it has ended with the result of its outermost frame, or it can wait
    and has something to wait for, and not both. One that cannot wait has ended, and one that has ended never changes
    again. -/
theorem AtWork.endsOrWaits (h : m.AtWork) :
    (∀ steps e q, m.run steps = some (e, q) → ∃ n : Machine, n.AtWork ∧ n.engine = e ∧ n.left? = some q) ∧
    ∀ q, m.left? = some q → q.result.brokeOff = none →
      m.step = ({ m with running := q } : Machine).yield ∧ Xor (m.LeavesEnded q) (m.LeavesWaiting q) ∧
        (q.delayable = false → m.LeavesEnded q) ∧
          (q.running = false → q.stop = q ∧ ∀ steps delta e, Engine.tickQueue? steps delta e q = some (e, q) ∧
            Engine.runQueue? (steps + 1) e q = some (e, q)) := by
  refine ⟨fun _ _ _ => h.left_of_run, fun q left kept => ?_⟩
  obtain ⟨others, orderly⟩ := h.orderly
  have apart : ¬(m.LeavesEnded q ∧ m.LeavesWaiting q) := fun ⟨ended, waiting⟩ => by
    cases ended.ended.symm.trans waiting.running
  have settled : m.LeavesEnded q ∨ m.LeavesWaiting q := by
    rcases orderly.left left kept with ⟨ended, rfl⟩ | ⟨-, suspends⟩
    · obtain ⟨frames, released⟩ := orderly.ended ended
      obtain ⟨f, endedWith⟩ := h.endedWith ended frames
      exact Or.inl ⟨ended, frames, Engine.isReleased_iff.mpr released, f, endedWith, endedWith.result⟩
    · obtain ⟨-, -, parked, waits, accounts⟩ := suspends
      refine Or.inr ⟨parked.delayable, accounts.running q (by simp), parked.frames,
        Engine.isReleased_eq_false.mpr (accounts.closed q (by simp)), ?_⟩
      rcases waits with wait | ⟨g, hg, closed⟩
      · exact Or.inl wait
      · exact Or.inr ⟨g, hg, Engine.isReleased_eq_false.mpr closed⟩
  refine ⟨step_of_left left, ?_, fun delayable => ?_, fun ended => ?_⟩
  · rcases settled with ended | waiting
    · exact Or.inl ⟨ended, fun waiting => apart ⟨ended, waiting⟩⟩
    · exact Or.inr ⟨waiting, fun ended => apart ⟨ended, waiting⟩⟩
  · rcases settled with ended | waiting
    · exact ended
    · cases waiting.delayable.symm.trans delayable
  · have frames : q.frames = [] := by
      rcases settled with ended | waiting
      · exact ended.frames
      · cases waiting.running.symm.trans ended
    refine ⟨?_, fun steps delta e => ⟨by simp [Engine.tickQueue?, ended], ?_⟩⟩
    · obtain ⟨_, _, _, _, _, _, _, _⟩ := q
      cases frames
      cases ended
      rfl
    · simp [Engine.runQueue?, Machine.run, Machine.step, ended, yield]

theorem AtWork.of_after? {steps : Nat} (h : m.AtWork) (ha : m.after? steps = some m') : m'.AtWork := by
  induction steps generalizing m with
  | zero =>
    cases ha
    exact h
  | succ steps ih =>
    rw [after?] at ha
    split at ha
    · rename_i next
      exact ih (h.step next) ha
    · cases ha

/-- An error in a function that is called ends the queue. It keeps what its script had determined. -/
theorem AtWork.endsOrWaits_erred : ∃ (m : Machine) (q : Queue), m.AtWork ∧ m.left? = some q ∧ m.LeavesEnded q ∧
    ¬m.LeavesWaiting q ∧ q.result.errored = true ∧ q.result.determinations.map Value.toText = ["5"] ∧ q.stop = q := by
  have found : ((Script.ofSource .builtin "main" "function f { error boom }; determine 5; call f" []).toOption).any
      (fun s => (after? ⟨(Engine.newQueue { registries := .builtin } s [] true false).2,
        (Engine.newQueue { registries := .builtin } s [] true false).1, []⟩ 4).any fun m =>
          m.left?.any fun q => !q.running && q.result.errored && q.result.brokeOff.isNone &&
            decide (q.result.determinations.map Value.toText = ["5"])) = true := by
    decide +kernel
  obtain ⟨s, hs, found⟩ := (Option.any_eq_true _ _).mp found
  obtain ⟨m, hm, found⟩ := (Option.any_eq_true _ _).mp found
  obtain ⟨q, left, found⟩ := (Option.any_eq_true _ _).mp found
  simp only [Bool.and_eq_true, Bool.not_eq_true', decide_eq_true_eq, Option.isNone_iff_eq_none] at found
  obtain ⟨⟨⟨ended, errored⟩, kept⟩, determined⟩ := found
  have begins : Begins _ := .script Engine.operated_new (.source rfl (toOption_eq_some.mp hs)) [] true false
  have atWork := (AtWork.begins begins).of_after? hm
  obtain ⟨-, settled, -, still⟩ := atWork.endsOrWaits.2 q left kept
  rcases settled with ⟨leaves, other⟩ | ⟨waiting, -⟩
  · exact ⟨m, q, atWork, left, leaves, other, errored, determined, (still ended).1⟩
  · cases ended.symm.trans waiting.running

end Machine

end CommandScript
