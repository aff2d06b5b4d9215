import Mathlib.Data.List.Nodup
import Mathlib.Logic.Relation
import CommandScript.Proofs.Queues.Accounts

/-! What a host does with an engine, one thing after another, and the account of queues in between. -/

namespace CommandScript

/-- A queue as the list of itself, if it has neither ended nor been given up. -/
def Queue.ifActive (q : Queue) : List Queue :=
  if q.running && q.result.brokeOff.isNone then [q] else []

/-! ### Runs -/

/-- What an engine has sent, numbered and released stays so. -/
structure Engine.Later (e e' : Engine) : Prop where
  outbox : e.outbox.Leads e'.outbox
  nextId : e.nextId ≤ e'.nextId
  released : ∀ id, Gate.queue id ∈ e.released → Gate.queue id ∈ e'.released

namespace Engine.Later

variable {e e' e'' : Engine}

theorem refl (e : Engine) : e.Later e :=
  ⟨.refl _, Nat.le_refl _, fun _ h => h⟩

theorem trans (h : e.Later e') (h' : e'.Later e'') : e.Later e'' :=
  ⟨h.outbox.trans h'.outbox, Nat.le_trans h.nextId h'.nextId,
    fun id hid => h'.released id (h.released id hid)⟩

theorem aside {P : Script → Prop} (h : e.Aside P e') : e.Later e' :=
  ⟨h.outbox, Nat.le_of_eq h.nextId.symm, fun _ hid => by rwa [h.released]⟩

theorem release (e : Engine) (g : Gate) : e.Later (e.release g) :=
  ⟨.refl _, Nat.le_refl _, fun _ hid => List.mem_cons_of_mem _ hid⟩

end Engine.Later

/-- Between two states of an engine, its output does not break off on the trace of an error and
    again on what is said of that. -/
def Engine.Calm (e e' : Engine) : Prop :=
  ¬e.outbox.BreaksAgain e'.outbox

theorem Engine.calm_of_whole {e : Engine} (whole : e.outbox.Whole) (e' : Engine) : e.Calm e' := by
  rintro ⟨n, _, lt, -, -, -, broke, -⟩
  exact Nat.lt_irrefl n (Nat.lt_of_le_of_lt (whole n broke) lt)

theorem Engine.Calm.first {e e' e'' : Engine} (calm : e.Calm e'') (later : e'.Later e'') : e.Calm e' :=
  fun again => calm (again.leads later.outbox)

theorem Engine.Calm.second {e e' e'' : Engine} (calm : e.Calm e'') (later : e.Later e') : e'.Calm e'' :=
  fun again => calm (later.outbox.breaksAgain again)

/-- An engine whose queues are accounted for, where `others` are those that are not in its list. -/
structure Engine.Orderly (intact : Prop) (others : List Queue) (e : Engine) : Prop where
  gives : e.Gives Script.FromSource
  handles : e.Handles Script.FromSource
  accounts : e.Accounts intact (e.queues ++ others)
  parked : ∀ q ∈ e.queues ++ others, q.Parked

namespace Machine

variable {intact : Prop} {m m' : Machine} {others : List Queue} {e : Engine} {q : Queue}

/-- The queue that was first at work. -/
def base (m : Machine) : Queue :=
  (m.callers.getLast?.map (·.queue)).getD m.running

theorem base_of_callers {c : Caller} {rest : List Caller} (h : m.callers = c :: rest) :
    m.base = ((rest.getLast?.map (·.queue)).getD c.queue) := by
  rw [base, h, List.getLast?_cons]
  cases rest.getLast? <;> rfl

theorem Orderly.follows (h : m.Orderly intact others) (next : m.step = .next m') :
    m.engine.Later m'.engine ∧ m'.base.id = m.base.id ∧ m'.base.delayable = m.base.delayable := by
  have same : ∀ {n : Machine}, n.callers = m.callers → n.running.id = m.running.id →
      n.running.delayable = m.running.delayable →
        n.base.id = m.base.id ∧ n.base.delayable = m.base.delayable :=
    fun {n} callers id delayable => by
      rw [base, base, callers]
      cases m.callers.getLast? with
      | none => exact ⟨id, delayable⟩
      | some _ => exact ⟨rfl, rfl⟩
  cases h.sound.next Script.closed_fromSource Script.FromSource.ordered next with
  | leaves leaves =>
    obtain ⟨queues, hengine⟩ := leaves.engine
    obtain ⟨c, waitingOn, callers, running⟩ := leaves.callers
    rw [base_of_callers callers, base, running, hengine]
    refine ⟨⟨.refl _, Nat.le_refl _, fun _ h => h⟩, ?_⟩
    cases m'.callers.getLast? <;> exact ⟨rfl, rfl⟩
  | givesUp givesUp =>
    obtain ⟨failure, c, callers, -, hc, rfl⟩ := givesUp
    have base : ∀ n : Machine, n.callers = callers → n.running.id = c.queue.id →
        n.running.delayable = c.queue.delayable →
          n.base.id = m.base.id ∧ n.base.delayable = m.base.delayable :=
      fun n hn id delayable => by
        rw [base_of_callers hc, Machine.base, hn]
        cases callers.getLast? with
        | none => exact ⟨id, delayable⟩
        | some _ => exact ⟨rfl, rfl⟩
    rcases handle_cases ⟨m.engine, c.queue, callers⟩ failure.toScriptError with
      ⟨_, _, _, _, -, -, handled⟩ | ⟨e, posted, handled⟩ | ⟨e, posted, -, handled⟩
    · rw [handled]
      exact ⟨.refl _, base _ rfl rfl rfl⟩
    · rw [handled]
      exact ⟨(Engine.Later.aside (.posted (P := Script.FromSource) posted)).trans (.release _ _),
        base _ rfl rfl rfl⟩
    · rw [handled]
      exact ⟨.aside (.posted (P := Script.FromSource) posted), base _ rfl rfl rfl⟩
  | goes _ _ _ fate =>
    cases fate with
    | onward aside _ _ eq | breaks aside _ _ eq =>
      rw [eq]
      exact ⟨.aside aside, same rfl rfl rfl⟩
    | completes _ _ eq =>
      rw [eq]
      exact ⟨.refl _, same rfl rfl rfl⟩
    | ends _ eq =>
      rw [eq]
      exact ⟨.release _ _, same rfl rfl rfl⟩
    | stops aside _ _ eq =>
      rw [eq]
      exact ⟨(Engine.Later.aside aside).trans (.release _ _), same rfl rfl rfl⟩
  | @launches _ _ _ _ _ _ e _ at_ _ _ _ _ _ aside eq =>
    have later : e.Later { e with nextId := e.nextId + 1 } := ⟨.refl _, Nat.le_succ _, fun _ h => h⟩
    rw [eq, base_of_callers rfl]
    refine ⟨(Engine.Later.aside aside).trans later, ?_⟩
    rw [base]
    cases m.callers.getLast? <;> exact ⟨rfl, rfl⟩

/-- When a machine comes to rest, its queue has ended or is active, if it is not given up. -/
theorem Orderly.rest (h : m.Orderly intact others) (kept : intact → m.running.result.brokeOff = none)
    (rest : m.step = .rest e q) : e.Orderly intact (q.ifActive ++ others) ∧ q.id = m.base.id ∧
      q.delayable = m.base.delayable ∧ (q.running = false → Gate.queue q.id ∈ e.released) ∧
        (q.ifActive = [q] → q.delayable = true) := by
  obtain ⟨callers, left, rfl⟩ := rest_cases rest
  have base : m.base = m.running := by rw [Machine.base, callers]; rfl
  have result := congrArg RunResult.brokeOff (result_of_left? left)
  by_cases broke : q.result.brokeOff = none
  · rcases h.left left broke with ⟨ended, rfl⟩ | ⟨-, suspends⟩
    · have none : m.running.ifActive = [] := by simp [Queue.ifActive, ended]
      have accounts := h.accounts
      rw [alive_of_ended ended, callers] at accounts
      rw [none]
      exact ⟨⟨h.sound.gives, h.handles, accounts, h.parked⟩, by rw [base], by rw [base],
        fun _ => (h.ended ended).2, fun hnil => by cases hnil⟩
    · have accounts := suspends.accounts
      rw [callers] at accounts
      have running : q.running = true := accounts.running q (by simp)
      have one : q.ifActive = [q] := by simp [Queue.ifActive, running, broke]
      rw [one]
      refine ⟨⟨h.sound.gives, h.handles, ?_, fun k hk => ?_⟩, by rw [suspends.id, base],
        by rw [suspends.delayable, base], fun ended => ?_, fun _ => suspends.parked.delayable⟩
      · refine accounts.perm ?_
        simp only [List.map_nil, List.nil_append, ← List.append_assoc]
        exact (List.perm_append_singleton q m.engine.queues).symm.append_right others
      · simp only [List.mem_append, List.mem_singleton] at hk
        rcases hk with hk | rfl | hk
        · exact h.parked k (List.mem_append_left _ hk)
        · exact suspends.parked
        · exact h.parked k (List.mem_append_right _ hk)
      · cases running.symm.trans ended
  · -- The queue is given up, and leaves the account.
    have givenUp : m.running.result.brokeOff.isSome = true := by
      rw [← result]
      simpa [Option.isSome_iff_ne_none] using broke
    have same : q = m.running := by
      rw [left?, givenUp, Bool.or_true, if_pos rfl] at left
      exact (Option.some.inj left).symm
    have none : q.ifActive = [] := by
      rw [Queue.ifActive, same, if_neg]
      simpa [Option.isSome_iff_ne_none] using fun _ => givenUp
    rw [none]
    refine ⟨⟨h.sound.gives, h.handles, ?_, h.parked⟩, by rw [same, base], by rw [same, base],
      fun ended => ?_, fun hnil => by cases hnil⟩
    · refine h.accounts.sublist ?_ fun whole => broke (result.trans (kept whole))
      rw [alive, callers]
      exact (List.sublist_append_right _ _).append_right _
    · rw [same] at ended ⊢
      exact (h.ended ended).2

/-- A run of steps keeps the account. It stays intact unless the output breaks off again. -/
theorem Orderly.run {steps : Nat} (h : m.Orderly intact others)
    (kept : intact → m.running.result.brokeOff = none)
    (calm : intact → m.engine.Calm e) (run : m.run steps = some (e, q)) :
    e.Orderly intact (q.ifActive ++ others) ∧ m.engine.Later e ∧ q.id = m.base.id ∧
    q.delayable = m.base.delayable ∧
      (q.running = false → Gate.queue q.id ∈ e.released) ∧ (q.ifActive = [q] → q.delayable = true) ∧
        (intact → q.result.brokeOff = none) := by
  induction steps generalizing m with
  | zero => cases run
  | succ steps ih =>
    have whole := run
    rw [Machine.run] at run
    split at run
    · rename_i m' next
      have sound := h.sound.step Script.closed_fromSource Script.FromSource.ordered next
      obtain ⟨more, -⟩ := sound.run Script.closed_fromSource Script.FromSource.ordered run
      obtain ⟨later, id, delayable⟩ := h.follows next
      obtain ⟨orderly, later', id', delayable', ended⟩ := ih (h.step kept next)
        (fun i => (h.sound.kept Script.closed_fromSource Script.FromSource.ordered
          ⟨kept i, fun c hc => (h.calling c hc).2.2⟩ next fun again => calm i (again.leads more)).running)
        (fun i again => calm i (later.outbox.breaksAgain again)) run
      exact ⟨orderly, later.trans later', id'.trans id, delayable'.trans delayable, ended⟩
    · rename_i rest
      cases run
      obtain ⟨orderly, id, delayable, ended, waits⟩ := h.rest kept rest
      obtain ⟨-, left, rfl⟩ := rest_cases rest
      exact ⟨orderly, .refl _, id, delayable, ended, waits, fun i =>
        (congrArg RunResult.brokeOff (result_of_left? left)).trans (kept i)⟩

end Machine

/-! ### What a host does -/

/-- The queue as it goes on after some seconds, unless it has to wait longer. -/
def Queue.wakes? (delta : Float) (q : Queue) : Option Queue :=
  if 0 < q.wait then if 0 < q.wait - delta then none else some { q with wait := 0 } else some q

namespace Engine

variable {intact : Prop} {e e' : Engine} {others : List Queue} {q q' : Queue} {steps : Nat}

theorem Orderly.relist {queues others' : List Queue} (h : e.Orderly intact others)
    (same : (e.queues ++ others).Perm (queues ++ others')) :
    Orderly intact others' { e with queues := queues } where
  gives := h.gives.of_same rfl rfl rfl rfl rfl
  handles := h.handles
  accounts := (h.accounts.perm same).of_same rfl fun _ => Iff.rfl
  parked q hq := h.parked q (same.mem_iff.mpr hq)

theorem Orderly.perm {others' : List Queue} (h : e.Orderly intact others) (same : others.Perm others') :
    e.Orderly intact others' :=
  h.relist (same.append_left _)

/-- Some queues are given up. -/
theorem Orderly.sublist {others' : List Queue} (h : e.Orderly intact others)
    (sub : others'.Sublist others) (broken : ¬intact) : e.Orderly intact others' where
  gives := h.gives
  handles := h.handles
  accounts := h.accounts.sublist (sub.append_left _) broken
  parked q hq := h.parked q ((sub.append_left _).subset hq)

theorem Orderly.weaken (h : e.Orderly intact others) : e.Orderly False others where
  gives := h.gives
  handles := h.handles
  accounts := { h.accounts with kept := False.elim }
  parked := h.parked

theorem Orderly.aside (h : e.Orderly intact others) (aside : e.Aside Script.FromSource e')
    (gives : e'.Gives Script.FromSource) : e'.Orderly intact others where
  gives := gives
  handles := aside.handles h.handles
  accounts := by rw [aside.queues]; exact h.accounts.aside aside
  parked := by rw [aside.queues]; exact h.parked

theorem Orderly.begins (h : e.Orderly intact others) {script : Script} (source : script.FromSource)
    (vars : Vars) (delayable ownOutput : Bool) : Machine.Orderly intact others
      ⟨(e.newQueue script vars delayable ownOutput).2,
        (e.newQueue script vars delayable ownOutput).1, []⟩ where
  sound := Machine.sound_start h.gives source vars delayable ownOutput
  handles := h.handles
  accounts := h.accounts.make rfl rfl rfl
  parked := h.parked
  calling _ hc := absurd hc List.not_mem_nil
  later := List.pairwise_singleton _ _
  emptied hnil := absurd hnil (List.cons_ne_nil _ _)
  prompt _ := ⟨rfl, show ¬(0 : Float) < 0 by decide⟩
  ended hr := by cases hr

theorem tickQueue?_eq {q : Queue} (running : q.running = true) (steps : Nat) (delta : Float)
    (e : Engine) :
    tickQueue? steps delta e q =
      match q.wakes? delta with
      | none => some (e, { q with wait := q.wait - delta })
      | some q => runQueue? steps e q := by
  rw [tickQueue?, if_neg (by simp [running]), Queue.wakes?]
  by_cases wait : 0 < q.wait
  · by_cases left : 0 < q.wait - delta <;> simp [wait, left]
  · simp [wait]

section
variable (h : e.Orderly intact (q :: others))
include h

theorem Orderly.waiting (wait : Float) : q.running = true ∧ q.Parked ∧
    e.Accounts intact ({ q with wait := wait } :: (e.queues ++ others)) ∧
      ∀ k ∈ e.queues ++ others, k.Parked := by
  have first : (e.queues ++ q :: others).Perm (q :: (e.queues ++ others)) := List.perm_middle
  have accounts := h.accounts.perm first
  have running := accounts.running q List.mem_cons_self
  refine ⟨running, h.parked q (by simp), accounts.replace rfl running fun g hg => ?_, fun k hk => ?_⟩
  · exact accounts.waits q List.mem_cons_self g hg
  · exact h.parked k (first.mem_iff.mpr (List.mem_cons_of_mem _ hk))

theorem Orderly.wakes {delta : Float} (wakes : q.wakes? delta = some q') :
    Machine.Orderly intact others ⟨e, q', []⟩ ∧ q'.id = q.id ∧ q'.running = true ∧ q'.frames ≠ [] ∧
      q'.result.brokeOff = none := by
  have goes : ∀ wait, Machine.Orderly intact others ⟨e, { q with wait := wait }, []⟩ ∧ q.running = true ∧
      q.frames ≠ [] ∧ q.result.brokeOff = none := fun wait => by
      obtain ⟨running, parked, accounts, rest⟩ := h.waiting wait
      refine ⟨⟨⟨h.gives, parked.stack, fun _ hc => absurd hc List.not_mem_nil⟩, h.handles, ?_, rest,
        fun _ hc => absurd hc List.not_mem_nil, List.pairwise_singleton _ _,
        fun hnil => absurd hnil parked.frames, fun delayable => ?_, fun hr => ?_⟩,
      running, parked.frames, parked.kept⟩
      · rw [Machine.alive_of_running running]
        exact accounts
      · cases parked.delayable.symm.trans delayable
      · cases running.symm.trans hr
  unfold Queue.wakes? at wakes
  split at wakes
  · split at wakes
    · cases wakes
    · cases wakes
      obtain ⟨orderly, running, some⟩ := goes 0
      exact ⟨orderly, rfl, running, some⟩
  · cases wakes
    obtain ⟨orderly, running, some⟩ := goes q.wait
    exact ⟨orderly, rfl, running, some⟩

theorem Orderly.waits (wait : Float) : e.Orderly intact ({ q with wait := wait } :: others) := by
  obtain ⟨-, parked, accounts, rest⟩ := h.waiting wait
  refine ⟨h.gives, h.handles, accounts.perm List.perm_middle.symm, fun k hk => ?_⟩
  rcases List.mem_append.mp hk with hk | hk
  · exact rest k (List.mem_append_left _ hk)
  · rcases List.mem_cons.mp hk with rfl | hk
    · exact ⟨parked.kept, parked.delayable, parked.frames, parked.stack⟩
    · exact rest k (List.mem_append_right _ hk)

theorem Orderly.tickQueue? {delta : Float} (calm : intact → e.Calm e')
    (ticked : Engine.tickQueue? steps delta e q = some (e', q')) :
    e'.Orderly intact (q'.ifActive ++ others) ∧ e.Later e' ∧ q'.id = q.id ∧
      (q'.running = false → Gate.queue q'.id ∈ e'.released) ∧ (intact → q'.result.brokeOff = none) := by
  obtain ⟨running, parked, -⟩ := h.waiting 0
  rw [tickQueue?_eq running] at ticked
  split at ticked
  · cases ticked
    refine ⟨?_, .refl e, rfl, fun hr => ?_, fun _ => parked.kept⟩
    swap
    · cases running.symm.trans hr
    simpa [Queue.ifActive, running, parked.kept] using h.waits (q.wait - delta)
  · rename_i woken wakes
    obtain ⟨begins, id, -, -, kept⟩ := h.wakes wakes
    obtain ⟨orderly, later, same, -, ended, -, settles⟩ := begins.run (fun _ => kept) calm ticked
    exact ⟨orderly, later, same.trans id, ended, settles⟩

end

/-- Active queues go on, one after another, and those that have not ended stay in their order. If
    one is given up, all of them are lost. -/
theorem Orderly.tickQueues? {delta : Float} {queues : List Queue} {left : Except Failure (List Queue)}
    (h : e.Orderly intact (queues ++ others)) (calm : intact → e.Calm e')
    (ticked : Engine.tickQueues? steps delta e queues = some (e', left)) : e.Later e' ∧
      (∀ kept, left = .ok kept → e'.Orderly intact (kept ++ others) ∧
        kept.map (·.id) = (queues.map (·.id)).filter fun id => !e'.isReleased (.queue id)) ∧
      ∀ f, left = .error f → ¬intact ∧ e'.Orderly intact others := by
  induction queues generalizing intact e others left with
  | nil =>
    cases ticked
    exact ⟨.refl _, fun _ eq => (by cases eq; exact ⟨h, rfl⟩), fun _ eq => (by cases eq)⟩
  | cons q queues ih =>
    obtain ⟨⟨e₁, q'⟩, first, ticked⟩ := Option.bind_eq_some_iff.mp ticked
    dsimp only at ticked
    have others_last : (q'.ifActive ++ (queues ++ others)).Perm (queues ++ (q'.ifActive ++ others)) := by
      simpa only [← List.append_assoc] using List.perm_append_comm.append_right others
    obtain ⟨orderly, later, -⟩ := h.weaken.tickQueue? False.elim first
    cases broke : q'.result.brokeOff with
    | some f =>
      rw [broke] at ticked
      cases ticked
      obtain ⟨orderly, later, id, ended, settles⟩ := Orderly.tickQueue? h calm first
      have broken : ¬intact := fun whole => by cases (settles whole).symm.trans broke
      exact ⟨later, fun _ eq => (by cases eq), fun _ _ => ⟨broken, orderly.sublist
        ((List.sublist_append_right _ _).trans (List.sublist_append_right _ _)) broken⟩⟩
    | none =>
      rw [broke] at ticked
      obtain ⟨⟨e₂, left'⟩, rest, ticked⟩ := Option.bind_eq_some_iff.mp ticked
      cases ticked
      obtain ⟨later', -⟩ := ih (orderly.perm others_last) False.elim rest
      obtain ⟨orderly, -, id, ended, -⟩ :=
        Orderly.tickQueue? h (fun whole => (calm whole).first later') first
      obtain ⟨-, settled, lost⟩ :=
        ih (orderly.perm others_last) (fun whole => (calm whole).second later) rest
      refine ⟨later.trans later', fun kept eq => ?_, fun f eq => ?_⟩
      · cases left' with
        | error f => cases eq
        | ok left' =>
          cases eq
          obtain ⟨orderly, ids⟩ := settled left' rfl
          have first_again :
              (left' ++ (q'.ifActive ++ others)).Perm (q'.ifActive ++ left' ++ others) := by
            simpa only [← List.append_assoc] using List.perm_append_comm.append_right others
          have all : (if q'.running then q' :: left' else left') = q'.ifActive ++ left' := by
            rw [Queue.ifActive, broke]
            cases q'.running <;> rfl
          have both := orderly.perm first_again
          rw [← all] at both
          refine ⟨both, ?_⟩
          rw [List.map_cons, List.filter_cons, ← ids, ← id]
          cases running : q'.running with
          | true =>
            have closed : Gate.queue q'.id ∉ e₂.released :=
              orderly.accounts.closed q' (by simp [Queue.ifActive, running, broke])
            simp [isReleased, closed]
          | false =>
            have released := later'.released _ (ended running)
            simp [isReleased, released]
      · cases left' with
        | ok left' => cases eq
        | error f' =>
          obtain ⟨broken, orderly⟩ := lost f' rfl
          exact ⟨broken, orderly.sublist (List.sublist_append_right _ _) broken⟩

/-! ### Operations -/

/-- An engine whose functions, files and handlers come from source texts. -/
def Scripted (e : Engine) : Prop :=
  e.FromSource ∧ e.Handles Script.FromSource

/-- What a host does with an engine. Of the queues that this runs, each is allowed to take the
    engine from one state to another as `allows` says. -/
inductive Operates (allows : Engine → Engine → Prop) : Engine → Engine → Prop
  | start {e e' : Engine} {steps : Nat} {script : Script} (source : script.FromSource)
    {vars : Vars} {own : Bool} {id : Nat} (done : e.start? steps script vars own = some (id, e'))
    (allowed : allows e e') : Operates allows e e'
  | execute {e e' : Engine} {steps : Nat} {script : Script} (source : script.FromSource) {vars : Vars}
    {result : RunResult} (done : e.execute? steps script vars = some (result, e'))
    (allowed : allows e e') : Operates allows e e'
  | tick {e e' : Engine} {steps : Nat} {delta : Float} (done : e.tick? steps delta = some e')
    (allowed : allows e e') : Operates allows e e'
  | dispatch {e e' : Engine} {steps : Nat} {event : Event} {result : Except Failure Event}
    (done : e.dispatch? steps event = some (result, e')) (allowed : allows e e') : Operates allows e e'
  | reload (e : Engine) : Operates allows e e.reload
  | stopAll (e : Engine) : Operates allows e e.stopAll
  /-- Anything that does not touch the queues: functions and handlers, settings, messages and gates
      of the host. -/
  | other {e e' : Engine} (scripted : e'.Scripted) (queues : e'.queues = e.queues)
    (nextId : e'.nextId = e.nextId)
    (released : ∀ id, Gate.queue id ∈ e'.released ↔ Gate.queue id ∈ e.released) : Operates allows e e'

/-- An engine after any number of operations of its host. -/
inductive Operated (allows : Engine → Engine → Prop) : Engine → Prop
  | new {e : Engine} (scripted : e.Scripted) (queues : e.queues = []) (nextId : e.nextId = 1)
    (released : ∀ id, Gate.queue id ∉ e.released) : Operated allows e
  | next {e e' : Engine} (h : Operated allows e) (op : e.Operates allows e') : Operated allows e'

variable {allows : Engine → Engine → Prop}

theorem operated_new : Operated allows { registries := .builtin } :=
  .new ⟨fromSource_new, List.forall_mem_nil _⟩ rfl rfl fun _ => List.not_mem_nil

theorem keep_eq (e : Engine) (q : Queue) : e.keep q = { e with queues := e.queues ++ q.ifActive } := by
  rw [keep, Queue.ifActive]
  split
  · rfl
  · rw [List.append_nil]

theorem Orderly.start? {script : Script} {vars : Vars} {own : Bool} {id : Nat} (h : e.Orderly intact [])
    (source : script.FromSource) (calm : intact → e.Calm e')
    (done : e.start? steps script vars own = some (id, e')) :
    e'.Orderly intact [] ∧ e.Later e' ∧ id = e.nextId ∧ id < e'.nextId := by
  obtain ⟨⟨q, e₂⟩, done, eq⟩ := Option.map_eq_some_iff.mp done
  obtain ⟨⟨e₁, q'⟩, run, done⟩ := Option.bind_eq_some_iff.mp done
  cases done
  cases eq
  rw [keep_eq] at calm ⊢
  have calm : intact → e.Calm e₁ := calm
  obtain ⟨orderly, later, hid, -⟩ := (h.begins source vars true own).run (fun _ => rfl) calm run
  have later : Later { e with nextId := e.nextId + 1 } e₁ := later
  have hid : q.id = e.nextId := hid
  exact ⟨orderly.relist (by simp), ⟨later.outbox, Nat.le_of_succ_le later.nextId, later.released⟩, hid,
    hid ▸ later.nextId⟩

theorem Orderly.execute? {script : Script} {vars : Vars} {result : RunResult} (h : e.Orderly intact [])
    (source : script.FromSource) (calm : intact → e.Calm e')
    (done : e.execute? steps script vars = some (result, e')) :
    e'.Orderly intact [] ∧ e.Later e' := by
  obtain ⟨⟨e₁, q⟩, run, done⟩ := Option.bind_eq_some_iff.mp done
  cases done
  obtain ⟨orderly, later, -, delayable, -, waits, -⟩ :=
    (h.begins source vars false false).run (fun _ => rfl) calm run
  have later : Later { e with nextId := e.nextId + 1 } e' := later
  refine ⟨?_, later.outbox, Nat.le_of_succ_le later.nextId, later.released⟩
  unfold Queue.ifActive at orderly waits
  split at orderly
  · -- A queue that cannot wait is not left before it has ended.
    rename_i active
    rw [if_pos active] at waits
    cases (waits rfl).symm.trans delayable
  · exact orderly

theorem Orderly.tick? {delta : Float} (h : e.Orderly intact []) (calm : intact → e.Calm e')
    (done : e.tick? steps delta = some e') : e'.Orderly intact [] ∧ e.Later e' ∧ (intact →
      ∃ left started, e'.queues = left ++ started ∧
        left.map (·.id) = (e.queues.map (·.id)).filter fun id => !e'.isReleased (.queue id)) := by
  obtain ⟨⟨e₁, left⟩, ticked, done⟩ := Option.bind_eq_some_iff.mp done
  have taken : Orderly intact (e.queues ++ []) { e with queues := [] } := h.relist (.refl _)
  cases left with
  | ok left =>
    cases done
    have calm : intact → e.Calm e₁ := calm
    obtain ⟨later, settled, -⟩ := taken.tickQueues? calm ticked
    obtain ⟨orderly, ids⟩ := settled left rfl
    refine ⟨orderly.relist ?_, ⟨later.outbox, later.nextId, later.released⟩,
      fun _ => ⟨left, e₁.queues, rfl, ids⟩⟩
    simpa using List.perm_append_comm
  | error f =>
    cases done
    obtain ⟨later, -, lost⟩ := taken.tickQueues? calm ticked
    obtain ⟨broken, orderly⟩ := lost f rfl
    exact ⟨orderly, ⟨later.outbox, later.nextId, later.released⟩, fun whole => absurd whole broken⟩

theorem posted_applyDeterminations (event : Event) (values : List Value) (e : Engine) :
    Posted e ((applyDeterminations event values).on e).2 := by
  induction values generalizing event e with
  | nil => exact ⟨e.outbox, .refl _, rfl⟩
  | cons value rest ih =>
    unfold applyDeterminations
    split
    · exact ih _ e
    · rename_i text _
      have first := posted_post ⟨false, .bad, Determination.unknownMessage text⟩ e
      rw [EngineM.on_bind]
      unfold output
      generalize (post ⟨false, .bad, Determination.unknownMessage text⟩).on e = r at first
      obtain ⟨_ | _, e₁⟩ := r
      · exact first
      · exact first.trans (ih event e₁)

theorem Orderly.dispatchFrom? {event : Event} {done : List String} {rounds : Nat}
    {result : Except Failure Event} (h : e.Orderly intact []) (calm : intact → e.Calm e')
    (dispatched : e.dispatchFrom? steps event done rounds = some (result, e')) :
    e'.Orderly intact [] ∧ e.Later e' := by
  induction rounds generalizing intact e event done with
  | zero => cases dispatched
  | succ rounds ih =>
    unfold Engine.dispatchFrom? at dispatched
    split at dispatched
    · cases dispatched
      exact ⟨h, .refl _⟩
    · rename_i k found
      obtain ⟨⟨result₁, e₁⟩, ran, dispatched⟩ := Option.bind_eq_some_iff.mp dispatched
      dsimp only at dispatched
      have source : k.script.FromSource := by
        have hk := List.mem_of_find?_eq_some found
        cases known : e.events.lookup event.name with
        | none => simp [known] at hk
        | some hs =>
          rw [known] at hk
          exact h.handles _ (mem_of_lookup known) k hk
      obtain ⟨-, later⟩ := h.weaken.execute? source False.elim ran
      split at dispatched
      · cases dispatched
        exact h.execute? source calm ran
      · have posted := posted_applyDeterminations event result₁.determinations e₁
        have aside : e₁.Aside Script.FromSource _ := .posted posted
        have follows : ∀ {intact : Prop}, e₁.Orderly intact [] →
            Orderly intact [] ((applyDeterminations event result₁.determinations).on e₁).2 := fun orderly =>
          orderly.aside aside (orderly.gives.posted posted)
        have later := later.trans (.aside aside)
        change (match (applyDeterminations event result₁.determinations).on e₁ with
          | (.ok event, e) => Engine.dispatchFrom? steps e event (k.name :: done) rounds
          | (.error f, e) => some (.error f, e)) = some (result, e') at dispatched
        have first : ∀ {intact : Prop},
            e.Orderly intact [] → (intact → e.Calm e₁) → e₁.Orderly intact [] :=
          fun h calm => (h.execute? source calm ran).1
        have sent : e₁.Later _ := .aside aside
        generalize (applyDeterminations event result₁.determinations).on e₁ = r
          at later follows dispatched sent
        obtain ⟨_ | _, e₂⟩ := r
        · cases dispatched
          exact ⟨follows (first h fun whole => (calm whole).first sent), later⟩
        · obtain ⟨-, later'⟩ := ih (follows (first h.weaken False.elim)) False.elim dispatched
          have begun := first h fun whole => (calm whole).first (sent.trans later')
          obtain ⟨orderly, -⟩ := ih (follows begun) (fun whole => (calm whole).second later) dispatched
          exact ⟨orderly, later.trans later'⟩

theorem Orderly.reload (h : e.Orderly intact []) : e.reload.Orderly intact [] where
  gives := by
    obtain ⟨commands, -, -⟩ := fromSource_iff.mpr h.gives
    exact fromSource_iff.mp ⟨commands, List.forall_mem_nil _, List.forall_mem_nil _⟩
  handles entry hm k hk := by
    obtain ⟨⟨event, hs⟩, hmem, rfl⟩ := List.mem_map.mp (List.mem_filter.mp hm).1
    exact h.handles _ hmem k (List.mem_filter.mp hk).1
  accounts := h.accounts.of_same rfl fun _ => Iff.rfl
  parked := h.parked

theorem releaseAll (queues others : List Queue) (e : Engine) : ∃ released,
    queues.foldl (fun e q => e.release (.queue q.id)) e = { e with released := released } ∧
      (e.Accounts intact (queues ++ others) →
        Accounts intact { e with released := released } others) := by
  induction queues generalizing e with
  | nil => exact ⟨e.released, rfl, id⟩
  | cons q queues ih =>
    obtain ⟨released, eq, accounts⟩ := ih (e.release (.queue q.id))
    exact ⟨released, eq, fun h => accounts h.retire⟩

theorem Orderly.stopAll (h : e.Orderly intact []) :
    e.stopAll.Orderly intact [] ∧ e.stopAll.nextId = e.nextId := by
  obtain ⟨released, eq, accounts⟩ := releaseAll e.queues [] e
  rw [Engine.stopAll, eq]
  refine ⟨⟨h.gives.of_same rfl rfl rfl rfl rfl, h.handles, ?_,
    fun _ hk => absurd hk List.not_mem_nil⟩, rfl⟩
  exact (accounts h.accounts).of_same rfl fun _ => Iff.rfl

theorem Orderly.operates (h : e.Orderly intact []) (calm : intact → ∀ {e e'}, allows e e' → e.Calm e')
    (op : e.Operates allows e') : e'.Orderly intact [] ∧ e.nextId ≤ e'.nextId := by
  cases op with
  | start source done allowed =>
    obtain ⟨orderly, later, -⟩ := h.start? source (fun whole => calm whole allowed) done
    exact ⟨orderly, later.nextId⟩
  | execute source done allowed =>
    obtain ⟨orderly, later⟩ := h.execute? source (fun whole => calm whole allowed) done
    exact ⟨orderly, later.nextId⟩
  | tick done allowed =>
    obtain ⟨orderly, later, -⟩ := h.tick? (fun whole => calm whole allowed) done
    exact ⟨orderly, later.nextId⟩
  | dispatch done allowed =>
    obtain ⟨orderly, later⟩ := h.dispatchFrom? (fun whole => calm whole allowed) done
    exact ⟨orderly, later.nextId⟩
  | reload => exact ⟨h.reload, Nat.le_refl _⟩
  | stopAll => exact ⟨h.stopAll.1, Nat.le_of_eq h.stopAll.2.symm⟩
  | other scripted queues nextId released =>
    refine ⟨⟨fromSource_iff.mp scripted.1, scripted.2, ?_, ?_⟩, Nat.le_of_eq nextId.symm⟩
    · rw [queues]
      exact h.accounts.of_same nextId released
    · rw [queues]
      exact h.parked

/-- In an engine that is operated, the queues are accounted for. -/
theorem Operated.orderly (h : e.Operated allows) :
    e.Orderly (∀ {e e' : Engine}, allows e e' → e.Calm e') [] := by
  induction h with
  | @new e scripted queues nextId released =>
    refine ⟨fromSource_iff.mp scripted.1, scripted.2, ?_, by simp [queues]⟩
    rw [queues]
    refine ⟨by omega, List.nodup_nil, by simp, by simp, by simp, fun id hid => absurd hid (released id),
      fun _ id hpos hlt => ?_, by simp⟩
    omega
  | next _ op ih => exact (ih.operates id op).1

/-! ### Queues in order -/

/-- The numbers of the active queues. -/
def ids (e : Engine) : List Nat :=
  e.queues.map (·.id)

/-- A queue is active, and not twice, or it has ended. -/
def Accounted (e : Engine) (id : Nat) : Prop :=
  (e.ids.count id = 1 ∧ e.isReleased (.queue id) = false) ∨
    (e.ids.count id = 0 ∧ e.isReleased (.queue id) = true)

/-- The queue `a` is active and waits for `b`. -/
def WaitsFor (e : Engine) (a b : Nat) : Prop :=
  ∃ q ∈ e.queues, q.id = a ∧ q.waitingOn = some (.queue b)

/-- No queue is active twice or after its end, and each waits for a later one only. -/
structure ActiveInOrder (e : Engine) : Prop where
  distinct : e.ids.Nodup
  active : ∀ q ∈ e.queues, q.running = true ∧ e.isReleased (.queue q.id) = false
  later : ∀ q ∈ e.queues, ∀ g, q.waitingOn = some g → ∃ id, g = .queue id ∧ q.id < id ∧ id < e.nextId
  acyclic : ∀ id, ¬Relation.TransGen e.WaitsFor id id

/-- No queue is lost, active twice, or waits for one that is neither active nor has ended. -/
structure QueuesInOrder (e : Engine) : Prop extends e.ActiveInOrder where
  accounted : ∀ id, 0 < id → id < e.nextId → e.Accounted id
  waits : ∀ q ∈ e.queues, ∀ g, q.waitingOn = some g → ∃ id, g = .queue id ∧ q.id < id ∧
    (id ∈ e.ids ∨ e.isReleased (.queue id) = true)

theorem isReleased_iff {g : Gate} : e.isReleased g = true ↔ g ∈ e.released := by
  simp [isReleased]

theorem isReleased_eq_false {g : Gate} : e.isReleased g = false ↔ g ∉ e.released := by
  simp [isReleased]

theorem Orderly.activeInOrder (h : e.Orderly intact []) : e.ActiveInOrder := by
  have accounts := h.accounts
  rw [List.append_nil] at accounts
  refine ⟨accounts.nodup,
    fun q hq => ⟨accounts.running q hq, isReleased_eq_false.mpr (accounts.closed q hq)⟩,
    accounts.waits, fun id cycle => ?_⟩
  -- Each queue waits for one with a greater number.
  have less : ∀ {a b}, Relation.TransGen e.WaitsFor a b → a < b := fun {a b} path => by
    refine Relation.TransGen.trans_induction_on path (fun {a b} step => ?_)
      fun _ _ h h' => Nat.lt_trans h h'
    obtain ⟨q, hq, rfl, hb⟩ := step
    obtain ⟨id, heq, hlt, -⟩ := accounts.waits q hq _ hb
    cases heq
    exact hlt
  exact Nat.lt_irrefl id (less cycle)

theorem Orderly.inOrder (h : e.Orderly intact []) (whole : intact) : e.QueuesInOrder := by
  have accounts := h.accounts
  rw [List.append_nil] at accounts
  have accounted : ∀ id, 0 < id → id < e.nextId → e.Accounted id := fun id hpos hlt => by
    by_cases hm : id ∈ e.ids
    · obtain ⟨q, hq, rfl⟩ := List.mem_map.mp hm
      exact Or.inl ⟨List.count_eq_one_of_mem accounts.nodup hm,
        isReleased_eq_false.mpr (accounts.closed q hq)⟩
    · refine Or.inr ⟨List.count_eq_zero.mpr hm, isReleased_iff.mpr ?_⟩
      rcases accounts.kept whole id hpos hlt with open_ | ⟨q, hq, rfl⟩
      · exact open_
      · exact absurd (List.mem_map_of_mem hq) hm
  refine ⟨h.activeInOrder, accounted, fun q hq g hg => ?_⟩
  obtain ⟨id, rfl, hlt, bound⟩ := accounts.waits q hq g hg
  refine ⟨id, rfl, hlt, ?_⟩
  rcases accounted id (by omega) bound with ⟨once, -⟩ | ⟨-, released⟩
  · exact Or.inl (List.count_pos_iff.mp (by omega))
  · exact Or.inr released

theorem Orderly.operates_star (h : e.Orderly intact [])
    (calm : intact → ∀ {e e'}, allows e e' → e.Calm e')
    (ops : Relation.ReflTransGen (Operates allows) e e') :
    e'.Orderly intact [] ∧ e.nextId ≤ e'.nextId := by
  induction ops with
  | refl => exact ⟨h, Nat.le_refl _⟩
  | tail _ op ih =>
    obtain ⟨orderly, le⟩ := ih.1.operates calm op
    exact ⟨orderly, Nat.le_trans ih.2 le⟩

/-- The queues that a tick leaves active: those that were, in their order, and behind them those
    that were started. -/
theorem Orderly.tick_started {delta : Float} (h : e.Orderly intact []) (whole : intact) (calm : e.Calm e')
    (done : e.tick? steps delta = some e') :
    ∃ started, e'.ids = (e.ids.filter fun id => !e'.isReleased (.queue id)) ++ started ∧
      ∀ id, id ∈ started ↔ e.nextId ≤ id ∧ id < e'.nextId ∧ e'.isReleased (.queue id) = false := by
  obtain ⟨orderly, later, ticked⟩ := h.tick? (fun _ => calm) done
  obtain ⟨left, started, queues, ids⟩ := ticked whole
  have accounts := orderly.accounts
  have before := h.accounts
  rw [List.append_nil] at accounts before
  have all : e'.ids = (e.ids.filter fun id => !e'.isReleased (.queue id)) ++ started.map (·.id) := by
    rw [Engine.ids, queues, List.map_append, ids]
    rfl
  refine ⟨started.map (·.id), all, fun id => ⟨fun hid => ?_, fun ⟨hle, hlt, closed⟩ => ?_⟩⟩
  · obtain ⟨q, hq, rfl⟩ := List.mem_map.mp hid
    have active : q ∈ e'.queues := by rw [queues]; exact List.mem_append_right _ hq
    have closed := isReleased_eq_false.mpr (accounts.closed q active)
    refine ⟨?_, (accounts.bounds q active).2, closed⟩
    -- An earlier number is that of a queue that was active, or of one that had ended.
    by_contra hlt
    have distinct : e'.ids.Nodup := accounts.nodup
    rw [all] at distinct
    rcases before.kept whole q.id (accounts.bounds q active).1 (by omega) with open_ | ⟨k, hk, heq⟩
    · exact accounts.closed q active (later.released _ open_)
    · refine List.disjoint_of_nodup_append distinct (List.mem_filter.mpr ⟨?_, by simp [closed]⟩) hid
      exact heq ▸ List.mem_map_of_mem hk
  · have hm : id ∈ e'.ids := by
      rcases accounts.kept whole id (by have := before.first; omega) hlt with open_ | ⟨q, hq, rfl⟩
      · exact absurd open_ (isReleased_eq_false.mp closed)
      · exact List.mem_map_of_mem hq
    rw [all] at hm
    rcases List.mem_append.mp hm with hm | hm
    · obtain ⟨q, hq, rfl⟩ := List.mem_map.mp (List.mem_filter.mp hm).1
      have := (before.bounds q hq).2
      omega
    · exact hm

/-- Between the operations of its host, the active queues of an engine are in order. If the output
    did not break off on the trace of an error and again on what is said of that, no queue is lost:
    one that is started stays accounted for, and a tick leaves those that it does not end in their
    order, with those that it starts behind them. -/
theorem Operated.queuesInOrder (h : e.Operated allows) : e.ActiveInOrder ∧
    ((∀ {e e' : Engine}, allows e e' → e.Calm e') → e.QueuesInOrder ∧
      (∀ steps script vars own id e', script.FromSource →
        e.start? steps script vars own = some (id, e') → e.Calm e' →
        ∀ e'', Relation.ReflTransGen (Operates allows) e' e'' → e''.Accounted id) ∧
      ∀ steps delta e', e.tick? steps delta = some e' → e.Calm e' →
        ∃ started, e'.ids = (e.ids.filter fun id => !e'.isReleased (.queue id)) ++ started ∧
          ∀ id, id ∈ started ↔ e.nextId ≤ id ∧ id < e'.nextId ∧ e'.isReleased (.queue id) = false) := by
  have orderly := h.orderly
  refine ⟨orderly.activeInOrder, fun whole => ⟨orderly.inOrder whole, ?_, fun steps delta e' done calm =>
    orderly.tick_started whole calm done⟩⟩
  intro steps script vars own id e' source done calm e'' ops
  obtain ⟨orderly', -, rfl, hlt⟩ := orderly.start? source (fun _ => calm) done
  obtain ⟨orderly'', le⟩ := orderly'.operates_star (fun whole => whole) ops
  exact (orderly''.inOrder whole).accounted _ orderly.accounts.first (Nat.lt_of_lt_of_le hlt le)

/-- A queue that waits for another survives a tick in which that one starts a third and ends. -/
theorem Operated.queuesInOrder_waiting : ∃ e e' : Engine, e.Operated Calm ∧ e.Calm e' ∧
    e.tick? 30 3 = some e' ∧ e.ids = [2, 1] ∧ e.WaitsFor 1 2 ∧ e'.ids = [1, 3] ∧
    e.QueuesInOrder ∧ e'.Accounted 1 ∧ e'.Accounted 2 ∧
    (e.ids.filter fun id => !e'.isReleased (.queue id)) = [1] := by
  let new : Engine := { registries := .builtin }
  have found : ((Script.ofSource .builtin "main"
      "function f { wait 2; run g }; function g { wait 1 }; &run f; wait 5" []).toOption).any (fun s =>
        (new.start? 30 s [] false).any fun started => started.1 = 1 && started.2.ids = [2, 1] &&
          started.2.queues.any (fun q => q.id = 1 && q.waitingOn = some (.queue 2)) &&
            (started.2.tick? 30 3).any fun e => e.ids = [1, 3] && e.nextId = 4) = true := by
    decide +kernel
  obtain ⟨s, hs, found⟩ := (Option.any_eq_true _ _).mp found
  obtain ⟨⟨id, e⟩, started, found⟩ := (Option.any_eq_true _ _).mp found
  simp only [Bool.and_eq_true, decide_eq_true_eq, Option.any_eq_true, List.any_eq_true] at found
  obtain ⟨⟨⟨rfl, ids⟩, q, hq, isFirst, waits⟩, e', ticked, ids', next⟩ := found
  have source : s.FromSource := .source rfl (toOption_eq_some.mp hs)
  have fresh : new.Operated Calm := operated_new
  have never : new.outbox.Whole := Outbox.whole_of_never rfl
  obtain ⟨-, later, -⟩ := fresh.orderly.start? source (fun _ => calm_of_whole never e) started
  have calm := calm_of_whole (Outbox.whole_of_never later.outbox.breaksAt) e'
  have operated : e.Operated Calm := fresh.next (.start source started (calm_of_whole never e))
  have first := (fresh.queuesInOrder.2 id).2.1 30 s [] false 1 e source started (calm_of_whole never e) e'
    (.single (.tick ticked calm))
  have second := ((operated.next (.tick ticked calm)).queuesInOrder.2 id).1.accounted 2
    (by omega) (by omega)
  refine ⟨e, e', operated, calm, ticked, ids, ⟨q, hq, isFirst, waits⟩, ids',
    (operated.queuesInOrder.2 id).1, first, second,
    ?_⟩
  -- Of the two queues that were active, the tick has left the first only.
  have closed : e'.isReleased (.queue 1) = false := by
    rcases first with ⟨-, closed⟩ | ⟨none, -⟩
    · exact closed
    · simp [ids'] at none
  have open_ : e'.isReleased (.queue 2) = true := by
    rcases second with ⟨once, -⟩ | ⟨-, released⟩
    · simp [ids'] at once
    · exact released
  simp [ids, closed, open_]

/-- A queue whose error breaks off the output twice is lost: the `try` around the `run` that has
    started it goes on, and it is neither active nor has it ended. -/
theorem queuesInOrder_breakingTwice : ∃ (s : Script) (e : Engine), s.FromSource ∧
    Engine.start? 30 { registries := .builtin, outbox := { breaksAt := fun number => number ≤ 2 } }
    s [] false =
      some (1, e) ∧ e.Operated (fun _ _ => True) ∧ e.ids = [1] ∧ e.nextId = 3 ∧ ¬e.Accounted 2 := by
  let new : Engine := { registries := .builtin, outbox := { breaksAt := fun number => number ≤ 2 } }
  have found : ((Script.ofSource .builtin "main"
      "function f { error boom }; try { run f } catch { wait 10 }" []).toOption).any (fun s =>
        (new.start? 30 s [] false).any fun started => started.1 = 1 && started.2.ids = [1] &&
          started.2.nextId = 3 && !started.2.isReleased (.queue 2)) = true := by
    decide +kernel
  obtain ⟨s, hs, found⟩ := (Option.any_eq_true _ _).mp found
  obtain ⟨⟨id, e⟩, started, found⟩ := (Option.any_eq_true _ _).mp found
  simp only [Bool.and_eq_true, decide_eq_true_eq, Bool.not_eq_true'] at found
  obtain ⟨⟨⟨rfl, ids⟩, next⟩, closed⟩ := found
  have source : s.FromSource := .source rfl (toOption_eq_some.mp hs)
  have fresh : new.Operated fun _ _ => True :=
    .new ⟨fromSource_new, List.forall_mem_nil _⟩ rfl rfl fun _ =>
    List.not_mem_nil
  refine ⟨s, e, source, started, fresh.next (.start source started trivial), ids, next, ?_⟩
  rintro (⟨once, -⟩ | ⟨-, released⟩)
  · simp [ids] at once
  · cases closed.symm.trans released

end Engine

end CommandScript
