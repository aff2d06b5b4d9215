import CommandScript.Proofs.Machine.Reachable

/-! The account of all queues. A queue waits for a later one only; and as long as no queue is given up, each number that
    was given to a queue belongs to one that is alive, or its gate is open. -/

namespace CommandScript

/-- The queues `alive` were made and have not ended. If the account is `intact`, there are no more of them. -/
structure Engine.Accounts (intact : Prop) (e : Engine) (alive : List Queue) : Prop where
  first : 0 < e.nextId
  nodup : (alive.map (·.id)).Nodup
  running : ∀ q ∈ alive, q.running = true
  closed : ∀ q ∈ alive, Gate.queue q.id ∉ e.released
  bounds : ∀ q ∈ alive, 0 < q.id ∧ q.id < e.nextId
  past : ∀ id, Gate.queue id ∈ e.released → id < e.nextId
  kept : intact → ∀ id, 0 < id → id < e.nextId → Gate.queue id ∈ e.released ∨ ∃ q ∈ alive, q.id = id
  waits : ∀ q ∈ alive, ∀ g, q.waitingOn = some g → ∃ id, g = .queue id ∧ q.id < id ∧ id < e.nextId

namespace Engine.Accounts

variable {intact : Prop} {e e' : Engine} {alive others : List Queue} {q q' : Queue}

/-- The account does not hang on the gates of the host. -/
theorem of_same (h : e.Accounts intact alive) (nextId : e'.nextId = e.nextId)
    (released : ∀ id, Gate.queue id ∈ e'.released ↔ Gate.queue id ∈ e.released) : e'.Accounts intact alive where
  first := nextId ▸ h.first
  nodup := h.nodup
  running := h.running
  closed := by simpa only [released] using h.closed
  bounds := nextId ▸ h.bounds
  past := by simpa only [nextId, released] using h.past
  kept := by simpa only [nextId, released] using h.kept
  waits := nextId ▸ h.waits

theorem aside {P : Script → Prop} (h : e.Accounts intact alive) (aside : e.Aside P e') : e'.Accounts intact alive :=
  h.of_same aside.nextId fun _ => by rw [aside.released]

theorem perm (h : e.Accounts intact alive) (same : alive.Perm others) : e.Accounts intact others where
  first := h.first
  nodup := (same.map _).nodup_iff.mp h.nodup
  running q hq := h.running q (same.mem_iff.mpr hq)
  closed q hq := h.closed q (same.mem_iff.mpr hq)
  bounds q hq := h.bounds q (same.mem_iff.mpr hq)
  past := h.past
  kept whole id hpos hlt := by
    rcases h.kept whole id hpos hlt with open_ | ⟨q, hq, rfl⟩
    · exact Or.inl open_
    · exact Or.inr ⟨q, same.mem_iff.mp hq, rfl⟩
  waits q hq := h.waits q (same.mem_iff.mpr hq)

/-- A queue has changed, and is still alive. -/
theorem replace (h : e.Accounts intact (q :: others)) (id : q'.id = q.id) (running : q'.running = true)
    (waits : ∀ g, q'.waitingOn = some g → ∃ id, g = .queue id ∧ q'.id < id ∧ id < e.nextId) :
    e.Accounts intact (q' :: others) where
  first := h.first
  nodup := by simpa [id] using h.nodup
  running := List.forall_mem_cons.mpr ⟨running, fun k hk => h.running k (List.mem_cons_of_mem _ hk)⟩
  closed := List.forall_mem_cons.mpr
    ⟨id ▸ h.closed q List.mem_cons_self, fun k hk => h.closed k (List.mem_cons_of_mem _ hk)⟩
  bounds := List.forall_mem_cons.mpr
    ⟨id ▸ h.bounds q List.mem_cons_self, fun k hk => h.bounds k (List.mem_cons_of_mem _ hk)⟩
  past := h.past
  kept whole n hpos hlt := by simpa [id] using h.kept whole n hpos hlt
  waits := List.forall_mem_cons.mpr ⟨waits, fun k hk => h.waits k (List.mem_cons_of_mem _ hk)⟩

/-- Some queues are given up. -/
theorem sublist (h : e.Accounts intact alive) (sub : others.Sublist alive) (broken : ¬intact) :
    e.Accounts intact others where
  first := h.first
  nodup := (sub.map _).nodup h.nodup
  running k hk := h.running k (sub.subset hk)
  closed k hk := h.closed k (sub.subset hk)
  bounds k hk := h.bounds k (sub.subset hk)
  past := h.past
  kept whole := absurd whole broken
  waits k hk := h.waits k (sub.subset hk)

/-- A queue has ended. -/
theorem retire (h : e.Accounts intact (q :: others)) : (e.release (.queue q.id)).Accounts intact others where
  first := h.first
  nodup := (List.nodup_cons.mp h.nodup).2
  running k hk := h.running k (List.mem_cons_of_mem _ hk)
  closed k hk := by
    have apart := (List.nodup_cons.mp h.nodup).1
    have hne : k.id ≠ q.id := fun heq => apart (List.mem_map.mpr ⟨k, hk, heq⟩)
    simpa [release, hne] using h.closed k (List.mem_cons_of_mem _ hk)
  bounds k hk := h.bounds k (List.mem_cons_of_mem _ hk)
  past id hid := by
    rcases List.mem_cons.mp hid with heq | hid
    · cases heq
      exact (h.bounds q List.mem_cons_self).2
    · exact h.past id hid
  kept whole id hpos hlt := by
    rcases h.kept whole id hpos hlt with open_ | ⟨k, hk, rfl⟩
    · exact Or.inl (List.mem_cons_of_mem _ open_)
    · rcases List.mem_cons.mp hk with rfl | hk
      · exact Or.inl List.mem_cons_self
      · exact Or.inr ⟨k, hk, rfl⟩
  waits k hk := h.waits k (List.mem_cons_of_mem _ hk)

/-- A queue is made. -/
theorem make (h : e.Accounts intact alive) (id : q.id = e.nextId) (running : q.running = true)
    (free : q.waitingOn = none) :
    Accounts intact { e with nextId := e.nextId + 1 } (q :: alive) where
  first := Nat.succ_pos _
  nodup := by
    refine List.nodup_cons.mpr ⟨fun hm => ?_, h.nodup⟩
    obtain ⟨k, hk, heq⟩ := List.mem_map.mp hm
    exact absurd (heq.trans id) (Nat.ne_of_lt (h.bounds k hk).2)
  running := List.forall_mem_cons.mpr ⟨running, h.running⟩
  closed := by
    refine List.forall_mem_cons.mpr ⟨fun hm => ?_, h.closed⟩
    have := h.past _ hm
    omega
  bounds := by
    refine List.forall_mem_cons.mpr ⟨⟨id ▸ h.first, Nat.lt_succ_of_le (Nat.le_of_eq id)⟩, fun k hk => ?_⟩
    exact ⟨(h.bounds k hk).1, Nat.lt_succ_of_lt (h.bounds k hk).2⟩
  past id hid := Nat.lt_succ_of_lt (h.past id hid)
  kept whole n hpos hlt := by
    rcases Nat.lt_succ_iff_lt_or_eq.mp hlt with hlt | rfl
    · rcases h.kept whole n hpos hlt with open_ | ⟨k, hk, rfl⟩
      · exact Or.inl open_
      · exact Or.inr ⟨k, List.mem_cons_of_mem _ hk, rfl⟩
    · exact Or.inr ⟨q, List.mem_cons_self, id⟩
  waits := by
    refine List.forall_mem_cons.mpr ⟨fun g hg => by simp [free] at hg, fun k hk g hg => ?_⟩
    obtain ⟨id, rfl, hlt, hnext⟩ := h.waits k hk g hg
    exact ⟨id, rfl, hlt, Nat.lt_succ_of_lt hnext⟩

end Engine.Accounts

/-! ### Queues at rest and at work -/

/-- An active queue, which may go on later. -/
structure Queue.Parked (q : Queue) : Prop where
  kept : q.result.brokeOff = none
  delayable : q.delayable = true
  frames : q.frames ≠ []
  stack : SoundStack Script.FromSource q.frames

/-- Nothing keeps a queue from running. -/
def Queue.Free (q : Queue) : Prop :=
  q.waitingOn = none ∧ ¬0 < q.wait

/-- A queue as the list of itself, if it has not ended. -/
def Queue.ifRunning (q : Queue) : List Queue :=
  if q.running then [q] else []

/-- The queues of a machine that have not ended. -/
def Machine.alive (m : Machine) : List Queue :=
  m.running.ifRunning ++ (m.callers.map (·.queue) ++ m.engine.queues)

/-- A machine whose queues are accounted for, where `others` are those that are neither its own nor in the list of its
    engine. -/
structure Machine.Orderly (intact : Prop) (others : List Queue) (m : Machine) : Prop where
  sound : m.Sound Script.FromSource
  handles : m.engine.Handles Script.FromSource
  accounts : m.engine.Accounts intact (m.alive ++ others)
  parked : ∀ q ∈ m.engine.queues ++ others, q.Parked
  calling : ∀ c ∈ m.callers, c.queue.frames ≠ [] ∧ c.queue.Free ∧ c.queue.result.brokeOff = none
  later : ((m.running :: m.callers.map (·.queue)).map (·.id)).Pairwise (· > ·)
  emptied : m.running.frames = [] → m.running.Free
  prompt : m.running.delayable = false → m.running.Free
  ended : m.running.running = false → m.running.frames = [] ∧ Gate.queue m.running.id ∈ m.engine.released

namespace Machine

variable {intact : Prop} {m m' : Machine} {others : List Queue} {q : Queue}

theorem alive_of_running (h : m.running.running = true) :
    m.alive = m.running :: (m.callers.map (·.queue) ++ m.engine.queues) := by
  simp [alive, Queue.ifRunning, h]

theorem alive_of_ended (h : m.running.running = false) : m.alive = m.callers.map (·.queue) ++ m.engine.queues := by
  simp [alive, Queue.ifRunning, h]

/-- A queue that is left and has not ended. -/
structure Suspends (intact : Prop) (others : List Queue) (m : Machine) (q : Queue) : Prop where
  id : q.id = m.running.id
  delayable : q.delayable = m.running.delayable
  parked : q.Parked
  waits : 0 < q.wait ∨ ∃ g, q.waitingOn = some g ∧ g ∉ m.engine.released
  accounts : m.engine.Accounts intact (q :: (m.callers.map (·.queue) ++ m.engine.queues) ++ others)

/-- A queue that is left has ended, or is active and has something to wait for, if it is not given up. -/
theorem Orderly.left (h : m.Orderly intact others) (left : m.left? = some q) (kept : q.result.brokeOff = none) :
    (m.running.running = false ∧ q = m.running) ∨ m.running.running = true ∧ m.Suspends intact others q := by
  rw [result_of_left? left] at kept
  unfold left? at left
  split at left
  · rename_i ended
    cases left
    exact Or.inl ⟨by simpa [kept] using ended, rfl⟩
  · rename_i running
    have running : m.running.running = true := by simpa [kept] using running
    have accounts := h.accounts
    rw [alive_of_running running] at accounts
    have parked : ¬m.running.Free → m.running.Parked := fun busy =>
      ⟨kept, by simpa using fun d => busy (h.prompt d), fun hnil => busy (h.emptied hnil), h.sound.running⟩
    refine Or.inr ⟨running, ?_⟩
    split at left
    · rename_i gate
      cases left
      obtain ⟨g, hg, closedGate⟩ := (Option.any_eq_true _ _).mp gate
      have unreleased : g ∉ m.engine.released := by simpa [Engine.isReleased] using closedGate
      refine ⟨rfl, rfl, parked fun free => ?_, Or.inr ⟨g, hg, unreleased⟩, accounts⟩
      rw [free.1] at hg
      cases hg
    · split at left
      · rename_i wait
        cases left
        have waits := parked fun free => free.2 wait
        refine ⟨rfl, rfl, ⟨kept, waits.delayable, waits.frames, waits.stack⟩, Or.inl wait, ?_⟩
        exact accounts.replace rfl running fun _ hg => by cases hg
      · cases left

theorem Leaves.cases (h : m.Leaves m') : ∃ q c, m.left? = some q ∧ m.callers = c :: m'.callers ∧
    ((q.running = true ∧ m' = ⟨{ m.engine with queues := m.engine.queues ++ [q] },
        { c.queue with
          waitingOn := if c.waits && c.queue.delayable then some (.queue q.id) else c.queue.waitingOn },
          m'.callers⟩) ∨
      (q.running = false ∧ m' = ⟨m.engine, c.queue, m'.callers⟩)) := by
  obtain ⟨q, left, yields⟩ := h.left
  unfold yield at yields
  split at yields
  · cases yields
  · rename_i c callers hc
    have kept := h.kept
    rw [← result_of_left? left] at kept
    rw [kept] at yields
    dsimp only at yields
    split at yields
    · rename_i running
      cases yields
      exact ⟨q, c, left, hc, Or.inl ⟨running, rfl⟩⟩
    · rename_i ended
      cases yields
      exact ⟨q, c, left, hc, Or.inr ⟨by simpa using ended, rfl⟩⟩

/-! ### One step -/

section
variable {c : Caller} {rest : List Caller} (h : m.Orderly intact others) (callers : m.callers = c :: rest)
include h callers

theorem Orderly.caller : c.queue.frames ≠ [] ∧ c.queue.Free ∧ c.queue.id < m.running.id ∧
    (∀ k ∈ rest, k.queue.frames ≠ [] ∧ k.queue.Free ∧ k.queue.result.brokeOff = none) ∧
      ((c.queue :: rest.map (·.queue)).map (·.id)).Pairwise (· > ·) := by
  have calling := h.calling
  have later := h.later
  rw [callers] at calling later
  obtain ⟨frames, free, -⟩ := calling c List.mem_cons_self
  obtain ⟨above, later⟩ := List.pairwise_cons.mp later
  exact ⟨frames, free, above _ List.mem_cons_self, fun k hk => calling k (List.mem_cons_of_mem _ hk), later⟩

/-- Without the queue at work, the one that started it goes on. -/
theorem Orderly.returns (accounts : m.engine.Accounts intact (m.callers.map (·.queue) ++ m.engine.queues ++ others)) :
    Orderly intact others ⟨m.engine, c.queue, rest⟩ ∧ c.queue.running = true := by
  obtain ⟨frames, free, -, below, later⟩ := h.caller callers
  rw [callers] at accounts
  have running : c.queue.running = true := accounts.running _ (by simp)
  refine ⟨⟨h.sound.callers_cons callers, h.handles, ?_, h.parked, below, later, fun hnil => absurd hnil frames,
    fun _ => free, fun hr => ?_⟩, running⟩
  · rw [alive_of_running running]
    exact accounts
  · rw [running] at hr
    cases hr

theorem Orderly.resumes {q' : Queue} (suspends : m.Suspends intact others q)
    (same : ∃ waitingOn, q' = { c.queue with waitingOn := waitingOn } ∧
      (waitingOn = c.queue.waitingOn ∨ c.queue.delayable = true ∧ waitingOn = some (.queue q.id)))
    (sound : Sound Script.FromSource ⟨{ m.engine with queues := m.engine.queues ++ [q] }, q', rest⟩) :
    Orderly intact others ⟨{ m.engine with queues := m.engine.queues ++ [q] }, q', rest⟩ := by
  obtain ⟨frames, free, started, below, later⟩ := h.caller callers
  obtain ⟨waitingOn, rfl, waits⟩ := same
  have accounts := suspends.accounts
  rw [callers] at accounts
  have running : c.queue.running = true := accounts.running _ (by simp)
  have bound : q.id < m.engine.nextId := (accounts.bounds q (by simp)).2
  -- The queue that is left goes from the first place to the last of the list of the engine.
  have swap : (q :: (List.map (·.queue) (c :: rest) ++ m.engine.queues) ++ others).Perm
      (c.queue :: (List.map (·.queue) rest ++ (m.engine.queues ++ [q])) ++ others) := by
    rw [List.map_cons, List.cons_append, List.cons_append, List.cons_append]
    refine (List.Perm.swap _ _ _).trans (List.Perm.cons _ ?_)
    rw [← List.append_assoc, ← List.cons_append]
    exact (List.perm_append_singleton _ _).symm.append_right _
  refine ⟨sound, h.handles, ?_, fun k hk => ?_, below, later, fun hnil => absurd hnil frames, fun delayable => ?_,
    fun hr => ?_⟩
  · rw [alive_of_running running]
    refine Engine.Accounts.replace (q := c.queue) ((accounts.perm swap).of_same rfl fun _ => Iff.rfl) rfl running
      fun g hg => ?_
    rcases waits with rfl | ⟨-, rfl⟩
    · cases free.1.symm.trans hg
    · cases hg
      exact ⟨q.id, rfl, suspends.id ▸ started, bound⟩
  · rcases List.mem_append.mp hk with hk | hk
    · rcases List.mem_append.mp hk with hk | hk
      · exact h.parked k (List.mem_append_left _ hk)
      · rw [List.mem_singleton.mp hk]
        exact suspends.parked
    · exact h.parked k (List.mem_append_right _ hk)
  · rcases waits with rfl | ⟨delays, -⟩
    · exact free
    · cases delays.symm.trans delayable
  · cases running.symm.trans hr

end

theorem Orderly.leaves (h : m.Orderly intact others) (leaves : m.Leaves m') (sound : m'.Sound Script.FromSource) :
    m'.Orderly intact others := by
  obtain ⟨q, c, left, callers, settled⟩ := leaves.cases
  have kept : q.result.brokeOff = none := (congrArg RunResult.brokeOff (result_of_left? left)).trans leaves.kept
  rcases h.left left kept with ⟨ended, rfl⟩ | ⟨-, suspends⟩
  · rcases settled with ⟨running, -⟩ | ⟨-, eq⟩
    · cases ended.symm.trans running
    · rw [eq]
      exact (h.returns callers (alive_of_ended ended ▸ h.accounts)).1
  · rcases settled with ⟨-, eq⟩ | ⟨ended, -⟩
    · rw [eq] at sound ⊢
      refine h.resumes callers suspends ⟨_, rfl, ?_⟩ sound
      by_cases waits : c.waits = true ∧ c.queue.delayable = true
      · exact Or.inr ⟨waits.2, by simp [waits]⟩
      · exact Or.inl (by simpa using fun hc hd => absurd ⟨hc, hd⟩ waits)
    · cases (suspends.accounts.running q (by simp)).symm.trans ended

section
variable (h : m.Orderly intact others) (running : m.running.running = true) {e : Engine}
  (aside : m.engine.Aside Script.FromSource e) (id : q.id = m.running.id)
include h running aside id

/-- A queue that ends is released, and leaves the account. -/
theorem Orderly.ends (ended : q.running = false) (frames : q.frames = []) (still : q.Free)
    (sound : Sound Script.FromSource ⟨e.release (.queue m.running.id), q, m.callers⟩) :
    Orderly intact others ⟨e.release (.queue m.running.id), q, m.callers⟩ := by
  have accounts := h.accounts
  rw [alive_of_running running] at accounts
  refine ⟨sound, aside.handles h.handles, ?_, ?_, h.calling, ?_, fun _ => still, fun _ => still,
    fun _ => ⟨frames, id ▸ List.mem_cons_self⟩⟩
  · rw [alive_of_ended ended]
    show Engine.Accounts intact _ ((m.callers.map (·.queue) ++ e.queues) ++ others)
    rw [aside.queues]
    exact (accounts.aside aside).retire
  · show ∀ k ∈ e.queues ++ others, k.Parked
    rw [aside.queues]
    exact h.parked
  · have later := h.later
    simpa [id] using later

/-- A queue that goes on stays in the account. -/
theorem Orderly.stays (runs : q.running = true) (unbound : q.waitingOn = none) (emptied : q.frames = [] → ¬0 < q.wait)
    (prompt : q.delayable = false → ¬0 < q.wait) (sound : Sound Script.FromSource ⟨e, q, m.callers⟩) :
    Orderly intact others ⟨e, q, m.callers⟩ := by
  have accounts := h.accounts
  rw [alive_of_running running] at accounts
  refine ⟨sound, aside.handles h.handles, ?_, ?_, h.calling, ?_, fun hnil => ⟨unbound, emptied hnil⟩,
    fun delayable => ⟨unbound, prompt delayable⟩, fun hr => ?_⟩
  · rw [alive_of_running runs]
    show Engine.Accounts intact _ (q :: (m.callers.map (·.queue) ++ e.queues) ++ others)
    rw [aside.queues]
    exact (accounts.aside aside).replace id runs fun g hg => by cases unbound.symm.trans hg
  · show ∀ k ∈ e.queues ++ others, k.Parked
    rw [aside.queues]
    exact h.parked
  · have later := h.later
    simpa [id] using later
  · cases runs.symm.trans hr

end

theorem Orderly.goes (h : m.Orderly intact others) (free : m.left? = none) (fate : m.Fate Script.FromSource m')
    (sound : m'.Sound Script.FromSource) : m'.Orderly intact others := by
  obtain ⟨running, -, -, wait⟩ := left?_eq_none.mp free
  cases fate with
  | onward aside frames waits eq =>
    rw [eq] at sound ⊢
    refine h.stays running aside rfl running rfl (fun hnil => absurd hnil frames) (fun delayable => ?_) sound
    rcases waits with delays | same
    · cases delays.symm.trans delayable
    · exact same ▸ wait
  | completes _ _ eq =>
    rw [eq] at sound ⊢
    exact h.stays running (.refl _) rfl running rfl (fun _ => wait) (fun _ => wait) sound
  | ends hnil eq =>
    rw [eq] at sound ⊢
    exact h.ends running (.refl _) rfl rfl rfl ⟨rfl, wait⟩ sound
  | stops aside _ _ eq =>
    rw [eq] at sound ⊢
    exact h.ends running aside rfl rfl rfl ⟨rfl, wait⟩ sound
  | breaks aside _ _ eq =>
    rw [eq] at sound ⊢
    exact h.stays running aside rfl running rfl (fun _ => wait) (fun _ => wait) sound

/-- An error of a queue that nothing keeps from running is handled. -/
theorem Orderly.handle (h : m.Orderly intact others) (running : m.running.running = true) (free : m.running.Free)
    (error : ScriptError) : (m.handle error).Orderly intact others := by
  have sound := h.sound.handle error
  rcases handle_cases m error with
    ⟨_, _, _, _, -, -, handled⟩ | ⟨e, posted, handled⟩ | ⟨e, posted, -, handled⟩
  · rw [handled] at sound ⊢
    exact h.stays running (.refl _) rfl running free.1 (fun _ => free.2) (fun _ => free.2) sound
  · rw [handled] at sound ⊢
    exact h.ends running (.posted posted) rfl rfl rfl free sound
  · rw [handled] at sound ⊢
    exact h.stays running (.posted posted) rfl running free.1 (fun _ => free.2) (fun _ => free.2) sound

/-- A queue that is given up leaves the account, which is not intact any more. -/
theorem Orderly.givesUp (h : m.Orderly intact others) (broken : ¬intact) (givesUp : m.GivesUp m') :
    m'.Orderly intact others := by
  obtain ⟨failure, c, callers, -, hc, rfl⟩ := givesUp
  have sub : (m.callers.map (·.queue) ++ m.engine.queues ++ others).Sublist (m.alive ++ others) :=
    (List.sublist_append_right _ _).append_right _
  obtain ⟨returned, running⟩ := h.returns hc (h.accounts.sublist sub broken)
  exact returned.handle running (h.caller hc).2.1 failure.toScriptError

theorem Orderly.launches {f g : Frame} {below : List Frame} {script : Script} {vars : Vars} {entry : Entry}
    {e : Engine} {waits : Bool} (h : m.Orderly intact others) (at_ : m.StandsAt f below entry)
    (aside : m.engine.Aside Script.FromSource e) (eq : m' = ⟨{ e with nextId := e.nextId + 1 },
      { id := e.nextId, frames := [Frame.start script vars], delayable := true, ownOutput := m.running.ownOutput },
      ⟨{ m.awake.running with frames := g :: below }, waits⟩ :: m.callers⟩) (sound : m'.Sound Script.FromSource) :
    m'.Orderly intact others := by
  have running := at_.running
  have accounts := h.accounts.aside aside
  rw [alive_of_running running, ← aside.queues] at accounts
  rw [eq] at sound ⊢
  have still : ¬(0 : Float) < 0 := by decide
  have caller : e.Accounts intact (({ m.awake.running with frames := g :: below } : Queue) ::
      (m.callers.map (·.queue) ++ e.queues) ++ others) :=
    accounts.replace rfl running fun _ hg => by cases hg
  refine ⟨sound, aside.handles h.handles, ?_, ?_, fun k hk => ?_, ?_, fun _ => ⟨rfl, still⟩, fun _ => ⟨rfl, still⟩,
    fun hr => by cases hr⟩
  · rw [alive_of_running rfl]
    exact caller.make rfl rfl rfl
  · show ∀ k ∈ e.queues ++ others, k.Parked
    rw [aside.queues]
    exact h.parked
  · rcases List.mem_cons.mp hk with rfl | hk
    · exact ⟨List.cons_ne_nil _ _, ⟨rfl, at_.wait⟩, at_.kept⟩
    · exact h.calling k hk
  · -- The new queue has a greater number than all there were.
    refine List.pairwise_cons.mpr ⟨fun id hid => ?_, h.later⟩
    obtain ⟨k, hk, rfl⟩ := List.mem_map.mp hid
    rcases List.mem_cons.mp hk with rfl | hk
    · exact (accounts.bounds m.running (List.mem_append_left _ List.mem_cons_self)).2
    · exact (accounts.bounds k (List.mem_append_left _ (List.mem_cons_of_mem _ (List.mem_append_left _ hk)))).2

/-- A step keeps the account. It stays intact unless the queue at work is given up. -/
theorem Orderly.step (h : m.Orderly intact others) (kept : intact → m.running.result.brokeOff = none)
    (next : m.step = .next m') : m'.Orderly intact others := by
  have sound := h.sound.step Script.closed_fromSource Script.FromSource.ordered next
  cases h.sound.next Script.closed_fromSource Script.FromSource.ordered next with
  | leaves leaves => exact h.leaves leaves sound
  | givesUp givesUp =>
    refine h.givesUp (fun whole => ?_) givesUp
    obtain ⟨_, _, _, broke, -⟩ := givesUp
    cases (kept whole).symm.trans broke
  | goes _ _ free fate => exact h.goes free fate sound
  | launches at_ _ _ _ _ _ aside eq => exact h.launches at_ aside eq sound

end Machine

end CommandScript
