import CommandScript.Proofs.Branches.Decisions
import CommandScript.Proofs.Machine.Floors

/-! The passages of every frame while scripts run, from its begin on, whatever queues and scripts run in between. They
    are the way of its control through the code of its script. So in one pass through a chain of branches at most one
    block is run, and a `catch` is entered only for an error that its `try` has caught. A `goto` into a block leaves the
    marks as they are: behind it one more block can be run, and the mark of an earlier error can be found. -/

namespace CommandScript

theorem Frame.control_start (script : Script) (vars : Vars) :
    (Frame.start script vars).control false = ⟨0, fun _ => false, false⟩ := by
  have place := (Frame.start_place script vars).1
  have pc : (Frame.start script vars).pc = 0 := congrArg Place.pc place
  have branches : (Frame.start script vars).branches = [] := congrArg Place.branches place
  unfold Frame.control Frame.branchTaken
  rw [pc, branches]
  rfl

namespace Machine

/-! ### Passages of a step -/

/-- What happens to the control of the frame at a height while an error goes through a stack. -/
def unwinding : List Frame → (height : Nat) → List Passage
  | [], _ => []
  | f :: below, height =>
    match boundary? f with
    | some target => if height = below.length then [.caught (f.pc - 1) target] else []
    | none => unwinding below height

/-- What happens to the control of the frame at a height of the stack at a level where the queue at work is given up:
    for the queue that has started it, that is an error. -/
def passagesGivenUp (m : Machine) (level height : Nat) : List Passage :=
  match m.callers, m.running.result.brokeOff with
  | c :: callers, some _ => if callers.length = level then unwinding c.queue.frames height else []
  | _, _ => []

/-- What happens in the next step to the control of the frame at a height of the stack at a level. -/
def passages (m : Machine) (level height : Nat) : List Passage :=
  if m.callers.length = level ∧ m.left?.isNone = true then
    match m.running.frames with
    | [] => []
    | f :: below =>
      match f.script.code.entries[f.pc]? with
      | none => []
      | some entry =>
        let (result, _, g) := m.awake.perform f below entry
        (if height = below.length then [.ran f.pc g.pc !result.isOk] else []) ++
          if result.isOk then [] else unwinding (g :: below) height
  else m.passagesGivenUp level height

variable {m m' n : Machine} {f g : Frame} {below : List Frame} {entry : Entry} {level height : Nat}

theorem passagesGivenUp_of_kept (kept : m.running.result.brokeOff = none) (level height : Nat) :
    m.passagesGivenUp level height = [] := by
  rw [passagesGivenUp, kept]
  split
  · rename_i broke
    cases broke
  · rfl

theorem passages_of_ne (kept : m.running.result.brokeOff = none) (ne : level ≠ m.callers.length) :
    m.passages level height = [] := by
  rw [passages, if_neg fun h => ne h.1.symm, passagesGivenUp_of_kept kept]

theorem passages_of_left {q : Queue} (left : m.left? = some q) (level height : Nat) :
    m.passages level height = m.passagesGivenUp level height := by
  rw [passages, left]
  exact if_neg fun h => Bool.false_ne_true h.2

theorem passages_of_finished (kept : m.running.result.brokeOff = none) (frames : m.running.frames = f :: below)
    (finished : f.script.code.entries[f.pc]? = none) (level height : Nat) : m.passages level height = [] := by
  rw [passages, frames, passagesGivenUp_of_kept kept]
  dsimp only
  rw [finished]
  exact ite_self _

theorem StandsAt.passages (at_ : m.StandsAt f below entry) (height : Nat) {r : Except ScriptError Flow} {e : Engine}
    (performed : m.awake.perform f below entry = (r, e, g)) : m.passages m.callers.length height =
      (if height = below.length then [.ran f.pc g.pc !r.isOk] else []) ++
        if r.isOk then [] else unwinding (g :: below) height := by
  rw [Machine.passages, if_pos ⟨rfl, by rw [at_.free]; rfl⟩, at_.frames]
  dsimp only
  rw [at_.here]
  dsimp only
  rw [performed]

theorem unwinding_of_le {frames : List Frame} (le : frames.length ≤ height) : unwinding frames height = [] := by
  induction frames with
  | nil => rfl
  | cons f below ih =>
    rw [List.length_cons] at le
    rw [unwinding]
    split
    · exact if_neg (by omega)
    · exact ih (by omega)

theorem length_le_of_catchError {text : String} {frames frames' : List Frame}
    (h : catchError text frames = some frames') : frames'.length ≤ frames.length := by
  obtain ⟨above, f, below, target, rfl, -, rfl⟩ := catchError_eq_some h
  simp only [List.length_append, List.length_cons]
  omega

/-- An error goes on in the frame that has the first `try` around it. -/
theorem path_of_unwinding (text : String) {frames : List Frame}
    (settled : ∀ k ∈ frames, k.script.FromSource ∧ k.NotAtTry) {d : Frame} (hd : frames.reverse[height]? = some d)
    {failing : Bool} (top : failing = true → height + 1 = frames.length) :
    ∃ c, (d.control failing).Path d.script.code (unwinding frames height) c ∧
      (catchError text frames = none → c = d.control failing) ∧
      ∀ frames', catchError text frames = some frames' → ∀ k, frames'.reverse[height]? = some k →
        k.script = d.script ∧ c = k.control false := by
  induction frames with
  | nil => cases hd
  | cons f below ih =>
    rw [getElem?_reverse_cons] at hd
    rw [List.length_cons] at top
    by_cases here : height = below.length
    · rw [if_pos here] at hd
      cases hd
      cases boundary : boundary? d with
      | some target =>
        rw [unwinding, catchError, boundary]
        dsimp only
        obtain ⟨source, notAtTry⟩ := settled d List.mem_cons_self
        have ordered := source.ordered
        obtain ⟨hle, e, he, catches⟩ := boundary?_bounds boundary
        obtain ⟨owner, block, inTry, rfl, -⟩ := inTry_of_catches ordered notAtTry he hle catches
        obtain ⟨o, ho, name, -, hblock⟩ := inTry.here
        obtain ⟨index, pc, lo, hi⟩ := inTry.inside
        have spans : d.script.code.block owner = block := by
          rw [Code.block_eq ho, hblock]
          rfl
        have inside : d.script.code.Inside owner ((d.control failing).pc - 1) := by
          rw [Code.Inside, spans, Frame.control, pc]
          exact ⟨lo, hi⟩
        have step := Control.Step.caught ((Code.name?_eq ho).trans (congrArg some name)) inside
        rw [spans] at step
        rw [if_pos here]
        refine ⟨_, .cons step (.nil _), fun none => (by cases none), fun frames' caught k hk => ?_⟩
        cases caught
        rw [getElem?_reverse_cons, if_pos here] at hk
        cases hk
        rw [caughtAt_eq ordered inTry]
        exact ⟨rfl, congrArg (Control.mk _ · false) (d.branchTaken_setBranch_update owner true).symm⟩
      | none =>
        rw [unwinding, catchError, boundary]
        dsimp only
        rw [unwinding_of_le (Nat.le_of_eq here.symm)]
        refine ⟨_, .nil _, fun _ => rfl, fun frames' caught k hk => ?_⟩
        have := (List.getElem?_eq_some_iff.mp hk).1
        rw [List.length_reverse] at this
        have := length_le_of_catchError caught
        omega
    · rw [if_neg here] at hd
      have notTop : ¬failing = true := fun failed => here (Nat.succ.inj (top failed))
      cases boundary : boundary? f with
      | some target =>
        rw [unwinding, catchError, boundary]
        dsimp only
        rw [if_neg here]
        refine ⟨_, .nil _, fun _ => rfl, fun frames' caught k hk => ?_⟩
        cases caught
        rw [getElem?_reverse_cons, if_neg here, hd] at hk
        cases hk
        exact ⟨rfl, by rw [Bool.eq_false_iff.mpr notTop]⟩
      | none =>
        rw [unwinding, catchError, boundary]
        exact ih (fun k hk => settled k (List.mem_cons_of_mem _ hk)) hd fun failed => absurd failed notTop

/-- The control of a frame of a machine. It stands at an error only in a queue that is given up. -/
def ControlAt (m : Machine) (level : Nat) (f : Frame) (c : Control) : Prop :=
  ∃ failing, c = f.control failing ∧
    (failing = true → level = m.callers.length ∧ m.running.result.brokeOff.isSome = true)

theorem ControlAt.of_ready {f : Frame} : ControlAt m level f (f.control false) :=
  ⟨false, rfl, fun failed => absurd failed Bool.false_ne_true⟩

theorem ControlAt.ready {f : Frame} {c : Control} (h : ControlAt m level f c)
    (free : level = m.callers.length → m.running.result.brokeOff = none) : c = f.control false := by
  obtain ⟨failing, rfl, failed⟩ := h
  cases failing with
  | false => rfl
  | true =>
    obtain ⟨top, broke⟩ := failed rfl
    rw [free top] at broke
    cases broke

/-- The frame at a height goes on as the error of its queue says, or the queue is given up. -/
theorem path_of_handle (error : ScriptError) (settled : ∀ k ∈ n.running.frames, k.script.FromSource ∧ k.NotAtTry)
    {d : Frame} (hd : n.running.frames.reverse[height]? = some d) {failing : Bool}
    (top : failing = true → height + 1 = n.running.frames.length) :
    ∃ c, (d.control failing).Path d.script.code (unwinding n.running.frames height) c ∧
      ∀ k, (n.handle error).frame? n.callers.length height = some k →
        k.script = d.script ∧ ControlAt (n.handle error) n.callers.length k c := by
  obtain ⟨c, path, stays, goes⟩ := path_of_unwinding (trace n.running.frames error) settled hd top
  refine ⟨c, path, fun k hk => ?_⟩
  rw [← callers_handle n error, frame?_running] at hk
  cases caught : catchError (trace n.running.frames error) n.running.frames with
  | none =>
    rcases handle_uncaught caught with ⟨-, e, -, handled⟩ | ⟨-, e, -, -, handled⟩
    · rw [handled] at hk
      cases hk
    · rw [handled] at hk ⊢
      cases hd.symm.trans hk
      exact ⟨rfl, failing, stays caught, fun _ => ⟨rfl, rfl⟩⟩
  | some frames' =>
    have handled : n.handle error = { n with running := { n.running with frames := frames' } } := by
      unfold handle
      dsimp only
      rw [caught]
    rw [handled] at hk ⊢
    obtain ⟨script, rfl⟩ := goes frames' caught k hk
    exact ⟨script, .of_ready⟩

/-! ### Frames after a step -/

theorem le_of_frame? (hf : m.frame? level height = some f) : level ≤ m.callers.length := by
  obtain ⟨_, hstack, -⟩ := Option.bind_eq_some_iff.mp hf
  have inside := (List.getElem?_eq_some_iff.mp hstack).1
  rw [List.length_reverse, frameStacks, List.length_cons, List.length_map] at inside
  exact Nat.le_of_lt_succ inside

/-- The frames of the queue that has started the one at work. -/
theorem frame?_starter {c : Caller} {callers : List Caller} (hc : m.callers = c :: callers) (height : Nat) :
    m.frame? callers.length height = c.queue.frames.reverse[height]? := by
  rw [frame?, frameStacks, hc, List.map_cons, getElem?_reverse_cons, if_neg (by simp), getElem?_reverse_cons,
    if_pos (by simp), Option.bind_some]

/-- The frames of the queues below that are those below any other queue. -/
theorem frame?_below {c : Caller} (hc : m.callers = c :: n.callers) (lt : level < n.callers.length) (height : Nat) :
    m.frame? level height = n.frame? level height := by
  rw [frame?, frame?, frameStacks, frameStacks, hc, List.map_cons, getElem?_reverse_cons, if_neg (by simp; omega),
    getElem?_reverse_cons, if_neg (by simp; omega), getElem?_reverse_cons, if_neg (by simp; omega)]

theorem Sound.frame?_elsewhere (sound : m.Sound Script.FromSource) (next : m.step = .next m')
    (kept : m.running.result.brokeOff = none) (ne : level ≠ m.callers.length) {k : Frame}
    (hf : m.frame? level height = some f) (hk : m'.frame? level height = some k) : k = f := by
  obtain ⟨stack, hstack, hf⟩ := Option.bind_eq_some_iff.mp hf
  obtain ⟨stack', hstack', hk⟩ := Option.bind_eq_some_iff.mp hk
  have notTop : level ≠ (m.callers.map (·.queue.frames)).length := by rwa [List.length_map]
  rw [frameStacks, getElem?_reverse_cons, if_neg notTop] at hstack
  suffices same : stack' = stack by
    rw [same, hf] at hk
    exact (Option.some.inj hk).symm
  cases sound.next Script.closed_fromSource Script.FromSource.ordered next with
  | leaves leaves =>
    obtain ⟨c, waitingOn, hcallers, hrunning⟩ := leaves.callers
    have same : m'.frameStacks = m.callers.map (·.queue.frames) := by
      rw [frameStacks, hcallers, hrunning, List.map_cons]
    rw [same, hstack] at hstack'
    exact (Option.some.inj hstack').symm
  | givesUp givesUp =>
    obtain ⟨_, _, _, broke, -⟩ := givesUp
    cases kept.symm.trans broke
  | goes _ _ _ fate =>
    rw [frameStacks, fate.callers, getElem?_reverse_cons, if_neg notTop, hstack] at hstack'
    exact (Option.some.inj hstack').symm
  | @launches f g below _ _ _ _ _ at_ _ _ _ _ _ _ eq =>
    have above : m'.frameStacks = [m'.running.frames, g :: below] ++ m.callers.map (·.queue.frames) := by
      rw [eq]
      rfl
    rw [above, getElem?_reverse_append hstack] at hstack'
    exact (Option.some.inj hstack').symm

/-- The frames below the innermost one and that itself are as before, where a queue goes on as a command says. -/
theorem frame?_follow {P : Script → Prop} {a : Action} {depth : Nat} {flow : Flow} (fits : flow.Fits P a depth)
    {d k : Frame} (hd : m.running.frames.reverse[height]? = some d)
    (hk : (m.follow flow).frame? m.callers.length height = some k) : k = d := by
  have same : ∀ n : Machine, n.callers = m.callers → n.running.frames = m.running.frames →
      n.frame? m.callers.length height = some k → k = d := fun n callers frames hk => by
    rw [← callers, frame?_running, frames, hd] at hk
    exact (Option.some.inj hk).symm
  cases flow with
  | proceed => exact same m rfl rfl hk
  | pause seconds =>
    rw [follow] at hk
    split at hk
    · exact same _ rfl rfl hk
    · exact same m rfl rfl hk
  | await _ => exact absurd fits id
  | completeFrame => exact absurd fits id
  | stopQueue =>
    have callers : m.stop.callers = m.callers := rfl
    have frames : m.stop.running.frames = [] := rfl
    rw [follow, ← callers, frame?_running, frames] at hk
    cases hk
  | enter script vars =>
    have entered : (m.follow (.enter script vars)).running.frames =
        [Frame.start script vars] ++ m.running.frames := rfl
    have callers : (m.follow (.enter script vars)).callers = m.callers := rfl
    rw [← callers, frame?_running, entered, getElem?_reverse_append hd] at hk
    exact (Option.some.inj hk).symm
  | launch script vars waits =>
    obtain ⟨stack, hstack, hk⟩ := Option.bind_eq_some_iff.mp hk
    have above : (m.follow (.launch script vars waits)).frameStacks =
        [[Frame.start script vars]] ++ m.frameStacks := rfl
    have top : m.frameStacks.reverse[m.callers.length]? = some m.running.frames := by
      rw [frameStacks, getElem?_reverse_cons, if_pos (List.length_map _).symm]
    rw [above, getElem?_reverse_append top] at hstack
    cases hstack
    rw [hd] at hk
    exact (Option.some.inj hk).symm

theorem control_setVars (bindings : Vars) (p : Frame) :
    (bindings.foldl (fun p binding => p.setVar binding.1 binding.2) p).script = p.script ∧
      (bindings.foldl (fun p binding => p.setVar binding.1 binding.2) p).control false = p.control false := by
  induction bindings generalizing p with
  | nil => exact ⟨rfl, rfl⟩
  | cons binding rest ih => exact ih (p.setVar binding.1 binding.2)

/-- The frames that are still there after the innermost one completes stand where they stood. -/
theorem control_completeFrame {q : Queue} {d k : Frame} (hd : q.frames.reverse[height]? = some d)
    (hk : q.completeFrame.frames.reverse[height]? = some k) :
    k.script = d.script ∧ d.control false = k.control false := by
  unfold Queue.completeFrame at hk
  split at hk
  · rw [hd] at hk
    cases hk
    exact ⟨rfl, rfl⟩
  · cases hk
  · rename_i f parent rest frames
    rw [frames] at hd
    have below : (parent :: rest).reverse[height]? = some d := by
      have inside := (List.getElem?_eq_some_iff.mp hk).1
      rw [List.length_reverse] at inside
      have notTop : height ≠ (parent :: rest).length := Nat.ne_of_lt inside
      rwa [getElem?_reverse_cons, if_neg notTop] at hd
    rcases top_or_same below hk with ⟨rfl, rfl⟩ | rfl
    · obtain ⟨script, control⟩ := control_setVars f.bindings (d.setVar "determinations" (.list f.determinations))
      exact ⟨script, control.symm⟩
    · exact ⟨rfl, rfl⟩

theorem Reachable.path_of_execute (h : m.Reachable) (at_ : m.StandsAt g below entry)
    (hf : m.running.frames.reverse[height]? = some f) :
    ∃ c, (f.control false).Path f.script.code (m.passages m.callers.length height) c ∧
      ∀ k, (m.awake.execute g below entry).frame? m.callers.length height = some k →
        k.script = f.script ∧ ControlAt (m.awake.execute g below entry) m.callers.length k c := by
  have sound := h.sound
  have stack := sound.running
  rw [at_.frames] at stack hf
  have done := performs (m := m.awake) Script.closed_fromSource Script.FromSource.ordered below sound.gives
    (stack.sound g List.mem_cons_self) at_.here
  rw [execute_eq]
  generalize performed : m.awake.perform g below entry = p at done
  obtain ⟨r, e, g'⟩ := p
  rw [at_.passages height performed]
  have runs := sound.runs at_ performed
  -- The instruction moves its own frame, and the frames below stay where they are.
  obtain ⟨d, failing, hd, script, top, first, ok⟩ : ∃ (d : Frame) (failing : Bool),
      (g' :: below).reverse[height]? = some d ∧ d.script = f.script ∧
      (failing = true → height + 1 = (g' :: below).length) ∧
      (f.control false).Path f.script.code (if height = below.length then [.ran g.pc g'.pc !r.isOk] else [])
        (d.control failing) ∧ (r.isOk = true → failing = false) := by
    rw [getElem?_reverse_cons] at hf ⊢
    by_cases here : height = below.length
    · rw [if_pos here] at hf
      cases hf
      rw [if_pos here, if_pos here]
      exact ⟨g', !r.isOk, rfl, done.script, fun _ => by rw [here, List.length_cons],
        .cons (.ran rfl runs) (.nil _), fun ok => by rw [ok]; rfl⟩
    · rw [if_neg here] at hf ⊢
      rw [if_neg here]
      exact ⟨f, false, hf, rfl, fun h => absurd h Bool.false_ne_true, .nil _, fun _ => rfl⟩
  cases r with
  | ok flow =>
    obtain ⟨c, -, fits⟩ := done.flow flow rfl
    cases ok rfl
    refine ⟨_, first.append (.nil _), fun k hk => ?_⟩
    cases frame?_follow (m := m.awake.withFrames e (g' :: below)) fits hd hk
    exact ⟨script, .of_ready⟩
  | error error =>
    have raises : m.Raises g below entry error (m.awake.withFrames e (g' :: below)) := ⟨at_, e, g', performed, rfl⟩
    obtain ⟨c, second, goes⟩ := path_of_handle error (Fails.notAtTry h (.raises raises)) hd top
    rw [script] at second goes
    exact ⟨c, first.append second, goes⟩

/-- Where the queue at work is given up, the frames of the one that has started it go on as its error says. -/
theorem Reachable.path_of_givesUp (h : m.Reachable) (givesUp : m.GivesUp m') (hf : m.frame? level height = some f)
    {c : Control} (at_ : ControlAt m level f c) : ∃ d, c.Path f.script.code (m.passages level height) d ∧
      ∀ k, m'.frame? level height = some k → k.script = f.script ∧ ControlAt m' level k d := by
  rw [passages_of_left givesUp.left, passagesGivenUp]
  obtain ⟨failure, starter, callers, broke, hc, rfl⟩ := givesUp
  rw [hc, broke]
  dsimp only
  by_cases here : callers.length = level
  · subst here
    rw [if_pos rfl]
    rw [frame?_starter hc] at hf
    obtain rfl := at_.ready fun top => by
      rw [hc, List.length_cons] at top
      omega
    obtain ⟨g, below, entry, hframes, behind, -⟩ :=
      (h.launching starter (by rw [hc]; exact List.mem_cons_self)).behind
    have settled := Fails.notAtTry h (n := ⟨m.engine, starter.queue, callers⟩)
      (.givenUp broke hc hframes behind rfl rfl)
    exact path_of_handle (n := ⟨m.engine, starter.queue, callers⟩) failure.toScriptError settled hf
      fun failed => absurd failed Bool.false_ne_true
  · rw [if_neg here]
    refine ⟨c, .nil _, fun k hk => ?_⟩
    have inside := le_of_frame? hk
    have others : (handle ⟨m.engine, starter.queue, callers⟩ failure.toScriptError).callers = callers :=
      callers_handle _ _
    rw [others] at inside
    obtain rfl := at_.ready fun top => by
      rw [hc, List.length_cons] at top
      omega
    rw [frame?_below (hc.trans (by rw [others])) (by rw [others]; omega), hk] at hf
    cases hf
    exact ⟨rfl, .of_ready⟩

/-- The passages of a step are the way of control that its frame goes. -/
theorem Reachable.path_of_step (h : m.Reachable) (next : m.step = .next m') (hf : m.frame? level height = some f)
    {c : Control} (at_ : ControlAt m level f c) : ∃ d, c.Path f.script.code (m.passages level height) d ∧
      ∀ k, m'.frame? level height = some k → k.script = f.script ∧ ControlAt m' level k d := by
  have elsewhere : m.running.result.brokeOff = none → level ≠ m.callers.length →
      ∃ d, c.Path f.script.code (m.passages level height) d ∧
        ∀ k, m'.frame? level height = some k → k.script = f.script ∧ ControlAt m' level k d := fun kept ne => by
    obtain rfl := at_.ready fun top => absurd top ne
    rw [passages_of_ne kept ne]
    refine ⟨_, .nil _, fun k hk => ?_⟩
    cases h.sound.frame?_elsewhere next kept ne hf hk
    exact ⟨rfl, .of_ready⟩
  rcases step_cases next with
    (leaves | givesUp) | ⟨free, ⟨hnil, rfl⟩ | ⟨g, below, frames, finished, rfl⟩ | ⟨g, below, entry, stands, rfl⟩⟩
  · by_cases atWork : level = m.callers.length
    · obtain ⟨q, left, -⟩ := leaves.left
      obtain ⟨starter, _, hcallers, -⟩ := leaves.callers
      rw [passages_of_left left, passagesGivenUp_of_kept leaves.kept]
      refine ⟨_, .nil _, fun k hk => ?_⟩
      -- The level of the queue that is left is gone.
      have inside := le_of_frame? hk
      rw [atWork, hcallers, List.length_cons] at inside
      exact absurd inside (Nat.not_succ_le_self _)
    · exact elsewhere leaves.kept atWork
  · exact h.path_of_givesUp givesUp hf at_
  all_goals have kept := (left?_eq_none.mp free).2.1
  all_goals by_cases atWork : level = m.callers.length
  all_goals try exact elsewhere kept atWork
  all_goals
    subst atWork
    obtain rfl := at_.ready fun _ => kept
    rw [frame?_running] at hf
  · rw [hnil] at hf
    cases hf
  · rw [passages_of_finished kept frames finished]
    refine ⟨_, .nil _, fun k hk => ?_⟩
    have completed := frame?_running { m.awake with running := m.awake.running.completeFrame } height
    obtain ⟨script, control⟩ := control_completeFrame (q := m.awake.running) hf (completed.symm.trans hk)
    exact ⟨script, control ▸ .of_ready⟩
  · obtain ⟨d, path, goes⟩ := h.path_of_execute stands hf
    exact ⟨d, path, goes⟩

/-! ### Histories -/

/-- The passages of a frame since it began, in the machine that comes up with them. The frame stands at a height of the
    stack at a level, and may be gone in the end. -/
inductive History (script : Script) : (m : Machine) → (level height : Nat) → List Passage → Prop
  | begins {m : Machine} {level height : Nat} {vars : Vars} (reachable : m.Reachable)
    (frame : m.frame? level height = some (Frame.start script vars)) : History script m level height []
  | step {m m' : Machine} {level height : Nat} {passages : List Passage} (h : History script m level height passages)
    (there : (m.frame? level height).isSome = true) (next : m.step = .next m') :
    History script m' level height (passages ++ m.passages level height)
  /-- A queue that goes on later is the outermost then. -/
  | resume {m : Machine} {height : Nat} {passages : List Passage}
    (h : History script m m.callers.length height passages) {e : Engine} (engine : e.FromSource) (wait : Float)
    (waitingOn : Option Gate) :
    History script ⟨e, { m.running with wait := wait, waitingOn := waitingOn }, []⟩ 0 height passages

theorem History.reachable {script : Script} {passages : List Passage} (h : History script m level height passages) :
    m.Reachable := by
  induction h with
  | begins reachable => exact reachable
  | step _ _ next ih => exact ih.step next
  | resume _ engine wait waitingOn ih => exact ih.resume engine wait waitingOn

theorem Sound.of_frame? {P : Script → Prop} (sound : m.Sound P) (hf : m.frame? level height = some f) :
    f.Sound P := by
  obtain ⟨stack, hstack, hf⟩ := Option.bind_eq_some_iff.mp hf
  have stackMem := List.mem_reverse.mp (List.mem_of_getElem? hstack)
  have mem := List.mem_reverse.mp (List.mem_of_getElem? hf)
  rcases List.mem_cons.mp stackMem with rfl | stackMem
  · exact sound.running.sound f mem
  · obtain ⟨c, hc, rfl⟩ := List.mem_map.mp stackMem
    exact (sound.callers c hc).sound f mem

/-- The passages of a frame are a way of control from the begin of its script. -/
theorem History.path {script : Script} {passages : List Passage} (h : History script m level height passages) :
    script.FromSource ∧ ∃ c, Control.Path script.code ⟨0, fun _ => false, false⟩ passages c ∧
      ∀ f, m.frame? level height = some f → f.script = script ∧ ControlAt m level f c := by
  induction h with
  | @begins m level height vars reachable frame =>
    have hscript := (Frame.start_place script vars).2.1
    have source := (reachable.sound.of_frame? frame).script
    rw [hscript] at source
    refine ⟨source, _, .nil _, fun f hf => ?_⟩
    rw [frame] at hf
    cases hf
    exact ⟨hscript, Frame.control_start script vars ▸ .of_ready⟩
  | step before there next ih =>
    obtain ⟨source, c, path, at_⟩ := ih
    obtain ⟨f, hf⟩ := Option.isSome_iff_exists.mp there
    obtain ⟨rfl, here⟩ := at_ f hf
    obtain ⟨d, more, goes⟩ := before.reachable.path_of_step next hf here
    exact ⟨source, d, path.append more, goes⟩
  | resume _ _ _ _ ih =>
    obtain ⟨source, c, path, at_⟩ := ih
    refine ⟨source, c, path, fun f hf => ?_⟩
    rw [frame?_resume] at hf
    obtain ⟨script, failing, control, failed⟩ := at_ f hf
    exact ⟨script, failing, control, fun h => ⟨rfl, (failed h).2⟩⟩

theorem new_of_progress {P : Script → Prop} {frames frames' : List Frame} (p : Progress P frames frames')
    (absent : frames.length ≤ height) (hf : frames'.reverse[height]? = some f) :
    ∃ script vars, f = Frame.start script vars := by
  have present := (List.getElem?_eq_some_iff.mp hf).1
  rw [List.length_reverse] at present
  cases p with
  | moved => exact absurd (Nat.lt_of_lt_of_le present absent) (Nat.lt_irrefl _)
  | @entered _ g below script vars =>
    have here : height = (g :: below).length := Nat.le_antisymm (Nat.le_of_lt_succ present) absent
    rw [getElem?_reverse_cons, if_pos here] at hf
    exact ⟨script, vars, (Option.some.inj hf).symm⟩
  | left =>
    rw [List.length_append, List.length_cons] at absent
    rw [List.length_cons] at present
    omega
  | ended => exact absurd present (Nat.not_lt_zero _)

theorem length_handle_le (n : Machine) (error : ScriptError) :
    (n.handle error).running.frames.length ≤ n.running.frames.length := by
  rcases handle_cases n error with ⟨above, _, below, _, frames, -, handled⟩ | ⟨_, -, handled⟩ | ⟨_, -, -, handled⟩
  · rw [handled, frames, List.length_append]
    exact Nat.le_add_left _ _
  · rw [handled]
    exact Nat.zero_le _
  · rw [handled]
    exact Nat.le_refl _

/-- A frame that is new in a step is the begin of a script. -/
theorem Sound.frame?_new (sound : m.Sound Script.FromSource) (next : m.step = .next m')
    (none : m.frame? level height = none) (hf : m'.frame? level height = some f) :
    ∃ script vars, f = Frame.start script vars := by
  obtain ⟨stack, hstack, hf⟩ := Option.bind_eq_some_iff.mp hf
  have present := (List.getElem?_eq_some_iff.mp hf).1
  have absent : ∀ old, m.frameStacks.reverse[level]? = some old → old.length ≤ height := fun old hold => by
    rw [frame?, hold, Option.bind_some, List.getElem?_eq_none_iff, List.length_reverse] at none
    exact none
  rw [List.length_reverse] at present
  cases sound.next Script.closed_fromSource Script.FromSource.ordered next with
  | leaves leaves =>
    obtain ⟨c, waitingOn, hcallers, hrunning⟩ := leaves.callers
    have above : m.frameStacks = [m.running.frames] ++ m'.frameStacks := by
      rw [frameStacks, frameStacks, hcallers, hrunning, List.map_cons, List.singleton_append]
    have := absent stack (by rw [above]; exact getElem?_reverse_append hstack _)
    omega
  | givesUp givesUp =>
    obtain ⟨failure, c, callers, -, hc, rfl⟩ := givesUp
    have above : m.frameStacks = [m.running.frames] ++ (c.queue.frames :: callers.map (·.queue.frames)) := by
      rw [frameStacks, hc, List.map_cons, List.singleton_append]
    rw [frameStacks, callers_handle, getElem?_reverse_cons] at hstack
    rw [above] at absent
    split at hstack
    · rename_i top
      cases hstack
      have := absent c.queue.frames (getElem?_reverse_append (by rw [getElem?_reverse_cons, if_pos top]) _)
      have := length_handle_le ⟨m.engine, c.queue, callers⟩ failure.toScriptError
      dsimp only at this
      omega
    · rename_i notTop
      have := absent stack (getElem?_reverse_append (by rw [getElem?_reverse_cons, if_neg notTop]; exact hstack) _)
      omega
  | goes _ progress _ fate =>
    rw [frameStacks, fate.callers, getElem?_reverse_cons] at hstack
    rw [frameStacks, getElem?_reverse_cons] at absent
    split at hstack
    · rename_i top
      cases hstack
      exact new_of_progress progress (absent _ (if_pos top)) hf
    · rename_i notTop
      have := absent stack (by rw [if_neg notTop]; exact hstack)
      omega
  | @launches g g' below script vars _ _ _ at_ _ _ _ _ _ _ eq =>
    have above : m'.frameStacks = [Frame.start script vars] :: (g' :: below) :: m.callers.map (·.queue.frames) := by
      rw [eq]
      rfl
    rw [above, getElem?_reverse_cons] at hstack
    split at hstack
    · cases hstack
      have here : height = 0 := Nat.lt_one_iff.mp present
      rw [here] at hf
      exact ⟨script, vars, (Option.some.inj hf).symm⟩
    · rw [frameStacks, at_.frames, getElem?_reverse_cons] at absent
      rw [getElem?_reverse_cons] at hstack
      split at hstack
      · rename_i top
        cases hstack
        -- The queue that starts another has as many frames as before.
        have : below.length + 1 ≤ height := absent _ (if_pos top)
        rw [List.length_cons] at present
        omega
      · rename_i notTop
        have := absent stack (by rw [if_neg notTop]; exact hstack)
        omega

theorem Reachable.exists_history (h : m.Reachable) (hf : m.frame? level height = some f) :
    ∃ script passages, History script m level height passages := by
  induction h generalizing level height f with
  | @start e engine script source vars delayable ownOutput =>
    have reachable := Reachable.start engine source vars delayable ownOutput
    obtain rfl := Nat.le_zero.mp (le_of_frame? hf)
    have only := (frame?_running ⟨(e.newQueue script vars delayable ownOutput).2,
      (e.newQueue script vars delayable ownOutput).1, []⟩ height).symm.trans hf
    cases List.mem_singleton.mp (List.mem_of_getElem? only)
    exact ⟨script, [], .begins reachable hf⟩
  | @step m m' before next ih =>
    cases there : m.frame? level height with
    | some g =>
      obtain ⟨script, passages, history⟩ := ih there
      exact ⟨script, _, history.step (by rw [there]; rfl) next⟩
    | none =>
      obtain ⟨script, vars, rfl⟩ := before.sound.frame?_new next there hf
      exact ⟨script, [], .begins (before.step next) hf⟩
  | @resume m before e engine wait waitingOn ih =>
    obtain rfl := Nat.le_zero.mp (le_of_frame? hf)
    rw [frame?_resume] at hf
    obtain ⟨script, passages, history⟩ := ih hf
    exact ⟨script, passages, history.resume engine wait waitingOn⟩

/-! ### Histories that are computed -/

/-- The passages of some steps in a row, and the machine that they lead to, as long as the frame is there. -/
def trail? (m : Machine) (level height : Nat) : (steps : Nat) → Option (Machine × List Passage)
  | 0 => some (m, [])
  | steps + 1 =>
    if (m.frame? level height).isSome then
      match m.step with
      | .next m' => (m'.trail? level height steps).map fun (n, more) => (n, m.passages level height ++ more)
      | .rest _ _ => none
    else none

theorem History.of_trail? {script : Script} {passages more : List Passage} {steps : Nat}
    (h : History script m level height passages) (ht : m.trail? level height steps = some (n, more)) :
    History script n level height (passages ++ more) := by
  induction steps generalizing m passages more with
  | zero =>
    cases ht
    rwa [List.append_nil]
  | succ steps ih =>
    rw [trail?] at ht
    split at ht
    · rename_i there
      split at ht
      · rename_i m' next
        obtain ⟨⟨n', rest⟩, htrail, heq⟩ := Option.map_eq_some_iff.mp ht
        cases heq
        have later := ih (h.step there next) htrail
        rwa [List.append_assoc] at later
      · cases ht
    · cases ht

/-- The first steps of a source text that begins to run, in an engine that has nothing but the built-in commands and
    types: its script, the machine they lead to and the passages of its frame. -/
def trailOfSource? (source : String) (steps : Nat) : Option (Script × Machine × List Passage) :=
  (Script.ofSource .builtin "main" source []).toOption.bind fun s =>
    (trail? ⟨(Engine.newQueue { registries := .builtin } s [] false false).2,
      (Engine.newQueue { registries := .builtin } s [] false false).1, []⟩ 0 0 steps).map fun t => (s, t)

theorem history_of_trailOfSource? {source : String} {steps : Nat} {script : Script} {passages : List Passage}
    (h : trailOfSource? source steps = some (script, m, passages)) : History script m 0 0 passages := by
  obtain ⟨s, hs, ht⟩ := Option.bind_eq_some_iff.mp h
  obtain ⟨t, ht, heq⟩ := Option.map_eq_some_iff.mp ht
  cases heq
  have reachable := Reachable.start Engine.fromSource_new (.source rfl (toOption_eq_some.mp hs)) [] false false
  have begins : History script _ 0 0 [] := .begins reachable rfl
  exact begins.of_trail? ht

end Machine

/-! ### What the marks say -/

namespace Machine

variable {m : Machine} {level height : Nat} {f : Frame}

/-- Every frame that comes up has a history. -/
theorem Reachable.exists_passages (h : m.Reachable) (hf : m.frame? level height = some f) :
    ∃ passages, History f.script m level height passages := by
  obtain ⟨script, passages, history⟩ := h.exists_history hf
  obtain ⟨-, _, -, at_⟩ := history.path
  obtain ⟨rfl, -⟩ := at_ f hf
  exact ⟨passages, history⟩

/-- A part of a history is a way of control. -/
theorem History.path_of_part {script : Script} {passages : List Passage} (h : History script m level height passages)
    {before part after : List Passage} (split : passages = before ++ part ++ after) :
    script.code.Ordered ∧ ∃ c d, Control.Path script.code c part d := by
  obtain ⟨source, c, path, -⟩ := h.path
  rw [split] at path
  obtain ⟨d, path, -⟩ := path.exists_of_append
  obtain ⟨d', -, path⟩ := path.exists_of_append
  exact ⟨source.ordered, d', d, path⟩

/-- A `catch` is entered only if its `try` has caught an error since control last fell into the block of that. -/
theorem History.catch_entered {script : Script} {passages : List Passage} (h : History script m level height passages)
    {before after : List Passage} {index next : Nat} {failing : Bool}
    (split : passages = before ++ .ran index next failing :: after) (name : script.code.name? index = some "catch")
    (entered : script.code.Inside index next) :
    ∃ owner, script.code.link? index = some owner ∧ script.code.name? owner = some "try" ∧
      ∃ earlier place later, before = earlier ++ .caught place (script.code.block owner).stop :: later ∧
        script.code.Inside owner place ∧ ∀ p ∈ later, ¬p.FallsInto script.code owner := by
  obtain ⟨source, c, path, -⟩ := h.path
  have ordered := source.ordered
  rw [split] at path
  obtain ⟨d, first, more⟩ := path.exists_of_append
  cases more with
  | cons step =>
    cases step with
    | ran ready runs =>
      have here := runs.here
      rw [Code.name?_eq here, Option.some.injEq] at name
      obtain ⟨owner, link, taken⟩ := runs.handler name entered
      have hl : script.code.link? d.pc = some owner := by rw [Code.link?_eq here, link]
      obtain ⟨e, o, he, -, ho, command, may⟩ := ordered.linked hl
      rw [here] at he
      cases he
      rcases mayFollow_builtin.mp may with ⟨other, -⟩ | ⟨-, try_⟩
      · rw [name] at other
        exact absurd other (by decide)
      · refine ⟨owner, hl, by rw [Code.name?_eq ho, try_], ?_⟩
        rcases first.attempt ordered ho try_ command taken with ⟨set, -⟩ | caught
        · cases set
        · exact caught

/-- Every frame that comes up has a history, and in every history, a pass through a chain of branches runs at most one
    of the blocks if it begins at a branch or in the last block, and at most one more than the block that it begins in
    otherwise, as long as no `goto` leads from outside into a block; and a `catch` is entered only if its `try` has
    caught an error since control last fell into the block of that. -/
theorem Reachable.branches_reflect_runs (h : m.Reachable) :
    (∀ level height f, m.frame? level height = some f → ∃ passages, History f.script m level height passages) ∧
    ∀ script level height passages, History script m level height passages →
      (∀ heads before pass after, script.code.Chain heads → passages = before ++ pass ++ after →
        script.code.Pass heads pass →
          (∀ index next failing rest, pass = .ran index next failing :: rest → script.code.EnteredAt heads index →
            ∃ head, script.code.RunsOnly heads pass head) ∧
          ∃ first head, ∀ p ∈ pass, ∀ other ∈ heads, p.RunsIn script.code other → other = first ∨ other = head) ∧
      ∀ before index next failing after, passages = before ++ .ran index next failing :: after →
        script.code.name? index = some "catch" → script.code.Inside index next →
          ∃ owner, script.code.link? index = some owner ∧ script.code.name? owner = some "try" ∧
            ∃ earlier place later, before = earlier ++ .caught place (script.code.block owner).stop :: later ∧
              script.code.Inside owner place ∧ ∀ p ∈ later, ¬p.FallsInto script.code owner := by
  refine ⟨fun level height f hf => h.exists_passages hf, fun script level height passages history => ⟨?_, ?_⟩⟩
  · intro heads before pass after chain split hpass
    obtain ⟨ordered, c, d, path⟩ := history.path_of_part split
    refine ⟨fun index next failing rest begins entered => ?_, path.runs_one_more chain ordered hpass⟩
    subst begins
    exact path.runs_once chain ordered hpass entered
  · intro before index next failing after split name entered
    exact history.catch_entered split name entered

/-- A script that enters the first of two branches, and the block for an error. -/
theorem Reachable.branches_reflect_runs_ifAndTry : ∃ (m : Machine) (script : Script) (passages : List Passage),
    m.Reachable ∧ History script m 0 0 passages ∧ script.code.Chain [0, 2] ∧
      passages = [.ran 0 1 false, .ran 1 2 false, .ran 2 4 false, .ran 4 5 false, .ran 5 6 true, .caught 5 6,
        .ran 6 7 false, .ran 7 8 false, .ran 8 9 false] ∧
      (∃ head, script.code.RunsOnly [0, 2] (passages.take 3) head) ∧
      ∃ owner, script.code.link? 7 = some owner ∧ script.code.name? owner = some "try" := by
  have found : (trailOfSource? "if true { echo a } else { echo b }; try { error x } catch { echo c }" 8).any
      (fun (s, _, passages) =>
        passages = [.ran 0 1 false, .ran 1 2 false, .ran 2 4 false, .ran 4 5 false, .ran 5 6 true, .caught 5 6,
          .ran 6 7 false, .ran 7 8 false, .ran 8 9 false] &&
        s.code.name? 0 = some "if" && s.code.name? 2 = some "else" && s.code.link? 2 = some 0 &&
        (∀ p ∈ [Passage.ran 0 1 false, .ran 1 2 false, .ran 2 4 false], p.Within s.code [0, 2]) &&
        (∀ p ∈ [Passage.ran 0 1 false, .ran 1 2 false, .ran 2 4 false], p.Orderly s.code [0, 2]) &&
        s.code.name? 7 = some "catch" && s.code.Inside 7 8) = true := by
    decide +kernel
  obtain ⟨⟨s, m, passages⟩, htrail, found⟩ := (Option.any_eq_true _ _).mp found
  simp only [Bool.and_eq_true, decide_eq_true_eq] at found
  obtain ⟨⟨⟨⟨⟨⟨⟨rfl, first⟩, second⟩, link⟩, within⟩, orderly⟩, handler⟩, entered⟩ := found
  have history := history_of_trailOfSource? htrail
  have chain : s.code.Chain [0, 2] := ⟨by simp [first, second], by simp [link]⟩
  obtain ⟨once, caught⟩ := (Reachable.branches_reflect_runs history.reachable).2 s 0 0 _ history
  have runs := (once [0, 2] [] _ _ chain (List.take_append_drop 3 _).symm ⟨within, orderly⟩).1 0 1 false _ rfl
    (Or.inl List.mem_cons_self)
  obtain ⟨owner, hl, name, -⟩ := caught _ 7 8 false _ (List.take_append_drop 7 _).symm handler entered
  exact ⟨m, s, _, history.reachable, history, chain, rfl, runs, owner, hl, name⟩

/-- A `goto` into the first of two branches leaves the second one to be run as well. -/
theorem Reachable.branches_run_twice : ∃ (m : Machine) (script : Script) (pass : List Passage), m.Reachable ∧
    History script m 0 0 (.ran 0 3 false :: pass) ∧ script.code.name? 0 = some "goto" ∧ script.code.Chain [1, 4] ∧
      script.code.Pass [1, 4] pass ∧ ¬∃ head, script.code.RunsOnly [1, 4] pass head := by
  have found : (trailOfSource? "goto a; if false { mark a; echo one } else { echo two }" 4).any
      (fun (s, _, passages) =>
        passages = [.ran 0 3 false, .ran 3 4 false, .ran 4 5 false, .ran 5 6 false] && s.code.name? 0 = some "goto" &&
        s.code.name? 1 = some "if" && s.code.name? 4 = some "else" && s.code.link? 4 = some 1 &&
        (∀ p ∈ [Passage.ran 3 4 false, .ran 4 5 false, .ran 5 6 false], p.Within s.code [1, 4]) &&
        (∀ p ∈ [Passage.ran 3 4 false, .ran 4 5 false, .ran 5 6 false], p.Orderly s.code [1, 4]) &&
        s.code.Inside 1 3 && s.code.Inside 4 5) = true := by
    decide +kernel
  obtain ⟨⟨s, m, passages⟩, htrail, found⟩ := (Option.any_eq_true _ _).mp found
  simp only [Bool.and_eq_true, decide_eq_true_eq] at found
  obtain ⟨⟨⟨⟨⟨⟨⟨⟨rfl, goto⟩, first⟩, second⟩, link⟩, within⟩, orderly⟩, inFirst⟩, inSecond⟩ := found
  have history := history_of_trailOfSource? htrail
  refine ⟨m, s, _, history.reachable, history, goto, ⟨by simp [first, second], by simp [link]⟩, ⟨within, orderly⟩, ?_⟩
  rintro ⟨head, only⟩
  have one := only (.ran 3 4 false) (by simp) 1 (by simp) inFirst
  have two := only (.ran 5 6 false) (by simp) 4 (by simp) inSecond
  cases one.trans two.symm

end Machine

end CommandScript
