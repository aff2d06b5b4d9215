import CommandScript.Proofs.Branches.Histories
import CommandScript.Proofs.Machine.Spares

/-! What a step makes of one frame that stays. It is left alone, runs its own instruction, catches an error, or gets
    what the frame above it hands back. Whatever stands above it then, the frames below an innermost one are left
    alone. -/

namespace CommandScript

/-! ### What a frame hands back -/

namespace Frame

/-- A frame with several variables set, one after another. -/
def setVars (f : Frame) (vars : Vars) : Frame :=
  vars.foldl (fun f b => f.setVar b.1 b.2) f

/-- What a frame that ends hands to the one below it: its determinations, and then its variables. -/
def handed (f : Frame) : Vars :=
  ("determinations", .list f.determinations) :: f.bindings

theorem setVars_eq (f : Frame) (vars : Vars) :
    f.setVars vars = { f with vars := vars.foldl (fun vars (name, v) => setKey name v vars) f.vars } := by
  induction vars generalizing f with
  | nil => rfl
  | cons b rest ih => exact ih (f.setVar b.1 b.2)

theorem lookup_setVars_of_notMem (f : Frame) {vars : Vars} {name : String} (h : name ∉ vars.map (·.1)) :
    (f.setVars vars).vars.lookup name = f.vars.lookup name := by
  induction vars generalizing f with
  | nil => rfl
  | cons b rest ih =>
    rw [List.map_cons, List.mem_cons, not_or] at h
    exact (ih (f.setVar b.1 b.2) h.2).trans (lookup_setKey_ne h.1 _ _)

end Frame

/-- The frame below gets what the innermost one hands back. -/
theorem Queue.completeFrame_eq {q : Queue} {f parent : Frame} {rest : List Frame}
    (frames : q.frames = f :: parent :: rest) :
    q.completeFrame = { q with frames := parent.setVars f.handed :: rest } := by
  unfold Queue.completeFrame
  rw [frames]
  rfl

namespace Machine

variable {m m' : Machine} {level height : Nat} {f g k : Frame} {below : List Frame} {entry : Entry}

/-! ### One step -/

/-- The innermost frame of the queue at work has come to the end of its script. -/
structure Finishes (m : Machine) (f : Frame) (below : List Frame) : Prop where
  free : m.left? = none
  frames : m.running.frames = f :: below
  finished : f.script.code.entries[f.pc]? = none

theorem Finishes.step (h : m.Finishes f below) :
    m.step = .next { m.awake with running := m.awake.running.completeFrame } := by
  simp only [step_of_free h.free, h.frames, h.finished]

/-- The frame at a height of the stack at a level is the innermost of the queue at work, which nothing keeps from
    running. -/
structure Runs (m : Machine) (level height : Nat) : Prop where
  free : m.left? = none
  own : level = m.callers.length
  top : m.running.frames.length = height + 1

/-- What a step makes of the frame `f` at a height of the stack at a level, if it stays. -/
inductive Turns (m m' : Machine) (level height : Nat) (f : Frame) : Frame → Prop
  /-- It is left alone. -/
  | alone (idle : ¬m.Runs level height) : Turns m m' level height f f
  /-- Its own instruction runs. It may catch an error of that itself. -/
  | runs {below : List Frame} {entry : Entry} {r : Except ScriptError Flow} {e : Engine} {g k : Frame}
    (at_ : m.StandsAt f below entry) (own : level = m.callers.length) (top : height = below.length)
    (performed : m.awake.perform f below entry = (r, e, g))
    (after : k = g ∨ ∃ target text, k = caughtAt g target text) : Turns m m' level height f k
  /-- It catches an error of a frame above it. -/
  | catches (idle : ¬m.Runs level height) (target : Nat) (text : String) (own : level = m'.callers.length)
    (top : m'.running.frames.length = height + 1) : Turns m m' level height f (caughtAt f target text)
  /-- The frame above it comes to its end. -/
  | returns {d : Frame} {rest : List Frame} (finishes : m.Finishes d (f :: rest)) (own : level = m'.callers.length)
    (top : m'.running.frames.length = height + 1) : Turns m m' level height f (f.setVars d.handed)

theorem frame?_eq_none (h : m.running.frames.length ≤ height) : m.frame? m.callers.length height = none := by
  rw [frame?_running, List.getElem?_eq_none_iff, List.length_reverse]
  exact h

/-- The frames of a stack below one that is there before and after a step are left alone. -/
theorem Turns.eq_of_lt (turns : Turns m m' level height f k) {higher : Nat} (lt : height < higher)
    (before : (m.frame? level higher).isSome = true) (after : (m'.frame? level higher).isSome = true) : k = f := by
  cases turns with
  | alone => rfl
  | runs at_ own top =>
    rw [own, frame?_eq_none (by rw [at_.frames, List.length_cons]; omega)] at before
    cases before
  | catches _ _ _ own top | returns _ own top =>
    rw [own, frame?_eq_none (by omega)] at after
    cases after

/-- A stack after its innermost frame has come to its end. -/
theorem Finishes.turns (h : m.Finishes g below) (hf : m.running.frames.reverse[height]? = some f)
    (hk : frame? { m.awake with running := m.awake.running.completeFrame } m.callers.length height = some k) :
    Turns m { m.awake with running := m.awake.running.completeFrame } m.callers.length height f k := by
  have hk := (frame?_running { m.awake with running := m.awake.running.completeFrame } height).symm.trans hk
  have frames : m.awake.running.frames = g :: below := h.frames
  cases below with
  | nil =>
    rw [Queue.completeFrame, frames] at hk
    cases hk
  | cons parent rest =>
    have completed := Queue.completeFrame_eq frames
    rw [completed] at hk
    have there : (parent :: rest).reverse[height]? = some f := by
      have inside := (List.getElem?_eq_some_iff.mp hk).1
      rw [List.length_reverse] at inside
      have notTop : height ≠ (parent :: rest).length := Nat.ne_of_lt inside
      rwa [h.frames, getElem?_reverse_cons, if_neg notTop] at hf
    rw [getElem?_reverse_cons] at hk there
    split at hk
    · rename_i top
      rw [if_pos top] at there
      cases hk
      cases there
      refine .returns h rfl ?_
      rw [completed, top]
      rfl
    · rename_i notTop
      rw [if_neg notTop, hk] at there
      cases there
      refine .alone fun runs => ?_
      have inside := (List.getElem?_eq_some_iff.mp hk).1
      have top := runs.top
      rw [h.frames, List.length_cons, List.length_cons] at top
      rw [List.length_reverse] at inside
      omega

/-- The frames of a queue that goes on with an error are left alone but for the one that catches it. -/
theorem frame?_handle {error : ScriptError} {d : Frame} (hd : m.running.frames.reverse[height]? = some d)
    (hk : (m.handle error).frame? m.callers.length height = some k) :
    k = d ∨ (∃ target text, k = caughtAt d target text) ∧ (m.handle error).callers = m.callers ∧
      (m.handle error).running.frames.length = height + 1 := by
  cases caught : catchError (trace m.running.frames error) m.running.frames with
  | none =>
    rw [← callers_handle m error, frame?_running] at hk
    rcases handle_uncaught caught with ⟨-, e, -, handled⟩ | ⟨-, e, -, -, handled⟩
    · rw [handled] at hk
      cases hk
    · rw [handled] at hk
      exact Or.inl (Option.some.inj (hk.symm.trans hd))
  | some frames =>
    have handled : m.handle error = { m with running := { m.running with frames := frames } } := by
      unfold handle
      dsimp only
      rw [caught]
    obtain ⟨above, c, below, target, stack, -, rfl⟩ := catchError_eq_some caught
    rw [handled] at hk ⊢
    have hk := (frame?_running { m with running := { m.running with
      frames := caughtAt c target (trace m.running.frames error) :: below } } height).symm.trans hk
    have there : (c :: below).reverse[height]? = some d := by
      have inside := (List.getElem?_eq_some_iff.mp hk).1
      rw [List.length_reverse, List.length_cons] at inside
      rw [stack, List.reverse_append, List.getElem?_append_left (by simpa using inside)] at hd
      exact hd
    rw [getElem?_reverse_cons] at hk there
    split at hk
    · rename_i top
      rw [if_pos top] at there
      cases hk
      cases there
      exact Or.inr ⟨⟨target, _, rfl⟩, rfl, by rw [top]; rfl⟩
    · rename_i notTop
      rw [if_neg notTop, hk] at there
      exact Or.inl (Option.some.inj there)

/-- A stack after the instruction of its innermost frame. -/
theorem Sound.turns_execute (sound : m.Sound Script.FromSource) (at_ : m.StandsAt g below entry)
    (hf : m.running.frames.reverse[height]? = some f)
    (hk : (m.awake.execute g below entry).frame? m.callers.length height = some k) :
    Turns m (m.awake.execute g below entry) m.callers.length height f k := by
  have stack := sound.running
  rw [at_.frames] at stack hf
  have done := performs (m := m.awake) Script.closed_fromSource Script.FromSource.ordered below sound.gives
    (stack.sound g List.mem_cons_self) at_.here
  rw [execute_eq] at hk ⊢
  generalize performed : m.awake.perform g below entry = p at done hk
  obtain ⟨r, e, g'⟩ := p
  -- The instruction changes its own frame; then the queue goes on.
  have onward : ∀ d, (g' :: below).reverse[height]? = some d →
      k = d ∨ (∃ target text, k = caughtAt d target text) ∧
        (m.awake.conclude below (r, e, g')).callers = m.callers ∧
        (m.awake.conclude below (r, e, g')).running.frames.length = height + 1 := fun d hd => by
    cases r with
    | ok flow =>
      obtain ⟨c, -, fits⟩ := done.flow flow rfl
      exact Or.inl (frame?_follow (m := m.awake.withFrames e (g' :: below)) fits hd hk)
    | error error => exact frame?_handle (m := m.awake.withFrames e (g' :: below)) hd hk
  rw [getElem?_reverse_cons] at hf
  by_cases here : height = below.length
  · rw [if_pos here] at hf
    cases hf
    refine .runs at_ rfl here performed ?_
    exact (onward g' (by rw [getElem?_reverse_cons, if_pos here])).imp id And.left
  · rw [if_neg here] at hf
    have idle : ¬m.Runs m.callers.length height := fun runs => by
      have top := runs.top
      rw [at_.frames, List.length_cons] at top
      omega
    rcases onward f (by rw [getElem?_reverse_cons, if_neg here]; exact hf) with rfl |
      ⟨⟨target, text, rfl⟩, callers, innermost⟩
    · exact .alone idle
    · exact .catches idle target text (by rw [callers]) innermost

/-- A stack after the queue at work is given up. -/
theorem GivesUp.turns (givesUp : m.GivesUp m') (hf : m.frame? level height = some f)
    (hk : m'.frame? level height = some k) : Turns m m' level height f k := by
  obtain ⟨failure, c, callers, -, hc, rfl⟩ := givesUp
  have others : (handle ⟨m.engine, c.queue, callers⟩ failure.toScriptError).callers = callers := callers_handle _ _
  have inside := le_of_frame? hk
  rw [others] at inside
  have idle : ¬m.Runs level height := fun runs => by
    have own := runs.own
    rw [hc, List.length_cons] at own
    omega
  by_cases here : level = callers.length
  · subst here
    rw [frame?_starter hc] at hf
    rcases frame?_handle (m := ⟨m.engine, c.queue, callers⟩) hf hk with rfl | ⟨⟨target, text, rfl⟩, same, innermost⟩
    · exact .alone idle
    · exact .catches idle target text (by rw [same]) innermost
  · rw [frame?_below (hc.trans (by rw [others])) (by rw [others]; omega), hk] at hf
    cases hf
    exact .alone idle

theorem Sound.turns (sound : m.Sound Script.FromSource) (next : m.step = .next m')
    (hf : m.frame? level height = some f) (hk : m'.frame? level height = some k) : Turns m m' level height f k := by
  have elsewhere : m.running.result.brokeOff = none → level ≠ m.callers.length → Turns m m' level height f k :=
    fun kept ne => by
      cases sound.frame?_elsewhere next kept ne hf hk
      exact .alone fun runs => ne runs.own
  rcases step_cases next with (leaves | givesUp) | ⟨free, going⟩
  · refine elsewhere leaves.kept fun atWork => ?_
    -- The level of the queue that is left is gone.
    obtain ⟨c, _, hcallers, -⟩ := leaves.callers
    have there := le_of_frame? hk
    rw [atWork, hcallers, List.length_cons] at there
    exact Nat.not_succ_le_self _ there
  · exact givesUp.turns hf hk
  · by_cases atWork : level = m.callers.length
    · subst atWork
      rw [frame?_running] at hf
      rcases going with ⟨hnil, rfl⟩ | ⟨g, below, frames, finished, rfl⟩ | ⟨g, below, entry, at_, rfl⟩
      · rw [hnil] at hf
        cases hf
      · exact Finishes.turns ⟨free, frames, finished⟩ hf hk
      · exact sound.turns_execute at_ hf hk
    · exact elsewhere (left?_eq_none.mp free).2.1 atWork

end Machine

end CommandScript
