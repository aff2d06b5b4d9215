import CommandScript.Proofs.Machine.Reachable

/-! Errors on their way out. The innermost frame whose instruction lies inside the block of a `try` catches an error, at
    the innermost `try` around that instruction, and nothing below that frame changes; without such a frame the queue
    ends by the error. -/

namespace CommandScript

/-! ### Inside a `try` -/

/-- The instruction that runs in a frame lies inside the block of the `try` at `owner`. -/
structure Frame.InTry (f : Frame) (owner : Nat) (block : Span) : Prop where
  here : ∃ e, f.script.code.entries[owner]? = some e ∧ e.instruction.name = "try" ∧
    e.instruction.callbackOf = none ∧ e.instruction.block = some block
  inside : ∃ index, f.pc = index + 1 ∧ block.start ≤ index ∧ index < block.stop

/-- The instruction that runs in a frame is no `try`, except for the end of one. -/
def Frame.NotAtTry (f : Frame) : Prop :=
  ∀ e, f.current? = some e → e.instruction.name = "try" → e.instruction.callbackOf ≠ none

/-- Among the commands of every engine, errors end at a `try`. -/
theorem errorBoundary_builtin {name : String} :
    (CommandRegistry.builtin.get? name).any (·.signature.errorBoundary) = true ↔ name = "try" := by
  have named : ∀ c ∈ CommandRegistry.builtin.commands, c.signature.errorBoundary = true →
      c.signature.name = "try" := by
    decide
  constructor
  · intro h
    obtain ⟨c, hc, hb⟩ := (Option.any_eq_true _ _).mp h
    obtain ⟨hm, rfl⟩ := mem_of_get?_builtin hc
    exact named c hm hb
  · rintro rfl
    decide

section
variable {f : Frame} (ordered : f.script.code.Ordered)
include ordered

theorem name_of_errorBoundary {index : Nat} {e : Entry} (he : f.script.code.entries[index]? = some e) :
    e.command.any (·.signature.errorBoundary) = true ↔ e.instruction.name = "try" := by
  rw [ordered.get? he]
  exact errorBoundary_builtin

/-- Behind the instruction that runs, each `try` around it has an end that catches errors. -/
theorem Frame.InTry.catches {owner : Nat} {block : Span} (h : f.InTry owner block) :
    f.pc ≤ block.stop ∧ ∃ e, f.script.code.entries[block.stop]? = some e ∧ e.Catches f.pc ∧
      e.instruction.callbackOf = some owner := by
  obtain ⟨o, ho, name, hc, hb⟩ := h.here
  obtain ⟨index, hpc, hlo, hhi⟩ := h.inside
  obtain ⟨hstart, -⟩ := ordered.block ho hb
  obtain ⟨e, he, howner⟩ := ordered.ended ho hb (needsEnd_builtin.mpr (Or.inr (Or.inr name)))
  obtain ⟨o', s, ho', -, -, -, hcommand, -⟩ := ordered.owner he howner
  rw [ho] at ho'
  cases ho'
  refine ⟨by omega, e, he, ⟨?_, owner, by omega, howner⟩, howner⟩
  rw [← hcommand]
  exact (name_of_errorBoundary ordered ho).mpr name

variable (notAtTry : f.NotAtTry)
include notAtTry

/-- What catches an error behind the instruction that runs is the end of a `try` around it. -/
theorem inTry_of_catches {target : Nat} {e : Entry} (he : f.script.code.entries[target]? = some e)
    (hle : f.pc ≤ target) (catches : e.Catches f.pc) :
    ∃ owner block, f.InTry owner block ∧ block.stop = target ∧ e.instruction.callbackOf = some owner := by
  obtain ⟨hb, owner, hlt, howner⟩ := catches
  obtain ⟨o, s, ho, hc, hs, hstop, hcommand, -⟩ := ordered.owner he howner
  rw [← hcommand] at hb
  have name := (name_of_errorBoundary ordered ho).mp hb
  obtain ⟨hstart, -⟩ := ordered.block ho hs
  refine ⟨owner, s, ⟨⟨o, ho, name, hc, hs⟩, f.pc - 1, by omega, ?_, by omega⟩, hstop, howner⟩
  -- The instruction that runs is not the owner itself.
  have apart : owner ≠ f.pc - 1 := by
    intro heq
    refine notAtTry o ?_ name hc
    rw [Frame.current?, if_neg (by omega), ← heq]
    exact ho
  omega

omit notAtTry in
/-- An inner `try` around an instruction ends before an outer one. -/
theorem Frame.InTry.nested {outer inner : Nat} {s t : Span} (ho : f.InTry outer s) (hi : f.InTry inner t)
    (hlt : outer < inner) : t.stop < s.stop := by
  obtain ⟨o, hoe, -, -, hs⟩ := ho.here
  obtain ⟨i, hie, name, -, ht⟩ := hi.here
  obtain ⟨index, hpc, -, hhi⟩ := ho.inside
  obtain ⟨index', hpc', hlo', -⟩ := hi.inside
  obtain ⟨hstart, -⟩ := ordered.block hoe hs
  obtain ⟨hstart', -⟩ := ordered.block hie ht
  exact (ordered.nested hoe hs hie ht (by omega) (by omega)).2 (needsEnd_builtin.mpr (Or.inr (Or.inr name)))

/-- The boundary for an error is the end of the innermost `try` around the instruction that runs. -/
theorem boundary?_eq_stop {owner : Nat} {block : Span} (h : f.InTry owner block)
    (innermost : ∀ o b, f.InTry o b → o ≤ owner) : Machine.boundary? f = some block.stop := by
  obtain ⟨hle, e, he, catches, -⟩ := h.catches ordered
  refine boundary?_eq_some hle he catches fun place e' hlo hhi he' catches' => ?_
  obtain ⟨owner', block', h', hstop, -⟩ := inTry_of_catches ordered notAtTry he' hlo catches'
  -- An end that catches earlier belongs to this `try`, or to one around it, which ends later.
  rcases Nat.eq_or_lt_of_le (innermost owner' block' h') with rfl | hlt
  · obtain ⟨o, ho, -, -, hs⟩ := h.here
    obtain ⟨o', ho', -, -, hs'⟩ := h'.here
    rw [ho] at ho'
    cases ho'
    rw [hs] at hs'
    cases hs'
    omega
  · have := h'.nested ordered h hlt
    omega

theorem boundary?_eq_none_of_outside (outside : ∀ o b, ¬f.InTry o b) : Machine.boundary? f = none := by
  refine boundary?_eq_none fun place e hle he catches => ?_
  obtain ⟨owner, block, h, -⟩ := inTry_of_catches ordered notAtTry he hle catches
  exact outside owner block h

omit notAtTry in
/-- The frame that catches an error goes on at the end of its innermost `try`, which has caught it. -/
theorem caughtAt_eq {owner : Nat} {block : Span} (h : f.InTry owner block) (text : String) :
    Machine.caughtAt f block.stop text =
      { f with
        pc := block.stop, branches := setKey owner true f.branches,
        vars := setKey "stack_trace" (.text text) f.vars } := by
  obtain ⟨-, e, he, -, howner⟩ := h.catches ordered
  unfold Machine.caughtAt
  dsimp only
  rw [he, Option.bind_some, howner]
  rfl

end

/-! ### Errors of reachable machines -/

namespace Machine

/-- A step of a machine comes to an error of the instruction `entry` at its innermost frame `f`. `n` is the machine at
    that moment. -/
structure Raises (m : Machine) (f : Frame) (below : List Frame) (entry : Entry) (error : ScriptError) (n : Machine) :
    Prop where
  stands : m.StandsAt f below entry
  raised : ∃ e g, m.awake.perform f below entry = (.error error, e, g) ∧ n = m.awake.withFrames e (g :: below)

variable {m n : Machine} {f : Frame} {below : List Frame} {entry : Entry} {error : ScriptError}

/-- The error that the next step comes to, if it comes to one, and the machine at that moment. -/
def raised? (m : Machine) : Option (ScriptError × Machine) :=
  if m.left?.isNone then
    match m.running.frames with
    | [] => none
    | f :: below =>
      match f.script.code.entries[f.pc]? with
      | none => none
      | some entry =>
        match m.awake.perform f below entry with
        | (.ok _, _) => none
        | (.error error, e, g) => some (error, m.awake.withFrames e (g :: below))
  else none

theorem raises_of_raised? (h : m.raised? = some (error, n)) : ∃ f below entry, m.Raises f below entry error n := by
  unfold raised? at h
  split at h
  · rename_i free
    split at h
    · cases h
    · rename_i f below frames
      split at h
      · cases h
      · rename_i entry here
        split at h
        · cases h
        · rename_i error' e g hp
          cases h
          obtain ⟨running, kept, gate, wait⟩ := left?_eq_none.mp (Option.isNone_iff_eq_none.mp free)
          exact ⟨f, below, entry, ⟨running, kept, gate, wait, frames, here⟩, e, g, hp, rfl⟩
  · cases h

theorem Raises.step (h : m.Raises f below entry error n) : m.step = .next (n.handle error) := by
  obtain ⟨e, g, hp, rfl⟩ := h.raised
  rw [h.stands.step, execute_eq, hp, conclude]

/-- The beginning of a `try` raises no error. -/
theorem callbackOf_of_raises (ordered : f.script.code.Ordered) (h : m.Raises f below entry error n)
    (name : entry.instruction.name = "try") : entry.instruction.callbackOf ≠ none := by
  intro hnone
  obtain ⟨e, g, hp, -⟩ := h.raised
  obtain ⟨r, t, hon, performed⟩ := perform_of_name m.awake below h.stands.here ordered name (a := .tryBlock) rfl
  rw [Action.perform, Act.on_tryBlock _ hnone] at hon
  cases hon
  cases performed.symm.trans hp

/-- The instruction that raised an error is the one that runs in the innermost frame, unless it is a `goto` whose
    message broke off: then the frame stands behind the mark already. -/
theorem Raises.current (h : m.Raises f below entry error n) (sound : m.Sound Script.FromSource) :
    ∃ g, n.running.frames = g :: below ∧ g.script = f.script ∧ (g.current? = some entry ∨
      entry.instruction.name = "goto" ∧ ∃ mark, g.current? = some mark ∧ mark.instruction.name = "mark") := by
  have stack := sound.running
  rw [h.stands.frames] at stack
  have done := performs (m := m.awake) Script.closed_fromSource Script.FromSource.ordered below sound.gives
    (stack.sound f List.mem_cons_self) h.stands.here
  obtain ⟨e, g, hp, rfl⟩ := h.raised
  rw [hp] at done
  have stayed : g.pc = f.pc + 1 → g.current? = some entry := fun pc => by
    rw [Frame.current?, pc, if_neg (Nat.succ_ne_zero _), Nat.add_sub_cancel, done.script]
    exact h.stands.here
  refine ⟨g, rfl, done.script, ?_⟩
  cases done.moves with
  | stay pc => exact Or.inl (stayed pc)
  | stuck _ _ _ pc => exact Or.inl (stayed pc)
  | @goto _ mark own here name lt =>
    refine Or.inr ⟨own, mark, ?_, name⟩
    rw [Frame.current?, if_neg (Nat.ne_of_gt (Nat.zero_lt_of_lt lt)), done.script]
    exact here

/-- A step of a machine comes to an error of the instruction `entry`, above the frames `below`. `n` is the machine at
    that moment. -/
inductive Fails (m : Machine) (below : List Frame) (entry : Entry) (error : ScriptError) (n : Machine) : Prop
  /-- The instruction raises it. -/
  | raises {f : Frame} (raises : m.Raises f below entry error n)
  /-- The queue at work is given up, which the instruction has started. -/
  | givenUp {failure : Failure} {c : Caller} {g : Frame} (broke : m.running.result.brokeOff = some failure)
    (callers : m.callers = c :: n.callers) (frames : c.queue.frames = g :: below) (behind : g.current? = some entry)
    (eq : n = ⟨m.engine, c.queue, n.callers⟩) (error : error = failure.toScriptError)

theorem Fails.step (h : m.Fails below entry error n) : m.step = .next (n.handle error) := by
  cases h with
  | raises raises => exact raises.step
  | givenUp broke callers _ _ eq error =>
    have left : m.left? = some m.running := by
      rw [left?, broke]
      simp
    rw [step_of_left left, yield, callers]
    dsimp only
    rw [broke, error]
    dsimp only
    rw [← eq]

/-- The instruction that an error is of runs in the innermost frame, unless it is a `goto` whose message broke off. -/
theorem Fails.current (h : m.Reachable) (fails : m.Fails below entry error n) :
    ∃ g, n.running.frames = g :: below ∧ (g.current? = some entry ∨
      entry.instruction.name = "goto" ∧ ∃ mark, g.current? = some mark ∧ mark.instruction.name = "mark") := by
  cases fails with
  | raises raises =>
    obtain ⟨g, frames, -, current⟩ := raises.current h.sound
    exact ⟨g, frames, current⟩
  | givenUp _ _ frames behind eq => exact ⟨_, by rw [eq]; exact frames, Or.inl behind⟩

theorem Fails.running (h : m.Reachable) (fails : m.Fails below entry error n) : n.running.running = true := by
  cases fails with
  | raises raises =>
    obtain ⟨e, g, -, rfl⟩ := raises.raised
    exact raises.stands.running
  | givenUp _ callers _ _ eq =>
    rw [eq]
    exact (h.launching _ (by rw [callers]; exact List.mem_cons_self)).running

/-- The frames below an error wait for a script they have called. -/
theorem Fails.calling (h : m.Reachable) (fails : m.Fails below entry error n) :
    ∀ k ∈ below, k.Sound Script.FromSource ∧ k.Calling := by
  have waiting : ∀ {g : Frame}, SoundStack Script.FromSource (g :: below) →
      ∀ k ∈ below, k.Sound Script.FromSource ∧ k.Calling := fun stack k hk =>
    ⟨stack.sound k (List.mem_cons_of_mem _ hk), stack.calling k hk⟩
  cases fails with
  | raises raises => exact waiting (raises.stands.frames ▸ h.sound.running)
  | @givenUp _ c _ _ callers frames =>
    exact waiting (frames ▸ h.sound.callers c (by rw [callers]; exact List.mem_cons_self))

/-- When an instruction fails, no frame stands at the beginning of a `try`. -/
theorem Fails.notAtTry (h : m.Reachable) (fails : m.Fails below entry error n) :
    ∀ k ∈ n.running.frames, k.script.FromSource ∧ k.NotAtTry := by
  have calling : ∀ k ∈ below, k.script.FromSource ∧ k.NotAtTry := fun k hk => by
    obtain ⟨sound, call, hcall, hname⟩ := fails.calling h k hk
    refine ⟨sound.script, fun e he name => ?_⟩
    rw [hcall] at he
    cases he
    rw [name] at hname
    exact absurd hname (by decide)
  cases fails with
  | raises raises =>
    have stack := h.sound.running
    rw [raises.stands.frames] at stack
    have top := stack.sound _ List.mem_cons_self
    obtain ⟨g, hframes, hscript, hcurrent⟩ := raises.current h.sound
    rw [hframes]
    refine List.forall_mem_cons.mpr ⟨⟨hscript ▸ top.script, fun e he name => ?_⟩, calling⟩
    rcases hcurrent with hcurrent | ⟨-, mark, hcurrent, hmark⟩
    · rw [hcurrent] at he
      cases he
      exact callbackOf_of_raises top.script.ordered raises name
    · rw [hcurrent] at he
      cases he
      rw [name] at hmark
      exact absurd hmark (by decide)
  | @givenUp _ c _ _ callers frames behind eq =>
    have mem : c ∈ m.callers := by
      rw [callers]
      exact List.mem_cons_self
    have stack := h.sound.callers c mem
    obtain ⟨g, _, run, hframes, hrun, hname⟩ := (h.launching c mem).behind
    rw [frames] at stack hframes
    cases hframes
    rw [eq, frames]
    refine List.forall_mem_cons.mpr ⟨⟨(stack.sound _ List.mem_cons_self).script, fun e he name => ?_⟩, calling⟩
    rw [hrun] at he
    cases he
    rw [name] at hname
    exact absurd hname (by decide)

theorem catchError_skip (text : String) {above : List Frame} (below : List Frame) {d : Frame} {target : Nat}
    (outside : ∀ k ∈ above, boundary? k = none) (hd : boundary? d = some target) :
    catchError text (above ++ d :: below) = some (caughtAt d target text :: below) := by
  induction above with
  | nil => rw [List.nil_append, catchError, hd]
  | cons k above ih =>
    rw [List.cons_append, catchError, outside k List.mem_cons_self]
    exact ih fun j hj => outside j (List.mem_cons_of_mem _ hj)

theorem catchError_eq_none (text : String) {frames : List Frame} (outside : ∀ k ∈ frames, boundary? k = none) :
    catchError text frames = none := by
  induction frames with
  | nil => rfl
  | cons k frames ih =>
    rw [catchError, outside k List.mem_cons_self]
    exact ih fun j hj => outside j (List.mem_cons_of_mem _ hj)

theorem errored_stopWithError (m : Machine) : m.stopWithError.running.result.errored = true := by
  unfold stopWithError stop Queue.stop
  dsimp only
  split <;> rfl

/-- Where no frame has a `try` around what it runs, the queue ends by the error, unless the output breaks off twice. -/
theorem Reachable.uncaught (h : m.Reachable) (fails : m.Fails below entry error n)
    (outside : ∀ k ∈ n.running.frames, ∀ o b, ¬k.InTry o b) :
    (¬n.BreaksTwice error → (n.handle error).running.running = false ∧ (n.handle error).running.frames = [] ∧
      (n.handle error).running.result.errored = true) ∧
    (n.BreaksTwice error → ∃ e, n.handle error = { n with engine := e, running := { n.running with
      result := { n.running.result with brokeOff := some (.breakOff outputFailure) } } }) := by
  have settled := fails.notAtTry h
  have uncaught := catchError_eq_none (trace n.running.frames error) fun k hk =>
    boundary?_eq_none_of_outside (settled k hk).1.ordered (settled k hk).2 (outside k hk)
  rcases handle_uncaught uncaught with ⟨held, e, -, handled⟩ | ⟨twice, e, -, -, handled⟩
  · rw [handled]
    exact ⟨fun _ => ⟨rfl, rfl, errored_stopWithError _⟩, fun twice => absurd twice held⟩
  · exact ⟨fun held => absurd twice held, fun _ => ⟨e, handled⟩⟩

/-- An error goes to the innermost `try` around the instruction that runs in the innermost frame that has one: the
    frames above are left, those below stay as they are, and that frame changes its place, the mark of the `try` and
    the trace only. If no frame has one, the queue ends by the error, unless the output breaks off on the trace and on
    what is said of that: then the queue is given up as it stands. -/
theorem Reachable.unwinds (h : m.Reachable) (fails : m.Fails below entry error n) :
    m.step = .next (n.handle error) ∧ n.running.running = true ∧
    (∃ g, n.running.frames = g :: below ∧ (g.current? = some entry ∨
      entry.instruction.name = "goto" ∧ ∃ mark, g.current? = some mark ∧ mark.instruction.name = "mark")) ∧
    (∀ above d rest owner block, n.running.frames = above ++ d :: rest → (∀ k ∈ above, ∀ o b, ¬k.InTry o b) →
      d.InTry owner block → (∀ o b, d.InTry o b → o ≤ owner) →
        n.handle error = { n with running := { n.running with frames := { d with
          pc := block.stop, branches := setKey owner true d.branches,
          vars := setKey "stack_trace" (.text (trace n.running.frames error)) d.vars } :: rest } }) ∧
    ((∀ k ∈ n.running.frames, ∀ o b, ¬k.InTry o b) →
      (¬n.BreaksTwice error → (n.handle error).running.running = false ∧ (n.handle error).running.frames = [] ∧
        (n.handle error).running.result.errored = true) ∧
      (n.BreaksTwice error → ∃ e, n.handle error = { n with engine := e, running := { n.running with
        result := { n.running.result with brokeOff := some (.breakOff outputFailure) } } })) := by
  have settled := fails.notAtTry h
  have none_of_outside : ∀ k ∈ n.running.frames, (∀ o b, ¬k.InTry o b) → boundary? k = none := fun k hk outside =>
    boundary?_eq_none_of_outside (settled k hk).1.ordered (settled k hk).2 outside
  refine ⟨fails.step, fails.running h, fails.current h, ?_, h.uncaught fails⟩
  intro above d rest owner block hsplit outside hin innermost
  have hd : d ∈ n.running.frames := by
    rw [hsplit]
    exact List.mem_append_right _ List.mem_cons_self
  obtain ⟨source, notAtTry⟩ := settled d hd
  have boundary := boundary?_eq_stop source.ordered notAtTry hin innermost
  have caught := catchError_skip (trace n.running.frames error) rest
    (fun k hk => none_of_outside k (by rw [hsplit]; exact List.mem_append_left _ hk) (outside k hk)) boundary
  rw [← hsplit, caughtAt_eq source.ordered hin] at caught
  unfold handle
  dsimp only
  rw [caught]

/-- An error in a function that is called inside a `try` is caught behind the call. -/
theorem Reachable.unwinds_calledFunction : ∃ (m n : Machine) (f g d : Frame) (below : List Frame) (entry : Entry)
    (error : ScriptError), m.Reachable ∧ m.Raises f below entry error n ∧ n.running.frames = [g, d] ∧
      d.InTry 2 ⟨3, 4⟩ ∧ n.handle error = { n with running := { n.running with frames := [{ d with
        pc := 4, branches := setKey 2 true d.branches,
        vars := setKey "stack_trace" (.text (trace n.running.frames error)) d.vars }] } } := by
  have found : ((afterSource? "function f { error a; } try { call f; } catch { noop; }" 3).bind raised?).any (fun r =>
      r.2.running.frames.map (fun k => (k.pc, k.script.instructions.map fun i => (i.name, i.callbackOf, i.block))) =
        [(1, [("error", none, none)]),
          (4, [("function", none, some ⟨1, 2⟩), ("error", none, none), ("try", none, some ⟨3, 4⟩),
            ("call", none, none), ("try", some 2, none), ("catch", none, some ⟨6, 7⟩), ("noop", none, none)])]) =
      true := by
    decide +kernel
  obtain ⟨⟨error, n⟩, hn, found⟩ := (Option.any_eq_true _ _).mp found
  obtain ⟨m, hm, hn⟩ := Option.bind_eq_some_iff.mp hn
  obtain ⟨f, below, entry, raises⟩ := raises_of_raised? hn
  have reachable := reachable_afterSource hm
  obtain ⟨g, _, frames, hg, tail⟩ := List.map_eq_cons_iff.mp (of_decide_eq_true found)
  obtain ⟨d, _, rfl, hd, tail⟩ := List.map_eq_cons_iff.mp tail
  cases List.map_eq_nil_iff.mp tail
  obtain ⟨-, hg⟩ := Prod.mk.inj hg
  obtain ⟨hpc, hd⟩ := Prod.mk.inj hd
  have hmem : d ∈ n.running.frames := by rw [frames]; exact List.mem_cons_of_mem _ List.mem_cons_self
  have ordered := (Fails.notAtTry reachable (.raises raises) d hmem).1.ordered
  -- The one `try` of the script that calls is the third instruction.
  have tries : ∀ {o b}, d.InTry o b → o = 2 ∧ b = ⟨3, 4⟩ := fun {o b} h => by
    obtain ⟨e, he, name, hc, hb⟩ := h.here
    have here : ("try", none, some b) ∈ d.script.instructions.map fun i => (i.name, i.callbackOf, i.block) := by
      rw [← name, ← hc, ← hb]
      rw [← Array.getElem?_toList] at he
      exact List.mem_map_of_mem (List.mem_map_of_mem (List.mem_of_getElem? he))
    rw [hd] at here
    have hb' : b = ⟨3, 4⟩ := by simpa using here
    subst hb'
    have start : 3 = o + 1 := (ordered.block he hb).1
    exact ⟨by omega, rfl⟩
  have hin : d.InTry 2 ⟨3, 4⟩ := by
    have here : (d.script.instructions.map fun i => (i.name, i.callbackOf, i.block))[2]? =
        some ("try", none, some ⟨3, 4⟩) := by rw [hd]; rfl
    rw [Script.instructions, List.getElem?_map, List.getElem?_map, Array.getElem?_toList] at here
    obtain ⟨i, hi, heq⟩ := Option.map_eq_some_iff.mp here
    obtain ⟨e, he, rfl⟩ := Option.map_eq_some_iff.mp hi
    rw [Prod.mk.injEq, Prod.mk.injEq] at heq
    exact ⟨⟨e, he, heq.1, heq.2.1, heq.2.2⟩, 3, hpc, Nat.le_refl 3, Nat.lt_succ_self 3⟩
  have outside : ∀ k ∈ [g], ∀ o b, ¬k.InTry o b := fun k hk o b h => by
    cases List.mem_singleton.mp hk
    obtain ⟨e, he, name, -⟩ := h.here
    rw [← Array.getElem?_toList] at he
    have here : (e.instruction.name, e.instruction.callbackOf, e.instruction.block) ∈
        g.script.instructions.map fun i => (i.name, i.callbackOf, i.block) :=
      List.mem_map_of_mem (List.mem_map_of_mem (List.mem_of_getElem? he))
    rw [hg, name] at here
    exact absurd (Prod.mk.inj (List.mem_singleton.mp here)).1 (by decide)
  have caught := (reachable.unwinds (.raises raises)).2.2.2.1 [g] d [] 2 ⟨3, 4⟩ frames outside hin
    fun o b h => Nat.le_of_eq (tries h).1
  exact ⟨m, n, f, g, d, below, entry, error, reachable, raises, frames, hin, caught⟩

/-- The machine at the beginning of a source text, in an engine that has an output and the built-in commands. -/
def atSource? (outbox : Outbox) (source : String) : Option Machine :=
  (Script.ofSource .builtin "main" source []).toOption.map fun s =>
    ⟨(Engine.newQueue { registries := .builtin, outbox := outbox } s [] false false).2,
      (Engine.newQueue { registries := .builtin, outbox := outbox } s [] false false).1, []⟩

theorem reachable_atSource {outbox : Outbox} {source : String} (h : atSource? outbox source = some m) :
    m.Reachable := by
  obtain ⟨s, hs, rfl⟩ := Option.map_eq_some_iff.mp h
  exact .start ⟨rfl, List.forall_mem_nil _, List.forall_mem_nil _⟩ (.source rfl (toOption_eq_some.mp hs))
    [] false false

theorem not_inTry {f : Frame} (h : "try" ∉ f.script.instructions.map (·.name)) : ∀ o b, ¬f.InTry o b := by
  intro o b within
  obtain ⟨e, here, name, -⟩ := within.here
  rw [← Array.getElem?_toList] at here
  refine h (name ▸ List.mem_map_of_mem (List.mem_map_of_mem (List.mem_of_getElem? here)))

/-- An error does not end its queue where the output breaks off on the first two messages. -/
theorem unwinds_breakingTwice : ∃ (m n : Machine) (f : Frame) (below : List Frame) (entry : Entry)
    (error : ScriptError), m.Reachable ∧ m.Raises f below entry error n ∧
      (∀ k ∈ n.running.frames, ∀ o b, ¬k.InTry o b) ∧ (n.handle error).running.running = true ∧
      (n.handle error).running.frames.length = 1 ∧ (n.handle error).running.result.errored = false := by
  have found : (atSource? { breaksAt := fun number => number ≤ 2 } "error boom").any (fun m => m.raised?.any fun r =>
      decide (∀ k ∈ r.2.running.frames, "try" ∉ k.script.instructions.map (·.name)) &&
      (r.2.handle r.1).running.running && (r.2.handle r.1).running.frames.length = 1 &&
      (r.2.handle r.1).running.result.errored = false) = true := by
    decide +kernel
  obtain ⟨m, hm, found⟩ := (Option.any_eq_true _ _).mp found
  obtain ⟨⟨error, n⟩, hn, found⟩ := (Option.any_eq_true _ _).mp found
  simp only [Bool.and_eq_true, decide_eq_true_eq] at found
  obtain ⟨⟨⟨noTry, running⟩, frames⟩, errored⟩ := found
  obtain ⟨f, below, entry, raises⟩ := raises_of_raised? hn
  exact ⟨m, n, f, below, entry, error, reachable_atSource hm, raises, fun k hk => not_inTry (noTry k hk), running,
    frames, errored⟩

end Machine

end CommandScript
