import CommandScript.Proofs.Calls.Turns

/-! Calls are isolated. While a called script runs, and whatever it calls, catches or waits for, the frames below its
    own are left alone; when it has come to its end, its caller goes on behind the call with some variables set. -/

namespace CommandScript

namespace Machine

variable {m m' m₁ m₂ m₃ n n' : Machine} {level level' height lower : Nat} {f g k : Frame} {below rest : List Frame}

/-! ### Frames below one that lasts -/

theorem isSome_frame?_of_lt (lt : lower < height) (h : (m.frame? level height).isSome = true) :
    (m.frame? level lower).isSome = true := by
  obtain ⟨k, hk⟩ := Option.isSome_iff_exists.mp h
  obtain ⟨stack, hstack, hk⟩ := Option.bind_eq_some_iff.mp hk
  obtain ⟨inside, -⟩ := List.getElem?_eq_some_iff.mp hk
  rw [frame?, hstack, Option.bind_some, List.getElem?_eq_getElem (Nat.lt_trans lt inside)]
  rfl

/-- The innermost frame of the queue at work stands above all others of it. -/
theorem frame?_innermost (frames : m.running.frames = k :: rest) :
    m.frame? m.callers.length rest.length = some k := by
  rw [frame?_running, frames, getElem?_reverse_cons, if_pos rfl]

/-- As long as a frame is there, the frames below it are left alone. -/
theorem Reachable.frame?_below (h : m.Reachable) (lasts : Lasts height m level m' level') (lt : lower < height)
    (there : (m.frame? level height).isSome = true) : m'.frame? level' lower = m.frame? level lower := by
  induction lasts with
  | refl => rfl
  | @step n n' l before next after ih =>
    have now := before.there there
    obtain ⟨f, hf⟩ := Option.isSome_iff_exists.mp (isSome_frame?_of_lt lt now)
    obtain ⟨k, hk⟩ := Option.isSome_iff_exists.mp (isSome_frame?_of_lt lt after)
    have same := ((h.of_lasts before).sound.turns next hf hk).eq_of_lt lt now after
    rw [hk, same, ← hf]
    exact ih
  | resume _ _ _ _ ih =>
    rw [frame?_resume]
    exact ih

/-! ### Calls -/

/-- A `call` of the innermost frame puts a frame on the stack. -/
structure Calls (m m' : Machine) (f : Frame) (below : List Frame) : Prop where
  stands : ∃ entry, m.StandsAt f below entry ∧ entry.instruction.name = "call"
  next : m.step = .next m'
  deeper : m'.running.frames.length = m.running.frames.length + 1

/-- The innermost frame comes to its end, and a step takes it off the stack. -/
structure Completes (m m' : Machine) (f : Frame) (below : List Frame) : Prop extends Finishes m f below where
  next : m.step = .next m'

/-- A call leaves its own frame behind it, with nothing changed. -/
theorem Calls.enters (h : m.Calls m' f below) (reachable : m.Reachable) : m'.callers = m.callers ∧
    ∃ script vars, m'.running.frames = Frame.start script vars :: f.next :: below := by
  obtain ⟨entry, at_, name⟩ := h.stands
  have deeper := h.deeper
  have stack := reachable.sound.running
  rw [at_.frames] at stack deeper
  have top := stack.sound f List.mem_cons_self
  have done := performs (m := m.awake) Script.closed_fromSource Script.FromSource.ordered below reachable.sound.gives
    top at_.here
  obtain ⟨c, hc, action⟩ := top.script.ordered.action at_.here name (a := .call) rfl
  have next := at_.step
  rw [h.next, execute_eq] at next
  cases next
  generalize performed : m.awake.perform f below entry = p at done deeper
  obtain ⟨r, e, g⟩ := p
  have stays : g = f.next := (perform_spares hc performed).frame action
  subst stays
  cases r with
  | error error =>
    -- An error leaves no more frames than there are.
    have fewer := length_handle_le (m.awake.withFrames e (f.next :: below)) error
    rw [conclude] at deeper
    rw [deeper] at fewer
    exact absurd fewer (Nat.not_succ_le_self _)
  | ok flow =>
    obtain ⟨c', hc', fits⟩ := done.flow flow rfl
    cases hc.symm.trans hc'
    have same : ∀ n : Machine, n.running.frames = f.next :: below →
      n.running.frames.length ≠ (f :: below).length + 1 :=
      fun n frames => by
        rw [frames]
        exact Nat.ne_of_lt (Nat.lt_succ_self _)
    cases flow with
    | proceed => exact absurd deeper (same _ rfl)
    | pause seconds =>
      rw [conclude, follow] at deeper
      split at deeper
      · exact absurd deeper (same _ rfl)
      · exact absurd deeper (same _ rfl)
    | await _ => exact absurd fits id
    | completeFrame => exact absurd fits id
    | stopQueue => exact absurd deeper (Nat.succ_ne_zero _).symm
    | enter script vars => exact ⟨rfl, script, vars, rfl⟩
    | launch script vars waits =>
      obtain ⟨launches, -⟩ := fits
      cases action.symm.trans launches

/-- When a frame comes to its end, the one below it goes on with what it hands back. -/
theorem Completes.returns (h : m.Completes m' k (g :: rest)) : m'.running.frames = g.setVars k.handed :: rest := by
  have next := h.toFinishes.step
  rw [h.next, Queue.completeFrame_eq (show m.awake.running.frames = k :: g :: rest from h.frames)] at next
  cases next
  rfl

/-- Where a called script comes to its end, it stands above the frame that has called it. -/
theorem Calls.returning (calls : m.Calls m₁ f below) (h : m.Reachable)
    (lasts : Lasts (below.length + 1) m₁ m₁.callers.length m₂ m₂.callers.length)
    (frames : m₂.running.frames = k :: rest) (own : rest.length = below.length + 1) :
    rest = f.next :: below ∧ ∀ script vars,
      m₁.running.frames = Frame.start script vars :: f.next :: below → k.script = script := by
  obtain ⟨-, script, vars, entered⟩ := calls.enters h
  have h₁ : m₁.Reachable := h.step calls.next
  have began := frame?_innermost entered
  have ended := frame?_innermost frames
  rw [own] at ended
  constructor
  · refine List.reverse_injective (List.ext_getElem? fun lower => ?_)
    by_cases lt : lower < below.length + 1
    · have same := h₁.frame?_below lasts lt (Option.isSome_of_eq_some began)
      rw [frame?_running, frame?_running, frames, entered, getElem?_reverse_cons, getElem?_reverse_cons,
        List.length_cons, if_neg (by omega), if_neg (Nat.ne_of_lt lt)] at same
      exact same
    · rw [List.getElem?_eq_none (by rw [List.length_reverse]; omega),
        List.getElem?_eq_none (by rw [List.length_reverse, List.length_cons]; omega)]
  · intro script' vars' entered'
    rw [entered] at entered'
    have same := (h₁.keeps lasts began ended).1
    rw [(List.cons.inj entered').1, (Frame.start_place script' vars').2.1] at same
    exact same

/-- Whatever happens until a called script comes to its end, with scripts that it calls, errors that it catches and
    waits, its caller then stands behind the call with all that it had before; only its variables without a slot may
    have changed, and of these only `determinations` and those that have the name of a variable that the called
    script declares outside all blocks. No frame below it has changed. -/
theorem Reachable.call_isolated (h : m.Reachable) (calls : m.Calls m₁ f below)
    (lasts : Lasts (below.length + 1) m₁ m₁.callers.length m₂ m₂.callers.length) (completes : m₂.Completes m₃ k rest)
    (own : rest.length = below.length + 1) : ∃ script vars p,
      m₁.running.frames = Frame.start script vars :: { f with pc := f.pc + 1 } :: below ∧ k.script = script ∧
      m₃.running.frames = p :: below ∧ p = { f with pc := f.pc + 1, vars := p.vars } ∧
      ∀ name, name ≠ "determinations" → name ∉ script.code.finalNames.map (·.1) →
        p.vars.lookup name = f.vars.lookup name := by
  obtain ⟨-, script, vars, entered⟩ := calls.enters h
  obtain ⟨rfl, called⟩ := calls.returning h lasts completes.frames own
  have script_eq := called script vars entered
  refine ⟨script, vars, f.next.setVars k.handed, entered, script_eq, completes.returns, ?_, fun name ne notMem => ?_⟩
  · rw [Frame.setVars_eq]
    rfl
  · refine Frame.lookup_setVars_of_notMem f.next ?_
    rw [← script_eq] at notMem
    rw [Frame.handed, Frame.bindings, List.map_cons, List.map_map, List.mem_cons, not_or]
    exact ⟨ne, notMem⟩

/-! ### Calls that are computed -/

/-- The machine after a `call` that puts a frame on the stack. -/
def call? (m : Machine) : Option Machine :=
  match m.left?, m.running.frames with
  | none, f :: _ =>
    match m.step with
    | .next m' =>
      if (f.script.code.entries[f.pc]?).any (·.instruction.name = "call") ∧
        m'.running.frames.length = m.running.frames.length + 1 then some m' else none
    | .rest _ _ => none
  | _, _ => none

theorem calls_of_call? (h : m.call? = some m') : ∃ f below, m.Calls m' f below := by
  unfold call? at h
  split at h
  · rename_i f below free frames
    split at h
    · rename_i n next
      split at h
      · rename_i found
        cases h
        obtain ⟨entry, here, name⟩ := (Option.any_eq_true _ _).mp found.1
        obtain ⟨running, kept, gate, wait⟩ := left?_eq_none.mp free
        exact ⟨f, below, ⟨entry, ⟨running, kept, gate, wait, frames, here⟩, of_decide_eq_true name⟩, next, found.2⟩
      · cases h
    · cases h
  · cases h

/-- The machine after some steps, as long as a frame is there. -/
def keeping? (m : Machine) (level height : Nat) : (steps : Nat) → Option Machine
  | 0 => some m
  | steps + 1 =>
    match m.step with
    | .next m' => if (m'.frame? level height).isSome then m'.keeping? level height steps else none
    | .rest _ _ => none

theorem Lasts.of_keeping? {steps : Nat} (lasts : Lasts height m level n level')
    (h : n.keeping? level' height steps = some n') : Lasts height m level n' level' := by
  induction steps generalizing n with
  | zero =>
    cases h
    exact lasts
  | succ steps ih =>
    rw [keeping?] at h
    split at h
    · rename_i next
      split at h
      · rename_i there
        exact ih (.step lasts next there) h
      · cases h
    · cases h

/-- The machine after the innermost frame, which stands above some others, has come to its end. -/
def complete? (m : Machine) (height : Nat) : Option Machine :=
  match m.left?, m.running.frames with
  | none, k :: rest =>
    match m.step with
    | .next m' => if (k.script.code.entries[k.pc]?).isNone ∧ rest.length = height then some m' else none
    | .rest _ _ => none
  | _, _ => none

theorem completes_of_complete? (h : m.complete? height = some m') :
    ∃ k rest, m.Completes m' k rest ∧ rest.length = height := by
  unfold complete? at h
  split at h
  · rename_i k rest free frames
    split at h
    · rename_i n next
      split at h
      · rename_i found
        cases h
        exact ⟨k, rest, ⟨⟨free, frames, Option.isNone_iff_eq_none.mp found.1⟩, next⟩, found.2⟩
      · cases h
    · cases h
  · cases h

/-- The machines behind a `call`, before the called script comes to its end some steps later, and after that. -/
def through? (m : Machine) (steps : Nat) : Option (Machine × Machine × Machine) := do
  let m₁ ← m.call?
  let m₂ ← m₁.keeping? m₁.callers.length m.running.frames.length steps
  let m₃ ← m₂.complete? m.running.frames.length
  if m₂.callers.length = m₁.callers.length then return (m₁, m₂, m₃) else none

theorem calls_of_through? {steps : Nat} (h : m.through? steps = some (m₁, m₂, m₃)) : ∃ f below k rest,
    m.Calls m₁ f below ∧ Lasts (below.length + 1) m₁ m₁.callers.length m₂ m₂.callers.length ∧
      m₂.Completes m₃ k rest ∧ rest.length = below.length + 1 := by
  obtain ⟨n₁, hcall, h⟩ := Option.bind_eq_some_iff.mp h
  obtain ⟨n₂, hkeeping, h⟩ := Option.bind_eq_some_iff.mp h
  obtain ⟨n₃, hcomplete, h⟩ := Option.bind_eq_some_iff.mp h
  split at h
  · rename_i same
    cases h
    obtain ⟨f, below, calls⟩ := calls_of_call? hcall
    obtain ⟨k, rest, completes, own⟩ := completes_of_complete? hcomplete
    obtain ⟨_, at_, -⟩ := calls.stands
    have height : m.running.frames.length = below.length + 1 := by rw [at_.frames, List.length_cons]
    rw [height] at hkeeping own
    refine ⟨f, below, k, rest, calls, ?_, completes, own⟩
    rw [same]
    exact .of_keeping? .refl hkeeping
  · cases h

theorem registries_keeping? {steps : Nat} (h : m.keeping? level height steps = some m') :
    m'.engine.registries = m.engine.registries := by
  induction steps generalizing m with
  | zero =>
    cases h
    rfl
  | succ steps ih =>
    rw [keeping?] at h
    split at h
    · rename_i next
      split at h
      · exact (ih h).trans (registries_step next)
      · cases h
    · cases h

theorem registries_through? {steps : Nat} (h : m.through? steps = some (m₁, m₂, m₃)) :
    m₃.engine.registries = m.engine.registries := by
  obtain ⟨n₁, hcall, h⟩ := Option.bind_eq_some_iff.mp h
  obtain ⟨n₂, hkeeping, h⟩ := Option.bind_eq_some_iff.mp h
  obtain ⟨n₃, hcomplete, h⟩ := Option.bind_eq_some_iff.mp h
  split at h
  · cases h
    obtain ⟨_, _, calls⟩ := calls_of_call? hcall
    obtain ⟨_, _, completes, -⟩ := completes_of_complete? hcomplete
    exact (registries_step completes.next).trans ((registries_keeping? hkeeping).trans (registries_step calls.next))
  · cases h

/-- The script of a source text, and the machines before, behind and at the end of a call that it makes some steps after
    it has begun to run, in an engine that has nothing but the built-in commands and types. -/
def throughSource? (source : String) (before steps : Nat) :
    Option (Script × Machine × Machine × Machine × Machine) := do
  let s ← (Script.ofSource .builtin "main" source []).toOption
  let m ← keeping? (begin { registries := .builtin } s []) 0 0 before
  let (m₁, m₂, m₃) ← m.through? steps
  return (s, m, m₁, m₂, m₃)

theorem calls_of_throughSource? {source : String} {before steps : Nat} {s : Script}
    (h : throughSource? source before steps = some (s, m, m₁, m₂, m₃)) : m.Reachable ∧
      m₃.engine.registries = .builtin ∧ (∃ row, compile .builtin row [] = .ok s.code) ∧
      (∀ f, m.frame? 0 0 = some f → f.script = s) ∧ ∃ f below k rest,
      m.Calls m₁ f below ∧ Lasts (below.length + 1) m₁ m₁.callers.length m₂ m₂.callers.length ∧
        m₂.Completes m₃ k rest ∧ rest.length = below.length + 1 := by
  obtain ⟨s', hs, h⟩ := Option.bind_eq_some_iff.mp h
  obtain ⟨m', hm, h⟩ := Option.bind_eq_some_iff.mp h
  obtain ⟨⟨n₁, n₂, n₃⟩, ht, h⟩ := Option.bind_eq_some_iff.mp h
  cases h
  have made := toOption_eq_some.mp hs
  have begins : (begin { registries := .builtin } s []).Reachable :=
    .start Engine.fromSource_new (.source rfl made) [] false false
  have lasts : Lasts 0 (begin { registries := .builtin } s []) 0 m 0 := .of_keeping? .refl hm
  refine ⟨begins.of_lasts lasts, (registries_through? ht).trans (registries_keeping? hm),
    Script.compile_of_ofSource made, fun f hf => ?_, calls_of_through? ht⟩
  exact (begins.keeps lasts rfl hf).1.trans (Frame.start_place s []).2.1

/-- A called script that declares a variable, and catches an error of a script that it calls itself. -/
theorem Reachable.call_isolated_caughtError : ∃ (m m₁ m₂ m₃ : Machine) (f k p : Frame) (below rest : List Frame),
    m.Reachable ∧ m.Calls m₁ f below ∧ Lasts (below.length + 1) m₁ m₁.callers.length m₂ m₂.callers.length ∧
      m₂.Completes m₃ k rest ∧ rest.length = below.length + 1 ∧ k.script.code.finalNames.map (·.1) = ["y"] ∧
      m₃.running.frames = p :: below ∧ p = { f with pc := f.pc + 1, vars := p.vars } ∧
      ∀ name, name ≠ "determinations" → name ≠ "y" → p.vars.lookup name = f.vars.lookup name := by
  have found : (throughSource? ("function g { error x } " ++
      "function f { define y 2; try { call g } catch { noop }; determine a } " ++
        "define z 3; call f --n=1") 3 8).any (fun t =>
        t.2.2.2.1.running.frames.head?.map (·.script.code.finalNames.map (·.1)) = some ["y"]) = true := by
    decide +kernel
  obtain ⟨⟨s, m, m₁, m₂, m₃⟩, ht, names⟩ := (Option.any_eq_true _ _).mp found
  obtain ⟨reachable, -, -, -, f, below, k, rest, calls, lasts, completes, own⟩ := calls_of_throughSource? ht
  obtain ⟨script, vars, p, -, rfl, frames, place, same⟩ := reachable.call_isolated calls lasts completes own
  have names : k.script.code.finalNames.map (·.1) = ["y"] := by
    rw [decide_eq_true_eq, completes.frames] at names
    exact Option.some.inj names
  rw [names] at same
  exact ⟨m, m₁, m₂, m₃, f, k, p, below, rest, reachable, calls, lasts, completes, own, names, frames, place,
    fun name ne other => same name ne (by simpa using other)⟩

end Machine

end CommandScript
