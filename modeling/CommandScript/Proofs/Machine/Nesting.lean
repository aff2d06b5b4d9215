import Mathlib.Algebra.Order.BigOperators.Group.List
import Mathlib.Algebra.Order.Ring.Nat
import CommandScript.Proofs.Machine.Floors
import CommandScript.Proofs.Machine.Termination
import CommandScript.Proofs.Machine.Unwinding

/-! How deep scripts run inside one another. A stack takes a limited number of frames, and a `call` beyond that raises
    an error; but each `run` begins a stack of its own inside the one at work, and nothing limits how many there are. -/

namespace CommandScript

/-! ### Literal arguments, functions and messages -/

namespace Act

theorem on_arg_literal {site : Site} {position : Nat} {a : CompiledArgument}
    (ha : site.entry.args[position]? = some a) {text : String} (parts : a.parts = [.text text]) (s : Scene) :
    (arg position).on site s = (.ok (.text text), s) := by
  rw [arg, on_bind, on_read]
  dsimp only
  rw [ha]
  simp only [evaluate, types, on_bind, on_frame, on_get, on_pure, CompiledArgument.evaluate,
    CompiledArgument.evaluateWith, parts]

theorem on_findScript {name : String} {script : Script} (site : Site) {s : Scene}
    (known : s.engine.function? name = some script) : (findScript name).on site s = (.ok script, s) := by
  have found : (Engine.findScript? name).run.run s.engine = (.ok (some script), s.engine) := by
    show (Engine.findScript? name).on s.engine = _
    rw [Engine.findScript?, EngineM.on_bind, EngineM.on_get]
    simp [known, EngineM.on_pure]
  rw [findScript, on_bind, on_onEngine, found]
  rfl

theorem on_say_hidden {kind : MessageKind} (site : Site) {s : Scene} (hidden : kind.shownAt s.frame.verbosity = false)
    (text : String) : (say kind text).on site s = (.ok (), s) := by
  rw [on_say, Engine.emit, hidden]
  rfl

end Act

namespace Machine

variable {m m' n : Machine}

/-! ### Stacks inside one another -/

/-- How many scripts run inside one another: the frames of all stacks. -/
def nesting (m : Machine) : Nat :=
  (m.frameStacks.map List.length).sum

theorem nesting_le {depth : Nat} (h : ∀ frames ∈ m.frameStacks, frames.length ≤ depth) :
    m.nesting ≤ depth * (m.callers.length + 1) := by
  have bound := List.sum_le_card_nsmul (m.frameStacks.map List.length) depth fun k hk => by
    obtain ⟨frames, hframes, rfl⟩ := List.mem_map.mp hk
    exact h frames hframes
  have count : m.frameStacks.length = m.callers.length + 1 := by simp [frameStacks]
  rwa [List.length_map, count, smul_eq_mul, Nat.mul_comm] at bound

theorem Reachable.depth_le (h : m.Reachable) : ∀ frames ∈ m.frameStacks, frames.length ≤ maxCallDepth := by
  intro frames hframes
  rcases List.mem_cons.mp hframes with rfl | hframes
  · exact h.sound.running.depth
  · obtain ⟨c, hc, rfl⟩ := List.mem_map.mp hframes
    exact (h.sound.callers c hc).depth

/-- Each queue that has started another is in a script with a `run`. -/
theorem Reachable.callers_run (h : m.Reachable) : ∀ c ∈ m.callers, ∃ f ∈ c.queue.frames, ¬f.script.NoRun := by
  intro c hc
  obtain ⟨g, below, entry, frames, current, name⟩ := (h.launching c hc).behind
  refine ⟨g, by rw [frames]; exact List.mem_cons_self, fun noRun => ?_⟩
  unfold Frame.current? at current
  split at current
  · cases current
  · rw [← Array.getElem?_toList] at current
    exact noRun entry.instruction (List.mem_map_of_mem (List.mem_of_getElem? current)) name

theorem Reachable.callers_eq_nil (h : m.Reachable) (noRun : ∀ frames ∈ m.frameStacks, ∀ f ∈ frames, f.script.NoRun) :
    m.callers = [] := by
  rw [List.eq_nil_iff_forall_not_mem]
  intro c hc
  obtain ⟨f, hf, hrun⟩ := h.callers_run c hc
  exact hrun (noRun c.queue.frames (List.mem_cons_of_mem _ (List.mem_map_of_mem hc)) f hf)

/-- A `call` on a full stack raises an error. -/
theorem StandsAt.raises_callTooDeep {f : Frame} {below : List Frame} {entry : Entry} (at_ : m.StandsAt f below entry)
    (ordered : f.script.code.Ordered) (name : entry.instruction.name = "call")
    (full : maxCallDepth ≤ below.length + 1) : ∃ n, m.Raises f below entry (.runtime .callTooDeep) n := by
  obtain ⟨r, t, hon, performed⟩ := perform_of_name m.awake below at_.here ordered name (a := .call) rfl
  have raised : Act.call.on ⟨entry, f.pc, below.length + 1, m.awake.running.delayable, m.awake.running.ownOutput⟩
      ⟨m.awake.engine, f.next⟩ = (.error (.error (.runtime .callTooDeep)), ⟨m.awake.engine, f.next⟩) := by
    simp [Act.call, full]
  cases raised.symm.trans hon
  exact ⟨_, at_, m.awake.engine, f.next, performed, rfl⟩

end Machine

/-! ### A function that runs itself -/

/-- An instruction that runs the function `loop`. -/
def Entry.runsLoop (e : Entry) : Bool :=
  e.args.map (·.parts) = [[.text "loop"]] && e.named.isEmpty && e.command.any (·.action.name? = some "run")

theorem Act.on_launch_loop {site : Site} (runs : site.entry.runsLoop = true) {script : Script} {s : Scene}
    (loop : s.engine.function? "loop" = some script) (verbosity : s.frame.verbosity = .minimal) :
    launch.on site s = (.ok (.launch script [] site.entry.instruction.waitFor), s) := by
  simp only [Entry.runsLoop, Bool.and_eq_true, decide_eq_true_eq, List.isEmpty_iff] at runs
  obtain ⟨⟨hargs, hnamed⟩, -⟩ := runs
  obtain ⟨a, rest, heq, hparts, -⟩ := List.map_eq_cons_iff.mp hargs
  have name : (argText 0).on site s = (.ok "loop", s) := by
    rw [argText, on_bind, on_arg_literal (by rw [heq]; rfl) hparts]
    rfl
  have vars : namedVars.on site s = (.ok [], s) := by
    rw [namedVars, on_bind, on_read]
    dsimp only
    rw [hnamed]
    rfl
  have hidden : MessageKind.good.shownAt s.frame.verbosity = false := by rw [verbosity]; rfl
  have said := on_say_hidden site hidden
  simp only [launch, on_bind, name, on_findScript site loop, vars, said, on_instruction, on_pure]

theorem eq_run_of_name? {a : Action} (h : a.name? = some "run") : a = .run := by
  cases a with
  | run => rfl
  | custom _ => cases h
  | _ => exact absurd h (by decide)

namespace Machine

variable {m m' n : Machine}

/-- The queue at work is about to run the function `loop`, which begins by running `loop` again. -/
structure Loops (m : Machine) (script : Script) : Prop where
  stands : ∃ f below entry, m.StandsAt f below entry ∧ entry.runsLoop = true ∧ f.verbosity = .minimal
  loop : m.engine.function? "loop" = some script
  again : (script.code.entries[0]?).any Entry.runsLoop = true
  verbosity : script.verbosity = .minimal

theorem Loops.next {script : Script} (h : m.Loops script) :
    ∃ m', m.step = .next m' ∧ m'.Loops script ∧ m'.nesting = m.nesting + 1 := by
  obtain ⟨f, below, entry, stands, runs, minimal⟩ := h.stands
  obtain ⟨c, hc, action⟩ := (Option.any_eq_true _ _).mp (Bool.and_eq_true_iff.mp runs).2
  have performed : m.awake.perform f below entry =
      (.ok (.launch script [] entry.instruction.waitFor), m.engine, f.next) := by
    unfold perform
    rw [hc]
    dsimp only
    rw [eq_run_of_name? (of_decide_eq_true action), Action.perform,
      Act.on_launch_loop (s := ⟨m.awake.engine, f.next⟩) runs h.loop minimal]
    rfl
  refine ⟨_, by rw [stands.step, execute_eq, performed, conclude], ?_, ?_⟩
  · obtain ⟨first, here, again⟩ := (Option.any_eq_true _ _).mp h.again
    have still : ¬(0 : Float) < 0 := by decide
    exact ⟨⟨Frame.start script [], [], first, ⟨rfl, rfl, rfl, still, rfl, here⟩, again, h.verbosity⟩, h.loop, h.again,
      h.verbosity⟩
  · simp [nesting, frameStacks, follow, withFrames, awake, stands.frames]
    omega

theorem Loops.deeper {script : Script} (h : m.Loops script) (reachable : m.Reachable) (levels : Nat) :
    ∃ n : Machine, n.Reachable ∧ n.Loops script ∧ n.nesting = m.nesting + levels := by
  induction levels with
  | zero => exact ⟨m, reachable, h, rfl⟩
  | succ levels ih =>
    obtain ⟨n, reached, loops, nesting⟩ := ih
    obtain ⟨n', next, loops', nesting'⟩ := loops.next
    exact ⟨n', reached.step next, loops', by omega⟩

theorem exists_loops : ∃ (m : Machine) (script : Script), m.Reachable ∧ m.Loops script := by
  have found : (afterSource? "function loop { run loop }; run loop" 1).any (fun m =>
      m.running.running && m.running.result.brokeOff.isNone && m.running.waitingOn.isNone &&
        !decide (0 < m.running.wait) &&
        (m.running.frames.head?).any (fun f => f.verbosity = .minimal &&
          (f.script.code.entries[f.pc]?).any Entry.runsLoop) &&
        (m.engine.function? "loop").any fun s => s.verbosity = .minimal &&
          (s.code.entries[0]?).any Entry.runsLoop) = true := by
    decide +kernel
  obtain ⟨m, hm, found⟩ := (Option.any_eq_true _ _).mp found
  simp only [Bool.and_eq_true, Option.any_eq_true, decide_eq_true_eq, Bool.not_eq_true', decide_eq_false_iff_not,
    Option.isNone_iff_eq_none] at found
  obtain ⟨⟨⟨⟨⟨running, kept⟩, gate⟩, wait⟩, f, hf, minimal, entry, here, runs⟩, script, loop, verbosity,
    again⟩ := found
  obtain ⟨below, frames⟩ := List.head?_eq_some_iff.mp hf
  have stands : m.StandsAt f below entry := ⟨running, kept, by rw [gate]; rfl, wait, frames, here⟩
  have again : (script.code.entries[0]?).any Entry.runsLoop = true := (Option.any_eq_true _ _).mpr again
  exact ⟨m, script, reachable_afterSource hm, ⟨f, below, entry, stands, runs, minimal⟩, loop, again, verbosity⟩

/-! ### The bound that there is, and the one that there is not -/

/-- Every stack is limited, and a `call` on a full one raises an error. So scripts nest as deep as there are queues
    inside one another at most, and where no script has a `run`, no deeper than one stack. -/
theorem Reachable.nesting_limited (h : m.Reachable) :
    (∀ frames ∈ m.frameStacks, frames.length ≤ maxCallDepth) ∧
      m.nesting ≤ maxCallDepth * (m.callers.length + 1) ∧
      ((∀ frames ∈ m.frameStacks, ∀ f ∈ frames, f.script.NoRun) → m.nesting ≤ maxCallDepth) ∧
      ∀ f below entry, m.StandsAt f below entry → entry.instruction.name = "call" →
        maxCallDepth ≤ below.length + 1 → ∃ n, m.Raises f below entry (.runtime .callTooDeep) n := by
  have total := nesting_le h.depth_le
  refine ⟨h.depth_le, total, fun noRun => ?_, fun f below entry stands name full => ?_⟩
  · rwa [h.callers_eq_nil noRun] at total
  · have top := h.sound.running.sound f (by simp [stands.frames])
    exact stands.raises_callTooDeep top.script.ordered name full

/-- A function that calls itself fills its stack, and the next `call` raises an error. -/
theorem Reachable.nesting_limited_fullStack : ∃ (m : Machine) (f : Frame) (below : List Frame) (entry : Entry)
    (n : Machine), m.Reachable ∧ m.StandsAt f below entry ∧
    entry.instruction.name = "call" ∧ below.length + 1 = maxCallDepth ∧ m.nesting ≤ maxCallDepth ∧
      m.Raises f below entry (.runtime .callTooDeep) n := by
  have found : (afterSource? "function loop { call loop }; call loop" 256).any (fun m =>
      m.running.running && m.running.result.brokeOff.isNone && m.running.waitingOn.isNone &&
        !decide (0 < m.running.wait) && m.callers.isEmpty &&
        m.running.frames.all (fun f => f.script.instructions.all fun i => i.name ≠ "run") &&
        m.running.frames.length = maxCallDepth && (m.running.frames.head?).any fun f =>
          (f.script.code.entries[f.pc]?).any fun e => e.instruction.name = "call") = true := by
    decide +kernel
  obtain ⟨m, hm, found⟩ := (Option.any_eq_true _ _).mp found
  simp only [Bool.and_eq_true, Option.any_eq_true, decide_eq_true_eq, Bool.not_eq_true', decide_eq_false_iff_not,
    Option.isNone_iff_eq_none, List.isEmpty_iff, List.all_eq_true] at found
  obtain ⟨⟨⟨⟨⟨⟨⟨running, kept⟩, gate⟩, wait⟩, callers⟩, noRun⟩, full⟩, f, hf, entry, here, name⟩ := found
  obtain ⟨below, frames⟩ := List.head?_eq_some_iff.mp hf
  have stands : m.StandsAt f below entry := ⟨running, kept, by rw [gate]; rfl, wait, frames, here⟩
  rw [frames, List.length_cons] at full
  have reachable := reachable_afterSource hm
  obtain ⟨-, -, limited, raises⟩ := reachable.nesting_limited
  obtain ⟨n, hn⟩ := raises f below entry stands name (Nat.le_of_eq full.symm)
  refine ⟨m, f, below, entry, n, reachable, stands, name, full, limited fun stack hstack k hk => ?_, hn⟩
  rw [frameStacks, callers, List.map_nil, List.mem_singleton] at hstack
  subst hstack
  exact noRun k hk

/-- A function that runs itself nests deeper than any bound. -/
theorem nesting_unlimited : ¬∃ bound, ∀ m : Machine, m.Reachable → m.nesting ≤ bound := by
  rintro ⟨bound, limited⟩
  obtain ⟨m, script, reachable, loops⟩ := exists_loops
  obtain ⟨n, reached, -, nesting⟩ := loops.deeper reachable (bound + 1)
  have := limited n reached
  omega

end Machine

end CommandScript
