import CommandScript.Proofs.Compile.Entries
import CommandScript.Proofs.Structured.Acts

/-! One queue with one frame at work, step by step. A command that is known does what it does and the machine follows
    it, and a blind command does to the frame what it does to a frame that is nowhere.

    The machine does in one stretch of the code what an interpretation does, if where the interpretation comes to an
    end, the machine comes to the end of the stretch, and where it throws, the machine raises the same error inside the
    stretch, and no `try` inside catches it. In both cases the machine leaves the same world. -/

namespace CommandScript

/-! ### Interpretations -/

namespace Interpretation

/-- What an interpretation comes to in a world, and the world it leaves. -/
def on (x : Interpretation α) (w : World) : Except Thrown α × World :=
  (x.run).run w

@[simp] theorem on_pure (a : α) (w : World) : on (pure a) w = (.ok a, w) := rfl

@[simp] theorem on_throw (t : Thrown) (w : World) : on (throw t : Interpretation α) w = (.error t, w) := rfl

@[simp] theorem on_onStore (change : Store → Store) (w : World) :
    on (onStore change) w = (.ok (), { w with store := change w.store }) := rfl

@[simp] theorem on_bind (x : Interpretation α) (k : α → Interpretation β) (w : World) :
    on (x >>= k) w =
      match on x w with
      | (.ok a, w) => on (k a) w
      | (.error t, w) => (.error t, w) := by
  simp only [on, ExceptT.run_bind, StateT.run_bind]
  generalize (x.run).run w = r
  obtain ⟨_ | _, _⟩ := r <;> rfl

@[simp] theorem on_tryCatch (x : Interpretation α) (k : Thrown → Interpretation α) (w : World) :
    on (tryCatch x k) w =
      match on x w with
      | (.ok a, w) => (.ok a, w)
      | (.error t, w) => on (k t) w := by
  simp only [on, ExceptT.run_tryCatch, StateT.run_bind]
  generalize (x.run).run w = r
  obtain ⟨_ | _, _⟩ := r <;> rfl

end Interpretation

/-- What a failure of the command of an entry throws. -/
def Entry.thrown (entry : Entry) (f : Failure) : Thrown :=
  ⟨f.toScriptError, entry.instruction.line, entry.instruction.source⟩

/-- What an attempt at a command comes to, from what the command comes to. -/
def Entry.attempted (entry : Entry) (r : Except Failure α × Scene) : Except Thrown α × World :=
  (r.1.mapError entry.thrown, ⟨r.2.engine, r.2.frame.store⟩)

theorem on_attempt (script : Script) (entry : Entry) (a : Act α) (w : World) :
    (attempt script entry a).on w =
      entry.attempted (a.on ⟨entry, 0, 1, false, false⟩ ⟨w.engine, w.store.frame script⟩) := by
  have hr : StateT.run (ExceptT.run (ReaderT.run a ⟨entry, 0, 1, false, false⟩)) ⟨w.engine, w.store.frame script⟩ =
      a.on ⟨entry, 0, 1, false, false⟩ ⟨w.engine, w.store.frame script⟩ := rfl
  generalize a.on _ _ = r at hr ⊢
  obtain ⟨result, scene⟩ := r
  unfold attempt
  rw [Interpretation.on_bind]
  show Interpretation.on _ w = _
  dsimp only
  rw [hr]
  cases result <;> rfl

/-- A blind command does the same in a frame as in an attempt, and leaves the frame where it is. -/
theorem Act.Blind.tried {a : Act α} (ha : a.Blind) (entry : Entry) (index : Nat) (e : Engine) (f : Frame) :
    ∃ result e' g, a.on ⟨entry, index, 1, false, false⟩ ⟨e, f⟩ = (result, ⟨e', g⟩) ∧
      g.place = f.place ∧ g.script = f.script ∧
      (attempt f.script entry a).on ⟨e, f.store⟩ = (result.mapError entry.thrown, ⟨e', g.store⟩) := by
  have hi := ha.index ⟨entry, 0, 1, false, false⟩ index ⟨e, f⟩
  have hp := ha.place ⟨entry, 0, 1, false, false⟩ ⟨e, f.store.frame f.script⟩ f.place
  have hs := ha.script ⟨entry, 0, 1, false, false⟩ ⟨e, f.store.frame f.script⟩
  rw [on_attempt]
  refine ⟨_, _, _, hi.trans hp, rfl, hs, ?_⟩
  generalize a.on _ _ = r
  obtain ⟨_ | _, _⟩ := r <;> rfl

/-- A frame past the instruction it stands at. -/
def Frame.next (f : Frame) : Frame :=
  { f with pc := f.pc + 1 }

/-- A blind command that is the first thing at an instruction. -/
theorem Act.Blind.tried_next {a : Act α} (ha : a.Blind) (entry : Entry) (e : Engine) (f : Frame) :
    ∃ result e' g, a.on ⟨entry, f.pc, 1, false, false⟩ ⟨e, f.next⟩ = (result, ⟨e', g⟩) ∧
      g.place = f.next.place ∧ g.script = f.script ∧
      (attempt f.script entry a).on ⟨e, f.store⟩ = (result.mapError entry.thrown, ⟨e', g.store⟩) :=
  ha.tried entry f.pc e f.next

/-! ### Runs -/

/-- A queue of its own, with one frame, at work in an engine. It never waits. -/
def machineAt (id : Nat) (e : Engine) (f : Frame) : Machine :=
  { engine := e, running := { id := id, frames := [f], delayable := false } }

/-- One machine runs on to another. -/
def RunsTo (m n : Machine) : Prop :=
  ∃ count, ∀ steps, m.run (steps + count) = n.run steps

theorem RunsTo.refl (m : Machine) : RunsTo m m :=
  ⟨0, fun _ => rfl⟩

theorem RunsTo.trans {m n o : Machine} (h : RunsTo m n) (g : RunsTo n o) : RunsTo m o := by
  obtain ⟨a, ha⟩ := h
  obtain ⟨b, hb⟩ := g
  refine ⟨b + a, fun steps => ?_⟩
  rw [← Nat.add_assoc, ha, hb]

theorem RunsTo.of_step {m n : Machine} (h : m.step = .next n) : RunsTo m n := by
  refine ⟨1, fun steps => ?_⟩
  rw [Machine.run, h]

section
variable {id : Nat} {e : Engine} {f : Frame} {entry : Entry}

theorem step_machineAt (h : f.script.code.entries[f.pc]? = some entry) :
    (machineAt id e f).step = .next ((machineAt id e f).execute f [] entry) := by
  have still : ¬(0 : Float) < 0 := by decide
  simp only [Machine.step, machineAt, Bool.not_true, Option.isSome_none, Bool.or_self, Bool.false_eq_true, if_false,
    Option.any_none, still, h]

/-- An instruction whose command is not known is an error. -/
theorem runsTo_unknown (h : f.script.code.entries[f.pc]? = some entry) (hc : entry.command = none) :
    RunsTo (machineAt id e f)
      ((machineAt id e f.next).handle (.runtime (.unknownCommand entry.instruction.name))) := by
  refine RunsTo.of_step ((step_machineAt h).trans ?_)
  simp only [Machine.execute, hc]
  rfl

variable {c : Command}

/-- An instruction whose command goes on. -/
theorem runsTo_proceed (id : Nat) (h : f.script.code.entries[f.pc]? = some entry) (hc : entry.command = some c)
    {e' : Engine} {g : Frame} (ho : c.action.perform.on ⟨entry, f.pc, 1, false, false⟩ ⟨e, f.next⟩ =
      (.ok .proceed, ⟨e', g⟩)) : RunsTo (machineAt id e f) (machineAt id e' g) := by
  refine RunsTo.of_step ((step_machineAt h).trans ?_)
  unfold Act.on Frame.next at ho
  simp only [Machine.execute, hc, machineAt, List.length_nil, Nat.zero_add, ho]
  rfl

/-- An instruction whose command fails. -/
theorem runsTo_failure (h : f.script.code.entries[f.pc]? = some entry) (hc : entry.command = some c) {e' : Engine}
    {g : Frame} {failure : Failure}
    (ho : c.action.perform.on ⟨entry, f.pc, 1, false, false⟩ ⟨e, f.next⟩ =
      (.error failure, ⟨e', g⟩)) :
    RunsTo (machineAt id e f) ((machineAt id e' g).handle failure.toScriptError) := by
  refine RunsTo.of_step ((step_machineAt h).trans ?_)
  unfold Act.on Frame.next at ho
  simp only [Machine.execute, hc, machineAt, List.length_nil, Nat.zero_add, ho]

end

/-! ### Loops and branches by owner -/

theorem lookup_eraseKey_ne [BEq κ] [LawfulBEq κ] {key other : κ} (h : other ≠ key) (pairs : List (κ × α)) :
    (eraseKey key pairs).lookup other = pairs.lookup other := by
  induction pairs with
  | nil => rfl
  | cons pair rest ih =>
    obtain ⟨k, v⟩ := pair
    unfold eraseKey at ih ⊢
    rw [List.lookup_cons]
    by_cases hk : k = key
    · have hne : (other == k) = false := by simpa [hk] using h
      rw [List.filter_cons_of_neg (by simp [hk]), hne, ih]
    · rw [List.filter_cons_of_pos (by simp [hk]), List.lookup_cons, ih]

/-- A frame has become another of the same script, and only loops and branches of owners from `lo` on and before
    `hi` have changed. -/
structure Frame.Within (lo hi : Nat) (f g : Frame) : Prop where
  script : g.script = f.script
  floor : g.floor = f.floor
  loops : ∀ owner, owner < lo ∨ hi ≤ owner → g.loops.lookup owner = f.loops.lookup owner
  branches : ∀ owner, owner < lo ∨ hi ≤ owner → g.branches.lookup owner = f.branches.lookup owner

namespace Frame.Within

theorem of_place {f g : Frame} {lo hi : Nat} (script : g.script = f.script) (place : g.place = f.place) :
    f.Within lo hi g where
  script := script
  floor := congrArg Place.floor place
  loops owner _ := congrArg (fun p => List.lookup owner p.loops) place
  branches owner _ := congrArg (fun p => List.lookup owner p.branches) place

theorem trans {f g h : Frame} {lo hi : Nat} (hg : f.Within lo hi g) (hh : g.Within lo hi h) : f.Within lo hi h where
  script := hh.script.trans hg.script
  floor := hh.floor.trans hg.floor
  loops owner ho := (hh.loops owner ho).trans (hg.loops owner ho)
  branches owner ho := (hh.branches owner ho).trans (hg.branches owner ho)

theorem mono {f g : Frame} {lo hi lo' hi' : Nat} (h : f.Within lo hi g) (hlo : lo' ≤ lo) (hhi : hi ≤ hi') :
    f.Within lo' hi' g where
  script := h.script
  floor := h.floor
  loops owner ho := h.loops owner (by omega)
  branches owner ho := h.branches owner (by omega)

theorem branchTaken {f g : Frame} {lo hi : Nat} (h : f.Within lo hi g) {owner : Nat} (ho : owner < lo ∨ hi ≤ owner) :
    g.branchTaken owner = f.branchTaken owner := by
  rw [Frame.branchTaken, Frame.branchTaken, h.branches owner ho]

end Frame.Within

/-! ### Errors on their way -/

/-- An entry catches the errors of a frame that goes on at `pc`: it ends the block of a `try` that was passed. -/
def Entry.Catches (entry : Entry) (pc : Nat) : Prop :=
  entry.command.any (·.signature.errorBoundary) = true ∧ ∃ owner < pc, entry.instruction.callbackOf = some owner

/-- In a stretch of the code, only blocks end in a `try` that begin there. -/
def Closed (code : Code) (lo hi : Nat) : Prop :=
  ∀ place entry owner, lo ≤ place → place < hi → code.entries[place]? = some entry →
    entry.command.any (·.signature.errorBoundary) = true → entry.instruction.callbackOf = some owner → lo ≤ owner

theorem Closed.not_catches {code : Code} {lo hi : Nat} (h : Closed code lo hi) {pc place : Nat} {entry : Entry}
    (hpc : pc ≤ lo) (hlo : lo ≤ place) (hhi : place < hi) (he : code.entries[place]? = some entry) :
    ¬entry.Catches pc := by
  rintro ⟨hb, owner, hlt, ho⟩
  have := h place entry owner hlo hhi he hb ho
  omega

/-- A frame has raised an error in a stretch of the code that nothing up to the end of the stretch catches. -/
structure Raised (g : Frame) (t : Thrown) (lo hi : Nat) : Prop where
  here : ∃ entry, g.current? = some entry ∧ entry.instruction.line = t.line ∧ entry.instruction.source = t.source
  lt : lo < g.pc
  le : g.pc ≤ hi
  clear : ∀ place entry, g.pc ≤ place → place < hi → g.script.code.entries[place]? = some entry →
    ¬entry.Catches g.pc

theorem Raised.extend {g : Frame} {t : Thrown} {lo lo' hi hi' : Nat} (h : Raised g t lo hi) (hlo : lo' ≤ lo)
    (hhi : hi ≤ hi') (closed : Closed g.script.code hi hi') : Raised g t lo' hi' where
  here := h.here
  lt := Nat.lt_of_le_of_lt hlo h.lt
  le := Nat.le_trans h.le hhi
  clear place entry hpc hlt he := by
    by_cases hin : place < hi
    · exact h.clear place entry hpc hin he
    · exact closed.not_catches h.le (by omega) hlt he

/-- An error raised at an instruction that nothing behind it catches. -/
theorem Raised.of_pc {g : Frame} {t : Thrown} {entry : Entry} {index hi : Nat} (hpc : g.pc = index + 1)
    (he : g.script.code.entries[index]? = some entry) (line : entry.instruction.line = t.line)
    (source : entry.instruction.source = t.source) (hlt : index < hi)
    (closed : Closed g.script.code (index + 1) hi) : Raised g t index hi where
  here := by
    refine ⟨entry, ?_, line, source⟩
    rw [Frame.current?, hpc, if_neg (Nat.succ_ne_zero index), Nat.add_sub_cancel, he]
  lt := by omega
  le := by omega
  clear place entry hle hplace he := closed.not_catches (Nat.le_of_eq hpc) (by omega) hplace he

/-! ### Stretches -/

/-- The machine that runs a frame comes to what an interpretation came to, in the stretch from `lo` on and before
    `hi`. -/
def Reaches (id : Nat) (e : Engine) (f : Frame) (lo hi : Nat) (post : α → Frame → Prop) :
    Except Thrown α × World → Prop
  | (.ok a, w) => ∃ g, RunsTo (machineAt id e f) (machineAt id w.engine g) ∧ f.Within lo hi g ∧ g.store = w.store ∧
      g.pc = hi ∧ post a g
  | (.error t, w) => ∃ g, RunsTo (machineAt id e f) ((machineAt id w.engine g).handle t.error) ∧ f.Within lo hi g ∧
      g.store = w.store ∧ Raised g t lo hi

namespace Reaches

variable {id : Nat} {e e' : Engine} {f g : Frame} {lo hi : Nat}

/-- What a frame reaches that another becomes, the other reaches. -/
theorem after {post : α → Frame → Prop} {r : Except Thrown α × World} {lo' : Nat}
    (run : RunsTo (machineAt id e f) (machineAt id e' g)) (within : f.Within lo hi g) (hlo : lo ≤ lo')
    (h : Reaches id e' g lo' hi post r) : Reaches id e f lo hi post r := by
  obtain ⟨_ | a, w⟩ := r
  · obtain ⟨k, hrun, hin, hs, hr⟩ := h
    refine ⟨k, run.trans hrun, within.trans (hin.mono hlo (Nat.le_refl _)), hs, hr.here, ?_, hr.le, hr.clear⟩
    exact Nat.lt_of_le_of_lt hlo hr.lt
  · obtain ⟨k, hrun, hin, hs, hpc, hp⟩ := h
    exact ⟨k, run.trans hrun, within.trans (hin.mono hlo (Nat.le_refl _)), hs, hpc, hp⟩

/-- Two stretches behind one another. The second may go back, as a loop does. -/
theorem bind {x : Interpretation α} {k : α → Interpretation β} {w : World} {mid lo' : Nat} {mids : α → Frame → Prop}
    {post : β → Frame → Prop} (hx : Reaches id e f lo mid mids (x.on w)) (hlo : lo ≤ lo') (hhi : mid ≤ hi)
    (closed : Closed f.script.code mid hi)
    (hk : ∀ a e' g, f.Within lo mid g → g.pc = mid → mids a g →
      Reaches id e' g lo' hi post ((k a).on ⟨e', g.store⟩)) : Reaches id e f lo hi post ((x >>= k).on w) := by
  rw [Interpretation.on_bind]
  generalize x.on w = r at hx
  obtain ⟨t | a, w'⟩ := r
  · obtain ⟨g, hrun, hin, hs, hr⟩ := hx
    exact ⟨g, hrun, hin.mono (Nat.le_refl _) hhi, hs, hr.extend (Nat.le_refl _) hhi (hin.script ▸ closed)⟩
  · obtain ⟨g, hrun, hin, hs, hpc, hp⟩ := hx
    have next := hk a w'.engine g hin hpc hp
    rw [hs] at next
    exact next.after hrun (hin.mono (Nat.le_refl _) hhi) hlo

/-- An interpretation that comes to nothing, where the frame stands at the end of the stretch. -/
theorem pure {post : α → Frame → Prop} {a : α} (hpc : f.pc = hi) (hp : post a f) :
    Reaches id e f lo hi post (Interpretation.on (Pure.pure a) ⟨e, f.store⟩) :=
  ⟨f, RunsTo.refl _, Frame.Within.of_place rfl rfl, rfl, hpc, hp⟩

/-- A stretch that ends with a weaker fact. -/
theorem weaken {post post' : α → Frame → Prop} {r : Except Thrown α × World} (h : Reaches id e f lo hi post r)
    (hp : ∀ a g, f.Within lo hi g → post a g → post' a g) : Reaches id e f lo hi post' r := by
  obtain ⟨_ | a, w⟩ := r
  · exact h
  · obtain ⟨g, hrun, hin, hs, hpc, h⟩ := h
    exact ⟨g, hrun, hin, hs, hpc, hp a g hin h⟩

/-- A command that fails right where its statement begins. -/
theorem of_failure {post : α → Frame → Prop} {entry : Entry} {c : Command} {failure : Failure}
    (he : f.script.code.entries[f.pc]? = some entry) (hc : entry.command = some c)
    (ho : c.action.perform.on ⟨entry, f.pc, 1, false, false⟩ ⟨e, f.next⟩ =
      (.error failure, ⟨e', g⟩)) (place : g.place = f.next.place) (script : g.script = f.script)
    (hlt : f.pc < hi) (closed : Closed f.script.code (f.pc + 1) hi) :
    Reaches id e f f.pc hi post (.error (entry.thrown failure), ⟨e', g.store⟩) := by
  have within : f.next.Within f.pc hi g := Frame.Within.of_place script place
  refine ⟨g, runsTo_failure he hc ho, ⟨script, within.floor, within.loops, within.branches⟩, rfl, ?_⟩
  exact Raised.of_pc (congrArg Place.pc place) (script ▸ he) rfl rfl hlt (script ▸ closed)

end Reaches

end CommandScript
