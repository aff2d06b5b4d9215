import CommandScript.Engine.Host
import CommandScript.Proofs.Structured.Errors
import CommandScript.Proofs.Structured.Loops
import CommandScript.Proofs.Structured.Placed

/-! The flat machine does what the tree says. By induction on the tree, the machine comes from where a row begins in
    the code to where it ends, or to the error that the row raises; a whole script then leaves the same engine and the
    same result. -/

namespace CommandScript

/-! ### Statements -/

/-- A frame behind a sibling of a row knows what that came to, if it reports it. -/
def Behind (previous : Option Sibling) (outcome : Bool) (f : Frame) : Prop :=
  ∀ p, previous = some p → p.name ∈ ["if", "else", "try"] → f.branchTaken p.index = outcome

theorem Placed.closed {r : CommandRegistry} {code : Code} {index stop : Nat} {previous : Option Sibling}
    {row : List Statement} (h : Placed r code index previous row stop) : Closed code index stop :=
  fun _ _ _ hlo hhi he _ ho => h.owner_le hlo hhi he ho

section
variable {r : CommandRegistry} {script : Script} {id : Nat} {e : Engine} {f : Frame} {entry : Entry} {before : Bool}
  {body : Interpretation Unit} {previous : Option Sibling} {last : Nat}

/-- A statement of an unknown command raises an error, whatever its block is. -/
theorem reaches_unknown (here : f.script.code.entries[f.pc]? = some entry) (hc : entry.command = none)
    {post : Bool → Frame → Prop} {hi : Nat} (hlt : f.pc < hi) (closed : Closed f.script.code (f.pc + 1) hi) :
    Reaches id e f f.pc hi post ((interpretStatement f.script entry before body).on ⟨e, f.store⟩) := by
  rw [interpretStatement, hc]
  refine ⟨f.next, runsTo_unknown here hc, Frame.within_step rfl rfl, rfl, ?_⟩
  exact Raised.of_pc rfl here rfl rfl hlt closed

theorem Behind.of_settles {name : String} {outcome : Bool} {g : Frame} {index : Nat}
    (h : g.branchTaken index = outcome) : Behind (some ⟨index, name⟩) outcome g := by
  rintro p hp -
  cases hp
  exact h

theorem Behind.of_fits {c : Command} {name : String} {outcome : Bool} {g : Frame} {index : Nat} (fits : c.Fits name)
    (h : c.action.settles = false) : Behind (some ⟨index, name⟩) outcome g := by
  rintro p hp hn
  cases hp
  rw [fits.settles hn] at h
  cases h

/-- A statement without a block. -/
theorem reaches_statement_plain (sound : f.script.code.Structured r)
    (here : f.script.code.entries[f.pc]? = some entry) (callbackOf : entry.instruction.callbackOf = none)
    (block : entry.instruction.block = none) :
    Reaches id e f f.pc (f.pc + 1) (Behind (some ⟨f.pc, entry.instruction.name⟩))
      ((interpretStatement f.script entry before body).on ⟨e, f.store⟩) := by
  cases hc : entry.command with
  | none => exact reaches_unknown here hc (Nat.lt_succ_self _) fun _ _ _ hlo hhi => by omega
  | some c =>
    have fits := sound.fits here hc
    have plain : c.action.isPlain = true := by
      have hb := sound.block here callbackOf hc
      rw [block] at hb
      simpa using hb.symm
    have notSettles : c.action.settles = false := by
      cases ha : c.action <;> rw [ha] at plain <;> first | rfl | cases plain
    rw [interpretStatement, hc]
    exact (reaches_plain here hc plain).weaken fun _ _ _ _ => Behind.of_fits fits notSettles

/-- The command of a structured statement with a block is one that needs it. -/
theorem follows_eq (sound : f.script.code.Structured r) (here : f.script.code.entries[f.pc]? = some entry)
    {c : Command} (hc : entry.command = some c) {allowed : List String} (ha : c.action.follows? = some allowed)
    (linked : Linked r previous entry.instruction) (names : ∀ name ∈ allowed, name ∈ ["if", "else", "try"])
    (behind : Behind previous before f) :
    ∃ link, entry.instruction.link = some link ∧ f.branchTaken link = before := by
  have hf : (r.get? entry.instruction.name).bind (·.signature.follows) = some allowed := by
    rw [← sound.command here, hc, Option.bind_some, (sound.fits here hc).follows, ha]
  unfold Linked at linked
  rw [hf] at linked
  obtain ⟨p, hp, hm, hl⟩ := linked
  exact ⟨p.index, hl, behind p hp (names p.name hm)⟩

/-- A statement with a block. -/
theorem reaches_statement_owner (sound : f.script.code.Structured r) (floor : f.floor = 0)
    (here : f.script.code.entries[f.pc]? = some entry) (callbackOf : entry.instruction.callbackOf = none)
    (block : entry.instruction.block = some ⟨f.pc + 1, last⟩) (linked : Linked r previous entry.instruction)
    (behind : Behind previous before f) (lt : f.pc < last) (closed : Closed f.script.code (f.pc + 1) last)
    (ends : entry.needsEnd = true →
      ∃ atEnd, f.script.code.entries[last]? = some atEnd ∧ atEnd.instruction = entry.instruction.endOfBlock f.pc)
    (hbody : ∀ e g, f.Within f.pc last g → g.pc = f.pc + 1 →
      Reaches id e g (f.pc + 1) last (fun _ _ => True) (body.on ⟨e, g.store⟩)) :
    Reaches id e f f.pc (if entry.needsEnd then last + 1 else last) (Behind (some ⟨f.pc, entry.instruction.name⟩))
      ((interpretStatement f.script entry before body).on ⟨e, f.store⟩) := by
  cases hc : entry.command with
  | none =>
    have noEnd : entry.needsEnd = false := by rw [Entry.needsEnd, hc]; rfl
    rw [noEnd]
    exact reaches_unknown here hc lt closed
  | some c =>
    have fits := sound.fits here hc
    have owner : AtOwner id f entry c last body := ⟨here, hc, callbackOf, floor, block, lt, closed, hbody⟩
    have hneeds : entry.needsEnd = c.action.endsBlock := by rw [Entry.needsEnd, hc, Option.any_some, fits.ends]
    have notPlain : c.action.isPlain = false := by
      have hb := sound.block here callbackOf hc
      rw [block] at hb
      simpa using hb.symm
    have noEnd : entry.needsEnd = false → NoEnd f last := by
      intro hn atEnd hat ho
      obtain ⟨o, ho', hneeds', -⟩ := sound.owner hat ho
      rw [here] at ho'
      cases ho'
      rw [hn] at hneeds'
      cases hneeds'
    have atEnd : entry.needsEnd = true → ∃ atEnd, EndsAtOwner f c last atEnd ∧
        atEnd.instruction = entry.instruction.endOfBlock f.pc := by
      intro hn
      obtain ⟨atEnd, hat, hi⟩ := ends hn
      have ho : atEnd.instruction.callbackOf = some f.pc := by rw [hi]; rfl
      obtain ⟨o, ho', -, hcommand⟩ := sound.owner hat ho
      rw [here] at ho'
      cases ho'
      exact ⟨atEnd, ⟨hat, hcommand.trans hc, ho⟩, hi⟩
    have structured := fits.structured
    rw [interpretStatement, hc]
    dsimp only
    rw [hneeds] at noEnd atEnd ⊢
    cases ha : c.action with
    | ifBlock =>
      rw [ha] at noEnd
      exact (reaches_if owner (noEnd rfl) ha).weaken fun _ _ _ h => Behind.of_settles h
    | elseBlock =>
      rw [ha] at noEnd
      obtain ⟨link, hl, earlier⟩ := follows_eq sound here hc (by rw [ha]; rfl) linked (by decide) behind
      exact (reaches_else owner (noEnd rfl) ha hl earlier).weaken fun _ _ _ h => Behind.of_settles h
    | repeatBlock =>
      rw [ha] at atEnd
      obtain ⟨atEnd, ends, -⟩ := atEnd rfl
      exact (reaches_repeat owner ends (by rw [fits.boundary, ha]; rfl) ha).weaken fun _ _ _ _ =>
        Behind.of_fits fits (by rw [ha]; rfl)
    | foreach =>
      rw [ha] at atEnd
      obtain ⟨atEnd, ends, -⟩ := atEnd rfl
      exact (reaches_foreach owner ends (by rw [fits.boundary, ha]; rfl) ha).weaken fun _ _ _ _ =>
        Behind.of_fits fits (by rw [ha]; rfl)
    | once =>
      rw [ha] at noEnd
      exact (reaches_once owner (noEnd rfl) ha).weaken fun _ _ _ _ => Behind.of_fits fits (by rw [ha]; rfl)
    | tryBlock =>
      rw [ha] at atEnd
      obtain ⟨atEnd, ends, hend⟩ := atEnd rfl
      exact (reaches_try owner ends (by rw [fits.boundary, ha]; rfl) ha hend).weaken fun _ _ _ h =>
        Behind.of_settles h
    | catchBlock =>
      rw [ha] at noEnd
      obtain ⟨link, hl, earlier⟩ := follows_eq sound here hc (by rw [ha]; rfl) linked (by decide) behind
      exact (reaches_catch owner (noEnd rfl) ha hl earlier).weaken fun _ _ _ _ =>
        Behind.of_fits fits (by rw [ha]; rfl)
    | echo | help | noop | debug | define | set | determine | error =>
      rw [ha] at notPlain
      cases notPlain
    | _ =>
      rw [ha] at structured
      cases structured

end

/-! ### Rows -/

/-- The machine comes from where a row begins to where it ends, or to the error that the row raises. -/
theorem reaches_row {r : CommandRegistry} {script : Script} (id : Nat) (sound : script.code.Structured r)
    {index stop : Nat} {previous : Option Sibling} {row : List Statement}
    (placed : Placed r script.code index previous row stop) (before : Bool) {e : Engine} {f : Frame}
    (hscript : f.script = script) (floor : f.floor = 0) (hpc : f.pc = index) (behind : Behind previous before f) :
    Reaches id e f index stop (fun _ _ => True) ((interpretRow script before row).on ⟨e, f.store⟩) := by
  induction placed generalizing before e f with
  | nil =>
    rw [interpretRow]
    exact Reaches.pure hpc trivial
  | plain here callbackOf block link more ih =>
    subst hscript hpc
    rw [interpretRow, interpretBlock]
    refine (reaches_statement_plain sound here callbackOf block).bind (Nat.le_succ _) more.le more.closed ?_
    intro outcome e' g hin hpc' hbehind
    exact ih outcome hin.script (hin.floor.trans floor) hpc' hbehind
  | @owner index last stop previous entry body rest here callbackOf block link inner ends more ihb ihm =>
    subst hscript hpc
    rw [interpretRow, interpretBlock]
    have hle := inner.le
    have first := reaches_statement_owner (e := e) sound floor here callbackOf block link behind hle
      inner.closed ends fun e' g hin hpc' => ihb false hin.script (hin.floor.trans floor) hpc'
        fun _ hp => (by cases hp)
    have hnext : f.pc ≤ if entry.needsEnd then last + 1 else last := by split <;> omega
    refine first.bind hnext more.le more.closed ?_
    intro outcome e' g hin hpc' hbehind
    exact ihm outcome hin.script (hin.floor.trans floor) hpc' hbehind

/-! ### Scripts -/

/-- A machine at work runs no further than to its rest. -/
def RestsIn (m : Machine) (e : Engine) (result : RunResult) : Prop :=
  ∃ count, ∀ steps, ∃ q, m.run (steps + count) = some (e, q) ∧ q.result = result

theorem RunsTo.restsIn {m n : Machine} {e : Engine} {result : RunResult} (h : RunsTo m n)
    (rests : RestsIn n e result) : RestsIn m e result := by
  obtain ⟨a, ha⟩ := h
  obtain ⟨b, hb⟩ := rests
  refine ⟨b + a, fun steps => ?_⟩
  rw [← Nat.add_assoc, ha]
  exact hb steps

/-- A queue that has ended rests at once. -/
theorem restsIn_ended {m : Machine} (ended : m.running.running = false) (callers : m.callers = []) :
    RestsIn m m.engine m.running.result := by
  refine ⟨1, fun steps => ⟨m.running, ?_, rfl⟩⟩
  rw [Machine.run, Machine.step]
  simp only [ended, Bool.not_false, Bool.true_or, if_true, Machine.yield, callers]

/-- A queue that is given up rests at once. -/
theorem restsIn_givenUp {m : Machine} {f : Failure} (broke : m.running.result.brokeOff = some f)
    (callers : m.callers = []) : RestsIn m m.engine m.running.result := by
  refine ⟨1, fun steps => ⟨m.running, ?_, rfl⟩⟩
  rw [Machine.run, Machine.step]
  simp only [broke, Option.isSome_some, Bool.or_true, if_true, Machine.yield, callers]

/-- A frame at the end of its script ends its queue with what it has come to. -/
theorem restsIn_end {id : Nat} {e : Engine} {f : Frame} (hpc : f.script.code.entries[f.pc]? = none) :
    RestsIn (machineAt id e f) (e.release (.queue id))
      { determinations := f.determinations, bindings := f.bindings } := by
  have still : ¬(0 : Float) < 0 := by decide
  let done : Machine := { machineAt id e f with running := (machineAt id e f).running.completeFrame }
  have complete : (machineAt id e f).step = .next done := by
    simp only [Machine.step, machineAt, Bool.not_true, Option.isSome_none, Bool.or_self, Bool.false_eq_true, if_false,
      Option.any_none, still, hpc]
    rfl
  have stop : done.step = .next done.stop := by
    simp only [done, Machine.step, machineAt, Queue.completeFrame, Bool.not_true, Option.isSome_none, Bool.or_self,
      Bool.false_eq_true, if_false, Option.any_none, still]
  exact (RunsTo.of_step complete).restsIn ((RunsTo.of_step stop).restsIn (restsIn_ended rfl rfl))

theorem emit_machineAt (id : Nat) (e : Engine) (f : Frame) (verbosity : Verbosity) (text : String) :
    (machineAt id e f).emit verbosity text =
      match (Engine.emit false verbosity text .bad).run e with
      | (.ok _, e) => (none, machineAt id e f)
      | (.error failure, e) => (some failure, machineAt id e f) := by
  rw [Machine.emit]
  dsimp only [machineAt]
  generalize (Engine.emit false verbosity text .bad).run e = r
  obtain ⟨_ | _, _⟩ := r <;> rfl

/-- An error that nothing catches is reported, and ends the queue with what it has come to, unless the report is given
    up. -/
theorem restsIn_raised (id : Nat) {e : Engine} {f : Frame} {t : Thrown} {lo : Nat}
    (raised : Raised f t lo f.script.code.entries.size) :
    match reportUncaught f.script t ⟨e, f.store⟩ with
    | (none, e') => RestsIn ((machineAt id e f).handle t.error) (e'.release (.queue id))
        { determinations := f.determinations, bindings := f.bindings, errored := true }
    | (some failure, e') => RestsIn ((machineAt id e f).handle t.error) e' { brokeOff := some failure } := by
  have uncaught : Machine.boundary? f = none := by
    refine boundary?_eq_none fun place entry hle he => raised.clear place entry hle ?_ he
    exact (Array.getElem?_eq_some_iff.mp he).1
  have handled : (machineAt id e f).handle t.error =
      match reportUncaught f.script t ⟨e, f.store⟩ with
      | (none, e') => (machineAt id e' f).stopWithError
      | (some failure, e') => (machineAt id e' f).breakOff failure := by
    have caught : Machine.catchError (Machine.trace [f] t.error) [f] = none := by
      rw [Machine.catchError, uncaught, Machine.catchError]
    unfold Machine.handle reportUncaught
    rw [show (machineAt id e f).running.frames = [f] from rfl]
    dsimp only [List.head?_cons, Option.map_some, Option.getD_some]
    rw [caught, trace_eq raised, emit_machineAt, show f.store.verbosity = f.verbosity from rfl]
    generalize (Engine.emit false f.verbosity (t.trace f.script) .bad).run e = r
    obtain ⟨failure | _, e₁⟩ := r
    · dsimp only
      rw [emit_machineAt]
      generalize (Engine.emit false .minimal _ .bad).run e₁ = r'
      obtain ⟨_ | _, _⟩ := r' <;> rfl
    · rfl
  rw [handled]
  generalize reportUncaught f.script t ⟨e, f.store⟩ = reported
  obtain ⟨_ | failure, e'⟩ := reported
  · exact restsIn_ended rfl rfl
  · exact restsIn_givenUp rfl rfl

theorem interpret_eq (e : Engine) (script : Script) (row : List Statement) (vars : Vars) :
    interpret e script row vars =
      match (interpretRow script false row).on
        ⟨{ e with nextId := e.nextId + 1 }, (Frame.start script vars).store⟩ with
      | (.ok _, w) => ({ determinations := w.store.determinations, bindings := (w.store.frame script).bindings },
          w.engine.release (.queue e.nextId))
      | (.error t, w) =>
        match reportUncaught script t w with
        | (none, e') =>
          ({ determinations := w.store.determinations, bindings := (w.store.frame script).bindings, errored := true },
            e'.release (.queue e.nextId))
        | (some failure, e') => ({ brokeOff := some failure }, e') := by
  rw [interpret, Interpretation.on]
  dsimp only
  generalize StateT.run (ExceptT.run (interpretRow script false row)) _ = r
  obtain ⟨t | _, w⟩ := r
  · dsimp only
    generalize reportUncaught script t w = reported
    obtain ⟨_ | _, _⟩ := reported <;> rfl
  · rfl

theorem Frame.bindings_eq {f : Frame} {script : Script} {store : Store} (hscript : f.script = script)
    (hstore : f.store = store) : f.bindings = (store.frame script).bindings := by
  rw [← hscript, ← hstore]
  rfl

theorem execute?_of_restsIn {e e' : Engine} {script : Script} {vars : Vars} {result : RunResult}
    (h : RestsIn (machineAt e.nextId { e with nextId := e.nextId + 1 } (Frame.start script vars)) e' result) :
    ∃ count, ∀ steps, e.execute? (steps + count) script vars = some (result, e') := by
  obtain ⟨count, h⟩ := h
  refine ⟨count, fun steps => ?_⟩
  obtain ⟨q, hrun, hq⟩ := h steps
  rw [← hq, Engine.execute?]
  show (Machine.run (machineAt e.nextId _ (Frame.start script vars)) (steps + count)).bind _ = _
  rw [hrun]
  rfl

/-- Running a script of structured commands on a queue of its own, which never waits, comes to an end, and leaves the
    engine and the result that its tree leads to. -/
theorem execute?_eq_interpret {r : Registries} {source : String} {row : List Instruction}
    {predefined : List (String × String)} {script : Script}
    (agrees : ∀ name ∈ structuredNames, r.commands.get? name = CommandRegistry.builtin.get? name)
    (hp : parseScript r.commands source = .ok row) (hc : compile r row predefined = .ok script.code)
    (names : StructuredNames r.commands row) (e : Engine) (vars : Vars) :
    ∃ tree, Node.ofTokens (tokens source) = .ok tree ∧ ∃ count, ∀ steps,
      e.execute? (steps + count) script vars =
        some (interpret e script (statementsOf tree script.code.entries.toList).1 vars) := by
  obtain ⟨tree, ht, hl, -⟩ := parseScript_eq_ok.mp hp
  obtain ⟨himap, hcommand⟩ := compile_entries hc
  have sound := structured_of_compile agrees names hp hc
  have placed := (placed_of_layoutNodes
    (fresh_of_readCommands (readCommands_of_ofTokens ht)) hl (himap.trans (List.append_nil row).symm) hcommand
    fun offset => by rw [Nat.zero_add, Array.getElem?_toList]).1
  have hsize : 0 + row.length = script.code.entries.size := by
    rw [Nat.zero_add, ← himap, List.length_map, Array.length_toList]
  rw [hsize] at placed
  obtain ⟨hplace, hscript, -⟩ := Frame.start_place script vars
  have hpc : (Frame.start script vars).pc = 0 := congrArg Place.pc hplace
  have floor : (Frame.start script vars).floor = 0 := congrArg Place.floor hplace
  have reached := reaches_row e.nextId sound placed false (e := { e with nextId := e.nextId + 1 })
    hscript floor hpc fun _ h => (by cases h)
  refine ⟨tree, ht, ?_⟩
  rw [interpret_eq]
  generalize (interpretRow script false _).on _ = result at reached ⊢
  obtain ⟨t | _, w⟩ := result
  · obtain ⟨g, hrun, hin, hs, raised⟩ := reached
    have hg : g.script = script := hin.script.trans hscript
    rw [← hg] at raised
    refine execute?_of_restsIn (hrun.restsIn ?_)
    have rests := restsIn_raised e.nextId (e := w.engine) raised
    rw [hg, hs] at rests
    rw [← Frame.bindings_eq hg hs, ← hs]
    generalize reportUncaught script t w = reported at rests ⊢
    obtain ⟨_ | _, _⟩ := reported <;> exact rests
  · obtain ⟨g, hrun, hin, hs, hend, -⟩ := reached
    have hg : g.script = script := hin.script.trans hscript
    refine execute?_of_restsIn (hrun.restsIn ?_)
    rw [← Frame.bindings_eq hg hs, ← hs]
    exact restsIn_end (by rw [hg, hend]; exact Array.getElem?_eq_none (Nat.le_refl _))

/-- A loop in a `try`, ended by an error in its first round. -/
def erringLoop : String :=
  "try \x7b repeat 2 --as=i \x7b if true \x7b echo <\x7bvar[i]\x7d>; \x7d error a; \x7d \x7d catch \x7b echo b; \x7d"

theorem execute?_eq_interpret_erringLoop : ∃ row code,
    parseScript Registries.builtin.commands erringLoop = .ok row ∧ compile .builtin row [] = .ok code ∧
      StructuredNames Registries.builtin.commands row ∧
      ∃ tree, Node.ofTokens (tokens erringLoop) = .ok tree ∧
        ∃ count, ∀ steps, Engine.execute? (steps + count) { registries := .builtin } (.ofCode "main" .full code) [] =
          some (interpret { registries := .builtin } (.ofCode "main" .full code)
            (statementsOf tree code.entries.toList).1 []) := by
  have accepted : ((parseScript Registries.builtin.commands erringLoop).toOption.bind fun row =>
      if row.all fun i => structuredNames.contains i.name then (compile .builtin row []).toOption
      else none).isSome = true := by
    decide +kernel
  obtain ⟨code, accepted⟩ := Option.isSome_iff_exists.mp accepted
  obtain ⟨row, hp, hc⟩ := Option.bind_eq_some_iff.mp accepted
  split at hc
  · rename_i known
    have hp := toOption_eq_some.mp hp
    have hc := toOption_eq_some.mp hc
    have names : StructuredNames Registries.builtin.commands row := fun i hi =>
      Or.inl (by simpa using List.all_eq_true.mp known i hi)
    exact ⟨row, code, hp, hc, names, execute?_eq_interpret (fun _ _ => rfl) hp hc names _ _⟩
  · cases hc

end CommandScript
