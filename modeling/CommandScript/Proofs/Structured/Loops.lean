import CommandScript.Proofs.Structured.Commands

/-! Loops in the machine and in the tree. A loop state stands for the values that are still to come; the instruction at
    the end of the block goes back for the next of them, and ends the loop when there is none. -/

namespace CommandScript

/-! ### Values to come -/

/-- The next round of a loop, if there is one. -/
def LoopState.next? : LoopState → Option (LoopState × Value)
  | .count current total =>
    if current < total then some (.count (current + 1) total, .integer (current + 1)) else none
  | .items index list => (list[index + 1]?).map fun item => (.items (index + 1) list, item)

/-- The values that are still to come in a loop. -/
inductive LoopState.Unrolls : LoopState → List Value → Prop
  | done {state : LoopState} (next : state.next? = none) : Unrolls state []
  | round {state state' : LoopState} {v : Value} {rest : List Value} (next : state.next? = some (state', v))
    (more : Unrolls state' rest) : Unrolls state (v :: rest)

theorem LoopState.unrolls_items (items : Array Value) : ∀ (rest : List Value) (index : Nat),
    items.toList.drop (index + 1) = rest → (LoopState.items index items).Unrolls rest
  | [], index, h => by
    refine Unrolls.done ?_
    have : items[index + 1]? = none := by
      rw [← Array.getElem?_toList, ← Nat.add_zero (index + 1), ← List.getElem?_drop, h, List.getElem?_nil]
    rw [next?, this, Option.map_none]
  | v :: rest, index, h => by
    have head : items[index + 1]? = some v := by
      rw [← Array.getElem?_toList, ← Nat.add_zero (index + 1), ← List.getElem?_drop, h, List.getElem?_cons_zero]
    have tail : items.toList.drop (index + 1 + 1) = rest := by
      rw [← List.drop_drop, h, List.drop_one, List.tail_cons]
    refine Unrolls.round ?_ (unrolls_items items rest (index + 1) tail)
    rw [next?, head, Option.map_some]

/-- The numbers after `current`, as far as a count goes. -/
theorem LoopState.unrolls_count (total : Int64) : ∀ left current : Nat, current + left = total.toInt.toNat →
    0 < current → (LoopState.count (Int64.ofNat current) total).Unrolls
      ((List.range' (current + 1) left).map fun k => .integer (Int64.ofNat k))
  | 0, current, h, hpos => by
    have bound := total.toInt_lt
    have eq : (Int64.ofNat current).toInt = current := Int64.toInt_ofNat_of_lt (by omega)
    refine Unrolls.done ?_
    rw [next?, if_neg]
    rw [Int64.lt_iff_toInt_lt, eq]
    omega
  | left + 1, current, h, hpos => by
    have bound := total.toInt_lt
    have eq : (Int64.ofNat current).toInt = current := Int64.toInt_ofNat_of_lt (by omega)
    have step : Int64.ofNat current + 1 = Int64.ofNat (current + 1) := (Int64.ofNat_add current 1).symm
    rw [List.range'_succ, List.map_cons]
    refine Unrolls.round ?_ (unrolls_count total left (current + 1) (by omega) (Nat.succ_pos _))
    rw [next?, if_pos, step]
    rw [Int64.lt_iff_toInt_lt, eq]
    omega

/-- A count that begins has its first number, and the others are still to come. -/
theorem countTo_eq {total : Int64} (h : ¬total ≤ 0) : ∃ rest, countTo total = .integer 1 :: rest ∧
    (LoopState.count 1 total).Unrolls rest := by
  have pos : 0 < total.toInt.toNat := by
    rw [Int64.le_iff_toInt_le, Int64.toInt_zero] at h
    omega
  refine ⟨_, ?_, LoopState.unrolls_count total (total.toInt.toNat - 1) 1 (by omega) Nat.one_pos⟩
  rw [countTo, show total.toInt.toNat = (total.toInt.toNat - 1) + 1 by omega, List.range'_succ, List.map_cons]
  rfl

theorem countTo_nil {total : Int64} (h : total ≤ 0) : countTo total = [] := by
  rw [Int64.le_iff_toInt_le, Int64.toInt_zero] at h
  rw [countTo, show total.toInt.toNat = 0 by omega]
  rfl

/-! ### Rounds -/

/-- A loop command that a loop state belongs to. -/
def Action.Loops : Action → LoopState → Prop
  | .repeatBlock, .count _ _ => True
  | .foreach, .items _ _ => True
  | _, _ => False

theorem Action.Loops.next {a : Action} {state state' : LoopState} {v : Value} (h : a.Loops state)
    (next : state.next? = some (state', v)) : a.Loops state' := by
  cases state with
  | count current total =>
    rw [LoopState.next?] at next
    split at next <;> cases next
    cases a <;> exact h
  | items index list =>
    obtain ⟨item, -, heq⟩ := Option.map_eq_some_iff.mp next
    cases heq
    cases a <;> exact h

/-- Sets the variable in a slot, if there is one. -/
def Frame.assign (f : Frame) (slot : Option Nat) (v : Value) : Frame :=
  match slot with
  | some slot => f.setSlot slot v
  | none => f

theorem Frame.script_assign (f : Frame) (slot : Option Nat) (v : Value) : (f.assign slot v).script = f.script := by
  cases slot <;> rfl

theorem Frame.floor_assign (f : Frame) (slot : Option Nat) (v : Value) : (f.assign slot v).floor = f.floor := by
  cases slot <;> rfl

/-- A frame at the beginning of a block, in a round of the loop of `owner`. -/
def Frame.inRound (f : Frame) (owner : Nat) (state : LoopState) (slot : Option Nat) (v : Value)
    (start : Nat) : Frame :=
  { (f.setLoop owner state).assign slot v with pc := start }

section
variable (f : Frame) (owner : Nat) (state : LoopState) (slot : Option Nat) (v : Value) (start : Nat)

/-- Where a frame is at the beginning of the block already, it is in the round as soon as the loop is set. -/
theorem Frame.inRound_of_pc (h : f.pc = start) :
    f.inRound owner state slot v start = (f.setLoop owner state).assign slot v := by
  subst h
  cases slot <;> rfl

theorem Frame.store_inRound : (f.inRound owner state slot v start).store = f.store.assign slot v := by
  cases slot <;> rfl

theorem Frame.loops_inRound : (f.inRound owner state slot v start).loops.lookup owner = some state := by
  cases slot <;> exact lookup_setKey_self _ _ _

theorem Frame.within_inRound {lo hi : Nat} (hlo : lo ≤ owner) (hhi : owner < hi) :
    f.Within lo hi (f.inRound owner state slot v start) := by
  cases slot <;> exact ⟨rfl, rfl, fun _ ho => lookup_setKey_ne (by omega) _ _, fun _ _ => rfl⟩

end

namespace Act

theorem on_setLoopVariable {site : Site} {s : Scene} {owner : Nat} {entry : Entry}
    (he : s.frame.script.code.entries[owner]? = some entry) (v : Value) :
    (setLoopVariable owner v).on site s = (.ok (), { s with frame := s.frame.assign entry.declares v }) := by
  rw [setLoopVariable, on_bind, on_frame]
  dsimp only
  rw [he, Option.bind_some]
  cases entry.declares <;> rfl

theorem on_loopStart {site : Site} {s : Scene} {owner : Nat} {entry : Entry} {b : Span}
    (he : s.frame.script.code.entries[owner]? = some entry) (block : entry.instruction.block = some b) :
    (loopStart owner).on site s = (.ok b.start, s) := by
  rw [loopStart, on_bind, on_frame]
  dsimp only
  rw [he, Option.bind_some, block]
  rfl

/-- For its next round, a loop sets its state and its variable, and goes back to where its block begins. -/
theorem on_nextRound_jump {site : Site} {s : Scene} {owner : Nat} {entry : Entry} {b : Span} {state : LoopState}
    {v : Value} (he : s.frame.script.code.entries[owner]? = some entry) (block : entry.instruction.block = some b) :
    (nextRound owner (some (state, v))).on site s =
      (jump b.start >>= fun _ => pure .proceed).on site
        { s with frame := (s.frame.setLoop owner state).assign entry.declares v } := by
  have script := Frame.script_assign (s.frame.setLoop owner state) entry.declares v
  rw [nextRound]
  dsimp only
  rw [on_bind, on_onFrame]
  dsimp only
  rw [on_bind, on_setLoopVariable (s := ⟨s.engine, s.frame.setLoop owner state⟩) he]
  dsimp only
  rw [on_bind, on_loopStart (by rw [script]; exact he) block]

/-- The next round of a loop begins where its block does, with its value in the variable of the loop. -/
theorem on_nextRound {site : Site} {s : Scene} {owner : Nat} {entry : Entry} {b : Span}
    {state : LoopState} {v : Value} (he : s.frame.script.code.entries[owner]? = some entry)
    (block : entry.instruction.block = some b) (free : s.frame.floor ≤ b.start) :
    (nextRound owner (some (state, v))).on site s =
      (.ok .proceed, { s with frame := s.frame.inRound owner state entry.declares v b.start }) := by
  have free := Nat.le_trans (Nat.le_of_eq (Frame.floor_assign (s.frame.setLoop owner state) entry.declares v)) free
  rw [on_nextRound_jump he block, on_bind, on_jump free]
  rfl

/-- At the end of its block, a loop goes on as its state says. -/
theorem on_endOfLoop {site : Site} {s : Scene} {a : Action} {owner : Nat} {state : LoopState} (loops : a.Loops state)
    (ho : site.entry.instruction.callbackOf = some owner) (hl : s.frame.loops.lookup owner = some state) :
    a.perform.on site s = (nextRound owner state.next?).on site s := by
  cases a <;> try cases loops
  case repeatBlock =>
    cases state with
    | count current total =>
      show repeatBlock.on site s = _
      rw [repeatBlock, on_bind, on_instruction]
      dsimp only
      rw [ho]
      dsimp only
      rw [on_bind, on_frame]
      dsimp only
      rw [hl]
      rfl
    | items _ _ => cases loops
  case foreach =>
    cases state with
    | items index list =>
      show foreach.on site s = _
      rw [foreach, on_bind, on_instruction]
      dsimp only
      rw [ho]
      dsimp only
      rw [on_bind, on_frame]
      dsimp only
      rw [hl]
      rfl
    | count _ _ => cases loops

end Act

section
variable {id : Nat} {e : Engine} {f g : Frame} {entry atEnd : Entry} {c : Command} {before : Bool}
  {body : Interpretation Unit} {last : Nat}

/-- A loop is no `try`: nothing ends with it that an error would be caught at. -/
theorem EndsAtOwner.closed (ends : EndsAtOwner f c last atEnd) (noBoundary : c.signature.errorBoundary = false)
    {lo : Nat} (closed : Closed f.script.code lo last) : Closed f.script.code lo (last + 1) := by
  intro place entry owner hlo hhi he hb ho
  by_cases hlast : place = last
  · subst hlast
    rw [ends.here] at he
    cases he
    rw [ends.command, Option.any_some, noBoundary] at hb
    cases hb
  · exact closed place entry owner hlo (by omega) he hb ho

/-- From the beginning of its block on, a loop does the block for the value at hand and for all that are to come. -/
theorem reaches_rounds (h : AtOwner id f entry c last body) (ends : EndsAtOwner f c last atEnd)
    (noBoundary : c.signature.errorBoundary = false) {state : LoopState} {rest : List Value}
    (unrolls : state.Unrolls rest) (loops : c.action.Loops state) (within : f.Within f.pc last g)
    (hpc : g.pc = f.pc + 1) (hl : g.loops.lookup f.pc = some state) :
    Reaches id e g f.pc (last + 1) (fun _ _ => True)
      (Interpretation.on (do
        body
        rounds entry.declares body rest) ⟨e, g.store⟩) := by
  have closed : Closed f.script.code last (last + 1) := ends.closed noBoundary fun _ _ _ hlo hhi => by omega
  have lt := h.lt
  -- In each round, the machine comes from the beginning of the block to its end, with the state of the loop as it was.
  have body_reaches : ∀ {state : LoopState} (e : Engine) (g : Frame), f.Within f.pc last g → g.pc = f.pc + 1 →
      g.loops.lookup f.pc = some state → Reaches id e g f.pc last
        (fun _ k => k.script = f.script ∧ k.floor = 0 ∧ k.loops.lookup f.pc = some state) (body.on ⟨e, g.store⟩) := by
    intro state e g within hpc hl
    refine Reaches.after (RunsTo.refl _) (Frame.Within.of_place rfl rfl) (Nat.le_succ f.pc)
      ((h.body e g within hpc).weaken fun _ k hin _ => ⟨?_, ?_, ?_⟩)
    · exact hin.script.trans within.script
    · exact hin.floor.trans (within.floor.trans h.floor)
    · exact (hin.loops f.pc (Or.inl (Nat.lt_succ_self _))).trans hl
  induction unrolls generalizing e g with
  | @done state next =>
    refine (body_reaches e g within hpc hl).bind (Nat.le_refl _) (Nat.le_succ _) (within.script ▸ closed) ?_
    rintro _ e' k hin hk ⟨hscript, -, hloops⟩
    have perform : c.action.perform.on ⟨atEnd, k.pc, 1, false, false⟩ ⟨e', k.next⟩ =
        (.ok .proceed, ⟨e', k.next.endLoop f.pc⟩) := by
      rw [Act.on_endOfLoop loops ends.callbackOf hloops, next]
      rfl
    have run := runsTo_proceed id (by rw [hscript, hk]; exact ends.here) ends.command perform
    refine Reaches.after run ⟨rfl, rfl, fun owner ho => lookup_eraseKey_ne (by omega) _, fun _ _ => rfl⟩
      (Nat.le_refl _) ?_
    exact Reaches.pure (congrArg (· + 1) hk) trivial
  | @round state state' v rest next more ih =>
    refine (body_reaches e g within hpc hl).bind (Nat.le_refl _) (Nat.le_succ _) (within.script ▸ closed) ?_
    rintro _ e' k hin hk ⟨hscript, hfloor, hloops⟩
    have perform : c.action.perform.on ⟨atEnd, k.pc, 1, false, false⟩ ⟨e', k.next⟩ =
        (.ok .proceed,
          ⟨e', k.next.inRound f.pc state' entry.declares v (f.pc + 1)⟩) := by
      rw [Act.on_endOfLoop loops ends.callbackOf hloops, next]
      exact Act.on_nextRound (s := ⟨e', k.next⟩) (hscript ▸ h.here) h.block
        (Nat.le_trans (Nat.le_of_eq hfloor) (Nat.zero_le _))
    have run := runsTo_proceed id (by rw [hscript, hk]; exact ends.here) ends.command perform
    have step : ∀ {hi : Nat}, f.pc < hi → k.Within f.pc hi
        (k.next.inRound f.pc state' entry.declares v (f.pc + 1)) := fun hhi =>
      have step := Frame.within_inRound k.next f.pc state' entry.declares v (f.pc + 1)
        (Nat.le_refl _) hhi
      ⟨step.script, step.floor, step.loops, step.branches⟩
    have done := ih (loops.next next) (e := e') ((within.trans hin).trans (step lt)) rfl (Frame.loops_inRound ..)
    rw [Frame.store_inRound] at done
    exact Reaches.after run (step (by omega)) (Nat.le_refl _) done

/-- A loop that begins does its block for all its values. -/
theorem reaches_loop (h : AtOwner id f entry c last body) (ends : EndsAtOwner f c last atEnd)
    (noBoundary : c.signature.errorBoundary = false) {state : LoopState} {v : Value} {rest : List Value}
    (unrolls : state.Unrolls rest) (loops : c.action.Loops state) {e' : Engine} (hscript : g.script = f.script)
    (hplace : g.place = f.next.place)
    (run : RunsTo (machineAt id e f) (machineAt id e' (g.inRound f.pc state entry.declares v (f.pc + 1)))) :
    Reaches id e f f.pc (last + 1) (fun _ _ => True)
      (Interpretation.on (do
        rounds entry.declares body (v :: rest)
        return false) ⟨e', g.store⟩) := by
  have within : ∀ {hi : Nat}, f.pc < hi → f.Within f.pc hi (g.inRound f.pc state entry.declares v (f.pc + 1)) :=
    fun hhi => (Frame.within_step (f := f) hscript hplace).trans
      (Frame.within_inRound _ _ _ _ _ _ (Nat.le_refl _) hhi)
  have done := reaches_rounds (e := e') h ends noBoundary unrolls loops (within h.lt) rfl (Frame.loops_inRound ..)
  rw [Frame.store_inRound] at done
  have first : Reaches id e f f.pc (last + 1) (fun _ _ => True)
      ((rounds entry.declares body (v :: rest)).on ⟨e', g.store⟩) :=
    Reaches.after run (within (Nat.lt_succ_of_lt h.lt)) (Nat.le_refl _) done
  exact first.bind (Nat.le_refl _) (Nat.le_refl _) (fun _ _ _ hlo hhi => by omega) fun _ _ _ _ hk _ =>
    Reaches.pure hk trivial

/-- A loop without a value passes over its block. -/
theorem reaches_noLoop {slot : Option Nat} {e' : Engine} {last : Nat}
    (hscript : g.script = f.script) (hplace : g.place = f.next.place)
    (run : RunsTo (machineAt id e f) (machineAt id e' { g with pc := last + 1 })) :
    Reaches id e f f.pc (last + 1) (fun _ _ => True)
      (Interpretation.on (do
        rounds slot body []
        return false) ⟨e', g.store⟩) := by
  have within : f.Within f.pc (last + 1) g := Frame.within_step hscript hplace
  exact Reaches.after run ⟨within.script, within.floor, within.loops, within.branches⟩ (Nat.le_refl _)
    (Reaches.pure (f := { g with pc := last + 1 }) rfl trivial)

end

/-- What `repeat` does where its statement begins. -/
theorem Act.on_repeatBlock (site : Site) (hn : site.entry.instruction.callbackOf = none) (s : Scene) :
    Act.repeatBlock.on site s =
      ((do expect .integer (← arg 0) Value.asInteger? : Act Int64) >>= fun total =>
        if total ≤ 0 then do
          say .good "Repeat count is zero, skipping."
          skipBlock
          return .proceed
        else do
          onFrame (·.setLoop site.index (.count 1 total))
          setLoopVariable site.index (.integer 1)
          return .proceed).on site s := by
  rw [repeatBlock, on_bind, on_instruction]
  dsimp only
  rw [hn]
  dsimp only
  rw [bind_assoc, on_bind, on_bind]
  generalize (arg 0).on site s = r
  obtain ⟨_ | v, s⟩ := r
  · rfl
  · dsimp only
    rw [on_bind, on_bind]
    rfl

/-- What `foreach` does where its statement begins. -/
theorem Act.on_foreach (site : Site) (hn : site.entry.instruction.callbackOf = none) (s : Scene) :
    Act.foreach.on site s =
      (arg 0 >>= fun v =>
        match v.asList with
        | [] => do
          skipBlock
          return .proceed
        | first :: rest => do
          onFrame (·.setLoop site.index (.items 0 (first :: rest).toArray))
          setLoopVariable site.index first
          return .proceed).on site s := by
  rw [foreach, on_bind, on_instruction]
  dsimp only
  rw [hn]
  dsimp only
  rw [on_bind, on_bind]
  generalize (arg 0).on site s = r
  obtain ⟨_ | v, s⟩ := r
  · rfl
  · dsimp only
    rw [on_bind, on_read]
    dsimp only
    generalize v.asList = items
    cases items <;> rfl

section
variable {id : Nat} {e : Engine} {f : Frame} {entry atEnd : Entry} {c : Command} {before : Bool}
  {body : Interpretation Unit} {last : Nat}

theorem reaches_foreach (h : AtOwner id f entry c last body) (ends : EndsAtOwner f c last atEnd)
    (noBoundary : c.signature.errorBoundary = false) (ha : c.action = .foreach) :
    Reaches id e f f.pc (last + 1) (fun _ _ => True)
      ((interpretCommand f.script entry before body .foreach).on ⟨e, f.store⟩) := by
  obtain ⟨result, e', g, hon, hplace, hscript, hatt⟩ := (Act.blind_arg 0).tried_next entry e f
  have perform := Act.on_foreach ⟨entry, f.pc, 1, false, false⟩ h.callbackOf ⟨e, f.next⟩
  rw [show Act.foreach = c.action.perform by rw [ha]; rfl, Act.on_bind, hon] at perform
  rw [interpretCommand, Interpretation.on_bind, hatt]
  cases result with
  | error failure =>
    exact Reaches.of_failure h.here h.command perform hplace hscript (Nat.lt_succ_of_lt h.lt)
      (ends.closed noBoundary h.closed)
  | ok v =>
    dsimp only [Except.mapError] at perform ⊢
    have hfloor : g.floor = 0 := (congrArg Place.floor hplace).trans h.floor
    have hpc : g.pc = f.pc + 1 := congrArg Place.pc hplace
    cases hitems : v.asList with
    | nil =>
      rw [hitems] at perform
      dsimp only at perform
      rw [Act.on_bind, Act.on_skipBlock_end _ (b := ⟨f.pc + 1, last⟩) (e := atEnd) h.block (hscript ▸ ends.here)
        ends.callbackOf (Nat.le_trans (Nat.le_of_eq hfloor) (Nat.zero_le _))] at perform
      exact reaches_noLoop hscript hplace (runsTo_proceed id h.here h.command perform)
    | cons first rest =>
      rw [hitems] at perform
      dsimp only at perform
      rw [Act.on_bind, Act.on_onFrame] at perform
      dsimp only at perform
      rw [Act.on_bind, Act.on_setLoopVariable (by exact hscript ▸ h.here)] at perform
      have run := runsTo_proceed id h.here h.command perform
      dsimp only at run
      rw [← Frame.inRound_of_pc _ _ _ _ _ (f.pc + 1) hpc] at run
      refine reaches_loop h ends noBoundary (LoopState.unrolls_items _ _ _ ?_) ?_ hscript hplace run
      · rfl
      · rw [ha]
        trivial

theorem reaches_repeat (h : AtOwner id f entry c last body) (ends : EndsAtOwner f c last atEnd)
    (noBoundary : c.signature.errorBoundary = false) (ha : c.action = .repeatBlock) :
    Reaches id e f f.pc (last + 1) (fun _ _ => True)
      ((interpretCommand f.script entry before body .repeatBlock).on ⟨e, f.store⟩) := by
  have count : (do Act.expect .integer (← Act.arg 0) Value.asInteger? : Act Int64).Blind :=
    (Act.blind_arg 0).bind fun v => Act.blind_expect .integer v Value.asInteger?
  obtain ⟨result, e', g, hon, hplace, hscript, hatt⟩ := count.tried_next entry e f
  have perform := Act.on_repeatBlock ⟨entry, f.pc, 1, false, false⟩ h.callbackOf ⟨e, f.next⟩
  rw [show Act.repeatBlock = c.action.perform by rw [ha]; rfl, Act.on_bind, hon] at perform
  have closed := ends.closed noBoundary h.closed
  rw [interpretCommand, Interpretation.on_bind, hatt]
  cases result with
  | error failure => exact Reaches.of_failure h.here h.command perform hplace hscript (Nat.lt_succ_of_lt h.lt) closed
  | ok total =>
    dsimp only [Except.mapError] at perform ⊢
    by_cases htotal : total ≤ 0
    · -- The message that there is nothing to repeat may break off in its turn.
      rw [if_pos htotal] at perform
      rw [if_pos htotal, countTo_nil htotal, Interpretation.on_bind]
      obtain ⟨result, e'', k, hon', hplace', hscript', hatt'⟩ :=
        (Act.blind_say .good "Repeat count is zero, skipping.").tried entry f.pc e' g
      rw [hscript] at hatt'
      rw [Act.on_bind, hon'] at perform
      rw [hatt']
      have hplace := hplace'.trans hplace
      have hscript := hscript'.trans hscript
      cases result with
      | error failure =>
        exact Reaches.of_failure h.here h.command perform hplace hscript (Nat.lt_succ_of_lt h.lt) closed
      | ok _ =>
        dsimp only at perform
        have unmoved : k.floor = 0 := (congrArg Place.floor hplace).trans h.floor
        rw [Act.on_bind, Act.on_skipBlock_end _ (b := ⟨f.pc + 1, last⟩) (e := atEnd) h.block (hscript ▸ ends.here)
          ends.callbackOf (unmoved ▸ Nat.zero_le _)] at perform
        exact reaches_noLoop hscript hplace (runsTo_proceed id h.here h.command perform)
    · obtain ⟨rest, hcount, unrolls⟩ := countTo_eq htotal
      rw [if_neg htotal, Act.on_bind, Act.on_onFrame] at perform
      dsimp only at perform
      rw [Act.on_bind, Act.on_setLoopVariable (by exact hscript ▸ h.here)] at perform
      have run := runsTo_proceed id h.here h.command perform
      dsimp only at run
      rw [← Frame.inRound_of_pc _ _ _ _ _ (f.pc + 1) (congrArg Place.pc hplace)] at run
      rw [if_neg htotal, hcount]
      refine reaches_loop h ends noBoundary unrolls ?_ hscript hplace run
      rw [ha]
      trivial

end

end CommandScript
