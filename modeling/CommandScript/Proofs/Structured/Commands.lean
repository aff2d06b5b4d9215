import CommandScript.Proofs.Structured.Steps

/-! Each structured command in the machine does what it does in the tree. A command that owns a block is looked at with
    whatever its block does, so that nothing here is about rows. -/

namespace CommandScript

/-! ### Moving on -/

namespace Act

theorem on_jump {s : Scene} {target : Nat} (free : s.frame.floor ≤ target) (site : Site) :
    (jump target).on site s = (.ok (), { s with frame := { s.frame with pc := target } }) := by
  have jumps : s.frame.jump? target = some { s.frame with pc := target } := by
    rw [Frame.jump?, if_neg (Nat.not_lt.mpr free)]
  rw [jump, on_bind, on_frame]
  dsimp only
  rw [jumps]
  rfl

/-- A block without an instruction for its end is left where it ends. -/
theorem on_skipBlock (site : Site) {s : Scene} {b : Span} (block : site.entry.instruction.block = some b)
    (noEnd : ∀ e, s.frame.script.code.entries[b.stop]? = some e → e.instruction.callbackOf ≠ some site.index)
    (free : s.frame.floor ≤ b.stop) :
    skipBlock.on site s = (.ok (), { s with frame := { s.frame with pc := b.stop } }) := by
  have hasEnd : (s.frame.script.code.entries[b.stop]?.any fun e => e.instruction.callbackOf = some site.index) =
      false := by
    cases he : s.frame.script.code.entries[b.stop]? with
    | none => rfl
    | some e => exact decide_eq_false (noEnd e he)
  rw [skipBlock, on_bind, on_instruction]
  dsimp only
  rw [block]
  dsimp only
  rw [on_bind, on_read]
  dsimp only
  rw [on_bind, on_frame]
  dsimp only
  rw [hasEnd, if_neg Bool.false_ne_true, on_jump free]

/-- A block with an instruction for its end is left behind that. -/
theorem on_skipBlock_end (site : Site) {s : Scene} {b : Span} {e : Entry}
    (block : site.entry.instruction.block = some b) (he : s.frame.script.code.entries[b.stop]? = some e)
    (ho : e.instruction.callbackOf = some site.index) (free : s.frame.floor ≤ b.stop + 1) :
    skipBlock.on site s = (.ok (), { s with frame := { s.frame with pc := b.stop + 1 } }) := by
  have hasEnd : (s.frame.script.code.entries[b.stop]?.any fun e => e.instruction.callbackOf = some site.index) =
      true := by
    rw [he]
    exact decide_eq_true ho
  rw [skipBlock, on_bind, on_instruction]
  dsimp only
  rw [block]
  dsimp only
  rw [on_bind, on_read]
  dsimp only
  rw [on_bind, on_frame]
  dsimp only
  rw [hasEnd, if_pos rfl, on_jump free]

end Act

/-! ### Commands without a block -/

theorem interpretCommand_plain {script : Script} {entry : Entry} {before : Bool} {body : Interpretation Unit}
    {a : Action} (h : a.isPlain = true) :
    interpretCommand script entry before body a = (do
      let _ ← attempt script entry a.perform
      return false) := by
  cases a with
  | echo | help | noop | debug | define | set | determine | error => rfl
  | _ => cases h

section
variable {id : Nat} {e : Engine} {f : Frame} {entry : Entry} {c : Command} {before : Bool}
  {body : Interpretation Unit}

theorem reaches_plain (he : f.script.code.entries[f.pc]? = some entry) (hc : entry.command = some c)
    (hp : c.action.isPlain = true) : Reaches id e f f.pc (f.pc + 1) (fun _ _ => True)
      ((interpretCommand f.script entry before body c.action).on ⟨e, f.store⟩) := by
  have plain := Action.plain_of_isPlain hp
  obtain ⟨result, e', g, hon, hplace, hscript, hatt⟩ := plain.toBlind.tried_next entry e f
  rw [interpretCommand_plain hp, Interpretation.on_bind, hatt]
  cases result with
  | error failure =>
    refine Reaches.of_failure he hc hon hplace hscript (Nat.lt_succ_self _) ?_
    intro place _ _ hlo hhi
    omega
  | ok flow =>
    cases plain.proceeds hon
    have within : f.next.Within f.pc (f.pc + 1) g := Frame.Within.of_place hscript hplace
    exact ⟨g, runsTo_proceed id he hc hon, ⟨hscript, within.floor, within.loops, within.branches⟩, rfl,
      congrArg Place.pc hplace, trivial⟩

end

/-! ### Commands with a block -/

/-- The frame at the place of a command, once the command has its own step behind it. -/
theorem Frame.within_step {f g : Frame} {hi : Nat} (script : g.script = f.script)
    (place : g.place = f.next.place) : f.Within f.pc hi g :=
  have within : f.next.Within f.pc hi g := Frame.Within.of_place script place
  ⟨script, within.floor, within.loops, within.branches⟩

/-- A frame stands at a command that owns a block up to `last`, and what the block does it also does in the machine:
    started where the block begins, that comes to where it ends. -/
structure AtOwner (id : Nat) (f : Frame) (entry : Entry) (c : Command) (last : Nat) (body : Interpretation Unit) :
    Prop where
  here : f.script.code.entries[f.pc]? = some entry
  command : entry.command = some c
  callbackOf : entry.instruction.callbackOf = none
  floor : f.floor = 0
  block : entry.instruction.block = some ⟨f.pc + 1, last⟩
  lt : f.pc < last
  closed : Closed f.script.code (f.pc + 1) last
  body : ∀ e g, f.Within f.pc last g → g.pc = f.pc + 1 →
    Reaches id e g (f.pc + 1) last (fun _ _ => True) (body.on ⟨e, g.store⟩)

/-- Behind the block of an owner there is no instruction for its end. -/
def NoEnd (f : Frame) (last : Nat) : Prop :=
  ∀ e, f.script.code.entries[last]? = some e → e.instruction.callbackOf ≠ some f.pc

/-- Behind the block of an owner stands the instruction for its end. -/
structure EndsAtOwner (f : Frame) (c : Command) (last : Nat) (atEnd : Entry) : Prop where
  here : f.script.code.entries[last]? = some atEnd
  command : atEnd.command = some c
  callbackOf : atEnd.instruction.callbackOf = some f.pc

/-! ### Branches and `once` -/

/-- A change of a frame that keeps it where it is, with all it knows, and touches no owner before `lo` or from `hi`
    on. -/
structure Frame.Marks (lo hi : Nat) (mark : Frame → Frame) : Prop where
  within : ∀ g : Frame, g.Within lo hi (mark g)
  store : ∀ g, (mark g).store = g.store
  pc : ∀ g, (mark g).pc = g.pc

theorem Frame.marks_id {lo hi : Nat} : Frame.Marks lo hi fun g => g :=
  ⟨fun _ => Frame.Within.of_place rfl rfl, fun _ => rfl, fun _ => rfl⟩

theorem Frame.marks_setBranch {lo hi owner : Nat} (hlo : lo ≤ owner) (hhi : owner < hi) (taken : Bool) :
    Frame.Marks lo hi (·.setBranch owner taken) where
  within _ := ⟨rfl, rfl, fun _ _ => rfl, fun _ ho => lookup_setKey_ne (by omega) _ _⟩
  store _ := rfl
  pc _ := rfl

theorem Frame.branchTaken_setBranch (f : Frame) (owner : Nat) (taken : Bool) :
    (f.setBranch owner taken).branchTaken owner = taken := by
  rw [Frame.branchTaken, Frame.setBranch, lookup_setKey_self, Option.getD_some]

/-- A command that leaves a mark of whether its block is entered, and passes over the block if not. -/
def Act.enter (mark : Bool → Frame → Frame) (taken : Bool) : Act Flow := do
  onFrame (mark taken)
  if !taken then skipBlock
  return .proceed

section
variable {id : Nat} {e : Engine} {f : Frame} {entry : Entry} {c : Command} {before : Bool}
  {body : Interpretation Unit} {last : Nat}

/-- A block that is entered or passed over, once that has been decided. -/
theorem reaches_block (h : AtOwner id f entry c last body) {e' : Engine} {g : Frame} (taken : Bool)
    (outcome : Bool) (run : RunsTo (machineAt id e f) (machineAt id e' g)) (within : f.Within f.pc last g)
    (hpc : g.pc = if taken then f.pc + 1 else last) :
    Reaches id e f f.pc last (fun x k => x = outcome ∧ k.branchTaken f.pc = g.branchTaken f.pc)
      (Interpretation.on (do
        if taken then body
        return outcome) ⟨e', g.store⟩) := by
  cases taken with
  | false => exact Reaches.after run within (Nat.le_refl _) (Reaches.pure hpc ⟨rfl, rfl⟩)
  | true =>
    refine Reaches.after run within (Nat.le_succ _) ?_
    refine (h.body e' g within hpc).bind (Nat.le_refl _) (Nat.le_refl _) (fun _ _ _ hlo hhi => by omega) ?_
    intro _ e'' k hin hk _
    exact Reaches.pure hk ⟨rfl, hin.branchTaken (Or.inl (Nat.lt_succ_self _))⟩

/-- A command that decides blindly whether its block is entered, and has nothing to do at the end of the block. -/
theorem reaches_decided (h : AtOwner id f entry c last body) (noEnd : NoEnd f last) {a : Act Bool} (ha : a.Blind)
    {mark : Bool → Frame → Frame} (hmark : ∀ taken, Frame.Marks f.pc last (mark taken))
    (hperform : c.action.perform.on ⟨entry, f.pc, 1, false, false⟩ ⟨e, f.next⟩ =
      (a >>= Act.enter mark).on ⟨entry, f.pc, 1, false, false⟩ ⟨e, f.next⟩)
    (outcome : Bool → Bool) :
    Reaches id e f f.pc last
      (fun x k => ∃ taken g, x = outcome taken ∧ k.branchTaken f.pc = (mark taken g).branchTaken f.pc)
      (Interpretation.on (do
        let taken ← attempt f.script entry a
        if taken then body
        return outcome taken) ⟨e, f.store⟩) := by
  obtain ⟨result, e', g, hon, hplace, hscript, hatt⟩ := ha.tried_next entry e f
  rw [Act.on_bind, hon] at hperform
  rw [Interpretation.on_bind, hatt]
  cases result with
  | error failure => exact Reaches.of_failure h.here h.command hperform hplace hscript h.lt h.closed
  | ok taken =>
    have hin : f.Within f.pc last (mark taken g) := (Frame.within_step hscript hplace).trans ((hmark taken).within g)
    have hpc : (mark taken g).pc = f.pc + 1 := ((hmark taken).pc g).trans (congrArg Place.pc hplace)
    have hstore : (mark taken g).store = g.store := (hmark taken).store g
    rw [← hstore]
    cases taken with
    | true =>
      have run := runsTo_proceed id h.here h.command hperform
      have done := reaches_block h true (outcome true) run hin hpc
      exact done.weaken fun _ _ _ ⟨hx, hk⟩ => ⟨true, g, hx, hk⟩
    | false =>
      have hskip : (Act.enter mark false).on ⟨entry, f.pc, 1, false, false⟩ ⟨e', g⟩ =
          (.ok .proceed, ⟨e', { mark false g with pc := last }⟩) := by
        have skip := Act.on_skipBlock ⟨entry, f.pc, 1, false, false⟩ (s := ⟨e', mark false g⟩) h.block
          (by rw [hin.script]; exact noEnd) (Nat.le_trans (Nat.le_of_eq (hin.floor.trans h.floor)) (Nat.zero_le _))
        rw [Act.enter, Act.on_bind, Act.on_onFrame]
        show (Act.skipBlock >>= fun _ => Pure.pure Flow.proceed).on _ _ = _
        rw [Act.on_bind, skip]
        rfl
      have run := runsTo_proceed id h.here h.command (hperform.trans hskip)
      have done := reaches_block h false (outcome false) run
        ⟨hin.script, hin.floor, hin.loops, hin.branches⟩ rfl
      exact done.weaken fun _ _ _ ⟨hx, hk⟩ => ⟨false, g, hx, hk⟩

theorem reaches_if (h : AtOwner id f entry c last body) (noEnd : NoEnd f last) (ha : c.action = .ifBlock) :
    Reaches id e f f.pc last (fun x g => g.branchTaken f.pc = x)
      ((interpretCommand f.script entry before body .ifBlock).on ⟨e, f.store⟩) := by
  have done := reaches_decided (e := e) h noEnd (Act.blind_booleanArg 0)
    (fun taken => Frame.marks_setBranch (Nat.le_refl f.pc) h.lt taken) (by rw [ha]; rfl) fun taken => taken
  exact done.weaken fun x k _ ⟨taken, g, hx, hk⟩ => by rw [hk, Frame.branchTaken_setBranch, hx]

end

/-- What an `else` decides of its own, if its chain is not settled. -/
def Act.elseTaken (settled : Bool) : Act Bool := do
  if settled then return false
  if (← argCount) = 2 then booleanArg 1 else return true

theorem Act.blind_elseTaken (settled : Bool) : (Act.elseTaken settled).Blind := by
  cases settled with
  | true => exact Blind.pure false
  | false =>
    refine blind_argCount.bind fun n => ?_
    split
    · exact blind_booleanArg 1
    · exact Blind.pure true

theorem Act.on_elseBlock (site : Site) {s : Scene} {link : Nat} (hl : site.entry.instruction.link = some link) :
    Act.elseBlock.on site s = (elseTaken (s.frame.branchTaken link) >>= enter fun taken g =>
      g.setBranch site.index (s.frame.branchTaken link || taken)).on site s := by
  rw [elseBlock, on_bind, on_instruction]
  dsimp only
  rw [hl]
  dsimp only
  rw [on_bind, on_frame]
  dsimp only
  generalize s.frame.branchTaken link = settled
  cases settled with
  | true => rfl
  | false =>
    rw [elseTaken, if_neg Bool.false_ne_true, on_bind, on_bind, on_bind, on_argCount]
    dsimp only
    rw [if_neg Bool.false_ne_true]
    by_cases hn : site.entry.args.length = 2
    · rw [if_pos hn, if_pos hn, on_bind]
      rfl
    · rw [if_neg hn, if_neg hn]
      rfl

/-- Trying what an `else` decides is what the tree does for it. -/
theorem attempt_elseTaken (script : Script) (entry : Entry) (settled : Bool) (w : World) :
    (attempt script entry (Act.elseTaken settled)).on w =
      Interpretation.on (if settled then pure false
        else if entry.args.length = 2 then attempt script entry (Act.booleanArg 1) else pure true) w := by
  cases settled with
  | true => rfl
  | false =>
    rw [on_attempt, Act.elseTaken, if_neg Bool.false_ne_true, if_neg Bool.false_ne_true, Act.on_bind, Act.on_argCount]
    by_cases hn : entry.args.length = 2
    · rw [if_pos hn, on_attempt]
      simp only [hn, if_true]
    · rw [if_neg hn]
      simp only [hn, if_false]
      rfl

theorem interpretCommand_else {script : Script} {entry : Entry} {before : Bool} {body : Interpretation Unit}
    {w : World} : (interpretCommand script entry before body .elseBlock).on w =
      Interpretation.on (do
        let taken ← attempt script entry (Act.elseTaken before)
        if taken then body
        return before || taken) w := by
  rw [Interpretation.on_bind, attempt_elseTaken]
  cases before with
  | true => rfl
  | false =>
    rw [interpretCommand, if_neg Bool.false_ne_true, if_neg Bool.false_ne_true]
    by_cases hn : entry.args.length = 2
    · rw [if_pos hn, if_pos hn, Interpretation.on_bind]
      rfl
    · rw [if_neg hn, if_neg hn]
      rfl

/-- What `once` does when its name and its mode are known. -/
theorem Act.recordOnce_enter (id : String) (mode : OnceMode) : (do
    let s ← get
    modify fun t => { engine := (s.engine.markOnce id).2, frame := t.frame }
    if (s.engine.markOnce id).1 then do
      say .good s!"Once block '{id}' entered."
      return Flow.proceed
    else
      match mode with
      | .error => do
        fail (.onceRepeated id)
        skipBlock
        return .proceed
      | .warning => do
        say .bad (onceRepeatedMessage id)
        skipBlock
        return .proceed
      | .quiet => do
        skipBlock
        return .proceed : Act Flow) = recordOnce id mode >>= enter fun _ g => g := by
  rw [recordOnce, bind_assoc]
  refine bind_congr fun s => ?_
  dsimp only
  rw [bind_assoc]
  refine bind_congr fun _ => ?_
  cases (s.engine.markOnce id).1 with
  | true =>
    rw [if_pos rfl, if_pos rfl, bind_assoc]
    rfl
  | false =>
    rw [if_neg Bool.false_ne_true, if_neg Bool.false_ne_true]
    cases mode with
    | error => rfl
    | warning =>
      dsimp only
      rw [bind_assoc]
      rfl
    | quiet => rfl

theorem Act.once_eq : Act.once = enterOnce >>= enter fun _ g => g := by
  unfold once enterOnce onceMode
  rw [bind_assoc]
  refine bind_congr fun text => ?_
  dsimp only
  rw [bind_assoc, bind_assoc]
  refine bind_congr fun n => ?_
  by_cases hn : n = 2
  · rw [if_pos hn, if_pos hn, bind_assoc]
    refine bind_congr fun word => ?_
    cases OnceMode.read word with
    | error word => rfl
    | ok mode => exact recordOnce_enter (Text.lower text) mode
  · rw [if_neg hn, if_neg hn]
    exact recordOnce_enter (Text.lower text) .error

section
variable {id : Nat} {e : Engine} {f : Frame} {entry : Entry} {c : Command} {before : Bool}
  {body : Interpretation Unit} {last : Nat}

theorem reaches_else (h : AtOwner id f entry c last body) (noEnd : NoEnd f last) (ha : c.action = .elseBlock)
    {link : Nat} (hl : entry.instruction.link = some link) (earlier : f.branchTaken link = before) :
    Reaches id e f f.pc last (fun x g => g.branchTaken f.pc = x)
      ((interpretCommand f.script entry before body .elseBlock).on ⟨e, f.store⟩) := by
  have hperform := Act.on_elseBlock ⟨entry, f.pc, 1, false, false⟩ (s := ⟨e, f.next⟩) hl
  have earlier : f.next.branchTaken link = before := earlier
  dsimp only at hperform
  rw [earlier] at hperform
  have done := reaches_decided (e := e) h noEnd (Act.blind_elseTaken before)
    (fun taken => Frame.marks_setBranch (Nat.le_refl f.pc) h.lt (before || taken)) (by rw [ha]; exact hperform)
    fun taken => before || taken
  rw [← interpretCommand_else] at done
  exact done.weaken fun x k _ ⟨taken, g, hx, hk⟩ => by rw [hk, Frame.branchTaken_setBranch, hx]

theorem reaches_catch (h : AtOwner id f entry c last body) (noEnd : NoEnd f last) (ha : c.action = .catchBlock)
    {link : Nat} (hl : entry.instruction.link = some link) (earlier : f.branchTaken link = before) :
    Reaches id e f f.pc last (fun _ _ => True)
      ((interpretCommand f.script entry before body .catchBlock).on ⟨e, f.store⟩) := by
  have hperform : Act.catchBlock.on ⟨entry, f.pc, 1, false, false⟩ ⟨e, f.next⟩ =
      (pure before >>= Act.enter fun _ g => g).on ⟨entry, f.pc, 1, false, false⟩ ⟨e, f.next⟩ := by
    have caught : (entry.instruction.link.map f.next.branchTaken).getD false = before := by
      rw [hl]
      exact earlier
    rw [Act.catchBlock, Act.on_bind, Act.on_frame]
    dsimp only
    rw [Act.on_bind, Act.on_instruction]
    dsimp only
    rw [caught]
    rfl
  have done := reaches_decided (e := e) h noEnd (Act.Blind.pure before) (fun _ => Frame.marks_id)
    (by rw [ha]; exact hperform) fun _ => false
  exact done.weaken fun _ _ _ _ => trivial

theorem reaches_once (h : AtOwner id f entry c last body) (noEnd : NoEnd f last) (ha : c.action = .once) :
    Reaches id e f f.pc last (fun _ _ => True)
      ((interpretCommand f.script entry before body .once).on ⟨e, f.store⟩) := by
  have done := reaches_decided (e := e) h noEnd Act.blind_enterOnce (fun _ => Frame.marks_id)
    (by rw [ha]; exact congrArg (Act.on · _ _) Act.once_eq) fun _ => false
  exact done.weaken fun _ _ _ _ => trivial

end

end CommandScript
