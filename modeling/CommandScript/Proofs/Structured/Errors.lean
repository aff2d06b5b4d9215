import CommandScript.Proofs.Structured.Commands

/-! Errors in the machine and in the tree. An error on its way through the code goes to the end of the nearest `try`
    around it, with the same report that the tree gives it; without one it is reported, and the queue ends. -/

namespace CommandScript

/-! ### Where errors go -/

theorem catches_iff {entry : Entry} {pc : Nat} :
    (entry.command.any (·.signature.errorBoundary) && entry.instruction.callbackOf.any (· < pc)) = true ↔
      entry.Catches pc := by
  rw [Bool.and_eq_true, Entry.Catches, Option.any_eq_true _ entry.instruction.callbackOf]
  simp only [decide_eq_true_eq]
  constructor
  · rintro ⟨hb, owner, ho, hlt⟩
    exact ⟨hb, owner, hlt, ho⟩
  · rintro ⟨hb, owner, hlt, ho⟩
    exact ⟨hb, owner, ho, hlt⟩

theorem boundary?_eq_some {f : Frame} {last : Nat} {atEnd : Entry} (hpc : f.pc ≤ last)
    (he : f.script.code.entries[last]? = some atEnd) (catches : atEnd.Catches f.pc)
    (clear : ∀ place entry, f.pc ≤ place → place < last → f.script.code.entries[place]? = some entry →
      ¬entry.Catches f.pc) : Machine.boundary? f = some last := by
  rw [← Array.getElem?_toList] at he
  obtain ⟨hlt, heq⟩ := List.getElem?_eq_some_iff.mp he
  have found : (f.script.code.entries.toList.drop f.pc).findIdx? (fun e =>
      e.command.any (·.signature.errorBoundary) && e.instruction.callbackOf.any (· < f.pc)) = some (last - f.pc) := by
    rw [List.findIdx?_eq_some_iff_getElem]
    have hlt' : last - f.pc < (f.script.code.entries.toList.drop f.pc).length := by
      rw [List.length_drop]
      omega
    refine ⟨hlt', ?_, fun j hj => ?_⟩
    · rw [List.getElem_drop, catches_iff]
      have : f.pc + (last - f.pc) = last := by omega
      simp only [this, heq]
      exact catches
    · rw [List.getElem_drop, catches_iff]
      refine clear (f.pc + j) _ (Nat.le_add_right _ _) (by omega) ?_
      rw [← Array.getElem?_toList]
      exact List.getElem?_eq_getElem _
  rw [Machine.boundary?, found]
  exact congrArg some (Nat.add_sub_cancel' hpc)

theorem boundary?_eq_none {f : Frame}
    (clear : ∀ place entry, f.pc ≤ place → f.script.code.entries[place]? = some entry → ¬entry.Catches f.pc) :
    Machine.boundary? f = none := by
  have found : (f.script.code.entries.toList.drop f.pc).findIdx? (fun e =>
      e.command.any (·.signature.errorBoundary) && e.instruction.callbackOf.any (· < f.pc)) = none := by
    rw [List.findIdx?_eq_none_iff]
    intro entry hmem
    obtain ⟨j, hj⟩ := List.mem_iff_getElem?.mp hmem
    rw [List.getElem?_drop, Array.getElem?_toList] at hj
    exact Bool.eq_false_iff.mpr fun h => clear _ entry (Nat.le_add_right _ _) hj (catches_iff.mp h)
  rw [Machine.boundary?, found]
  rfl

/-- The report on an error is the one that the tree gives it. -/
theorem trace_eq {g : Frame} {t : Thrown} {lo hi : Nat} (h : Raised g t lo hi) :
    Machine.trace [g] t.error = t.trace g.script := by
  obtain ⟨entry, hcurrent, hline, hsource⟩ := h.here
  show "ERROR: \"" ++ t.error.message ++ "\"" ++ Machine.traceLine g = _
  cases ho : g.script.origin <;> simp only [Machine.traceLine, Thrown.trace, hcurrent, ho, hline, hsource]

/-! ### `try` -/

theorem Act.on_tryBlock (site : Site) (hn : site.entry.instruction.callbackOf = none) (s : Scene) :
    tryBlock.on site s = (.ok .proceed, { s with frame := s.frame.setBranch site.index false }) := by
  rw [tryBlock, on_bind, on_instruction]
  dsimp only
  rw [hn]
  rfl

theorem Act.on_tryBlock_end (site : Site) {owner : Nat} (ho : site.entry.instruction.callbackOf = some owner)
    (s : Scene) : tryBlock.on site s =
      (if s.frame.branchTaken owner then do
        say .good "Error caught by try block."
        return .proceed
      else return .proceed : Act Flow).on site s := by
  rw [tryBlock, on_bind, on_instruction]
  dsimp only
  rw [ho]
  dsimp only
  rw [on_bind, on_frame]

/-- What a message does is the same for every instruction. -/
theorem attempt_say {script : Script} (entry entry' : Entry)
    (hline : entry.instruction.line = entry'.instruction.line)
    (hsource : entry.instruction.source = entry'.instruction.source) (kind : MessageKind) (text : String)
    (w : World) :
    (attempt script entry (Act.say kind text)).on w = (attempt script entry' (Act.say kind text)).on w := by
  have thrown : entry.thrown = entry'.thrown := by
    funext failure
    rw [Entry.thrown, Entry.thrown, hline, hsource]
  rw [on_attempt, on_attempt, Entry.attempted, Entry.attempted, thrown, Act.on_say, Act.on_say]

/-- A frame that has caught an error at the end of the block of `owner`. -/
def Frame.caught (f : Frame) (last owner : Nat) (trace : String) : Frame :=
  (({ f with pc := last } : Frame).setBranch owner true).setVar "stack_trace" (.text trace)

section
variable {id : Nat} {e : Engine} {f : Frame} {entry atEnd : Entry} {c : Command} {before : Bool}
  {body : Interpretation Unit} {last : Nat}

/-- An error that leaves the block of a `try` is caught where the block ends. -/
theorem handle_of_raised {g : Frame} {t : Thrown} {owner : Nat} (hpc : g.pc ≤ last)
    (he : g.script.code.entries[last]? = some atEnd) (ho : atEnd.instruction.callbackOf = some owner)
    (hb : atEnd.command.any (·.signature.errorBoundary) = true) (raised : Raised g t owner last) :
    (machineAt id e g).handle t.error = machineAt id e (g.caught last owner (t.trace g.script)) := by
  have hboundary := boundary?_eq_some hpc he ⟨hb, owner, raised.lt, ho⟩ raised.clear
  have hcaught : Machine.caughtAt g last (t.trace g.script) = g.caught last owner (t.trace g.script) := by
    rw [Machine.caughtAt]
    dsimp only
    rw [he, Option.bind_some, ho]
    rfl
  unfold Machine.handle machineAt
  dsimp only
  rw [trace_eq raised, Machine.catchError, hboundary]
  dsimp only
  rw [hcaught]

/-- Once an error is caught, the end of the block says so, which may fail in its turn. -/
theorem reaches_caught (id : Nat) (ends : EndsAtOwner f c last atEnd) (lt : f.pc < last) (ha : c.action = .tryBlock)
    (hend : atEnd.instruction = entry.instruction.endOfBlock f.pc) {g : Frame} (hin : f.Within f.pc last g)
    (text : String) :
    Reaches id e (g.caught last f.pc text) f.pc (last + 1) (fun x k => k.branchTaken f.pc = x)
      (Interpretation.on (do
        attempt f.script entry.atEnd (Act.say .good "Error caught by try block.")
        return true) ⟨e, (g.caught last f.pc text).store⟩) := by
  have hscript : g.script = f.script := hin.script
  obtain ⟨result, e', k, hon, hplace, hscript', hatt⟩ :=
    (Act.blind_say .good "Error caught by try block.").tried_next atEnd e (g.caught last f.pc text)
  have taken : (g.caught last f.pc text).next.branchTaken f.pc = true := Frame.branchTaken_setBranch _ _ _
  have perform := Act.on_tryBlock_end ⟨atEnd, (g.caught last f.pc text).pc, 1, false, false⟩ ends.callbackOf
    ⟨e, (g.caught last f.pc text).next⟩
  rw [show Act.tryBlock = c.action.perform by rw [ha]; rfl, if_pos taken, Act.on_bind, hon] at perform
  have here : (g.caught last f.pc text).script.code.entries[(g.caught last f.pc text).pc]? = some atEnd :=
    hscript ▸ ends.here
  have within : (g.caught last f.pc text).Within last (last + 1) k := Frame.within_step hscript' hplace
  have within := within.mono (Nat.le_of_lt lt) (Nat.le_refl _)
  have hpc : k.pc = last + 1 := congrArg Place.pc hplace
  have same : (attempt f.script entry.atEnd (Act.say .good "Error caught by try block.")).on
      ⟨e, (g.caught last f.pc text).store⟩ = (result.mapError atEnd.thrown, ⟨e', k.store⟩) := by
    rw [← hatt, attempt_say entry.atEnd atEnd (by rw [hend]; rfl) (by rw [hend]; rfl)]
    rw [← hscript]
    rfl
  rw [Interpretation.on_bind, same]
  cases result with
  | error failure =>
    have raised : Raised k (atEnd.thrown failure) last (last + 1) :=
      Raised.of_pc hpc (by rw [hscript', ← here]; rfl) rfl rfl (Nat.lt_succ_self _) fun _ _ _ hlo hhi => by omega
    exact ⟨k, runsTo_failure here ends.command perform, within, rfl,
      { raised with lt := Nat.lt_trans lt raised.lt }⟩
  | ok _ =>
    refine ⟨k, runsTo_proceed id here ends.command perform, within, rfl, hpc, ?_⟩
    show k.branchTaken f.pc = true
    rw [← taken, Frame.branchTaken, Frame.branchTaken]
    exact congrArg (fun p => (List.lookup f.pc p.branches).getD false) hplace

theorem reaches_try (h : AtOwner id f entry c last body) (ends : EndsAtOwner f c last atEnd)
    (boundary : c.signature.errorBoundary = true) (ha : c.action = .tryBlock)
    (hend : atEnd.instruction = entry.instruction.endOfBlock f.pc) :
    Reaches id e f f.pc (last + 1) (fun x g => g.branchTaken f.pc = x)
      ((interpretCommand f.script entry before body .tryBlock).on ⟨e, f.store⟩) := by
  have hperform : c.action.perform = Act.tryBlock := by rw [ha]; rfl
  have lt := h.lt
  -- The block begins with no error caught.
  have begin_run : RunsTo (machineAt id e f) (machineAt id e (f.next.setBranch f.pc false)) := by
    refine runsTo_proceed id h.here h.command ?_
    rw [hperform]
    exact Act.on_tryBlock ⟨entry, f.pc, 1, false, false⟩ h.callbackOf _
  have begin_within : ∀ {hi : Nat}, f.pc < hi → f.Within f.pc hi (f.next.setBranch f.pc false) := fun hhi =>
    (Frame.within_step (f := f) (g := f.next) rfl rfl).trans
      ((Frame.marks_setBranch (Nat.le_refl _) hhi false).within f.next)
  have inner := h.body e (f.next.setBranch f.pc false) (begin_within lt) rfl
  have hstore : (f.next.setBranch f.pc false).store = f.store := rfl
  rw [hstore] at inner
  rw [interpretCommand, Interpretation.on_tryCatch, Interpretation.on_bind]
  generalize body.on ⟨e, f.store⟩ = r at inner
  obtain ⟨t | _, w⟩ := r
  · obtain ⟨g, hrun, hin, hs, raised⟩ := inner
    have hscript : g.script = f.script := hin.script
    have here : g.script.code.entries[last]? = some atEnd := by rw [hscript]; exact ends.here
    rw [handle_of_raised raised.le here ends.callbackOf (by rw [ends.command]; exact boundary)
      { raised with lt := Nat.lt_of_succ_lt raised.lt }, hscript] at hrun
    have body_within := (begin_within lt).trans (hin.mono (Nat.le_succ _) (Nat.le_refl _))
    have done := reaches_caught id (e := w.engine) ends lt ha hend body_within (t.trace f.script)
    have hcaught : f.Within f.pc (last + 1) (g.caught last f.pc (t.trace f.script)) := by
      refine (body_within.mono (Nat.le_refl _) (Nat.le_succ _)).trans ?_
      have marked := (Frame.marks_setBranch (Nat.le_refl f.pc) (Nat.lt_succ_of_lt lt) true).within
        { g with pc := last }
      exact ⟨marked.script, marked.floor, marked.loops, marked.branches⟩
    have stored : (⟨w.engine, (g.caught last f.pc (t.trace f.script)).store⟩ : World) =
        { w with store := { w.store with
          vars := setKey "stack_trace" (.text (t.trace f.script)) w.store.vars } } := by
      rw [← hs]
      rfl
    rw [stored] at done
    exact Reaches.after (begin_run.trans hrun) hcaught (Nat.le_refl _) done
  · obtain ⟨g, hrun, hin, hs, hpc, -⟩ := inner
    have hscript : g.script = f.script := hin.script
    have fresh : g.branchTaken f.pc = false := by
      rw [hin.branchTaken (Or.inl (Nat.lt_succ_self _)), Frame.branchTaken_setBranch]
    have perform : c.action.perform.on ⟨atEnd, g.pc, 1, false, false⟩ ⟨w.engine, g.next⟩ =
        (.ok .proceed, ⟨w.engine, g.next⟩) := by
      rw [hperform, Act.on_tryBlock_end _ ends.callbackOf]
      show (if g.branchTaken f.pc then _ else _ : Act Flow).on _ _ = _
      rw [fresh]
      rfl
    have end_run := runsTo_proceed id (by rw [hscript, hpc]; exact ends.here) ends.command perform
    refine ⟨g.next, begin_run.trans (hrun.trans end_run), ?_, hs, congrArg (· + 1) hpc, fresh⟩
    have within := (begin_within (Nat.lt_succ_of_lt lt)).trans (hin.mono (Nat.le_succ _) (Nat.le_succ _))
    exact ⟨within.script, within.floor, within.loops, within.branches⟩

end

end CommandScript
