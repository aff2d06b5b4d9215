import CommandScript.Proofs.Machine.Moves

/-! Every command of every engine has one of the effects that commands have. -/

namespace CommandScript

namespace Act

/-! ### Commands that stay in their place -/

section
variable {P : Script → Prop}

theorem steady_help : Steady P help := by
  refine Steady.get.bind fun s => steady_argCount.bind fun n => ?_
  split
  · exact (steady_say _ _).bind fun _ => Steady.pure _
  · refine (steady_argText 0).bind fun text => ?_
    dsimp only
    split
    · exact Steady.fail _
    · exact (steady_say _ _).bind fun _ => (steady_say _ _).bind fun _ => Steady.pure _

theorem steady_debug : Steady P debug := by
  refine (steady_argText 0).bind fun text => ?_
  split
  · exact Steady.fail _
  · refine Steady.bind (Steady.onFrame (fun _ => rfl) (fun _ => rfl) (fun _ => rfl) (fun _ => rfl) (fun _ => rfl)
      fun _ => rfl) fun _ => ?_
    exact (steady_say _ _).bind fun _ => Steady.pure _

theorem steady_define : Steady P define := by
  refine Steady.read.bind fun site => ?_
  split
  · exact Steady.failInternal _
  · refine Steady.frame.bind fun f => Steady.get.bind fun s => (steady_arg 1).bind fun v => ?_
    refine Steady.frame.bind fun f => ?_
    split
    · exact (steady_say _ _).bind fun _ => (steady_setSlot _ _).bind fun _ => Steady.pure _
    · exact (steady_setSlot _ _).bind fun _ => Steady.pure _

theorem steady_set : Steady P set := by
  refine (steady_argText 0).bind fun text => Steady.read.bind fun site => ?_
  split
  · exact Steady.fail _
  · refine (steady_argText 1).bind fun op => ?_
    dsimp only
    split
    · exact Steady.fail _
    · refine Steady.frame.bind fun f => (steady_arg 2).bind fun input => Steady.get.bind fun s => ?_
      split
      · exact Steady.fail _
      · split
        · exact (steady_say _ _).bind fun _ => (steady_setSlot _ _).bind fun _ => Steady.pure _
        · exact (steady_setSlot _ _).bind fun _ => Steady.pure _

/-- Changing the engine to one made from it leaves it the scripts it gives and its queues, if the change does. -/
theorem Steady.update (change : Engine → Engine) (keeps : ∀ e, e.Gives P → (change e).Gives P)
    (aside : ∀ e : Engine, e.Aside P (change e)) {k : Scene → Act α} (hk : ∀ s, Steady P (k s)) : Steady P (do
      let s ← MonadState.get
      modify fun t => { t with engine := change s.engine }
      k s) := by
  intro site s
  rw [on_bind, on_get]
  dsimp only
  rw [on_bind, on_modify]
  have changed : s.Keeps P { s with engine := change s.engine } :=
    ⟨rfl, rfl, rfl, rfl, rfl, rfl, keeps s.engine, aside s.engine⟩
  exact changed.trans (hk s site _)

theorem steady_onceMode : Steady P onceMode := by
  refine steady_argCount.bind fun n => ?_
  split
  · refine (steady_argText 1).bind fun text => ?_
    split
    · exact Steady.pure _
    · exact Steady.fail _
  · exact Steady.pure _

theorem steady_enterOnce : Steady P enterOnce := by
  refine (steady_argText 0).bind fun text => steady_onceMode.bind fun mode => ?_
  refine Steady.update (fun e => (e.markOnce (Text.lower text)).2) (fun e h => ?_) (fun e => ?_) fun s => ?_
  · unfold Engine.markOnce
    dsimp only
    split
    · exact h
    · exact h.of_same rfl rfl rfl rfl rfl
  · unfold Engine.markOnce
    dsimp only
    split
    · exact .refl e
    · exact .of_events rfl rfl rfl rfl rfl
  · dsimp only
    split
    · exact (steady_say _ _).bind fun _ => Steady.pure _
    · split
      · exact (Steady.fail _).bind fun _ => Steady.pure _
      · exact (steady_say _ _).bind fun _ => Steady.pure _
      · exact Steady.pure _

theorem steady_determine : Steady P determine := by
  refine (steady_arg 0).bind fun value => (steady_say _ _).bind fun _ => ?_
  exact Steady.bind (Steady.onFrame (fun _ => rfl) (fun _ => rfl) (fun _ => rfl) (fun _ => rfl) (fun _ => rfl)
    fun _ => rfl) fun _ => Steady.pure _

/-- A command that neither moves on in its script nor runs another is steady. -/
theorem steady_of_isPlain {a : Action} (h : a.isPlain = true) : Steady P a.perform := by
  cases a with
  | echo => exact steady_argWords.bind fun _ => (steady_say _ _).bind fun _ => Steady.pure _
  | help => exact steady_help
  | noop => exact Steady.pure _
  | debug => exact steady_debug
  | define => exact steady_define
  | set => exact steady_set
  | determine => exact steady_determine
  | error => exact steady_argWords.bind fun _ => Steady.fail _
  | _ => cases h

end

section
variable {P : Script → Prop} {a : Action} {site : Site} {s : Scene} (ready : site.Ready P s)
include ready

theorem does_tryBlock : Does P a site s tryBlock := by
  refine Does.bind ready steady_instruction fun i t _ ready => ?_
  split
  · refine Does.bind ready Steady.frame fun f t _ ready => ?_
    split
    · exact Does.bind ready (steady_say _ _) fun _ _ _ ready => does_pure ready trivial
    · exact does_pure ready trivial
  · refine Does.bind ready Steady.read fun site' t h ready => ?_
    cases h
    exact Does.mark ready fun _ ready => does_pure ready trivial

theorem does_wait : Does P a site s wait := by
  refine Does.bind ready (steady_arg 0) fun v t _ ready => ?_
  refine Does.bind ready (steady_expect _ _ _) fun seconds t _ ready => ?_
  refine Does.bind ready Steady.read fun site' t _ ready => ?_
  split
  · exact Does.bind ready (steady_say _ _) fun _ _ _ ready => does_pure ready trivial
  · exact Does.bind ready (steady_say _ _) fun _ _ _ ready => does_pure ready trivial

/-! ### Branches and `once` -/

theorem does_ifBlock : Does P a site s ifBlock := by
  refine Does.bind ready (steady_booleanArg 0) fun taken t _ ready => ?_
  refine Does.bind ready Steady.read fun site' t h ready => ?_
  cases h
  exact Does.mark ready fun _ ready => does_enter ready taken

theorem does_elseBlock : Does P a site s elseBlock := by
  refine Does.bind ready steady_instruction fun i t _ ready => ?_
  split
  · exact does_failInternal ready _
  · rename_i link _
    refine Does.bind ready Steady.frame fun f t _ ready => ?_
    -- What the branch decides, its mark and its block come in this order in each case.
    have decided : ∀ (t : Scene) (taken : Bool), site.Ready P t → Does P a site t (do
        let index := (← read).index
        onFrame (·.setBranch index (f.branchTaken link || taken))
        if !taken then skipBlock
        return .proceed) := fun t taken ready => by
      refine Does.bind ready Steady.read fun site' t h ready => ?_
      cases h
      exact Does.mark ready fun _ ready => does_enter ready taken
    dsimp only
    split
    · exact decided t false ready
    · refine Does.bind ready steady_argCount fun n t _ ready => ?_
      split
      · exact Does.bind ready (steady_booleanArg 1) fun taken t _ ready => decided t taken ready
      · exact decided t true ready

theorem does_catchBlock : Does P a site s catchBlock := by
  refine Does.bind ready Steady.frame fun f t _ ready => ?_
  refine Does.bind ready steady_instruction fun i t _ ready => ?_
  exact does_enter ready _

theorem does_once : Does P a site s once := by
  rw [once_eq]
  refine Does.bind ready steady_enterOnce fun taken t _ ready => ?_
  refine Does.bind ready ?_ fun _ _ _ ready => does_enter ready taken
  exact Steady.onFrame (fun _ => rfl) (fun _ => rfl) (fun _ => rfl) (fun _ => rfl) (fun _ => rfl) fun _ => rfl

/-! ### Loops -/

theorem does_repeatBlock (own : site.entry.instruction.name = "repeat") : Does P a site s repeatBlock := by
  unfold Does
  rw [repeatBlock, on_bind, on_instruction]
  dsimp only
  cases ho : site.entry.instruction.callbackOf with
  | some owner =>
    dsimp only
    rw [on_bind, on_frame]
    refine does_nextRound ready (Or.inl own) ho fun state' v hnext => ?_
    split at hnext
    · rename_i current total hl
      exact ⟨_, hl, hnext⟩
    · cases hnext
  | none =>
    refine Does.bind ready (steady_arg 0) fun v t _ ready => ?_
    refine Does.bind ready (steady_expect _ _ _) fun total t _ ready => ?_
    -- This is what is left of the command once the count is read.
    show Does P a site t (do
      let site ← read
      if total ≤ 0 then do
        say .good "Repeat count is zero, skipping."
        skipBlock
        return .proceed
      else do
        onFrame (·.setLoop site.index (.count 1 total))
        setLoopVariable site.index (.integer 1)
        return .proceed)
    unfold Does
    rw [on_bind, on_read]
    dsimp only
    split
    · exact Does.bind ready (steady_say _ _) fun _ _ _ ready => does_skip ready
    · rename_i htotal
      refine does_begin ready ?_ _
      rw [Int64.le_iff_toInt_le, Int64.toInt_zero] at htotal
      constructor
      · decide
      · rw [Int64.le_iff_toInt_le, Int64.toInt_one]
        omega

theorem does_foreach (own : site.entry.instruction.name = "foreach") : Does P a site s foreach := by
  unfold Does
  rw [foreach, on_bind, on_instruction]
  dsimp only
  cases ho : site.entry.instruction.callbackOf with
  | some owner =>
    dsimp only
    rw [on_bind, on_frame]
    refine does_nextRound ready (Or.inr own) ho fun state' v hnext => ?_
    split at hnext
    · rename_i index list hl
      exact ⟨_, hl, hnext⟩
    · cases hnext
  | none =>
    refine Does.bind ready (steady_arg 0) fun v t _ ready => ?_
    unfold Does
    rw [on_bind, on_read]
    dsimp only
    split
    · exact does_skip ready
    · rename_i first rest hitems
      have valid : (LoopState.items 0 v.asList.toArray).Valid := by
        rw [hitems]
        exact Nat.zero_lt_succ rest.length
      exact does_begin ready valid first

/-! ### Marks -/

theorem does_goto (own : site.entry.instruction.name = "goto") : Does P a site s goto := by
  refine Does.bind ready (steady_argText 0) fun text t _ ready => ?_
  unfold Does
  dsimp only
  rw [on_bind, on_frame]
  dsimp only
  split
  · exact does_fail ready _
  · rename_i offset hfound
    obtain ⟨hlt, hmark, -⟩ := List.findIdx?_eq_some_iff_getElem.mp hfound
    rw [List.getElem_drop] at hmark
    have inside : t.frame.pc + offset < t.frame.script.code.entries.toList.length := by
      rw [List.length_drop] at hlt
      omega
    have here : t.frame.script.code.entries[t.frame.pc + offset]? =
        some t.frame.script.code.entries.toList[t.frame.pc + offset] := by
      rw [← Array.getElem?_toList]
      exact List.getElem?_eq_getElem _
    have name := (Bool.and_eq_true_iff.mp hmark).1
    rw [beq_iff_eq] at name
    -- The frame has moved before the message about it, which leaves it there.
    let after : Scene := { t with frame := { t.frame with
      floor := t.frame.pc + offset + 1, pc := t.frame.pc + offset + 1 } }
    have said := steady_say (P := P) .good s!"Went to mark '{Text.lower (Text.trim text)}'." site after
    have moved : ∀ (u : Scene) (r : Except Failure Flow), after.Keeps P u → (∀ flow, r = .ok flow → flow = .proceed) →
        t.frame.Moves site.index site.entry u.frame r := fun u r k proceeds => by
      have pc : u.frame.pc = t.frame.pc + offset + 1 := k.pc
      refine .goto own ?_ name ?_ (k.floor.trans pc.symm) k.loops proceeds
      · rw [pc, Nat.add_sub_cancel]
        exact here
      · rw [pc]
        omega
    have others : ∀ u : Scene, after.Keeps P u → ∀ owner, owner ≠ site.index →
        u.frame.branchTaken owner = t.frame.branchTaken owner := fun u k owner _ => by
      rw [Frame.branchTaken, Frame.branchTaken, k.branches]
    rw [on_bind, on_onFrame]
    dsimp only
    rw [on_bind]
    generalize hr : (say .good s!"Went to mark '{Text.lower (Text.trim text)}'.").on site after = r at said
    obtain ⟨failure | _, u⟩ := r
    · exact ⟨said.script, said.slots, moved u _ said fun _ h => (by cases h), others u said,
        said.gives ready.gives, said.aside, fun _ h => (by cases h)⟩
    · exact ⟨said.script, said.slots, moved u _ said fun _ h => (by cases h; rfl), others u said,
        said.gives ready.gives, said.aside, fun _ h => (by cases h; trivial)⟩

end

/-! ### Other scripts -/

section
variable {P : Script → Prop} (closed : Script.Closed P) {a : Action} {site : Site} {s : Scene}
  (ready : site.Ready P s)

theorem Steady.onEngine {m : EngineM α} (keeps : ∀ e, e.Gives P → (m.on e).2.Gives P)
    (aside : ∀ e : Engine, e.Aside P (m.on e).2) : Steady P (onEngine m) := by
  intro site s
  rw [on_onEngine]
  exact ⟨rfl, rfl, rfl, rfl, rfl, rfl, keeps s.engine, aside s.engine⟩

include closed in
theorem steady_findScript (name : String) : Steady P (findScript name) := by
  refine Steady.bind (Steady.onEngine (fun e h => (h.findScript? closed name).1) (Engine.aside_findScript? name))
    fun found => ?_
  split
  · exact Steady.pure _
  · exact Steady.fail _

theorem steady_bodyScript (name : String) : Steady P (bodyScript name) := by
  refine steady_instruction.bind fun i => ?_
  split
  · exact Steady.failInternal _
  · refine Steady.get.bind fun s => Steady.frame.bind fun f => ?_
    split
    · exact Steady.pure _
    · exact Steady.fail _

include closed ready

/-- The script of a name is one that the engine gives. -/
theorem findScript_gives {name : String} {script : Script} {t : Scene}
    (h : (findScript name).on site s = (.ok script, t)) : P script := by
  have found := (ready.gives.findScript? closed name).2
  rw [findScript, on_bind, on_onEngine] at h
  unfold EngineM.on at found
  generalize (Engine.findScript? name).run.run s.engine = r at h found
  obtain ⟨_ | _ | script', e⟩ := r
  · cases h
  · cases h
  · cases h
    exact found _ rfl

/-- The block of an instruction of a script has what the script has. -/
theorem bodyScript_gives {name : String} {script : Script} {t : Scene}
    (h : (bodyScript name).on site s = (.ok script, t)) : P script := by
  have here : site.entry.instruction ∈ s.frame.script.instructions := by
    have he := ready.entry
    rw [← Array.getElem?_toList] at he
    exact List.mem_map_of_mem (List.mem_of_getElem? he)
  rw [bodyScript, on_bind, on_instruction] at h
  dsimp only at h
  split at h
  · cases h
  · rename_i b hb
    rw [on_bind, on_get] at h
    dsimp only at h
    rw [on_bind, on_frame] at h
    dsimp only at h
    split at h
    · rename_i made hmade
      cases h
      exact closed.block ready.gives.commands ready.script here hb hmade
    · cases h

theorem does_function : Does P a site s function := by
  refine Does.bind ready (steady_argText 0) fun text t _ ready => ?_
  refine Does.bind ready (steady_bodyScript _) fun script t h ready' => ?_
  have hscript := bodyScript_gives closed ready h
  have kept : Steady P (modify fun s => { s with engine := s.engine.registerFunction (Text.lower text) script }) :=
    Steady.modifyEngine _ (fun e he => he.registerFunction _ hscript) fun e => .of_events rfl rfl rfl rfl rfl
  refine Does.bind ready' kept fun _ t _ ready => ?_
  exact Does.bind ready (steady_say _ _) fun _ _ _ ready => does_skip ready

theorem does_call : Does P .call site s call := by
  refine Does.bind ready Steady.read fun site' t h ready => ?_
  cases h
  split
  · exact Does.bind ready (Steady.fail _) fun _ _ h _ => (by cases h)
  · rename_i depth
    refine Does.bind ready (steady_argText 0) fun text t _ ready => ?_
    refine Does.bind ready (steady_findScript closed _) fun script t h ready' => ?_
    have hscript := findScript_gives closed ready h
    refine Does.bind ready' steady_namedVars fun vars t _ ready => ?_
    refine Does.bind ready (steady_say _ _) fun _ _ _ ready => ?_
    exact does_pure ready ⟨rfl, Nat.not_le.mp depth, hscript⟩

theorem does_launch : Does P .run site s launch := by
  refine Does.bind ready (steady_argText 0) fun text t _ ready => ?_
  refine Does.bind ready (steady_findScript closed _) fun script t h ready' => ?_
  have hscript := findScript_gives closed ready h
  refine Does.bind ready' steady_namedVars fun vars t _ ready => ?_
  refine Does.bind ready (steady_say _ _) fun _ _ _ ready => ?_
  refine Does.bind ready steady_instruction fun i t _ ready => ?_
  exact does_pure ready ⟨rfl, hscript⟩

omit closed ready in
theorem steady_priorityArg : Steady P priorityArg := by
  refine steady_argCount.bind fun n => ?_
  split
  · exact Steady.pure _
  · refine (steady_arg 3).bind fun value => ?_
    split
    · exact Steady.fail _
    · split
      · exact Steady.pure _
      · exact Steady.fail _

omit closed ready in
theorem steady_registerHandler (name : String) {h : Handler} (hh : P h.script) :
    Steady P (modify fun s => { s with engine := s.engine.registerHandler name h } : Act Unit) :=
  Steady.modifyEngine (fun e => e.registerHandler name h) (fun _ he => he.of_same rfl rfl rfl rfl rfl)
    fun _ => .registerHandler name hh

omit closed ready in
theorem gives_removeHandler {e : Engine} (h : e.Gives P) (name handler : String) :
    (e.removeHandler name handler).2.Gives P := by
  unfold Engine.removeHandler
  dsimp only
  split
  · exact h
  · exact h.of_same rfl rfl rfl rfl rfl

theorem does_event : Does P a site s event := by
  refine Does.bind ready (steady_argText 0) fun action t _ ready => ?_
  refine Does.bind ready (steady_argText 1) fun event t _ ready => ?_
  refine Does.bind ready (steady_argText 2) fun handler t _ ready => ?_
  dsimp only
  split
  · refine Does.bind ready Steady.get fun u t h ready => ?_
    cases h
    unfold Does
    rw [on_bind, on_modify]
    have removed : t.Keeps P
        { t with engine := (t.engine.removeHandler (Text.lower event) (Text.lower handler)).2 } :=
      ⟨rfl, rfl, rfl, rfl, rfl, rfl, fun h => gives_removeHandler h _ _, .removeHandler _ _⟩
    refine Does.after ready removed fun ready => ?_
    split
    · exact Does.bind ready (steady_say _ _) fun _ _ _ ready => does_pure ready trivial
    · exact Does.bind ready (steady_say _ _) fun _ _ _ ready => does_pure ready trivial
  · refine Does.bind ready steady_priorityArg fun priority t _ ready => ?_
    refine Does.bind ready (steady_bodyScript _) fun script t h ready' => ?_
    refine Does.bind ready' (steady_registerHandler _ (bodyScript_gives closed ready h)) fun _ t _ ready => ?_
    exact Does.bind ready (steady_say _ _) fun _ _ _ ready => does_skip ready

end

end Act

/-! ### All commands -/

/-- The name of the command of every engine that does something. -/
def Action.name? : Action → Option String
  | .echo => some "echo"
  | .help => some "help"
  | .noop => some "noop"
  | .debug => some "debug"
  | .define => some "define"
  | .set => some "set"
  | .determine => some "determine"
  | .error => some "error"
  | .stop => some "stop"
  | .compileError => some compileErrorName
  | .ifBlock => some "if"
  | .elseBlock => some "else"
  | .repeatBlock => some "repeat"
  | .foreach => some "foreach"
  | .once => some "once"
  | .goto => some "goto"
  | .mark => some "mark"
  | .tryBlock => some "try"
  | .catchBlock => some "catch"
  | .wait => some "wait"
  | .function => some "function"
  | .call => some "call"
  | .run => some "run"
  | .event => some "event"
  | .custom _ => none

/-- What a command of every engine does goes by its name. -/
theorem name?_builtin {name : String} {c : Command} (h : CommandRegistry.builtin.get? name = some c) :
    c.action.name? = some name := by
  have named : ∀ c ∈ CommandRegistry.builtin.commands, c.action.name? = some c.signature.name := by decide
  obtain ⟨hm, rfl⟩ := mem_of_get?_builtin h
  exact named c hm

/-- Every command of every engine has one of the effects that commands have. -/
theorem Action.does {P : Script → Prop} (closed : Script.Closed P) {a : Action} {site : Site}
    (ha : a.name? = some site.entry.instruction.name) {s : Scene} (ready : site.Ready P s) :
    Act.Does P a site s a.perform := by
  cases a with
  | echo | help | noop | debug | define | set | determine | error =>
    exact Act.does_plain ready (Act.steady_of_isPlain rfl) (Action.plain_of_isPlain rfl)
  | stop => exact Act.Does.bind ready (Act.steady_say _ _) fun _ _ _ ready => Act.does_pure ready trivial
  | compileError => exact Act.Does.bind ready (Act.steady_argText 0) fun _ _ _ ready => Act.does_fail ready _
  | ifBlock => exact Act.does_ifBlock ready
  | elseBlock => exact Act.does_elseBlock ready
  | repeatBlock => exact Act.does_repeatBlock ready (Option.some.inj ha).symm
  | foreach => exact Act.does_foreach ready (Option.some.inj ha).symm
  | once => exact Act.does_once ready
  | goto => exact Act.does_goto ready (Option.some.inj ha).symm
  | mark => exact Act.does_pure ready trivial
  | tryBlock => exact Act.does_tryBlock ready
  | catchBlock => exact Act.does_catchBlock ready
  | wait => exact Act.does_wait ready
  | function => exact Act.does_function closed ready
  | call => exact Act.does_call closed ready
  | run => exact Act.does_launch closed ready
  | event => exact Act.does_event closed ready
  | custom _ => cases ha

end CommandScript
