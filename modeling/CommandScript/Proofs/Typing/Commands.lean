import CommandScript.Proofs.Typing.Slots

/-! Every command leaves the slots of its frame typed. `define` converts its value to the type of the slot, `set` makes
    one of that type in each of its modes, and the loops give their variables values of the types they declare them
    with. -/

namespace CommandScript

namespace Act

variable {script : Script} {site : Site}

theorem safe_help : Safe script site help := by
  refine Typed.get.bind fun s _ => Typed.argCount.bind fun n _ => ?_
  split
  · exact (safe_say _ _).bind fun _ _ => Typed.pure trivial
  · refine (safe_argText 0).bind fun text _ => ?_
    dsimp only
    split
    · exact Typed.fail _
    · exact (safe_say _ _).bind fun _ _ => (safe_say _ _).bind fun _ _ => Typed.pure trivial

theorem safe_debug : Safe script site debug := by
  refine (safe_argText 0).bind fun text _ => ?_
  split
  · exact Typed.fail _
  · exact Typed.bind (Typed.onFrame (fun _ => rfl) fun _ => rfl) fun _ _ =>
      (safe_say _ _).bind fun _ _ => Typed.pure trivial

/-- Gives a slot a value, and may say so before. -/
theorem safe_store {slot : Nat} {v : Value} (h : script.Admits slot v) (loud : Prop) [Decidable loud]
    (text : String) :
    Safe script site (do
      if loud then say .good text
      onFrame (·.setSlot slot v)
      return Flow.proceed) := by
  have stored : Safe script site (do
      onFrame (·.setSlot slot v)
      return Flow.proceed) := (Typed.setSlot h).bind fun _ _ => Typed.pure trivial
  dsimp only
  split
  · exact (safe_say _ _).bind fun _ _ => stored
  · exact stored

/-- `define` makes its value one of the type of the slot. -/
theorem safe_define : Safe script site define := by
  refine Typed.read.bind fun x _ => ?_
  split
  · exact Typed.failInternal _
  · rename_i index _
    refine Typed.frame.bind fun f hf => Typed.types.bind fun types ht => (safe_arg 1).bind fun v _ => ?_
    refine Typed.frame.bind fun g _ => safe_store ?_ _ _
    intro s hs known
    rw [hf.1, hs, ht]
    exact builtin_convert_hasType known v

/-- `set` makes one value of two, by its mode and the type of the slot. -/
theorem safe_set : Safe script site set := by
  refine (safe_argText 0).bind fun text _ => Typed.read.bind fun x _ => ?_
  split
  · exact Typed.fail _
  · rename_i slot _
    refine (safe_argText 1).bind fun op _ => ?_
    dsimp only
    split
    · exact Typed.fail _
    · refine Typed.frame.bind fun f hf => (safe_arg 2).bind fun input _ => Typed.types.bind fun types ht => ?_
      split
      · exact Typed.fail _
      · rename_i v hv
        refine safe_store ?_ _ _
        intro s hs known
        rw [hf.1, hs, ht] at hv
        exact updated_hasType known hv

theorem safe_determine : Safe script site determine :=
  (safe_arg 0).bind fun _ _ => (safe_say _ _).bind fun _ _ =>
    Typed.bind (Typed.onFrame (fun _ => rfl) fun _ => rfl) fun _ _ => Typed.pure trivial

theorem safe_ifBlock : Safe script site ifBlock :=
  (safe_booleanArg 0).bind fun taken _ => Typed.read.bind fun _ _ =>
    Typed.bind (Typed.onFrame (fun _ => rfl) fun _ => rfl) fun _ _ => safe_enter taken

theorem safe_elseBlock : Safe script site elseBlock := by
  refine Typed.instruction.bind fun i _ => ?_
  split
  · exact Typed.failInternal _
  · rename_i link _
    refine Typed.frame.bind fun f _ => ?_
    have decided : ∀ taken : Bool, Safe script site (do
        let index := (← read).index
        onFrame (·.setBranch index (f.branchTaken link || taken))
        if !taken then skipBlock
        return Flow.proceed) := fun taken =>
      Typed.read.bind fun _ _ => Typed.bind (Typed.onFrame (fun _ => rfl) fun _ => rfl) fun _ _ => safe_enter taken
    dsimp only
    split
    · exact decided false
    · refine Typed.argCount.bind fun n _ => ?_
      split
      · exact (safe_booleanArg 1).bind fun taken _ => decided taken
      · exact decided true

/-- What `once` does when its mark is known: it goes on into the block the first time, and in its mode past it later. -/
theorem safe_markOnce (id : String) (mode : OnceMode) : Safe script site (do
    let (isNew, engine) := (← get).engine.markOnce id
    modify fun s => { s with engine := engine }
    if isNew then
      say .good s!"Once block '{id}' entered."
      return Flow.proceed
    match mode with
    | .error => fail (.onceRepeated id)
    | .warning => say .bad (onceRepeatedMessage id)
    | .quiet => Pure.pure ()
    skipBlock
    return Flow.proceed) := by
  have skipped : Safe script site (do
    skipBlock
    return Flow.proceed) := safe_skipBlock.bind fun _ _ => Typed.pure trivial
  refine Typed.get.bind fun s hs => ?_
  have types : (s.engine.markOnce id).2.registries.types = .builtin := by
    unfold Engine.markOnce
    dsimp only
    split
    · exact hs.types
    · exact hs.types
  refine (Typed.setEngine types).bind fun _ _ => ?_
  dsimp only
  split
  · exact (safe_say _ _).bind fun _ _ => Typed.pure trivial
  · cases mode with
    | error => exact (Typed.fail (Q := fun _ : Unit => True) _).bind fun _ _ => skipped
    | warning => exact (safe_say _ _).bind fun _ _ => skipped
    | quiet => exact skipped

theorem safe_once : Safe script site once := by
  refine (safe_argText 0).bind fun text _ => Typed.argCount.bind fun n _ => ?_
  have marked := @safe_markOnce script site (Text.lower text)
  split
  · refine (safe_argText 1).bind fun word _ => ?_
    split
    · exact marked _
    · exact (Typed.fail (Q := fun _ : OnceMode => True) _).bind fun mode _ => marked mode
  · exact marked .error

theorem safe_goto : Safe script site goto := by
  refine (safe_argText 0).bind fun text _ => Typed.frame.bind fun f _ => ?_
  dsimp only
  split
  · exact Typed.fail _
  · exact Typed.bind (Typed.onFrame (fun _ => rfl) fun _ => rfl) fun _ _ =>
      (safe_say _ _).bind fun _ _ => Typed.pure trivial

theorem safe_tryBlock : Safe script site tryBlock := by
  refine Typed.instruction.bind fun i _ => ?_
  split
  · refine Typed.frame.bind fun f _ => ?_
    split
    · exact (safe_say _ _).bind fun _ _ => Typed.pure trivial
    · exact Typed.pure trivial
  · exact Typed.read.bind fun _ _ => Typed.bind (Typed.onFrame (fun _ => rfl) fun _ => rfl) fun _ _ =>
      Typed.pure trivial

theorem safe_catchBlock : Safe script site catchBlock :=
  Typed.frame.bind fun _ _ => Typed.instruction.bind fun _ _ => safe_enter _

theorem safe_wait : Safe script site wait := by
  refine (safe_arg 0).bind fun v _ => (safe_expect _ _ _).bind fun seconds _ => Typed.read.bind fun x _ => ?_
  split
  · exact (safe_say _ _).bind fun _ _ => Typed.pure trivial
  · exact (safe_say _ _).bind fun _ _ => Typed.pure trivial

theorem safe_bodyScript (name : String) : Safe script site (bodyScript name) := by
  refine Typed.instruction.bind fun i _ => ?_
  split
  · exact Typed.failInternal _
  · refine Typed.get.bind fun s _ => Typed.frame.bind fun f _ => ?_
    split
    · exact Typed.pure trivial
    · exact Typed.fail _

theorem safe_function : Safe script site function :=
  (safe_argText 0).bind fun _ _ => (safe_bodyScript _).bind fun _ _ =>
    Typed.bind (Typed.change fun _ hs => ⟨hs.script, hs.types, hs.frame⟩) fun _ _ => (safe_say _ _).bind fun _ _ =>
      safe_skipBlock.bind fun _ _ => Typed.pure trivial

theorem safe_findScript (name : String) : Safe script site (findScript name) := by
  refine (Typed.onEngine (Engine.sameRegistries_findScript? name)).bind fun found _ => ?_
  split
  · exact Typed.pure trivial
  · exact Typed.fail _

theorem safe_call : Safe script site call := by
  have called : Safe script site (do
      let script ← findScript (← argText 0)
      let vars ← namedVars
      say .good s!"Calling '{script.name}'."
      return Flow.enter script vars) :=
    (safe_argText 0).bind fun _ _ => (safe_findScript _).bind fun _ _ => safe_namedVars.bind fun _ _ =>
      (safe_say _ _).bind fun _ _ => Typed.pure trivial
  refine Typed.read.bind fun x _ => ?_
  split
  · exact (Typed.fail (Q := fun _ : Unit => True) _).bind fun _ _ => called
  · exact called

theorem safe_launch : Safe script site launch :=
  (safe_argText 0).bind fun _ _ => (safe_findScript _).bind fun _ _ => safe_namedVars.bind fun _ _ =>
    (safe_say _ _).bind fun _ _ => Typed.instruction.bind fun _ _ => Typed.pure trivial

theorem safe_priorityArg : Safe script site priorityArg := by
  refine Typed.argCount.bind fun n _ => ?_
  split
  · exact Typed.pure trivial
  · refine (safe_arg 3).bind fun value _ => ?_
    split
    · exact Typed.fail _
    · split
      · exact Typed.pure trivial
      · exact Typed.fail _

theorem safe_event : Safe script site event := by
  refine (safe_argText 0).bind fun action _ => (safe_argText 1).bind fun event _ =>
    (safe_argText 2).bind fun handler _ => ?_
  dsimp only
  split
  · refine Typed.get.bind fun s hs => ?_
    have types : (s.engine.removeHandler (Text.lower event) (Text.lower handler)).2.registries.types = .builtin := by
      unfold Engine.removeHandler
      dsimp only
      split
      · exact hs.types
      · exact hs.types
    refine (Typed.setEngine types).bind fun _ _ => ?_
    split
    · exact (safe_say _ _).bind fun _ _ => Typed.pure trivial
    · exact (safe_say _ _).bind fun _ _ => Typed.pure trivial
  · exact safe_priorityArg.bind fun _ _ => (safe_bodyScript _).bind fun _ _ =>
      Typed.bind (Typed.change fun _ hs => ⟨hs.script, hs.types, hs.frame⟩) fun _ _ => (safe_say _ _).bind fun _ _ =>
        safe_skipBlock.bind fun _ _ => Typed.pure trivial

/-! ### Loops -/

theorem safe_nextRound {owner : Nat} {next : Option (LoopState × Value)}
    (h : ∀ state v, next = some (state, v) → script.LoopAdmits owner v) :
    Safe script site (nextRound owner next) := by
  unfold nextRound
  split
  · exact Typed.bind (Typed.onFrame (fun _ => rfl) fun _ => rfl) fun _ _ =>
      (safe_setLoopVariable (h _ _ rfl)).bind fun _ _ => (safe_loopStart owner).bind fun _ _ =>
        (safe_jump _).bind fun _ _ => Typed.pure trivial
  · exact Typed.bind (Typed.onFrame (fun _ => rfl) fun _ => rfl) fun _ _ => Typed.pure trivial

theorem safe_begin {owner : Nat} {state : LoopState} {v : Value} (h : script.LoopAdmits owner v) :
    Safe script site (do
      onFrame (·.setLoop owner state)
      setLoopVariable owner v
      return Flow.proceed) :=
  Typed.bind (Typed.onFrame (fun _ => rfl) fun _ => rfl) fun _ _ =>
    (safe_setLoopVariable h).bind fun _ _ => Typed.pure trivial

/-- A count gives its variable whole numbers. -/
theorem safe_repeatBlock (first : ∀ n, script.LoopAdmits site.index (.integer n))
    (more : ∀ owner, site.entry.instruction.callbackOf = some owner → ∀ n, script.LoopAdmits owner (.integer n)) :
    Safe script site repeatBlock := by
  refine Typed.instruction.bind fun i hi => ?_
  subst hi
  split
  · rename_i owner ho
    refine Typed.frame.bind fun f _ => safe_nextRound fun state v hnext => ?_
    split at hnext
    · split at hnext
      · cases hnext
        exact more owner ho _
      · cases hnext
    · cases hnext
  · refine (safe_arg 0).bind fun v _ => (safe_expect _ _ _).bind fun total _ => Typed.read.bind fun x hx => ?_
    subst hx
    dsimp only
    split
    · exact (safe_say _ _).bind fun _ _ => safe_skipBlock.bind fun _ _ => Typed.pure trivial
    · exact safe_begin (first 1)

theorem safe_foreach (first : ∀ v, script.LoopAdmits site.index v)
    (more : ∀ owner, site.entry.instruction.callbackOf = some owner → ∀ v, script.LoopAdmits owner v) :
    Safe script site foreach := by
  refine Typed.instruction.bind fun i hi => ?_
  subst hi
  split
  · rename_i owner ho
    exact Typed.frame.bind fun f _ => safe_nextRound fun state v _ => more owner ho v
  · refine (safe_arg 0).bind fun v _ => Typed.read.bind fun x hx => ?_
    subst hx
    dsimp only
    split
    · exact safe_skipBlock.bind fun _ _ => Typed.pure trivial
    · exact safe_begin (first _)

end Act

/-! ### All commands -/

section
variable {script : Script} (source : script.FromSource) {site : Site}
  (here : script.code.entries[site.index]? = some site.entry)
include source here

/-- The instruction at a place of a loop, which begins or ends its block, and the variable of the loop. -/
theorem loopAdmits {owner : Nat} (own : owner = site.index ∨ site.entry.instruction.callbackOf = some owner) :
    (site.entry.instruction.name = "repeat" → ∀ n, script.LoopAdmits owner (.integer n)) ∧
      (site.entry.instruction.name = "foreach" → ∀ v, script.LoopAdmits owner v) := by
  obtain ⟨o, ho, name⟩ : ∃ o, script.code.entries[owner]? = some o ∧
      o.instruction.name = site.entry.instruction.name := by
    rcases own with rfl | ends
    · exact ⟨_, here, rfl⟩
    · exact source.ordered.owner_name here ends
  constructor
  · intro own n e slot he hslot s hs _
    cases ho.symm.trans he
    obtain ⟨x, hx⟩ := (source.loopVariable he hslot).1 (name.trans own)
    cases hx.symm.trans hs
    exact Value.integer_hasType n
  · intro own v e slot he hslot s hs _
    cases ho.symm.trans he
    obtain ⟨x, hx⟩ := (source.loopVariable he hslot).2 (name.trans own)
    cases hx.symm.trans hs
    exact Value.hasType_dynamic v

/-- Every command of every engine leaves the slots of its frame typed. -/
theorem Action.safe {a : Action} (ha : a.name? = some site.entry.instruction.name) : a.perform.Safe script site := by
  have atOwn := loopAdmits source here (Or.inl rfl)
  have atEnd := fun owner (ho : site.entry.instruction.callbackOf = some owner) => loopAdmits source here (Or.inr ho)
  cases a with
  | echo => exact Act.safe_argWords.bind fun _ _ => (Act.safe_say _ _).bind fun _ _ => Act.Typed.pure trivial
  | help => exact Act.safe_help
  | noop => exact Act.Typed.pure trivial
  | debug => exact Act.safe_debug
  | define => exact Act.safe_define
  | set => exact Act.safe_set
  | determine => exact Act.safe_determine
  | error => exact Act.safe_argWords.bind fun _ _ => Act.Typed.fail _
  | stop => exact (Act.safe_say _ _).bind fun _ _ => Act.Typed.pure trivial
  | compileError => exact (Act.safe_argText 0).bind fun _ _ => Act.Typed.fail _
  | ifBlock => exact Act.safe_ifBlock
  | elseBlock => exact Act.safe_elseBlock
  | repeatBlock =>
    have name := (Option.some.inj ha).symm
    exact Act.safe_repeatBlock (atOwn.1 name) fun owner ho => (atEnd owner ho).1 name
  | foreach =>
    have name := (Option.some.inj ha).symm
    exact Act.safe_foreach (atOwn.2 name) fun owner ho => (atEnd owner ho).2 name
  | once => exact Act.safe_once
  | goto => exact Act.safe_goto
  | mark => exact Act.Typed.pure trivial
  | tryBlock => exact Act.safe_tryBlock
  | catchBlock => exact Act.safe_catchBlock
  | wait => exact Act.safe_wait
  | function => exact Act.safe_function
  | call => exact Act.safe_call
  | run => exact Act.safe_launch
  | event => exact Act.safe_event
  | custom _ => cases ha

end

end CommandScript
