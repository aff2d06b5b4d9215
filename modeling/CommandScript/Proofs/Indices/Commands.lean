import CommandScript.Proofs.Indices.Places
import CommandScript.Proofs.Machine.Commands

/-! Commands with the places that they look at. `define` and `set` look at the types, the names and the values of slots,
    loops at their owner and at the items of a list, `goto` at all entries behind it, and `function` and `event` cut out
    their block. In a script that comes from a source text none of them looks beyond an end, and none comes to a fault
    of the engine, but for an `event` without a block. -/

namespace CommandScript

/-- A row of instructions as a script of its own, with the lines of `owner`. -/
def Script.ofRow (r : Registries) (name : String) (owner : Script) (row : List Instruction) :
    Except CompileError Script := do
  let code ← compile r row []
  return { ofCode name owner.verbosity code with origin := some owner.sourceName }

namespace Act

/-! ### Places that commands look at -/

/-- `define`, with the places of its slot. -/
def defineIndexed : Indexing Flow := do
  let site ← (read : Act Site)
  match site.entry.declares with
  | none => failInternal .slotMissing
  | some index =>
    let code := (← frame).script.code
    let typeName ← place code.slotTypes index
    let value := (← types).convert (← arg 1) typeName
    if (← frame).verbosity = .full then
      let name ← place code.slotNames index
      say .good (s!"Defined {typeName} variable '{name}' as '" ++ value.toText ++ "'.")
    onFrame (·.setSlot index value)
    return .proceed

/-- `set`, with the places of its slot. -/
def setIndexed : Indexing Flow := do
  let name := Text.lower (← argText 0)
  let site ← (read : Act Site)
  match site.entry.names.lookup name with
  | none => fail (.unknownVariable name)
  | some slot =>
    let op := Text.trim (← argText 1)
    match SetMode.read? op with
    | none => fail (.unknownSetter op)
    | some mode =>
      let f ← frame
      let typeName ← place f.script.code.slotTypes slot
      let current ← place f.slots slot
      let input ← arg 2
      match updated (← types) mode typeName current input with
      | .error e => fail e
      | .ok value =>
        if f.verbosity = .full then say .good (s!"Set variable '{name}' to '" ++ value.toText ++ "'.")
        onFrame (·.setSlot slot value)
        return .proceed

/-- Sets the variable of a loop, looking at its owner. -/
def setLoopVariableIndexed (owner : Nat) (v : Value) : Indexing Unit := do
  let e ← place (← frame).script.code.entries owner
  match e.declares with
  | some slot => onFrame (·.setSlot slot v)
  | none => return

/-- The place where the block of a loop begins, looking at its owner. -/
def loopStartIndexed (owner : Nat) : Indexing Nat := do
  let e ← place (← frame).script.code.entries owner
  match e.instruction.block with
  | some block => return block.start
  | none => failInternal .loopBlockMissing

/-- The next round of a loop, or its end. -/
def nextRoundIndexed (owner : Nat) (next : Option (LoopState × Value)) : Indexing Flow := do
  match next with
  | some (state, value) =>
    onFrame (·.setLoop owner state)
    setLoopVariableIndexed owner value
    jump (← loopStartIndexed owner)
  | none => onFrame (·.endLoop owner)
  return .proceed

/-- `repeat`, with the places of its owner. -/
def repeatIndexed : Indexing Flow := do
  match (← instruction).callbackOf with
  | some owner =>
    nextRoundIndexed owner <|
      match (← frame).loops.lookup owner with
      | some (.count current total) =>
        if current < total then some (.count (current + 1) total, .integer (current + 1)) else none
      | _ => none
  | none =>
    let total ← (expect .integer (← arg 0) Value.asInteger? : Act Int64)
    let index := (← (read : Act Site)).index
    if total ≤ 0 then
      say .good "Repeat count is zero, skipping."
      skipBlock
    else
      onFrame (·.setLoop index (.count 1 total))
      setLoopVariableIndexed index (.integer 1)
    return .proceed

/-- The next item of a list, if there is one. -/
def nextItemIndexed : Option LoopState → Option (Option (LoopState × Value))
  | some (.items index items) =>
    if index + 1 < items.size then do
      let item ← items[index + 1]?
      return some (.items (index + 1) items, item)
    else some none
  | _ => some none

/-- `foreach`, with the places of its owner and its items. -/
def foreachIndexed : Indexing Flow := do
  match (← instruction).callbackOf with
  | some owner => nextRoundIndexed owner (← found (nextItemIndexed ((← frame).loops.lookup owner)))
  | none =>
    let items := (← arg 0).asList
    let index := (← (read : Act Site)).index
    match items with
    | [] => skipBlock
    | first :: _ =>
      onFrame (·.setLoop index (.items 0 items.toArray))
      setLoopVariableIndexed index first
    return .proceed

/-- `goto`, with all entries from its frame on. -/
def gotoIndexed : Indexing Flow := do
  let label := Text.lower (Text.trim (← argText 0))
  let f ← frame
  let entries := f.script.code.entries.toList
  let behind ← found (slice? entries ⟨f.pc, entries.length⟩)
  match behind.findIdx? (isMark label) with
  | none => fail .unknownMark
  | some offset =>
    let after := f.pc + offset + 1
    onFrame fun f => { f with floor := after, pc := after }
    say .good s!"Went to mark '{label}'."
    return .proceed

/-- The block of the instruction as a script of its own, cut out with all places in it. -/
def bodyScriptIndexed (name : String) : Indexing Script := do
  let i ← instruction
  match i.block with
  | none => failInternal (.bodyMissing i.name)
  | some block =>
    let s ← (get : Act Scene)
    let f ← frame
    let row ← found (extractIndexed f.script.instructions block)
    match Script.ofRow s.engine.registries name f.script row with
    | .ok script => return script
    | .error e => fail (.bodyRejected name e)

/-- `function`, with its block cut out. -/
def functionIndexed : Indexing Flow := do
  let name := Text.lower (← argText 0)
  let script ← bodyScriptIndexed name
  (modify fun s => { s with engine := s.engine.registerFunction name script } : Act Unit)
  say .good s!"Function '{name}' defined."
  skipBlock
  return .proceed

/-- `event`, with its block cut out. -/
def eventIndexed : Indexing Flow := do
  let action := Text.lower (← argText 0)
  let event := Text.lower (← argText 1)
  let handler := Text.lower (← argText 2)
  if action = "remove" then
    let s ← (get : Act Scene)
    let (removed, engine) := s.engine.removeHandler event handler
    (modify fun s => { s with engine := engine } : Act Unit)
    if removed then say .good s!"Removed handler '{handler}' from event '{event}'."
    else say .bad s!"Event '{event}' has no handler '{handler}'."
    return .proceed
  let priority ← priorityArg
  let script ← bodyScriptIndexed handler
  let added : Handler := ⟨Text.lower handler, script, priority, true⟩
  (modify fun s => { s with engine := s.engine.registerHandler event added } : Act Unit)
  say .good s!"Added handler '{handler}' to event '{event}' at priority {priority}."
  skipBlock
  return .proceed

end Act

/-- What a command does, with the places that it looks at. -/
def Action.performIndexed : Action → Act.Indexing Flow
  | define => Act.defineIndexed
  | set => Act.setIndexed
  | repeatBlock => Act.repeatIndexed
  | foreach => Act.foreachIndexed
  | goto => Act.gotoIndexed
  | function => Act.functionIndexed
  | event => Act.eventIndexed
  | a => liftM a.perform

namespace Act

/-! ### Commands that look at no places -/

section
variable {script : Script} {site : Site} (fits : script.code.Fits)
  (here : script.code.entries[site.index]? = some site.entry)
include fits here

theorem fair_help : Fair script site help := by
  refine Proper.get.bind fun s _ => Proper.argCount.bind fun n _ => ?_
  split
  · exact (fair_say _ _).bind fun _ _ => Proper.pure trivial
  · refine (fair_argText fits here 0).bind fun text _ => ?_
    dsimp only
    split
    · exact Proper.fail _
    · exact (fair_say _ _).bind fun _ _ => (fair_say _ _).bind fun _ _ => Proper.pure trivial

theorem fair_debug : Fair script site debug := by
  refine (fair_argText fits here 0).bind fun text _ => ?_
  split
  · exact Proper.fail _
  · exact Proper.bind (Proper.onFrame (fun _ => rfl) fun _ => rfl) fun _ _ =>
      (fair_say _ _).bind fun _ _ => Proper.pure trivial

theorem fair_determine : Fair script site determine :=
  (fair_arg fits here 0).bind fun _ _ => (fair_say _ _).bind fun _ _ =>
    Proper.bind (Proper.onFrame (fun _ => rfl) fun _ => rfl) fun _ _ => Proper.pure trivial

theorem fair_ifBlock : Fair script site ifBlock :=
  (fair_booleanArg fits here 0).bind fun taken _ => Proper.read.bind fun _ _ =>
    Proper.bind (Proper.onFrame (fun _ => rfl) fun _ => rfl) fun _ _ => fair_enter taken

/-- An `else` always has the branch before it: it is linked to it where it is laid out. -/
theorem fair_elseBlock (linked : site.entry.instruction.link.isSome = true) : Fair script site elseBlock := by
  refine Proper.instruction.bind fun i hi => ?_
  subst hi
  obtain ⟨link, hl⟩ := Option.isSome_iff_exists.mp linked
  rw [hl]
  refine Proper.frame.bind fun f _ => ?_
  have decided : ∀ taken : Bool, Fair script site (do
      let index := (← read).index
      onFrame (·.setBranch index (f.branchTaken link || taken))
      if !taken then skipBlock
      return Flow.proceed) := fun taken =>
    Proper.read.bind fun _ _ => Proper.bind (Proper.onFrame (fun _ => rfl) fun _ => rfl) fun _ _ => fair_enter taken
  dsimp only
  split
  · exact decided false
  · refine Proper.argCount.bind fun n _ => ?_
    split
    · exact (fair_booleanArg fits here 1).bind fun taken _ => decided taken
    · exact decided true

omit fits here in
theorem fair_markOnce (id : String) (mode : OnceMode) : Fair script site (do
    let (isNew, engine) := (← get).engine.markOnce id
    modify fun s => { s with engine := engine }
    if isNew then
      say .good s!"Once block '{id}' entered."
      return Flow.proceed
    match mode with
    | .error => fail (.onceRepeated id)
    | .warning => say .bad (onceRepeatedMessage id)
    | .quiet => Pure.pure ()
    skipBlock
    return Flow.proceed) := by
  refine Proper.get.bind fun s _ => (Proper.setEngine _).bind fun _ _ => ?_
  dsimp only
  split
  · exact (fair_say _ _).bind fun _ _ => Proper.pure trivial
  · cases mode with
    | error => exact (Proper.fail (Q := fun _ : Unit => True) _).bind fun _ _ => fair_skip
    | warning => exact (fair_say _ _).bind fun _ _ => fair_skip
    | quiet => exact fair_skip

theorem fair_once : Fair script site once := by
  refine (fair_argText fits here 0).bind fun text _ => Proper.argCount.bind fun n _ => ?_
  have marked := @fair_markOnce script site (Text.lower text)
  split
  · refine (fair_argText fits here 1).bind fun word _ => ?_
    split
    · exact marked _
    · exact (Proper.fail (Q := fun _ : OnceMode => True) _).bind fun mode _ => marked mode
  · exact marked .error

omit fits here in
theorem fair_tryBlock : Fair script site tryBlock := by
  refine Proper.instruction.bind fun i _ => ?_
  split
  · refine Proper.frame.bind fun f _ => ?_
    split
    · exact (fair_say _ _).bind fun _ _ => Proper.pure trivial
    · exact Proper.pure trivial
  · exact Proper.read.bind fun _ _ => Proper.bind (Proper.onFrame (fun _ => rfl) fun _ => rfl) fun _ _ =>
      Proper.pure trivial

omit fits here in
theorem fair_catchBlock : Fair script site catchBlock :=
  Proper.frame.bind fun _ _ => Proper.instruction.bind fun _ _ => fair_enter _

theorem fair_wait : Fair script site wait := by
  refine (fair_arg fits here 0).bind fun v _ => (fair_expect _ _ _).bind fun seconds _ =>
    Proper.read.bind fun x _ => ?_
  split
  · exact (fair_say _ _).bind fun _ _ => Proper.pure trivial
  · exact (fair_say _ _).bind fun _ _ => Proper.pure trivial

omit fits here in
theorem fair_findScript (name : String) : Fair script site (findScript name) := by
  refine (Proper.onEngine (Engine.proper_findScript? name)).bind fun found _ => ?_
  split
  · exact Proper.pure trivial
  · exact Proper.fail _

theorem fair_call : Fair script site call := by
  have called : Fair script site (do
      let script ← findScript (← argText 0)
      let vars ← namedVars
      say .good s!"Calling '{script.name}'."
      return Flow.enter script vars) :=
    (fair_argText fits here 0).bind fun _ _ => (fair_findScript _).bind fun _ _ =>
      (fair_namedVars fits here).bind fun _ _ => (fair_say _ _).bind fun _ _ => Proper.pure trivial
  refine Proper.read.bind fun x _ => ?_
  split
  · exact (Proper.fail (Q := fun _ : Unit => True) _).bind fun _ _ => called
  · exact called

theorem fair_launch : Fair script site launch :=
  (fair_argText fits here 0).bind fun _ _ => (fair_findScript _).bind fun _ _ =>
    (fair_namedVars fits here).bind fun _ _ => (fair_say _ _).bind fun _ _ =>
      Proper.instruction.bind fun _ _ => Proper.pure trivial

theorem fair_priorityArg : Fair script site priorityArg := by
  refine Proper.argCount.bind fun n _ => ?_
  split
  · exact Proper.pure trivial
  · refine (fair_arg fits here 3).bind fun value _ => ?_
    split
    · exact Proper.fail _
    · split
      · exact Proper.pure trivial
      · exact Proper.fail _

end

/-! ### Commands that do -/

/-- Something written with its places, with any result. -/
abbrev Sure (script : Script) (site : Site) (x : Indexing α) (y : Act α) : Prop :=
  Guarded script site (fun _ => True) x y

section
variable {script : Script} (source : script.FromSource) {site : Site}
  (here : script.code.entries[site.index]? = some site.entry)

theorem sure_proceed : Sure script site (pure Flow.proceed) (pure Flow.proceed) :=
  .pure trivial

theorem sure_skip : Sure script site (do
    skipBlock
    return Flow.proceed) (do
    skipBlock
    return Flow.proceed) :=
  .first fair_skipBlock fun _ _ => sure_proceed

theorem sure_store (slot : Nat) (v : Value) : Sure script site (do
    onFrame (·.setSlot slot v)
    return Flow.proceed) (do
    onFrame (·.setSlot slot v)
    return Flow.proceed) :=
  .first (.setSlot slot v) fun _ _ => sure_proceed

include source here

/-- A slot that `define` gives a value is one of the script. -/
theorem sure_define (name : site.entry.instruction.name = "define") : Sure script site defineIndexed define := by
  have entry := source.fits.entries _ (entry_mem here)
  obtain ⟨c, hc, action⟩ := source.ordered.action here name (a := .define) rfl
  have owner := source.ordered.callbackOf_eq_none here (by rw [name]; decide)
  obtain ⟨index, hi⟩ := Option.isSome_iff_exists.mp (entry.defines c hc action owner)
  have lt := entry.declares index hi
  have slot : script.code.slots[index]? = some script.code.slots[index] := Array.getElem?_eq_getElem lt
  refine .first Proper.read fun x hx => ?_
  subst x
  rw [hi]
  refine .first Proper.frame fun f hf => ?_
  dsimp only
  rw [hf.1, slot]
  refine .at_ (a := script.code.slots[index].typeName) (by rw [Code.slotTypes, Array.getElem?_map, slot]; rfl) ?_
  refine .first Proper.types fun t _ => .first (fair_arg source.fits here 1) fun v _ => ?_
  refine .first Proper.frame fun g _ => ?_
  dsimp only [Option.getD_some]
  split
  · refine .at_ (a := script.code.slots[index].name) (by rw [Code.slotNames, Array.getElem?_map, slot]; rfl) ?_
    exact .first (fair_say _ _) fun _ _ => sure_store index _
  · exact sure_store index _

/-- A slot that `set` finds a variable in is one of the script, and of its frame. -/
theorem sure_set : Sure script site setIndexed set := by
  have entry := source.fits.entries _ (entry_mem here)
  refine .first (fair_argText source.fits here 0) fun text _ => .first Proper.read fun x hx => ?_
  subst x
  dsimp only
  cases hs : site.entry.names.lookup (Text.lower text) with
  | none => exact .fail _
  | some slot =>
    have lt := entry.names _ (mem_of_lookup hs)
    refine .first (fair_argText source.fits here 1) fun op _ => ?_
    cases SetMode.read? (Text.trim op) with
    | none => exact .fail _
    | some mode =>
      refine .first Proper.frame fun f hf => ?_
      obtain ⟨own, known⟩ : ∃ v, f.script.code.slots[slot]? = some v :=
        ⟨_, Array.getElem?_eq_getElem (hf.1.symm ▸ lt)⟩
      obtain ⟨current, held⟩ : ∃ v, f.slots[slot]? = some v := ⟨_, Array.getElem?_eq_getElem (hf.2 ▸ lt)⟩
      rw [known]
      refine .at_ (a := own.typeName) (by rw [Code.slotTypes, Array.getElem?_map, known]; rfl)
        (.at_ held ?_)
      refine .first (fair_arg source.fits here 2) fun input _ => .first Proper.types fun t _ => ?_
      rw [held]
      dsimp only [Option.map_some, Option.getD_some]
      cases updated t mode own.typeName current input with
      | error e => exact .fail _
      | ok value =>
        dsimp only
        split
        · exact .first (fair_say _ _) fun _ _ => sure_store slot _
        · exact sure_store slot _

end

/-! ### Loops -/

section
variable {script : Script} {site : Site} {owner : Nat} {o : Entry} (own : script.code.entries[owner]? = some o)
include own

theorem sure_setLoopVariable (v : Value) :
    Sure script site (setLoopVariableIndexed owner v) (setLoopVariable owner v) := by
  refine .first Proper.frame fun f hf => ?_
  have found : f.script.code.entries[owner]? = some o := hf.1 ▸ own
  refine .at_ found ?_
  rw [found, Option.bind_some]
  cases o.declares with
  | some slot => exact .lift (.setSlot slot v)
  | none => exact .pure trivial

theorem sure_loopStart {b : Span} (block : o.instruction.block = some b) :
    Sure script site (loopStartIndexed owner) (loopStart owner) := by
  refine .first Proper.frame fun f hf => ?_
  have found : f.script.code.entries[owner]? = some o := hf.1 ▸ own
  refine .at_ found ?_
  rw [found, Option.bind_some, block]
  exact .pure trivial

theorem sure_nextRound {b : Span} (block : o.instruction.block = some b) (next : Option (LoopState × Value)) :
    Sure script site (nextRoundIndexed owner next) (nextRound owner next) := by
  unfold nextRoundIndexed nextRound
  cases next with
  | none => exact .first (.onFrame (fun _ => rfl) fun _ => rfl) fun _ _ => sure_proceed
  | some round =>
    obtain ⟨state, v⟩ := round
    refine .first (.onFrame (fun _ => rfl) fun _ => rfl) fun _ _ => (sure_setLoopVariable own v).bind fun _ _ => ?_
    exact (sure_loopStart own block).bind fun start _ => .first (fair_jump start) fun _ _ => sure_proceed

end

/-- The next item of a list is looked at only where there is one. -/
theorem nextItemIndexed_eq (state : Option LoopState) : nextItemIndexed state = some (match state with
    | some (.items index items) => (items[index + 1]?).map fun item => (.items (index + 1) items, item)
    | _ => none) := by
  unfold nextItemIndexed
  split
  · rename_i index items
    split
    · rename_i lt
      rw [Array.getElem?_eq_getElem lt]
      rfl
    · rename_i beyond
      rw [Array.getElem?_eq_none (Nat.le_of_not_lt beyond)]
      rfl
  · rfl

section
variable {script : Script} {site : Site}

/-- Goes on after a mark among the entries behind a frame, if there is one. -/
theorem sure_goMark (f : Frame) (behind : List Entry) (label : String) : Sure script site
    (match behind.findIdx? (isMark label) with
      | none => (fail .unknownMark : Act (Option Flow))
      | some offset => (do
        onFrame fun g => { g with floor := f.pc + offset + 1, pc := f.pc + offset + 1 }
        say .good s!"Went to mark '{label}'."
        return .proceed : Indexing Flow))
    (match behind.findIdx? (isMark label) with
      | none => fail .unknownMark
      | some offset => do
        onFrame fun g => { g with floor := f.pc + offset + 1, pc := f.pc + offset + 1 }
        say .good s!"Went to mark '{label}'."
        return .proceed) := by
  cases behind.findIdx? (isMark label) with
  | none => exact .fail _
  | some offset =>
    exact .first (.onFrame (fun _ => rfl) fun _ => rfl) fun _ _ => .first (fair_say _ _) fun _ _ => sure_proceed

/-- What is done first at a scene, leaves it as it is, and looks at no place. -/
theorem same_first {y : Act α} {k : α → Indexing β} {l : α → Act β} {s : Scene} {r : Except Failure α}
    (still : y.on site s = (r, s))
    (hk : ∀ a, r = .ok a → (k a).run.on site s = (((l a).on site s).1.map some, ((l a).on site s).2)) :
    (liftM y >>= k : Indexing β).run.on site s = (((y >>= l).on site s).1.map some, ((y >>= l).on site s).2) := by
  rw [on_bindIndexing, on_bind, on_liftIndexing, on_bind, still]
  cases r with
  | error f => rfl
  | ok a => exact hk a rfl

variable (source : script.FromSource) (here : script.code.entries[site.index]? = some site.entry)
include here

/-- A loop begins at its owner, which is the instruction itself. -/
theorem sure_begin (state : LoopState) (v : Value) : Sure script site (do
    onFrame (·.setLoop site.index state)
    setLoopVariableIndexed site.index v
    return Flow.proceed) (do
    onFrame (·.setLoop site.index state)
    setLoopVariable site.index v
    return Flow.proceed) :=
  .first (.onFrame (fun _ => rfl) fun _ => rfl) fun _ _ => (sure_setLoopVariable here v).bind fun _ _ => sure_proceed

include source

/-- The owner of the block that an instruction ends is there, and has the block. -/
theorem owner_at {owner : Nat} (ends : site.entry.instruction.callbackOf = some owner) :
    ∃ o b, script.code.entries[owner]? = some o ∧ o.instruction.block = some b := by
  obtain ⟨o, b, own, -, block, -⟩ := source.ordered.owner here ends
  exact ⟨o, b, own, block⟩

theorem sure_repeat : Sure script site repeatIndexed repeatBlock := by
  refine .first Proper.instruction fun i hi => ?_
  subst hi
  cases ends : site.entry.instruction.callbackOf with
  | some owner =>
    obtain ⟨o, b, own, block⟩ := owner_at source here ends
    exact .first Proper.frame fun f _ => sure_nextRound own block _
  | none =>
    refine .first (fair_arg source.fits here 0) fun v _ => .first (fair_expect _ _ _) fun total _ => ?_
    refine .first Proper.read fun x hx => ?_
    subst x
    dsimp only
    split
    · exact .first (fair_say _ _) fun _ _ => sure_skip
    · exact sure_begin here _ _

theorem sure_foreach : Sure script site foreachIndexed foreach := by
  refine .first Proper.instruction fun i hi => ?_
  subst hi
  cases ends : site.entry.instruction.callbackOf with
  | some owner =>
    obtain ⟨o, b, own, block⟩ := owner_at source here ends
    exact .first Proper.frame fun f _ => .finds (nextItemIndexed_eq _) (sure_nextRound own block _)
  | none =>
    refine .first (fair_arg source.fits here 0) fun v _ => .first Proper.read fun x hx => ?_
    subst x
    dsimp only
    cases v.asList with
    | nil => exact sure_skip
    | cons first rest => exact sure_begin here _ _

/-! ### Marks and blocks -/

theorem fair_goto : Fair script site goto :=
  (fair_argText source.fits here 0).bind fun _ _ => Proper.frame.bind fun f _ => (sure_goMark f _ _).proper

omit source here in
/-- `goto` looks at the entries behind it, which begin where the script ends at the latest. -/
theorem goto_same {s : Scene} (hs : s.Of script) (pc : s.frame.pc ≤ script.code.entries.size) :
    gotoIndexed.run.on site s = ((goto.on site s).1.map some, (goto.on site s).2) := by
  refine same_first (on_argText 0 site s) fun text _ => same_first (on_frame site s) fun f hf => ?_
  cases hf
  have behind : slice? s.frame.script.code.entries.toList ⟨s.frame.pc, s.frame.script.code.entries.toList.length⟩ =
      some (s.frame.script.code.entries.toList.drop s.frame.pc) := by
    rw [slice?, if_pos ⟨by rw [hs.same]; exact pc, Nat.le_refl _⟩, List.take_length]
  exact (Guarded.finds behind (sure_goMark s.frame _ _)).same s hs

/-- A block that is cut out lies in its script, and so do the places in it. -/
theorem sure_bodyScript (given : site.entry.instruction.block.isSome = true ∨
    site.entry.instruction.name = "event") (name : String) :
    Sure script site (bodyScriptIndexed name) (bodyScript name) := by
  refine .first Proper.instruction fun i hi => ?_
  subst hi
  cases block : site.entry.instruction.block with
  | none =>
    have own : site.entry.instruction.name = "event" := given.resolve_left (by rw [block]; exact Bool.false_ne_true)
    refine ⟨.throw (congrArg InternalFault.bodyMissing own), fun _ _ => rfl⟩
  | some b =>
    refine .first Proper.get fun s _ => .first Proper.frame fun f hf => ?_
    have cut : extractIndexed f.script.instructions b = some (extractBlock f.script.instructions b) := by
      rw [hf.1]
      exact source.ordered.laid.extractIndexed_eq (at_zero.mp (Code.Ordered.at_entry here)) block
    refine .finds cut ?_
    have made : Script.ofRow s.engine.registries name f.script (extractBlock f.script.instructions b) =
      Script.ofBlock s.engine.registries name f.script b := rfl
    rw [made]
    cases Script.ofBlock s.engine.registries name f.script b with
    | ok script => exact .pure trivial
    | error e => exact .fail _

theorem sure_function (name : site.entry.instruction.name = "function") :
    Sure script site functionIndexed function := by
  have owner : site.entry.instruction.callbackOf = none :=
    source.ordered.callbackOf_eq_none here (by rw [name]; decide)
  obtain ⟨c, hc, required⟩ : ∃ c, CommandRegistry.builtin.get? site.entry.instruction.name = some c ∧
      c.signature.block = .required := by
    rw [name]
    exact ⟨_, rfl, rfl⟩
  have given := source.blocksGiven _ (List.mem_map_of_mem (entry_mem here)) owner c hc required
  refine .first (fair_argText source.fits here 0) fun text _ => ?_
  refine (sure_bodyScript source here (Or.inl given) _).bind fun body _ => ?_
  exact .first (.setEngine _) fun _ _ => .first (fair_say _ _) fun _ _ => sure_skip

theorem sure_event (name : site.entry.instruction.name = "event") : Sure script site eventIndexed event := by
  refine .first (fair_argText source.fits here 0) fun action _ => .first (fair_argText source.fits here 1)
    fun event _ => .first (fair_argText source.fits here 2) fun handler _ => ?_
  dsimp only
  split
  · refine .first Proper.get fun s _ => .first (.setEngine _) fun _ _ => ?_
    split
    · exact .first (fair_say _ _) fun _ _ => sure_proceed
    · exact .first (fair_say _ _) fun _ _ => sure_proceed
  · refine .first (fair_priorityArg source.fits here) fun priority _ => ?_
    refine (sure_bodyScript source here (Or.inr name) _).bind fun body _ => ?_
    exact .first (.setEngine _) fun _ _ => .first (fair_say _ _) fun _ _ => sure_skip

end

/-- An `else` is linked to the branch before it where it is laid out. -/
theorem linked_of_else {script : Script} (source : script.FromSource) {site : Site}
    (here : script.code.entries[site.index]? = some site.entry) (name : site.entry.instruction.name = "else") :
    site.entry.instruction.link.isSome = true :=
  (source.ordered.laid.wellLaid.linked (at_zero.mp (Code.Ordered.at_entry here))).mpr (Or.inl name)

end Act

section
variable {script : Script} (source : script.FromSource) {site : Site}
  (here : script.code.entries[site.index]? = some site.entry)
include source here

/-- No command comes to a fault of the engine, but for an `event` without a block. -/
theorem Action.fair {a : Action} (ha : a.name? = some site.entry.instruction.name) :
    Act.Fair script site a.perform := by
  have fits := source.fits
  have name : ∀ {word : String}, a.name? = some word → site.entry.instruction.name = word := fun hw =>
    Option.some.inj (ha.symm.trans hw)
  cases a with
  | echo =>
    exact (Act.fair_argWords fits here).bind fun _ _ => (Act.fair_say _ _).bind fun _ _ => Act.Proper.pure trivial
  | help => exact Act.fair_help fits here
  | noop => exact Act.Proper.pure trivial
  | debug => exact Act.fair_debug fits here
  | define => exact (Act.sure_define source here (name rfl)).proper
  | set => exact (Act.sure_set source here).proper
  | determine => exact Act.fair_determine fits here
  | error => exact (Act.fair_argWords fits here).bind fun _ _ => Act.Proper.fail _
  | stop => exact (Act.fair_say _ _).bind fun _ _ => Act.Proper.pure trivial
  | compileError => exact (Act.fair_argText fits here 0).bind fun _ _ => Act.Proper.fail _
  | ifBlock => exact Act.fair_ifBlock fits here
  | elseBlock => exact Act.fair_elseBlock fits here (Act.linked_of_else source here (name rfl))
  | repeatBlock => exact (Act.sure_repeat source here).proper
  | foreach => exact (Act.sure_foreach source here).proper
  | once => exact Act.fair_once fits here
  | goto => exact Act.fair_goto source here
  | mark => exact Act.Proper.pure trivial
  | tryBlock => exact Act.fair_tryBlock
  | catchBlock => exact Act.fair_catchBlock
  | wait => exact Act.fair_wait fits here
  | function => exact (Act.sure_function source here (name rfl)).proper
  | call => exact Act.fair_call fits here
  | run => exact Act.fair_launch fits here
  | event => exact (Act.sure_event source here (name rfl)).proper
  | custom _ => cases ha

/-- No command looks beyond the end of an array, at a scene of its script whose frame stands in it. -/
theorem Action.performIndexed_eq {a : Action} (ha : a.name? = some site.entry.instruction.name) {s : Scene}
    (hs : s.Of script) (pc : s.frame.pc ≤ script.code.entries.size) :
    a.performIndexed.run.on site s = ((a.perform.on site s).1.map some, (a.perform.on site s).2) := by
  have name : ∀ {word : String}, a.name? = some word → site.entry.instruction.name = word := fun hw =>
    Option.some.inj (ha.symm.trans hw)
  cases a with
  | define => exact (Act.sure_define source here (name rfl)).same s hs
  | set => exact (Act.sure_set source here).same s hs
  | repeatBlock => exact (Act.sure_repeat source here).same s hs
  | foreach => exact (Act.sure_foreach source here).same s hs
  | goto => exact Act.goto_same hs pc
  | function => exact (Act.sure_function source here (name rfl)).same s hs
  | event => exact (Act.sure_event source here (name rfl)).same s hs
  | _ => exact Act.on_liftIndexing _ site s

end

end CommandScript
