import CommandScript.Proofs.Machine.Effects

/-! The ways a command moves its frame. It goes on to the next instruction, passes over a block, begins, goes on with or
    ends a loop, or goes to a mark. Every command of every engine does one of these, and starts other scripts only
    where `call` and `run` stand. -/

namespace CommandScript

/-! ### Loops -/

/-- How far a loop can have come: a count lies between one and its last number, and a list has an item at its index. -/
def LoopState.Valid : LoopState → Prop
  | .count current total => 1 ≤ current ∧ current ≤ total
  | .items index list => index < list.size

theorem toInt_add_one {a b : Int64} (h : a < b) : (a + 1).toInt = a.toInt + 1 := by
  have below := a.le_toInt
  have above := b.toInt_lt
  rw [Int64.lt_iff_toInt_lt] at h
  rw [Int64.toInt_add, Int64.toInt_one, Int.bmod_eq_of_le (by omega) (by omega)]

theorem LoopState.Valid.next {state state' : LoopState} {v : Value} (h : state.Valid)
    (next : state.next? = some (state', v)) : state'.Valid := by
  cases state with
  | count current total =>
    rw [next?] at next
    split at next <;> cases next
    rename_i hlt
    obtain ⟨hone, -⟩ := h
    have sum := toInt_add_one hlt
    rw [Int64.lt_iff_toInt_lt] at hlt
    rw [Int64.le_iff_toInt_le, Int64.toInt_one] at hone
    constructor
    · rw [Int64.le_iff_toInt_le, Int64.toInt_one, sum]
      omega
    · rw [Int64.le_iff_toInt_le, sum]
      omega
  | items index list =>
    obtain ⟨item, hitem, heq⟩ := Option.map_eq_some_iff.mp next
    cases heq
    exact (Array.getElem?_eq_some_iff.mp hitem).1

/-! ### Moves -/

/-- The place behind the block of an instruction, and behind the instruction for its end. -/
def Frame.Passes (f : Frame) (index : Nat) (b : Span) (place : Nat) : Prop :=
  place = b.stop ∨ place = b.stop + 1 ∧ ∃ e, f.script.code.entries[b.stop]? = some e ∧
    e.instruction.callbackOf = some index

/-- How the command of an instruction at a place moves its frame from `f` to `g`, and what it comes to. -/
inductive Frame.Moves {ε : Type} (index : Nat) (entry : Entry) (f g : Frame) : Except ε Flow → Prop
  /-- On to the next instruction. -/
  | stay {r : Except ε Flow} (pc : g.pc = f.pc) (floor : g.floor = f.floor) (loops : g.loops = f.loops) :
    Moves index entry f g r
  /-- Over its block, and over the instruction for the end of it. -/
  | skip {b : Span} (block : entry.instruction.block = some b) (pc : b.stop ≤ g.pc)
    (le : g.pc ≤ f.script.code.entries.size) (floor : g.floor = f.floor) (loops : g.loops = f.loops)
    (place : f.Passes index b g.pc) : Moves index entry f g (.ok .proceed)
  /-- Into the first round of a loop. -/
  | begin {state : LoopState} (valid : state.Valid) (pc : g.pc = f.pc) (floor : g.floor = f.floor)
    (loops : g.loops = setKey index state f.loops) : Moves index entry f g (.ok .proceed)
  /-- Back to where the block of a loop begins, for its next round. -/
  | back {owner : Nat} {o : Entry} {b : Span} {state state' : LoopState} {v : Value}
    (callbackOf : entry.instruction.callbackOf = some owner) (here : f.script.code.entries[owner]? = some o)
    (block : o.instruction.block = some b) (running : f.loops.lookup owner = some state)
    (next : state.next? = some (state', v)) (free : f.floor ≤ b.start) (pc : g.pc = b.start)
    (floor : g.floor = f.floor) (loops : g.loops = setKey owner state' f.loops)
    (name : entry.instruction.name = "repeat" ∨ entry.instruction.name = "foreach") :
    Moves index entry f g (.ok .proceed)
  /-- Not back, where the block of a loop is discarded. -/
  | stuck {failure : ε} {owner : Nat} {state state' : LoopState} {v : Value}
    (callbackOf : entry.instruction.callbackOf = some owner) (running : f.loops.lookup owner = some state)
    (next : state.next? = some (state', v)) (pc : g.pc = f.pc) (floor : g.floor = f.floor)
    (loops : g.loops = setKey owner state' f.loops) : Moves index entry f g (.error failure)
  /-- On from the end of a loop. -/
  | ended {owner : Nat} (callbackOf : entry.instruction.callbackOf = some owner) (pc : g.pc = f.pc)
    (floor : g.floor = f.floor) (loops : g.loops = eraseKey owner f.loops) : Moves index entry f g (.ok .proceed)
  /-- Behind a mark, with everything up to it discarded. The message about that may still break off. -/
  | goto {r : Except ε Flow} {mark : Entry} (own : entry.instruction.name = "goto")
    (here : f.script.code.entries[g.pc - 1]? = some mark) (name : mark.instruction.name = "mark") (lt : f.pc < g.pc)
    (floor : g.floor = g.pc) (loops : g.loops = f.loops) (proceeds : ∀ flow, r = .ok flow → flow = .proceed) :
    Moves index entry f g r

/-- How a queue may go on after a command. A script gets a frame of its own from `call`, below the greatest depth
    only, and a queue of its own from `run`. No command waits for a gate of the host, or ends its frame early. -/
def Flow.Fits (P : Script → Prop) (a : Action) (depth : Nat) : Flow → Prop
  | .enter script _ => a = .call ∧ depth < maxCallDepth ∧ P script
  | .launch script _ _ => a = .run ∧ P script
  | .await _ | .completeFrame => False
  | _ => True

/-- What the command of an instruction does to a scene. -/
structure Effect (P : Script → Prop) (a : Action) (site : Site) (s : Scene) (r : Except Failure Flow) (t : Scene) :
    Prop where
  script : t.frame.script = s.frame.script
  slots : t.frame.slots.size = s.frame.slots.size
  moves : s.frame.Moves site.index site.entry t.frame r
  others : ∀ owner, owner ≠ site.index → t.frame.branchTaken owner = s.frame.branchTaken owner
  gives : t.engine.Gives P
  aside : s.engine.Aside P t.engine
  flow : ∀ flow, r = .ok flow → flow.Fits P a site.depth

/-- The frame of a scene has just passed the instruction of a site, in a script that is laid out in order. -/
structure Site.Ready (P : Script → Prop) (site : Site) (s : Scene) : Prop where
  entry : s.frame.script.code.entries[site.index]? = some site.entry
  pc : s.frame.pc = site.index + 1
  floor : s.frame.floor ≤ site.index
  ordered : s.frame.script.code.Ordered
  script : P s.frame.script
  gives : s.engine.Gives P

theorem Site.Ready.keeps {P : Script → Prop} {site : Site} {s t : Scene} (h : site.Ready P s) (k : s.Keeps P t) :
    site.Ready P t where
  entry := by rw [k.script]; exact h.entry
  pc := k.pc.trans h.pc
  floor := Nat.le_trans (Nat.le_of_eq k.floor) h.floor
  ordered := by rw [k.script]; exact h.ordered
  script := by rw [k.script]; exact h.script
  gives := k.gives h.gives

theorem Frame.Moves.after {ε : Type} {index : Nat} {entry : Entry} {f f' g : Frame} {r : Except ε Flow}
    (h : f'.Moves index entry g r) (script : f'.script = f.script) (pc : f'.pc = f.pc) (floor : f'.floor = f.floor)
    (loops : f'.loops = f.loops) : f.Moves index entry g r := by
  cases h with
  | stay p fl l => exact .stay (p.trans pc) (fl.trans floor) (l.trans loops)
  | skip block p le fl l place =>
    refine .skip block p (script ▸ le) (fl.trans floor) (l.trans loops) ?_
    unfold Frame.Passes at place ⊢
    rwa [script] at place
  | begin valid p fl l => exact .begin valid (p.trans pc) (fl.trans floor) (loops ▸ l)
  | back callbackOf here block running next free p fl l name =>
    exact .back callbackOf (script ▸ here) block (loops ▸ running) next (floor ▸ free) p (fl.trans floor) (loops ▸ l)
      name
  | stuck callbackOf running next p fl l =>
    exact .stuck callbackOf (loops ▸ running) next (p.trans pc) (fl.trans floor) (loops ▸ l)
  | ended callbackOf p fl l => exact .ended callbackOf (p.trans pc) (fl.trans floor) (loops ▸ l)
  | goto own here name lt fl l proceeds => exact .goto own (script ▸ here) name (pc ▸ lt) fl (l.trans loops) proceeds

theorem Frame.Moves.mapError {ε ε' : Type} {index : Nat} {entry : Entry} {f g : Frame} {r : Except ε Flow}
    (h : f.Moves index entry g r) (change : ε → ε') : f.Moves index entry g (r.mapError change) := by
  cases h with
  | stay p fl l => exact .stay p fl l
  | skip block p le fl l place => exact .skip block p le fl l place
  | begin valid p fl l => exact .begin valid p fl l
  | back callbackOf here block running next free p fl l name =>
    exact .back callbackOf here block running next free p fl l name
  | stuck callbackOf running next p fl l => exact .stuck callbackOf running next p fl l
  | ended callbackOf p fl l => exact .ended callbackOf p fl l
  | goto own here name lt fl l proceeds =>
    refine .goto own here name lt fl l fun flow h => ?_
    cases r with
    | error _ => cases h
    | ok _ =>
      cases h
      exact proceeds _ rfl

/-- What a command does after it has left its frame at its place for a while. -/
theorem Effect.after {P : Script → Prop} {a : Action} {site : Site} {s s' t : Scene} {r : Except Failure Flow}
    (h : Effect P a site s' r t) (k : s.Keeps P s') : Effect P a site s r t where
  script := h.script.trans k.script
  slots := h.slots.trans k.slots
  moves := h.moves.after k.script k.pc k.floor k.loops
  others owner ho := (h.others owner ho).trans (by rw [Frame.branchTaken, Frame.branchTaken, k.branches])
  gives := h.gives
  aside := k.aside.trans h.aside
  flow := h.flow

namespace Act

/-- What a command does has one of the effects that commands have. -/
def Does (P : Script → Prop) (a : Action) (site : Site) (s : Scene) (k : Act Flow) : Prop :=
  Effect P a site s (k.on site s).1 (k.on site s).2

section
variable {P : Script → Prop} {a : Action} {site : Site} {s : Scene} (ready : site.Ready P s)
include ready

/-! ### Parts of commands -/

theorem Does.of_keeps {k : Act Flow} (keeps : s.Keeps P (k.on site s).2)
    (flow : ∀ flow, (k.on site s).1 = .ok flow → flow.Fits P a site.depth) : Does P a site s k where
  script := keeps.script
  slots := keeps.slots
  moves := .stay keeps.pc keeps.floor keeps.loops
  others owner _ := by rw [Frame.branchTaken, Frame.branchTaken, keeps.branches]
  gives := keeps.gives ready.gives
  aside := keeps.aside
  flow := flow

/-- A steady beginning of a command. If it succeeds, the command goes on with its result. -/
theorem Does.bind {x : Act α} {k : α → Act Flow} (hx : x.Steady P)
    (hk : ∀ v t, x.on site s = (.ok v, t) → site.Ready P t → Does P a site t (k v)) : Does P a site s (x >>= k) := by
  have first := hx site s
  unfold Does
  rw [on_bind]
  generalize hr : x.on site s = r at first
  obtain ⟨failure | v, t⟩ := r
  · exact ⟨first.script, first.slots, .stay first.pc first.floor first.loops,
      fun owner _ => (by rw [Frame.branchTaken, Frame.branchTaken, first.branches]), first.gives ready.gives,
      first.aside, fun _ h => (by cases h)⟩
  · exact (hk v t hr (ready.keeps first)).after first

/-- The command marks its own place, and goes on. -/
theorem Does.mark {taken : Bool} {k : Act Flow}
    (h : ∀ t : Scene, site.Ready P t → Does P a site t k) : Does P a site s (do
      onFrame (·.setBranch site.index taken)
      k) := by
  have marked : site.Ready P { s with frame := s.frame.setBranch site.index taken } :=
    ⟨ready.entry, ready.pc, ready.floor, ready.ordered, ready.script, ready.gives⟩
  have done := h _ marked
  unfold Does
  rw [on_bind, on_onFrame]
  refine ⟨done.script, done.slots, done.moves.after rfl rfl rfl rfl, fun owner ho => ?_, done.gives, done.aside,
    done.flow⟩
  rw [done.others owner ho, Frame.branchTaken, Frame.branchTaken, Frame.setBranch, lookup_setKey_ne ho]

theorem Does.after {k : Act Flow} {t : Scene} (keeps : s.Keeps P t) (h : site.Ready P t → Does P a site t k) :
    Effect P a site s (k.on site t).1 (k.on site t).2 :=
  Effect.after (h (ready.keeps keeps)) keeps

theorem does_pure {flow : Flow} (fits : flow.Fits P a site.depth) : Does P a site s (pure flow) :=
  Does.of_keeps ready (.refl s) fun _ h => (by cases h; exact fits)

theorem does_fail (f : RuntimeFault) : Does P a site s (fail f) :=
  Does.of_keeps ready (.refl s) fun _ h => (by cases h)

theorem does_failInternal (f : InternalFault) : Does P a site s (failInternal f) :=
  Does.of_keeps ready (.refl s) fun _ h => (by cases h)

/-- A command of steady parts that only lets the queue go on. -/
theorem does_plain {k : Act Flow} (steady : k.Steady P) (plain : k.Plain) : Does P a site s k := by
  refine Does.of_keeps ready (steady site s) fun flow h => ?_
  have on : k.on site s = (.ok flow, (k.on site s).2) := Prod.ext h rfl
  cases plain.proceeds on
  exact trivial

omit ready in
/-- Passing over a block never fails, if nothing behind the instruction is discarded. -/
theorem on_skipBlock_ordered {s : Scene} (here : s.frame.script.code.entries[site.index]? = some site.entry)
    (ordered : s.frame.script.code.Ordered) (floor : s.frame.floor ≤ site.index) :
    ∃ pc, skipBlock.on site s = (.ok (), { s with frame := { s.frame with pc := pc } }) ∧
      (site.entry.instruction.block = none ∧ pc = s.frame.pc ∨ ∃ b, site.entry.instruction.block = some b ∧
        b.stop ≤ pc ∧ pc ≤ s.frame.script.code.entries.size ∧ s.frame.Passes site.index b pc) := by
  cases block : site.entry.instruction.block with
  | none =>
    refine ⟨s.frame.pc, ?_, Or.inl ⟨rfl, rfl⟩⟩
    rw [skipBlock, on_bind, on_instruction]
    dsimp only
    rw [block]
    rfl
  | some b =>
    obtain ⟨hstart, hle, hsize, -⟩ := ordered.block here block
    by_cases atEnd : ∃ e, s.frame.script.code.entries[b.stop]? = some e ∧ e.instruction.callbackOf = some site.index
    · obtain ⟨e, he, ho⟩ := atEnd
      exact ⟨b.stop + 1, on_skipBlock_end site block he ho (by omega),
        Or.inr ⟨b, rfl, Nat.le_succ _, Code.Ordered.lt_size he, Or.inr ⟨rfl, e, he, ho⟩⟩⟩
    · exact ⟨b.stop, on_skipBlock site block (fun e he ho => atEnd ⟨e, he, ho⟩) (by omega),
        Or.inr ⟨b, rfl, Nat.le_refl _, hsize, Or.inl rfl⟩⟩

theorem does_skip : Does P a site s (do skipBlock; return .proceed) := by
  obtain ⟨pc, hskip, hpc⟩ := on_skipBlock_ordered ready.entry ready.ordered ready.floor
  unfold Does
  rw [on_bind, hskip]
  refine ⟨rfl, rfl, ?_, fun _ _ => rfl, ready.gives, .refl _, fun _ h => (by cases h; trivial)⟩
  rcases hpc with ⟨-, rfl⟩ | ⟨b, block, hstop, hsize, place⟩
  · exact .stay rfl rfl rfl
  · exact .skip block hstop hsize rfl rfl place

/-- A block that is entered or passed over. -/
theorem does_enter (taken : Bool) : Does P a site s (do
    if !taken then skipBlock
    return .proceed) := by
  cases taken with
  | false => exact does_skip ready
  | true => exact does_pure ready trivial

/-- The first round of a loop. -/
theorem does_begin {state : LoopState} (valid : state.Valid) (v : Value) : Does P a site s (do
    onFrame (·.setLoop site.index state)
    setLoopVariable site.index v
    return .proceed) := by
  unfold Does
  rw [on_bind, on_onFrame]
  dsimp only
  rw [on_bind, on_setLoopVariable (s := ⟨s.engine, s.frame.setLoop site.index state⟩) ready.entry]
  refine ⟨Frame.script_assign _ _ _, ?_, ?_, fun _ _ => ?_, ready.gives, .refl _, fun _ h => (by cases h; trivial)⟩
  · cases site.entry.declares with
    | none => rfl
    | some slot => exact Array.size_setIfInBounds
  · cases site.entry.declares <;> exact .begin valid rfl rfl rfl
  · cases site.entry.declares <;> rfl

/-- The end of the block of a loop. -/
theorem does_nextRound (name : site.entry.instruction.name = "repeat" ∨ site.entry.instruction.name = "foreach")
    {owner : Nat} (ho : site.entry.instruction.callbackOf = some owner)
    {next : Option (LoopState × Value)} (running : ∀ state' v, next = some (state', v) →
      ∃ state, s.frame.loops.lookup owner = some state ∧ state.next? = some (state', v)) :
    Does P a site s (nextRound owner next) := by
  unfold Does
  cases next with
  | none =>
    exact ⟨rfl, rfl, .ended ho rfl rfl rfl, fun _ _ => rfl, ready.gives, .refl _, fun _ h => (by cases h; trivial)⟩
  | some next =>
    obtain ⟨state', v⟩ := next
    obtain ⟨state, hstate, hnext⟩ := running state' v rfl
    obtain ⟨o, b, here, -, block, -, -, -⟩ := ready.ordered.owner ready.entry ho
    have slots : ((s.frame.setLoop owner state').assign o.declares v).slots.size = s.frame.slots.size := by
      cases o.declares with
      | none => rfl
      | some slot => exact Array.size_setIfInBounds
    by_cases free : s.frame.floor ≤ b.start
    · rw [on_nextRound here block free]
      refine ⟨Frame.script_assign _ _ _, slots, ?_, fun _ _ => ?_, ready.gives, .refl _,
        fun _ h => (by cases h; trivial)⟩
      · cases o.declares <;> exact .back ho here block hstate hnext free rfl rfl rfl name
      · cases o.declares <;> rfl
    · have floor := Frame.floor_assign (s.frame.setLoop owner state') o.declares v
      have jumps : ((s.frame.setLoop owner state').assign o.declares v).jump? b.start = none := by
        rw [Frame.jump?, if_pos (Nat.lt_of_lt_of_eq (Nat.not_le.mp free) floor.symm)]
      rw [on_nextRound_jump here block, on_bind, jump, on_bind, on_frame]
      dsimp only
      rw [jumps]
      refine ⟨Frame.script_assign _ _ _, slots, ?_, fun _ _ => ?_, ready.gives, .refl _, fun _ h => (by cases h)⟩
      · cases o.declares <;> exact .stuck ho hstate hnext rfl rfl rfl
      · cases o.declares <;> rfl

end

end Act

end CommandScript
