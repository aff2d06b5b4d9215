import Mathlib.Logic.Function.Basic
import CommandScript.Proofs.Branches.Blocks

/-! The way of control through code, with its gotos, loops and caught errors, and the marks that branches and tries
    leave on it. In one pass through a chain of branches one block is run at most, and a `catch` is entered only behind
    an error in the block of its `try`, unless a `goto` has led into a block. -/

namespace CommandScript

/-! ### Steps of control -/

/-- Where an instruction leads. -/
inductive Code.Leads (code : Code) (index : Nat) (e : Entry) : (next : Nat) → Prop
  /-- On to the next instruction. -/
  | on : Leads code index e (index + 1)
  /-- Over its block, or over the instruction for the end of it as well. -/
  | past {next : Nat} (place : next = (code.block index).stop ∨ next = (code.block index).stop + 1 ∧
      ∃ a, code.entries[(code.block index).stop]? = some a ∧ a.instruction.callbackOf = some index) :
    Leads code index e next
  /-- Back into the block of a loop. -/
  | back {owner : Nat} (callbackOf : e.instruction.callbackOf = some owner)
    (name : e.instruction.name = "repeat" ∨ e.instruction.name = "foreach") :
    Leads code index e (code.block owner).start
  /-- Behind a mark further on. -/
  | goto {next : Nat} (name : e.instruction.name = "goto") (lt : index + 1 < next)
    (mark : code.name? (next - 1) = some "mark") : Leads code index e next

section
variable {code : Code} (h : code.Ordered) {index next : Nat} {e : Entry} (here : code.entries[index]? = some e)
  (leads : code.Leads index e next)
include h here leads

/-- A block that no loop owns is entered from its owner, or by a `goto`. -/
theorem Code.Leads.eq_owner (other : e.instruction.name ≠ "goto") {owner : Nat}
    (noLoop : code.name? owner ≠ some "repeat" ∧ code.name? owner ≠ some "foreach")
    (outside : ¬code.Inside owner index) (inside : code.Inside owner next) : index = owner := by
  by_contra ne
  rw [h.inside_iff] at outside inside
  cases leads with
  | on => omega
  | past place =>
    have := (h.block_bounds index).2
    -- The block of the instruction would have to end inside the block, which begins behind the instruction.
    have lt : index < owner := by omega
    by_cases within : owner < (code.block index).stop
    · have := h.stop_le (h.inside_iff.mpr ⟨lt, within⟩)
      omega
    · rcases place with rfl | ⟨rfl, a, ha, hc⟩
      · omega
      · obtain ⟨o, ho, hs⟩ := Code.Ordered.exists_of_inside (h.inside_iff.mpr inside)
        have atOwner : owner = (code.block index).stop := by omega
        rw [← atOwner, ho] at ha
        cases ha
        rw [(h.block ho hs).2.2.2] at hc
        cases hc
  | @back loop hc name =>
    have stop := h.stop_eq_of_callbackOf here hc
    rw [(h.block_bounds loop).1] at inside
    by_cases same : loop = owner
    · subst same
      obtain ⟨o, ho, same⟩ := h.owner_name here hc
      rw [Code.name?_eq ho, same] at noLoop
      rcases name with name | name <;> simp [name] at noLoop
    · have := h.inside_iff.mp (h.inside_end (h.inside_iff.mpr ⟨(by omega : owner < loop), by omega⟩) here hc)
      omega
  | goto name => exact other name

/-- From the inside of a block control goes on inside, or where the block stops, or by a `goto`. -/
theorem Code.Leads.of_inside {owner : Nat} (inside : code.Inside owner index) :
    (owner < next ∧ next ≤ (code.block owner).stop) ∨
      e.instruction.name = "goto" ∧ index + 1 < next ∧ code.name? (next - 1) = some "mark" := by
  have bounds := h.inside_iff.mp inside
  cases leads with
  | on => exact Or.inl (by omega)
  | past place =>
    have := (h.block_bounds index).2
    have := h.stop_le inside
    rcases place with rfl | ⟨rfl, a, ha, hc⟩
    · exact Or.inl (by omega)
    · have := h.inside_iff.mp (h.inside_end inside ha hc)
      exact Or.inl (by omega)
  | @back loop hc _ =>
    have stop := h.stop_eq_of_callbackOf here hc
    have loopBounds := h.block_bounds loop
    -- A loop that begins before the block has the whole block inside, with the end of the loop behind it.
    have begins : owner ≤ loop := by
      by_contra lt
      have := h.stop_le (h.inside_iff.mpr ⟨Nat.lt_of_not_le lt, (by omega : owner < (code.block loop).stop)⟩)
      omega
    exact Or.inl (by omega)
  | goto name lt mark => exact Or.inr ⟨name, lt, mark⟩

end

/-- What happens to the control of a frame. -/
inductive Passage
  /-- The instruction at `index` runs, and leaves the frame at `next`, perhaps with an error. -/
  | ran (index next : Nat) (failing : Bool)
  /-- An error that has come up at `index` goes on at `next`, where the block of a `try` ends. -/
  | caught (index next : Nat)
deriving DecidableEq, Repr

/-- Where a frame stands, the branches that it has marked as taken, and whether its instruction has come to an error. -/
structure Control where
  pc : Nat
  taken : Nat → Bool
  failing : Bool

/-- An instruction runs. An `if` or `else` enters its block with its mark set, and no mark of the branch before, or goes
    on behind its block with the mark of that; a `try` takes its mark off, and a `catch` enters its block with the mark
    of its `try` only. -/
structure Control.Runs (code : Code) (c : Control) (e : Entry) (d : Control) : Prop where
  here : code.entries[c.pc]? = some e
  leads : code.Leads c.pc e d.pc
  fails : d.failing = true → d.pc = c.pc + 1 ∨
    e.instruction.name = "goto" ∧ c.pc + 1 < d.pc ∧ code.name? (d.pc - 1) = some "mark"
  others : ∀ owner, owner ≠ c.pc → d.taken owner = c.taken owner
  branch : e.instruction.name = "if" ∨ e.instruction.name = "else" → d.failing = false →
    (d.pc = c.pc + 1 ∧ d.taken c.pc = true ∧ ∀ before, e.instruction.link = some before → c.taken before = false) ∨
      d.pc = (code.block c.pc).stop ∧ ∀ before, e.instruction.link = some before → d.taken c.pc = c.taken before
  attempt : e.instruction.name = "try" → e.instruction.callbackOf = none → d.taken c.pc = false
  handler : e.instruction.name = "catch" → code.Inside c.pc d.pc →
    ∃ before, e.instruction.link = some before ∧ c.taken before = true

/-- One step of control. -/
inductive Control.Step (code : Code) : Control → Passage → Control → Prop
  | ran {c d : Control} {e : Entry} (ready : c.failing = false) (runs : c.Runs code e d) :
    Step code c (.ran c.pc d.pc d.failing) d
  | caught {c : Control} {owner : Nat} (attempt : code.name? owner = some "try")
    (inside : code.Inside owner (c.pc - 1)) :
    Step code c (.caught (c.pc - 1) (code.block owner).stop)
      ⟨(code.block owner).stop, Function.update c.taken owner true, false⟩

/-- Steps of control in a row. -/
inductive Control.Path (code : Code) : Control → List Passage → Control → Prop
  | nil (c : Control) : Path code c [] c
  | cons {c d d' : Control} {p : Passage} {rest : List Passage} (step : c.Step code p d)
    (more : Path code d rest d') :
    Path code c (p :: rest) d'

namespace Control.Path

variable {code : Code} {c d d' : Control} {front back : List Passage}

theorem append (h : Path code c front d) (h' : Path code d back d') : Path code c (front ++ back) d' := by
  induction h with
  | nil => exact h'
  | cons step _ ih => exact .cons step (ih h')

theorem exists_of_append (h : Path code c (front ++ back) d') : ∃ d, Path code c front d ∧ Path code d back d' := by
  induction front generalizing c with
  | nil => exact ⟨c, .nil c, h⟩
  | cons p rest ih =>
    cases h with
    | cons step more =>
      obtain ⟨d, first, second⟩ := ih more
      exact ⟨d, .cons step first, second⟩

end Control.Path

/-! ### Caught errors -/

/-- Control falls into the block of `owner`: it comes into it from outside, and not by a `goto`. -/
def Passage.FallsInto (code : Code) (owner : Nat) : Passage → Prop
  | .ran index next _ => ¬code.Inside owner index ∧ code.Inside owner next ∧ code.name? index ≠ some "goto"
  | .caught _ _ => False

section
variable {code : Code} (h : code.Ordered) {owner : Nat} {o : Entry} (ho : code.entries[owner]? = some o)
  (name : o.instruction.name = "try") (command : o.instruction.callbackOf = none)
include h ho name command

theorem Control.Step.attempt {c d : Control} {p : Passage} (step : c.Step code p d) (taken : d.taken owner = true) :
    c.taken owner = true ∧ ¬p.FallsInto code owner ∨
      ∃ index, p = .caught index (code.block owner).stop ∧ code.Inside owner index := by
  cases step with
  | ran _ runs =>
    by_cases atOwner : c.pc = owner
    · subst atOwner
      have he := runs.here
      rw [ho] at he
      cases he
      rw [runs.attempt name command] at taken
      cases taken
    · rw [runs.others owner (Ne.symm atOwner)] at taken
      refine Or.inl ⟨taken, fun ⟨outside, inside, other⟩ => atOwner ?_⟩
      rw [Code.name?_eq runs.here, ne_eq, Option.some.injEq] at other
      exact runs.leads.eq_owner h runs.here other (by simp [Code.name?_eq ho, name]) outside inside
  | @caught owner' _ inside =>
    by_cases same : owner' = owner
    · subst same
      exact Or.inr ⟨_, rfl, inside⟩
    · dsimp only at taken
      rw [Function.update_of_ne (Ne.symm same)] at taken
      exact Or.inl ⟨taken, id⟩

/-- The mark of a `try` is set by an error that it has caught since control last fell into its block. -/
theorem Control.Path.attempt {c d : Control} {passages : List Passage} (path : Path code c passages d)
    (taken : d.taken owner = true) :
    c.taken owner = true ∧ (∀ p ∈ passages, ¬p.FallsInto code owner) ∨
      ∃ before index after, passages = before ++ .caught index (code.block owner).stop :: after ∧
        code.Inside owner index ∧ ∀ p ∈ after, ¬p.FallsInto code owner := by
  induction path with
  | nil => exact Or.inl ⟨taken, fun _ hp => absurd hp List.not_mem_nil⟩
  | cons step _ ih =>
    rcases ih taken with ⟨set, clear⟩ | ⟨before, index, after, rfl, inside, clear⟩
    · rcases step.attempt h ho name command set with ⟨set, first⟩ | ⟨index, rfl, inside⟩
      · exact Or.inl ⟨set, List.forall_mem_cons.mpr ⟨first, clear⟩⟩
      · exact Or.inr ⟨[], index, _, rfl, inside, clear⟩
    · exact Or.inr ⟨_ :: before, index, after, rfl, inside, clear⟩

end

/-! ### Passes through chains -/

/-- A passage stays in a chain: it runs a branch or what is in a block, or goes on in a block. -/
def Passage.Within (code : Code) (heads : List Nat) : Passage → Prop
  | .ran index _ _ => index ∈ heads ∨ ∃ head ∈ heads, code.Inside head index
  | .caught _ next => ∃ head ∈ heads, code.Inside head next

/-- A passage is no `goto` into the block of a branch from outside. -/
def Passage.Orderly (code : Code) (heads : List Nat) : Passage → Prop
  | .ran index next _ => code.name? index = some "goto" → ∀ head ∈ heads, code.Inside head (next - 1) →
      code.Inside head index
  | .caught _ _ => True

instance (code : Code) (heads : List Nat) : ∀ p : Passage, Decidable (p.Within code heads)
  | .ran _ _ _ => inferInstanceAs (Decidable (_ ∨ _))
  | .caught _ _ => inferInstanceAs (Decidable (∃ _, _))

instance (code : Code) (heads : List Nat) : ∀ p : Passage, Decidable (p.Orderly code heads)
  | .ran _ _ _ => inferInstanceAs (Decidable (_ → _))
  | .caught _ _ => inferInstanceAs (Decidable True)

/-- A passage runs what is in the block of `head`. -/
def Passage.RunsIn (code : Code) (head : Nat) : Passage → Prop
  | .ran index _ _ => code.Inside head index
  | .caught _ _ => False

/-- Some passages in a row through a chain of branches. -/
structure Code.Pass (code : Code) (heads : List Nat) (pass : List Passage) : Prop where
  within : ∀ p ∈ pass, p.Within code heads
  orderly : ∀ p ∈ pass, p.Orderly code heads

/-- A chain is entered at one of its branches, or in the last of its blocks. -/
def Code.EnteredAt (code : Code) (heads : List Nat) (index : Nat) : Prop :=
  index ∈ heads ∨ ∃ head ∈ heads, code.Inside head index ∧ ∀ other ∈ heads, code.link? other ≠ some head

/-- Where an instruction has come to an error, or where the next one stands. -/
def Control.place (c : Control) : Nat :=
  if c.failing then c.pc - 1 else c.pc

/-- What some passages run of the blocks of a chain is in the block of `head`. -/
def Code.RunsOnly (code : Code) (heads : List Nat) (passages : List Passage) (head : Nat) : Prop :=
  ∀ p ∈ passages, ∀ other ∈ heads, p.RunsIn code other → other = head

theorem Code.RunsOnly.concat {code : Code} {heads : List Nat} {passages : List Passage} {head : Nat}
    (only : code.RunsOnly heads passages head) {p : Passage}
    (last : ∀ other ∈ heads, p.RunsIn code other → other = head) : code.RunsOnly heads (passages ++ [p]) head :=
  List.forall_mem_append.mpr ⟨only, by simpa using last⟩

section
variable {code : Code} {heads : List Nat} (chain : code.Chain heads) (h : code.Ordered) {c d : Control} {e : Entry}
include chain

theorem Code.Chain.name_ne {head : Nat} (hh : head ∈ heads) :
    code.name? head ≠ some "mark" ∧ code.name? head ≠ some "try" := by
  rcases chain.branch head hh with name | name <;> simp [name]

include h

/-- From the inside of a block control comes into no other block of the chain, and to no branch but the next. -/
theorem Control.Runs.stays (runs : c.Runs code e d) {head : Nat} (hh : head ∈ heads) (inside : code.Inside head c.pc)
    (orderly : (Passage.ran c.pc d.pc d.failing).Orderly code heads) :
    (∀ other ∈ heads, code.Inside other d.place → other = head) ∧
      (d.failing = false → d.pc ∈ heads → code.link? d.pc = some head) := by
  have bounds := h.inside_iff.mp inside
  have behind : e.instruction.name = "goto" → ∀ other ∈ heads, code.Inside other (d.pc - 1) → other = head :=
    fun goto other ho hin => chain.inside_unique h ho hh
      (orderly (by rw [Code.name?_eq runs.here, goto]) other ho hin) inside
  cases failing : d.failing with
  | true =>
    have place : d.place = d.pc - 1 := by rw [Control.place, failing, if_pos rfl]
    refine ⟨fun other ho hin => ?_, fun ready' => absurd ready' (by decide)⟩
    rw [place] at hin
    rcases runs.fails failing with pc | ⟨goto, -⟩
    · rw [pc, Nat.add_sub_cancel] at hin
      exact chain.inside_unique h ho hh hin inside
    · exact behind goto other ho hin
  | false =>
    have place : d.place = d.pc := by rw [Control.place, failing, if_neg Bool.false_ne_true]
    rw [place]
    rcases runs.leads.of_inside h runs.here inside with ⟨lo, hi⟩ | ⟨goto, lt, mark⟩
    · by_cases stop : d.pc = (code.block head).stop
      · rw [stop]
        exact ⟨fun other ho hin => absurd hin (chain.not_inside_stop h hh ho),
          fun _ next => chain.link_of_stop h hh next rfl⟩
      · have hin : code.Inside head d.pc := h.inside_iff.mpr (by omega)
        exact ⟨fun other ho hin' => chain.inside_unique h ho hh hin' hin,
          fun _ next => absurd hin (chain.not_inside h hh next)⟩
    · -- The mark itself is no branch, so what stands behind it in a block has it in the block.
      have before : ∀ other ∈ heads, other < d.pc → d.pc ≤ (code.block other).stop → other = head :=
        fun other ho lt le => by
          have ne : other ≠ d.pc - 1 := fun heq => (chain.name_ne ho).1 (by rw [heq, mark])
          exact behind goto other ho (h.inside_iff.mpr (by omega))
      refine ⟨fun other ho hin => ?_, fun _ next => ?_⟩
      · have := h.inside_iff.mp hin
        exact before other ho this.1 (by omega)
      · obtain ⟨previous, hp, hl, stop⟩ := chain.exists_before h hh next (by omega)
        have := (h.block_bounds previous).2
        rw [← before previous hp (by omega) (by omega)]
        exact hl

theorem Code.Chain.inside_of_caught {owner : Nat} (attempt : code.name? owner = some "try")
    (inside : code.Inside owner (c.pc - 1)) {head : Nat} (hh : head ∈ heads)
    (within : code.Inside head (code.block owner).stop) : head ≠ owner ∧ code.Inside head c.place := by
  have ne : head ≠ owner := fun heq => (chain.name_ne hh).2 (by rw [heq, attempt])
  have bounds := h.inside_iff.mp inside
  have bounds' := h.inside_iff.mp within
  -- The `try` begins in the block, for otherwise its own block would go beyond it.
  have lt : head < owner := by
    by_contra le
    have := h.stop_le (h.inside_iff.mpr (by omega : owner < head ∧ head < (code.block owner).stop))
    omega
  refine ⟨ne, ?_⟩
  rw [h.inside_iff]
  unfold Control.place
  split <;> omega

end

/-! ### Passes that begin at a branch -/

/-- What some passages through a chain have run, and what is marked. In a block nothing has been run but what is in it,
    and the branch behind it will find the mark of the block. A branch that comes after some of a block finds the mark
    of the branch before it. -/
structure Control.Settled (code : Code) (heads : List Nat) (passages : List Passage) (c : Control) : Prop where
  inside : ∀ head ∈ heads, code.Inside head c.place → code.RunsOnly heads passages head ∧
    ∀ other ∈ heads, code.link? other = some head → c.taken head = true
  atBranch : c.failing = false → c.pc ∈ heads → ∀ p ∈ passages, ∀ other ∈ heads, p.RunsIn code other →
    ∃ before, code.link? c.pc = some before ∧ c.taken before = true
  once : ∃ head, code.RunsOnly heads passages head

section
variable {code : Code} {heads : List Nat} (chain : code.Chain heads) (h : code.Ordered) {c d : Control}
  {passages : List Passage}
include chain h

theorem Control.settled_nil (ready : c.failing = false) (entered : code.EnteredAt heads c.pc) :
    c.Settled code heads [] where
  inside head hh hin := by
    rw [Control.place, ready, if_neg Bool.false_ne_true] at hin
    refine ⟨fun _ hp => absurd hp List.not_mem_nil, fun other ho hl => ?_⟩
    rcases entered with atBranch | ⟨last, hlast, hin', clear⟩
    · exact absurd hin (chain.not_inside h hh atBranch)
    · cases chain.inside_unique h hh hlast hin hin'
      exact absurd hl (clear other ho)
  atBranch _ _ _ hp := absurd hp List.not_mem_nil
  once := ⟨0, fun _ hp => absurd hp List.not_mem_nil⟩

variable (settled : c.Settled code heads passages) {e : Entry}
include settled

/-- A branch enters its block if nothing has been run before, and hands a mark on otherwise. -/
theorem Control.Settled.branch (ready : c.failing = false) (runs : c.Runs code e d) (atBranch : c.pc ∈ heads) :
    d.Settled code heads (passages ++ [.ran c.pc d.pc d.failing]) := by
  have name := chain.branch c.pc atBranch
  rw [Code.name?_eq runs.here, Option.some.injEq, Option.some.injEq] at name
  have idle : ∀ other ∈ heads, ¬(Passage.ran c.pc d.pc d.failing).RunsIn code other := fun other ho =>
    chain.not_inside h ho atBranch
  have marked := settled.atBranch ready atBranch
  have once : ∃ head, code.RunsOnly heads (passages ++ [.ran c.pc d.pc d.failing]) head := by
    obtain ⟨head, only⟩ := settled.once
    exact ⟨head, only.concat fun other ho hr => absurd hr (idle other ho)⟩
  cases failing : d.failing with
  | true =>
    rw [failing] at once
    have place : d.place = c.pc := by
      rcases runs.fails failing with pc | ⟨goto, -⟩
      · rw [Control.place, failing, if_pos rfl, pc, Nat.add_sub_cancel]
      · rcases name with name | name <;> simp [name] at goto
    refine ⟨fun head hh hin => ?_, fun ready' => absurd (failing.symm.trans ready') (by decide), once⟩
    rw [place] at hin
    exact absurd hin (chain.not_inside h hh atBranch)
  | false =>
    rw [failing] at idle once
    have place : d.place = d.pc := by rw [Control.place, failing, if_neg Bool.false_ne_true]
    rcases runs.branch name failing with ⟨pc, taken, unmarked⟩ | ⟨pc, handed⟩
    · -- No mark has been found, so nothing has been run.
      have none : ∀ p ∈ passages ++ [.ran c.pc d.pc false], ∀ other ∈ heads, ¬p.RunsIn code other := by
        refine List.forall_mem_append.mpr ⟨fun p hp other ho hr => ?_, by simpa using idle⟩
        obtain ⟨before, hl, hm⟩ := marked p hp other ho hr
        rw [Code.link?_eq runs.here] at hl
        rw [unmarked before hl] at hm
        cases hm
      refine ⟨fun head hh hin => ?_, fun _ _ p hp other ho hr => absurd hr (none p hp other ho), once⟩
      rw [place, pc] at hin
      have same : head = c.pc := by
        by_contra ne
        have bounds := h.inside_iff.mp hin
        exact chain.not_inside h hh atBranch (h.inside_iff.mpr (by omega))
      subst same
      exact ⟨fun p hp other ho hr => absurd hr (none p hp other ho), fun _ _ _ => taken⟩
    · refine ⟨fun head hh hin => ?_, fun _ next p hp other ho hr => ?_, once⟩
      · rw [place, pc] at hin
        exact absurd hin (chain.not_inside_stop h atBranch hh)
      · rcases List.mem_append.mp hp with hp | hp
        · obtain ⟨before, hl, hm⟩ := marked p hp other ho hr
          rw [Code.link?_eq runs.here] at hl
          exact ⟨c.pc, chain.link_of_stop h atBranch next pc.symm, (handed before hl).trans hm⟩
        · rw [List.mem_singleton.mp hp] at hr
          exact absurd hr (idle other ho)

theorem Control.Settled.inBlock (ready : c.failing = false) (runs : c.Runs code e d) {head : Nat} (hh : head ∈ heads)
    (inside : code.Inside head c.pc) (orderly : (Passage.ran c.pc d.pc d.failing).Orderly code heads) :
    d.Settled code heads (passages ++ [.ran c.pc d.pc d.failing]) := by
  have bounds := h.inside_iff.mp inside
  have place : c.place = c.pc := by rw [Control.place, ready, if_neg Bool.false_ne_true]
  obtain ⟨only, marked⟩ := settled.inside head hh (by rwa [place])
  have only := only.concat (p := .ran c.pc d.pc d.failing) fun other ho hr => chain.inside_unique h ho hh hr inside
  have taken : d.taken head = c.taken head := runs.others head (by omega)
  obtain ⟨stays, leaves⟩ := runs.stays chain h hh inside orderly
  refine ⟨fun other ho hin => ?_, fun ready' next p hp other ho hr => ?_, head, only⟩
  · cases stays other ho hin
    exact ⟨only, fun other ho hl => taken.trans (marked other ho hl)⟩
  · have hl := leaves ready' next
    exact ⟨head, hl, taken.trans (marked d.pc next hl)⟩

theorem Control.Settled.caught {owner : Nat} (attempt : code.name? owner = some "try")
    (inside : code.Inside owner (c.pc - 1)) {head : Nat} (hh : head ∈ heads)
    (within : code.Inside head (code.block owner).stop) :
    Control.Settled code heads (passages ++ [.caught (c.pc - 1) (code.block owner).stop])
      ⟨(code.block owner).stop, Function.update c.taken owner true, false⟩ := by
  obtain ⟨ne, hin⟩ := chain.inside_of_caught h attempt inside hh within
  obtain ⟨only, marked⟩ := settled.inside head hh hin
  have only := only.concat (p := .caught (c.pc - 1) (code.block owner).stop) fun _ _ hr => absurd hr id
  refine ⟨fun other ho hin => ?_, fun _ next => absurd within (chain.not_inside h hh next), head, only⟩
  cases chain.inside_unique h ho hh hin within
  exact ⟨only, fun other ho hl => (Function.update_of_ne ne true c.taken).trans (marked other ho hl)⟩

theorem Control.Settled.step {p : Passage} (step : c.Step code p d) (within : p.Within code heads)
    (orderly : p.Orderly code heads) : d.Settled code heads (passages ++ [p]) := by
  cases step with
  | ran ready runs =>
    rcases within with atBranch | ⟨head, hh, inside⟩
    · exact settled.branch chain h ready runs atBranch
    · exact settled.inBlock chain h ready runs hh inside orderly
  | caught attempt inside =>
    obtain ⟨head, hh, within⟩ := within
    exact settled.caught chain h attempt inside hh within

theorem Control.Settled.path {more : List Passage} (path : Path code c more d) (pass : code.Pass heads more) :
    d.Settled code heads (passages ++ more) := by
  induction path generalizing passages with
  | nil => rwa [List.append_nil]
  | @cons c d _ p rest step _ ih =>
    obtain ⟨within, more⟩ := List.forall_mem_cons.mp pass.within
    obtain ⟨orderly, more'⟩ := List.forall_mem_cons.mp pass.orderly
    have next := ih (settled.step chain h step within orderly) ⟨more, more'⟩
    rwa [List.append_assoc] at next

end

/-! ### All passes -/

section
variable {code : Code} {heads : List Nat} (chain : code.Chain heads) (h : code.Ordered) {c d : Control}
  {pass : List Passage}
include chain h

/-- In a pass that begins at a branch, or in the last block, at most one block is run. -/
theorem Control.Path.runs_once {index next : Nat} {failing : Bool} {rest : List Passage}
    (path : Path code c (.ran index next failing :: rest) d)
    (hpass : code.Pass heads (.ran index next failing :: rest))
    (entered : code.EnteredAt heads index) : ∃ head, code.RunsOnly heads (.ran index next failing :: rest) head := by
  have start : c.failing = false ∧ c.pc = index := by
    cases path with
    | cons step =>
      cases step with
      | ran ready => exact ⟨ready, rfl⟩
  rw [← start.2] at entered
  exact ((Control.settled_nil chain h start.1 entered).path chain h path hpass).once

/-- A pass runs what is in one block first, up to where it comes to a branch. -/
theorem Control.Path.first_block (path : Path code c pass d) (hpass : code.Pass heads pass) {first : Nat}
    (inFirst : ∀ other ∈ heads, code.Inside other c.place → other = first) :
    ∃ inner outer, pass = inner ++ outer ∧ code.RunsOnly heads inner first ∧
      (outer = [] ∨ ∃ index next failing rest, outer = .ran index next failing :: rest ∧ index ∈ heads) := by
  induction path with
  | nil => exact ⟨[], [], rfl, fun _ hp => absurd hp List.not_mem_nil, Or.inl rfl⟩
  | @cons c d _ p rest step _ ih =>
    obtain ⟨within, more⟩ := List.forall_mem_cons.mp hpass.within
    obtain ⟨orderly, more'⟩ := List.forall_mem_cons.mp hpass.orderly
    -- What is run in the block, or caught in it, leads on in the block.
    have goesOn : (∀ other ∈ heads, code.Inside other d.place → other = first) →
        (∀ other ∈ heads, p.RunsIn code other → other = first) → ∃ inner outer, p :: rest = inner ++ outer ∧
          code.RunsOnly heads inner first ∧
            (outer = [] ∨ ∃ index next failing rest, outer = .ran index next failing :: rest ∧ index ∈ heads) :=
      fun stays runs => by
        obtain ⟨inner, outer, rfl, only, begins⟩ := ih ⟨more, more'⟩ stays
        exact ⟨p :: inner, outer, rfl, List.forall_mem_cons.mpr ⟨runs, only⟩, begins⟩
    cases step with
    | ran ready runs =>
      have place : c.place = c.pc := by rw [Control.place, ready, if_neg Bool.false_ne_true]
      rw [place] at inFirst
      rcases within with atBranch | ⟨head, hh, inside⟩
      · exact ⟨[], _, rfl, fun _ hp => absurd hp List.not_mem_nil, Or.inr ⟨_, _, _, rest, rfl, atBranch⟩⟩
      · cases inFirst head hh inside
        exact goesOn (runs.stays chain h hh inside orderly).1 inFirst
    | caught attempt inside =>
      obtain ⟨head, hh, within⟩ := within
      cases inFirst head hh (chain.inside_of_caught h attempt inside hh within).2
      exact goesOn (fun other ho hin => chain.inside_unique h ho hh hin within) fun _ _ hr => absurd hr id

/-- Wherever a pass begins, at most one block is run besides the one that it begins in. -/
theorem Control.Path.runs_one_more (path : Path code c pass d) (hpass : code.Pass heads pass) :
    ∃ first head, ∀ p ∈ pass, ∀ other ∈ heads, p.RunsIn code other → other = first ∨ other = head := by
  obtain ⟨first, inFirst⟩ : ∃ first, ∀ other ∈ heads, code.Inside other c.place → other = first := by
    by_cases inside : ∃ head ∈ heads, code.Inside head c.place
    · obtain ⟨head, hh, inside⟩ := inside
      exact ⟨head, fun other ho hin => chain.inside_unique h ho hh hin inside⟩
    · exact ⟨0, fun other ho hin => absurd ⟨other, ho, hin⟩ inside⟩
  obtain ⟨inner, outer, rfl, only, begins⟩ := path.first_block chain h hpass inFirst
  obtain ⟨d', -, later⟩ := path.exists_of_append
  obtain ⟨-, within⟩ := List.forall_mem_append.mp hpass.within
  obtain ⟨-, orderly⟩ := List.forall_mem_append.mp hpass.orderly
  obtain ⟨head, only'⟩ : ∃ head, code.RunsOnly heads outer head := by
    rcases begins with rfl | ⟨index, next, failing, rest, rfl, atBranch⟩
    · exact ⟨0, fun _ hp => absurd hp List.not_mem_nil⟩
    · exact later.runs_once chain h ⟨within, orderly⟩ (Or.inl atBranch)
  refine ⟨first, head, List.forall_mem_append.mpr ⟨fun p hp other ho hr => ?_, fun p hp other ho hr => ?_⟩⟩
  · exact Or.inl (only p hp other ho hr)
  · exact Or.inr (only' p hp other ho hr)

end

end CommandScript
