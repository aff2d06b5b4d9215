import Mathlib.Data.DFinsupp.WellFounded
import Mathlib.Logic.Relation
import Mathlib.Order.WithBot
import CommandScript.Proofs.Machine.Reachable

/-! Scripts without `run` come to rest. A frame that goes on uses up rounds of loops, or instructions that it has not
    passed before; what an inner loop can still do counts for less than what the loops around it can. A stack goes on
    above a frame only as long as there is room, and that frame is further when it goes on itself. -/

namespace CommandScript

/-! ### Loops -/

/-- How many rounds a loop can still begin. -/
def LoopState.roundsLeft : LoopState → Nat
  | .count current total => (total.toInt - current.toInt).toNat
  | .items index list => list.size - 1 - index

theorem LoopState.roundsLeft_next {state state' : LoopState} {v : Value} (next : state.next? = some (state', v)) :
    state'.roundsLeft < state.roundsLeft := by
  cases state with
  | count current total =>
    rw [next?] at next
    split at next <;> cases next
    rename_i hlt
    have sum := toInt_add_one hlt
    rw [Int64.lt_iff_toInt_lt] at hlt
    show (total.toInt - (current + 1).toInt).toNat < (total.toInt - current.toInt).toNat
    omega
  | items index list =>
    obtain ⟨item, hitem, heq⟩ := Option.map_eq_some_iff.mp next
    cases heq
    have inside : index + 1 < list.size := (Array.getElem?_eq_some_iff.mp hitem).1
    show list.size - 1 - (index + 1) < list.size - 1 - index
    omega

theorem lookup_eraseKey_self [BEq κ] [LawfulBEq κ] (key : κ) (pairs : List (κ × α)) :
    (eraseKey key pairs).lookup key = none := by
  rw [List.lookup_eq_none_iff]
  intro pair hpair
  have other := (List.mem_filter.mp hpair).2
  rw [Bool.not_eq_true', Bool.beq_comm] at other
  rw [bne, other]
  rfl

/-! ### Frames -/

namespace Frame

variable {f g k : Frame}

/-- How many rounds the loop of an owner can still begin. -/
def roundsLeft (f : Frame) (owner : Nat) : Nat :=
  ((f.loops.lookup owner).map (·.roundsLeft)).getD 0

/-- The end of the block of an instruction. -/
def blockStop? (f : Frame) (place : Nat) : Option Nat :=
  f.script.code.entries[place]?.bind fun e => e.instruction.block.map (·.stop)

/-- How much is left to do in the block of a place that was passed: the rounds of its loop, as long as the frame is in
    the block. -/
def left (f : Frame) (place : Nat) : Nat :=
  if (f.blockStop? place).any (f.pc ≤ ·) then f.roundsLeft place + 1 else 0

/-- How much is left to do at a place. That is not known before the place is passed. -/
def rank (f : Frame) (place : Nat) : WithTop Nat :=
  if f.pc ≤ place then ⊤ else WithTop.some (f.left place)

theorem rank_ahead {place : Nat} (h : f.pc ≤ place) : f.rank place = ⊤ :=
  if_pos h

theorem rank_passed {place : Nat} (h : place < f.pc) : f.rank place = WithTop.some (f.left place) :=
  if_neg (Nat.not_le.mpr h)

theorem left_inside {place stop : Nat} (block : f.blockStop? place = some stop) (inside : f.pc ≤ stop) :
    f.left place = f.roundsLeft place + 1 := by
  rw [left, block, Option.any_some, if_pos (decide_eq_true inside)]

/-- What is left in a block is no more, if the frame is in the block only where it has been before. -/
theorem left_le {place : Nat} (rounds : g.roundsLeft place ≤ f.roundsLeft place)
    (inside : ∀ stop, g.blockStop? place = some stop → g.pc ≤ stop → f.blockStop? place = some stop ∧ f.pc ≤ stop) :
    g.left place ≤ f.left place := by
  by_cases h : (g.blockStop? place).any (g.pc ≤ ·) = true
  · obtain ⟨stop, block, hstop⟩ := (Option.any_eq_true _ _).mp h
    have hstop : g.pc ≤ stop := of_decide_eq_true hstop
    obtain ⟨block', hstop'⟩ := inside stop block hstop
    rw [left_inside block hstop, left_inside block' hstop']
    exact Nat.succ_le_succ rounds
  · rw [left, if_neg h]
    exact Nat.zero_le _

theorem blockStop?_of_script (script : g.script = f.script) (place : Nat) :
    g.blockStop? place = f.blockStop? place := by
  rw [blockStop?, blockStop?, script]

/-- A frame at a later place has no more left to do. -/
theorem rank_le (script : g.script = f.script) (le : f.pc ≤ g.pc) {place : Nat}
    (rounds : g.roundsLeft place ≤ f.roundsLeft place) : g.rank place ≤ f.rank place := by
  rcases Nat.lt_or_ge place f.pc with passed | ahead
  · rw [rank_passed passed, rank_passed (Nat.lt_of_lt_of_le passed le)]
    exact WithTop.coe_le_coe.mpr (left_le rounds fun stop block inside =>
      ⟨blockStop?_of_script script place ▸ block, Nat.le_trans le inside⟩)
  · rw [rank_ahead ahead]
    exact le_top

/-- A frame has less left to do at some place, and at the places before no more. -/
def Further (f g : Frame) : Prop :=
  g.script = f.script ∧ ∃ place < f.script.code.entries.size, (∀ p < place, g.rank p ≤ f.rank p) ∧
    g.rank place < f.rank place

/-- No frame goes further and further. -/
theorem acc_further (f : Frame) : Acc (fun g f : Frame => f.Further g) f := by
  let size := f.script.code.entries.size
  let ranks : Frame → Lex (Fin size → WithTop Nat) := fun f => toLex fun place => f.rank place
  have wf : WellFounded fun g f : Frame => ranks g < ranks f := InvImage.wf ranks wellFounded_lt
  suffices same : ∀ g : Frame, g.script = f.script → Acc (fun g f : Frame => f.Further g) g from same f rfl
  intro g
  induction g using wf.induction with
  | _ g ih =>
    intro script
    refine ⟨g, fun k ⟨hscript, place, hlt, hle, hrank⟩ => ih k ?_ (hscript.trans script)⟩
    -- The first place with less left to do decides.
    classical
    have exists_lt : ∃ p, k.rank p < g.rank p := ⟨place, hrank⟩
    have first := Nat.find_spec exists_lt
    have upTo : Nat.find exists_lt ≤ place := Nat.find_min' exists_lt hrank
    have inside : Nat.find exists_lt < size := by
      rw [script] at hlt
      exact Nat.lt_of_le_of_lt upTo hlt
    refine ⟨⟨Nat.find exists_lt, inside⟩, fun p hp => ?_, first⟩
    have hp : p.val < Nat.find exists_lt := hp
    exact le_antisymm (hle p (by omega)) (not_lt.mp (Nat.find_min exists_lt hp))

theorem Further.resumes (h : f.Further k) (r : k.Resumes g) : f.Further g := by
  have le : ∀ place, g.rank place ≤ k.rank place := fun place =>
    rank_le r.script r.le (by rw [roundsLeft, roundsLeft, r.loops])
  obtain ⟨script, place, hlt, hle, hrank⟩ := h
  exact ⟨r.script.trans script, place, hlt, fun p hp => (le p).trans (hle p hp), (le place).trans_lt hrank⟩

/-- A frame that passes an instruction is further, if no loop before has got more rounds. -/
theorem further_of_lt (script : g.script = f.script) (here : f.pc < f.script.code.entries.size) (lt : f.pc < g.pc)
    (rounds : ∀ p < f.pc, g.roundsLeft p ≤ f.roundsLeft p) : f.Further g := by
  refine ⟨script, f.pc, here, fun p hp => rank_le script (Nat.le_of_lt lt) (rounds p hp), ?_⟩
  rw [rank_ahead (Nat.le_refl _), rank_passed lt]
  exact WithTop.coe_lt_top _

theorem roundsLeft_of_lookup {owner : Nat} {state : LoopState} (h : f.loops.lookup owner = some state) :
    f.roundsLeft owner = state.roundsLeft := by
  rw [roundsLeft, h]
  rfl

/-- A frame whose loop has begun its next round, seen at any place. -/
theorem roundsLeft_next {owner : Nat} {state state' : LoopState} {v : Value}
    (running : f.loops.lookup owner = some state) (next : state.next? = some (state', v))
    (loops : g.loops = setKey owner state' f.loops) (p : Nat) : g.roundsLeft p ≤ f.roundsLeft p ∧
      (p = owner → g.roundsLeft p < f.roundsLeft p) := by
  by_cases hp : p = owner
  · subst hp
    have less := LoopState.roundsLeft_next next
    have begun : g.loops.lookup p = some state' := by
      rw [loops]
      exact lookup_setKey_self _ _ _
    rw [roundsLeft_of_lookup running, roundsLeft_of_lookup begun]
    exact ⟨Nat.le_of_lt less, fun _ => less⟩
  · rw [roundsLeft, roundsLeft, loops, lookup_setKey_ne hp]
    exact ⟨Nat.le_refl _, fun h => absurd h hp⟩

/-- An instruction takes its frame further. -/
theorem Moves.further {entry : Entry} (ordered : f.script.code.Ordered)
    (here : f.script.code.entries[f.pc]? = some entry) {ε : Type} {r : Except ε Flow}
    (m : f.next.Moves f.pc entry g r) (script : g.script = f.script) : f.Further g := by
  have hlt : f.pc < f.script.code.entries.size := Code.Ordered.lt_size here
  have next : f.next.pc = f.pc + 1 := rfl
  have same : ∀ {k : Frame}, k.loops = f.loops → ∀ p, k.roundsLeft p ≤ f.roundsLeft p := fun loops p => by
    rw [roundsLeft, roundsLeft, loops]
  cases m with
  | stay pc _ loops => exact further_of_lt script hlt (by omega) fun p _ => same loops p
  | skip block pc _ _ loops =>
    obtain ⟨hstart, hle, -⟩ := ordered.block here block
    exact further_of_lt script hlt (by omega) fun p _ => same loops p
  | begin _ pc _ loops =>
    -- The rounds that the loop gets do not count: its own place had not been passed.
    refine further_of_lt script hlt (by omega) fun p hp => ?_
    rw [roundsLeft, roundsLeft, loops, lookup_setKey_ne (Nat.ne_of_lt hp)]
    exact Nat.le_refl _
  | @back owner o b state state' v callbackOf hereO block running hnext _ pc _ loops =>
    obtain ⟨o', b', hereO', -, block', hstop, -, -⟩ := ordered.owner here callbackOf
    cases hereO.symm.trans hereO'
    cases block.symm.trans block'
    obtain ⟨hstart, hle, -⟩ := ordered.block hereO block
    have fewer := roundsLeft_next (f := f) running hnext loops
    have blockO : f.blockStop? owner = some b.stop := by
      rw [blockStop?, show f.script.code.entries[owner]? = some o from hereO, Option.bind_some, block]
      rfl
    -- The frame goes back, but the loop has a round less left, and no place before it has more.
    refine ⟨script, owner, Code.Ordered.lt_size hereO, fun p hp => ?_, ?_⟩
    · -- A block around the loop goes on behind the end of the loop.
      rw [rank_passed (by omega), rank_passed (by omega)]
      refine WithTop.coe_le_coe.mpr (left_le (fewer p).1 fun stop hblock inside => ?_)
      rw [blockStop?_of_script script] at hblock
      obtain ⟨e, he, hstop'⟩ := Option.bind_eq_some_iff.mp hblock
      obtain ⟨s, hs, rfl⟩ := Option.map_eq_some_iff.mp hstop'
      obtain ⟨hfrom, -⟩ := ordered.block he hs
      have around := (ordered.nested he hs hereO block (by omega) (by omega)).1
      exact ⟨hblock, by omega⟩
    · rw [rank_passed (by omega), rank_passed (by omega), left_inside blockO (by omega),
        left_inside (blockStop?_of_script script owner ▸ blockO) (by omega)]
      exact WithTop.coe_lt_coe.mpr (Nat.succ_lt_succ ((fewer owner).2 rfl))
  | stuck _ running hnext pc _ loops =>
    exact further_of_lt script hlt (by omega) fun p _ => (roundsLeft_next (f := f) running hnext loops p).1
  | @ended owner _ pc _ loops =>
    refine further_of_lt script hlt (by omega) fun p _ => ?_
    rw [roundsLeft, roundsLeft, loops]
    by_cases hp : p = owner
    · rw [hp, lookup_eraseKey_self]
      exact Nat.zero_le _
    · rw [lookup_eraseKey_ne hp]
      exact Nat.le_refl _
  | goto _ _ _ lt _ loops => exact further_of_lt script hlt (by omega) fun p _ => same loops p

theorem Advances.further (ordered : f.script.code.Ordered) (h : f.Advances g) : f.Further g := by
  obtain ⟨entry, k, r, here, script, -, moves, resumes⟩ := h
  exact (moves.further ordered here script).resumes resumes

theorem Resumes.trans (h : f.Resumes k) (h' : k.Resumes g) : f.Resumes g where
  script := h'.script.trans h.script
  slots := h'.slots.trans h.slots
  floor := h'.floor.trans h.floor
  loops := h'.loops.trans h.loops
  le := Nat.le_trans h.le h'.le
  within := by
    have hk := h.within
    have hg := h'.within
    rw [h.script] at hg
    omega

theorem Advances.resumes (h : f.Advances k) (r : k.Resumes g) : f.Advances g := by
  obtain ⟨entry, d, result, here, script, slots, moves, resumes⟩ := h
  exact ⟨entry, d, result, here, script, slots, moves, resumes.trans r⟩

end Frame

/-! ### Stacks -/

section
variable {P : Script → Prop} (ordered : ∀ {s : Script}, P s → s.code.Ordered)

/-- A sound stack of frames makes progress. -/
def Goes (P : Script → Prop) (frames' frames : List Frame) : Prop :=
  frames ≠ [] ∧ SoundStack P frames ∧ Progress P frames frames'

theorem acc_goes_nil : Acc (Goes P) [] :=
  ⟨_, fun _ h => absurd rfl h.1⟩

include ordered

/-- A stack does not go on forever above its frames `below`, if it does not once one of these goes on. -/
theorem acc_goes_above : ∀ (room : Nat) (below : List Frame), below.length + room = maxCallDepth →
    (∀ {above rest : List Frame} {d g : Frame}, below = above ++ d :: rest → d.Resumes g → Acc (Goes P) (g :: rest)) →
      ∀ f : Frame, Acc (Goes P) (f :: below) := by
  -- Each call uses up some of the room. With the same room left, the innermost frame gets further each time it is
  -- reached.
  intro room
  induction room with
  | zero =>
    intro below hroom _ f
    refine ⟨_, fun _ ⟨_, stack, _⟩ => ?_⟩
    have depth := stack.depth
    rw [List.length_cons] at depth
    omega
  | succ room ih =>
    intro below hroom left f
    induction f.acc_further with
    | intro f _ ihf =>
      refine ⟨_, fun frames' ⟨_, stack, progress⟩ => ?_⟩
      have order := ordered (stack.sound f List.mem_cons_self).script
      generalize hframes : f :: below = frames at progress
      cases progress with
      | moved advances =>
        cases hframes
        exact ihf _ (advances.further order)
      | @entered _ g _ script vars advances =>
        cases hframes
        -- The script that is called has less room, and once it has ended the caller is further than at the call.
        refine ih (g :: below) (by rw [List.length_cons]; omega) (fun {above} => ?_) _
        cases above with
        | nil =>
          intro rest d k hbelow resumes
          cases hbelow
          exact ihf k ((advances.resumes resumes).further order)
        | cons _ above =>
          intro rest d k hbelow resumes
          exact left (List.cons.inj hbelow).2 resumes
      | @left above rest d g ends resumes =>
        cases above with
        | nil => exact absurd rfl ends
        | cons _ above => exact left (List.cons.inj hframes).2 resumes
      | ended => exact acc_goes_nil

/-- A stack of one frame does not go on forever. -/
theorem acc_goes (f : Frame) : Acc (Goes P) [f] :=
  acc_goes_above ordered maxCallDepth [] (Nat.zero_add _) (fun h => absurd h (by simp)) f

end

/-! ### Machines -/

/-- A script that does not run others on queues of their own. -/
def Script.NoRun (s : Script) : Prop :=
  ∀ i ∈ s.instructions, i.name ≠ "run"

namespace Machine

variable {P : Script → Prop} {m m' : Machine}

/-- A machine whose queues come to rest. -/
def Rests (m : Machine) : Prop :=
  ∃ steps result, m.run steps = some result

theorem Rests.of_next (h : m.step = .next m') (rests : m'.Rests) : m.Rests := by
  obtain ⟨steps, result, hrun⟩ := rests
  refine ⟨steps + 1, result, ?_⟩
  rw [run, h]
  exact hrun

theorem rests_of_rest {e : Engine} {q : Queue} (h : m.step = .rest e q) : m.Rests := by
  refine ⟨1, (e, q), ?_⟩
  rw [run, h]

/-- A queue by itself that nothing keeps from running. -/
structure Alone (m : Machine) : Prop where
  callers : m.callers = []
  delayable : m.running.delayable = false
  waitingOn : m.running.waitingOn = none
  wait : ¬0 < m.running.wait

/-- A queue by itself that is left comes to rest. -/
theorem rests_of_left {q : Queue} (callers : m.callers = []) (left : m.left? = some q) : m.Rests := by
  have last : m.step = .rest m.engine q := by
    rw [step_of_left left, yield]
    dsimp only
    rw [callers]
  exact rests_of_rest last

theorem Alone.rests (alone : m.Alone) (frames : m.running.frames = []) : m.Rests := by
  cases left : m.left? with
  | some q => exact rests_of_left alone.callers left
  | none =>
    have next : m.step = .next m.awake.stop := by rw [step_of_free left, frames]
    refine Rests.of_next next (rests_of_left (q := m.awake.stop.running) alone.callers ?_)
    simp [left?, stop, Queue.stop]

section
variable (closed : Script.Closed P) (ordered : ∀ {s : Script}, P s → s.code.Ordered)
include closed ordered

/-- A step of a queue by itself whose scripts have no `run`. -/
theorem Alone.next (alone : m.Alone) (sound : m.Sound P) (noRun : ∀ f ∈ m.running.frames, f.script.NoRun)
    (h : m.step = .next m') : m'.Alone ∧ Progress P m.running.frames m'.running.frames := by
  cases sound.next closed ordered h with
  | leaves leaves =>
    obtain ⟨c, _, hcallers, -⟩ := leaves.callers
    cases alone.callers.symm.trans hcallers
  | givesUp givesUp =>
    obtain ⟨_, c, callers, -, hcallers, -⟩ := givesUp
    cases alone.callers.symm.trans hcallers
  | goes _ progress _ fate =>
    obtain ⟨delayable, waitingOn, wait⟩ := fate.still alone.delayable
    exact ⟨⟨fate.callers.trans alone.callers, delayable, waitingOn, wait ▸ alone.wait⟩, progress⟩
  | @launches f _ _ _ _ entry _ _ at_ name =>
    have inside : entry.instruction ∈ f.script.instructions := by
      have here := at_.here
      rw [← Array.getElem?_toList] at here
      exact List.mem_map_of_mem (List.mem_of_getElem? here)
    exact absurd name (noRun f (at_.frames ▸ List.mem_cons_self) _ inside)

/-- A queue by itself comes to rest, if no script that it comes to has a `run`. -/
theorem Sound.rests (sound : m.Sound P) (alone : m.Alone) {f : Frame} (frames : m.running.frames = [f])
    (noRun : ∀ n, Relation.ReflTransGen (fun m m' : Machine => m.step = .next m') m n →
      ∀ f ∈ n.running.frames, f.script.NoRun) : m.Rests := by
  have acc := acc_goes ordered f
  rw [← frames] at acc
  clear frames
  generalize hstack : m.running.frames = stack at acc
  induction acc generalizing m with
  | intro stack _ ih =>
    by_cases hnil : stack = []
    · exact alone.rests (hstack.trans hnil)
    · cases h : m.step with
      | rest e q => exact rests_of_rest h
      | next m' =>
        obtain ⟨alone', progress⟩ := alone.next closed ordered sound (noRun m .refl) h
        have stackSound := sound.running
        rw [hstack] at progress stackSound
        refine Rests.of_next h (ih _ ⟨hnil, stackSound, progress⟩ (sound.step closed ordered h) alone' ?_ rfl)
        exact fun n hn => noRun n (.head h hn)

end

end Machine

/-! ### Scripts without `run` -/

/-- A script from a source text without `run`. -/
def Script.Plain (s : Script) : Prop :=
  s.FromSource ∧ s.NoRun

end CommandScript
