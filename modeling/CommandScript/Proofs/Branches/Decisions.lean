import CommandScript.Proofs.Branches.Passages
import CommandScript.Proofs.Machine.Unwinding

/-! What the instructions of a script do to the control of their frame: where they lead, and how the commands of
    branches and tries use the marks. -/

namespace CommandScript

namespace Act

variable {P : Script → Prop} {site : Site} {s t : Scene} {flow : Flow}

/-! ### Blocks that are entered or passed over -/

/-- A block without an instruction for its end is passed over up to where it stops. -/
theorem on_skipBlock_stop (ready : site.Ready P s)
    (noEnd : CommandRegistry.builtin.needsEnd site.entry.instruction.name = false) : skipBlock.on site s =
      (.ok (), { s with frame := { s.frame with pc := (s.frame.script.code.block site.index).stop } }) := by
  obtain ⟨pc, hskip, hpc⟩ := on_skipBlock_ordered ready.entry ready.ordered ready.floor
  rw [hskip, Code.block_eq ready.entry]
  rcases hpc with ⟨block, rfl⟩ | ⟨b, block, -, -, place⟩
  · rw [block, ready.pc]
    rfl
  · rw [block, ready.ordered.stop_of_passes rfl ready.entry place noEnd]
    rfl

/-- A command that decides whether its block is entered, and marks its own place where that or an earlier decision is
    in favour. -/
theorem on_decided (ready : site.Ready P s)
    (noEnd : CommandRegistry.builtin.needsEnd site.entry.instruction.name = false) {decision : Act Bool}
    (steady : decision.Steady P) (settled : Bool)
    (done : (decision >>= enter fun taken g => g.setBranch site.index (settled || taken)).on site s = (.ok flow, t)) :
    ∃ taken u, decision.on site s = (.ok taken, u) ∧ t.frame.branchTaken site.index = (settled || taken) ∧
      t.frame.pc = if taken then site.index + 1 else (s.frame.script.code.block site.index).stop := by
  have kept := steady site s
  rw [on_bind] at done
  generalize hdecision : decision.on site s = r at kept done
  obtain ⟨failure | taken, u⟩ := r
  · cases done
  · have ready := ready.keeps kept
    refine ⟨taken, u, rfl, ?_⟩
    rw [← kept.script]
    dsimp only at done
    rw [enter, on_bind, on_onFrame] at done
    dsimp only at done
    have marked : site.Ready P { u with frame := u.frame.setBranch site.index (settled || taken) } :=
      ⟨ready.entry, ready.pc, ready.floor, ready.ordered, ready.script, ready.gives⟩
    cases taken with
    | true =>
      cases done
      exact ⟨Frame.branchTaken_setBranch _ _ _, ready.pc⟩
    | false =>
      have skip := on_skipBlock_stop marked noEnd
      rw [Bool.not_false, if_pos rfl, on_bind, skip] at done
      cases done
      exact ⟨Frame.branchTaken_setBranch _ _ _, rfl⟩

/-! ### Branches -/

theorem ifBlock_decides (ready : site.Ready P s) (name : site.entry.instruction.name = "if")
    (done : ifBlock.on site s = (.ok flow, t)) :
    (t.frame.pc = site.index + 1 ∧ t.frame.branchTaken site.index = true) ∨
      t.frame.pc = (s.frame.script.code.block site.index).stop := by
  obtain ⟨taken, _, -, marked, pc⟩ := on_decided ready (by rw [name]; decide) (steady_booleanArg 0)
    false done
  cases taken with
  | true => exact Or.inl ⟨pc, marked⟩
  | false => exact Or.inr pc

theorem steady_elseTaken (settled : Bool) : (elseTaken settled).Steady P := by
  cases settled with
  | true => exact Steady.pure false
  | false =>
    refine steady_argCount.bind fun n => ?_
    split
    · exact steady_booleanArg 1
    · exact Steady.pure true

theorem elseBlock_decides (ready : site.Ready P s) (name : site.entry.instruction.name = "else")
    (done : elseBlock.on site s = (.ok flow, t)) : ∃ before, site.entry.instruction.link = some before ∧
    ((t.frame.pc = site.index + 1 ∧ t.frame.branchTaken site.index = true ∧ s.frame.branchTaken before = false) ∨
      t.frame.pc = (s.frame.script.code.block site.index).stop ∧
        t.frame.branchTaken site.index = s.frame.branchTaken before) := by
  cases link : site.entry.instruction.link with
  | none =>
    rw [elseBlock, on_bind, on_instruction] at done
    dsimp only at done
    rw [link] at done
    cases done
  | some before =>
    refine ⟨before, rfl, ?_⟩
    rw [on_elseBlock site link] at done
    obtain ⟨taken, u, decided, marked, pc⟩ := on_decided ready (by rw [name]; decide)
      (steady_elseTaken (s.frame.branchTaken before)) (s.frame.branchTaken before) done
    cases earlier : s.frame.branchTaken before with
    | true =>
      -- A chain that is settled decides against the block.
      rw [earlier] at decided marked
      cases decided
      exact Or.inr ⟨pc, marked⟩
    | false =>
      rw [earlier, Bool.false_or] at marked
      cases taken with
      | true => exact Or.inl ⟨pc, marked, rfl⟩
      | false => exact Or.inr ⟨pc, marked⟩

theorem catchBlock_decides (ready : site.Ready P s) (name : site.entry.instruction.name = "catch")
    (inside : s.frame.script.code.Inside site.index (catchBlock.on site s).2.frame.pc) :
    ∃ before, site.entry.instruction.link = some before ∧ s.frame.branchTaken before = true := by
  have skip := on_skipBlock_stop ready (by rw [name]; decide)
  rw [catchBlock, on_bind, on_frame] at inside
  dsimp only at inside
  rw [on_bind, on_instruction] at inside
  dsimp only at inside
  cases caught : (site.entry.instruction.link.map s.frame.branchTaken).getD false with
  | true =>
    cases link : site.entry.instruction.link with
    | none =>
      rw [link] at caught
      cases caught
    | some before =>
      rw [link] at caught
      exact ⟨before, rfl, caught⟩
  | false =>
    rw [caught, Bool.not_false, if_pos rfl, on_bind, skip] at inside
    exact absurd inside.2 (Nat.lt_irrefl _)

end Act

/-! ### Instructions -/

/-- Where a frame stands, and the branches that it has marked. -/
def Frame.control (f : Frame) (failing : Bool) : Control :=
  ⟨f.pc, f.branchTaken, failing⟩

theorem Frame.branchTaken_setBranch_update (f : Frame) (owner : Nat) (taken : Bool) :
    (f.setBranch owner taken).branchTaken = Function.update f.branchTaken owner taken := by
  funext other
  by_cases same : other = owner
  · rw [same, branchTaken_setBranch, Function.update_self]
  · rw [Function.update_of_ne same, branchTaken, branchTaken, setBranch, lookup_setKey_ne same]

theorem Frame.Moves.leads {index : Nat} {entry : Entry} {f g : Frame} {r : Except ScriptError Flow}
    (h : f.next.Moves index entry g r) (pc : f.pc = index)
    (here : f.script.code.entries[index]? = some entry) : f.script.code.Leads index entry g.pc := by
  subst pc
  cases h with
  | stay p | begin _ p | stuck _ _ _ p | ended _ p =>
    rw [p]
    exact .on
  | skip block _ _ _ _ place =>
    refine .past ?_
    rw [Code.block_eq here, block]
    exact place
  | @back owner _ _ _ _ _ callbackOf hereO block _ _ _ p _ _ name =>
    have spans := Code.block_eq hereO
    rw [block] at spans
    rw [p.trans (congrArg Span.start spans).symm]
    exact .back callbackOf name
  | goto own hereM name lt => exact .goto own lt ((Code.name?_eq hereM).trans (congrArg some name))

theorem Frame.Moves.fails {index : Nat} {entry : Entry} {f g : Frame} {error : ScriptError}
    (h : f.next.Moves index entry g (.error error)) : g.pc = f.pc + 1 ∨
      entry.instruction.name = "goto" ∧ f.pc + 1 < g.pc ∧ f.script.code.name? (g.pc - 1) = some "mark" := by
  cases h with
  | stay p | stuck _ _ _ p => exact Or.inl p
  | goto own hereM name lt => exact Or.inr ⟨own, lt, (Code.name?_eq hereM).trans (congrArg some name)⟩

namespace Machine

variable {m : Machine} {f g : Frame} {below : List Frame} {entry : Entry}

/-- What an instruction does to the control of its frame. -/
theorem Sound.runs (sound : m.Sound Script.FromSource) (at_ : m.StandsAt f below entry) {r : Except ScriptError Flow}
    {e : Engine} (performed : m.awake.perform f below entry = (r, e, g)) :
    Control.Runs f.script.code (f.control false) entry (g.control (!r.isOk)) := by
  have stack := sound.running
  rw [at_.frames] at stack
  have top := stack.sound f List.mem_cons_self
  have here := at_.here
  have ordered := top.script.ordered
  have done := performs (m := m.awake) Script.closed_fromSource Script.FromSource.ordered below sound.gives top here
  have ready : Site.Ready Script.FromSource
      ⟨entry, f.pc, below.length + 1, m.awake.running.delayable, m.awake.running.ownOutput⟩
      ⟨m.awake.engine, f.next⟩ :=
    ⟨here, rfl, top.floor, ordered, top.script, sound.gives⟩
  rw [performed] at done
  refine ⟨here, done.moves.leads rfl here, fun failing => ?_, done.others, fun name failing => ?_, fun name hc => ?_,
    fun name inside => ?_⟩
  · cases r with
    | error error => exact done.moves.fails
    | ok flow => cases failing
  · rcases name with name | name
    · obtain ⟨result, t, hon, same⟩ := perform_of_name m.awake below here ordered name (a := .ifBlock) rfl
      cases same.symm.trans performed
      have link : entry.instruction.link = none := by
        cases link : entry.instruction.link with
        | none => rfl
        | some before =>
          have hl : f.script.code.link? f.pc = some before := by rw [Code.link?_eq here, link]
          rcases ordered.name_of_link hl with ⟨other, -⟩ | ⟨other, -⟩ <;> simp [Code.name?_eq here, name] at other
      cases result with
      | error _ => cases failing
      | ok flow =>
        rcases Act.ifBlock_decides ready name hon with ⟨pc, taken⟩ | pc
        · exact Or.inl ⟨pc, taken, fun _ hl => absurd (link.symm.trans hl) nofun⟩
        · exact Or.inr ⟨pc, fun _ hl => absurd (link.symm.trans hl) nofun⟩
    · obtain ⟨result, t, hon, same⟩ := perform_of_name m.awake below here ordered name (a := .elseBlock) rfl
      cases same.symm.trans performed
      cases result with
      | error _ => cases failing
      | ok flow =>
        obtain ⟨before, link, decided⟩ := Act.elseBlock_decides ready name hon
        have only : ∀ other, entry.instruction.link = some other → other = before := fun other hl =>
          Option.some.inj (hl.symm.trans link)
        rcases decided with ⟨pc, taken, unmarked⟩ | ⟨pc, handed⟩
        · exact Or.inl ⟨pc, taken, fun other hl => only other hl ▸ unmarked⟩
        · exact Or.inr ⟨pc, fun other hl => only other hl ▸ handed⟩
  · obtain ⟨result, t, hon, same⟩ := perform_of_name m.awake below here ordered name (a := .tryBlock) rfl
    cases same.symm.trans performed
    rw [Action.perform, Act.on_tryBlock _ hc] at hon
    cases hon
    exact Frame.branchTaken_setBranch _ _ _
  · obtain ⟨result, t, hon, same⟩ := perform_of_name m.awake below here ordered name (a := .catchBlock) rfl
    cases same.symm.trans performed
    refine Act.catchBlock_decides ready name ?_
    rw [show Act.catchBlock.on _ _ = (result, t) from hon]
    exact inside

end Machine

end CommandScript
