import CommandScript.Proofs.Indices.Compile
import CommandScript.Proofs.Indices.Parsing
import CommandScript.Proofs.Indices.Steps

/-! What the engine guards against does not happen. Its commands and its tags have words for what they take to be
    impossible: a branch, a loop, a slot or a chain that is missing. No run of a script comes to any of them, and no
    place is looked at beyond an end, from the text of a script to every machine that comes up when it runs. -/

namespace CommandScript

/-- What the engine takes to be impossible, up to an action of `event` that changes after it is checked. -/
def InternalFault.Guard : InternalFault → Prop
  | .branchMissing => True
  | .loopBlockMissing => True
  | .slotMissing => True
  | .missingEvaluator _ => True
  | _ => False

theorem ScriptError.Proper.not_guard {error : ScriptError} (h : error.Proper) {fault : InternalFault}
    (internal : error = .internal fault) : ¬fault.Guard := by
  subst internal
  rcases h with rfl | rfl | rfl <;> exact id

/-- Blocks of a script are cut out of it without looking beyond its end, or taking a difference below zero. -/
theorem Script.FromSource.extractIndexed_eq {script : Script} (source : script.FromSource)
    {i : Instruction} {b : Span} (here : i ∈ script.instructions) (block : i.block = some b) :
    extractIndexed script.instructions b = some (extractBlock script.instructions b) := by
  obtain ⟨index, hi⟩ := List.getElem?_of_mem here
  exact source.ordered.laid.extractIndexed_eq hi block

/-- Nothing that the engine guards against is reachable. No instruction of a machine that comes up fails by a guard, and
    no step of it looks at a place that is not there, and neither does a script that begins. Whatever the text, reading
    and checking it does not, nor does compiling instructions of any kind, nor cutting a block out of a script. -/
theorem guards_unreachable :
    (∀ (m n : Machine) (f : Frame) (below : List Frame) (entry : Entry) (error : ScriptError), m.Reachable →
      m.Raises f below entry error n → ∀ fault, error = .internal fault → ¬fault.Guard) ∧
    (∀ m : Machine, m.Reachable → m.stepIndexed = some m.step) ∧
    (∀ script : Script, script.FromSource → ∀ vars, Frame.startIndexed script vars = some (Frame.start script vars)) ∧
    (∀ source : String, InBounds (parseIndexed .builtin source) (parseScript .builtin source)) ∧
    (∀ (r : Registries) (row : List Instruction) (predefined : List (String × String)),
      InBounds (compileIndexed r row predefined) (compile r row predefined)) ∧
    (∀ script : Script, script.FromSource → ∀ i ∈ script.instructions, ∀ b, i.block = some b →
      extractIndexed script.instructions b = some (extractBlock script.instructions b)) := by
  refine ⟨?steps, ?places, ?starts, ?reads, compileIndexed_inBounds, ?blocks⟩
  case steps =>
    intro m n f below entry error reachable raises fault internal
    exact (reachable.proper_of_raises raises).not_guard internal
  case places => exact fun _ reachable => reachable.stepIndexed_eq
  case starts => exact fun _ source vars => Frame.startIndexed_eq source.fits vars
  case reads => exact fun source => parseIndexed_inBounds argumentsTaken_builtin source
  case blocks => exact fun _ source _ here _ block => source.extractIndexed_eq here block

/-- A machine that comes up and whose next step is an error, behind an `else` and inside a `try`. -/
theorem guards_unreachable_caught : ∃ (m n : Machine) (f : Frame) (below : List Frame) (entry : Entry)
    (error : ScriptError) (i : Instruction) (b : Span), m.Reachable ∧ m.Raises f below entry error n ∧
      f.script.FromSource ∧ i ∈ f.script.instructions ∧ i.block = some b ∧
      (∀ fault, error = .internal fault → ¬fault.Guard) ∧
      m.stepIndexed = some m.step ∧ (∀ vars, Frame.startIndexed f.script vars = some (Frame.start f.script vars)) ∧
      extractIndexed f.script.instructions b = some (extractBlock f.script.instructions b) := by
  have found : (Machine.afterSource?
      "define x 1; try { if false { noop; } else { error <{var[x]}>; } } catch { noop; }" 4).any (fun m =>
        m.raised?.isSome && m.running.frames.all (·.script.instructions.any (·.block.isSome))) = true := by
    decide +kernel
  obtain ⟨m, hm, found⟩ := (Option.any_eq_true _ _).mp found
  obtain ⟨fails, blocks⟩ := (Bool.and_eq_true _ _).mp found
  obtain ⟨⟨error, n⟩, hn⟩ := Option.isSome_iff_exists.mp fails
  obtain ⟨f, below, entry, raises⟩ := Machine.raises_of_raised? hn
  have reachable := Machine.reachable_afterSource hm
  have member : f ∈ m.running.frames := by rw [raises.stands.frames]; exact List.mem_cons_self
  have source : f.script.FromSource := (reachable.sound.running.sound f member).script
  obtain ⟨i, here, block⟩ := List.any_eq_true.mp (List.all_eq_true.mp blocks f member)
  obtain ⟨b, block⟩ := Option.isSome_iff_exists.mp block
  obtain ⟨steps, places, starts, -, -, cuts⟩ := guards_unreachable
  exact ⟨m, n, f, below, entry, error, i, b, reachable, raises, source, here, block,
    steps m n f below entry error reachable raises, places m reachable, starts f.script source,
    cuts f.script source i here b block⟩

end CommandScript
