import CommandScript.Proofs.Indices.Commands
import CommandScript.Proofs.Machine.Unwinding

/-! Steps of a machine with the places that they look at: the command and the entry at the place of a frame, all places
    that an error may go to, and the slots of a script that begins. A machine that comes up never looks beyond the end
    of an array, and no instruction of it fails by a fault of the engine, but for an `event` without a block. -/

namespace CommandScript

/-- An array with the value at a place set, which is there. -/
def setAt? (xs : Array α) (index : Nat) (x : α) : Option (Array α) :=
  if index < xs.size then some (xs.setIfInBounds index x) else none

/-! ### Frames -/

namespace Frame

/-- Gives a frame an initial variable, with the places of its slot. -/
def bindIndexed (f : Frame) (binding : String × Value) : Option Frame := do
  let (name, value) := (Text.lower binding.1, binding.2)
  match initialSlot? f.script name with
  | some slot =>
    let _ ← f.script.code.slotTypes[slot]?
    return { f with slots := ← setAt? f.slots slot value }
  | none => return { f with vars := setKey name value f.vars }

/-- A script at its beginning, with the places of its initial variables. -/
def startIndexed (script : Script) (vars : Vars) : Option Frame :=
  let empty : Frame :=
    { script := script, slots := Array.replicate script.code.slots.size .null, vars := [],
      verbosity := script.verbosity }
  vars.foldlM bindIndexed empty

section
variable {script : Script} (fits : script.code.Fits)
include fits

/-- The slot that takes an initial variable is one of the script. -/
theorem initialSlot?_lt {name : String} {slot : Nat} (h : initialSlot? script name = some slot) :
    slot < script.code.slots.size := by
  unfold initialSlot? at h
  split at h
  · cases h
  · rename_i e first
    rw [← Array.getElem?_toList] at first
    obtain ⟨lookup, -⟩ := Option.filter_eq_some_iff.mp h
    exact (fits.entries e (List.mem_of_getElem? first)).names _ (mem_of_lookup lookup)

theorem bindIndexed_eq {f : Frame} (same : f.script = script) (slots : f.slots.size = script.code.slots.size)
    (binding : String × Value) : f.bindIndexed binding = some (f.bind binding) := by
  unfold bindIndexed bind
  dsimp only
  cases hs : initialSlot? f.script (Text.lower binding.1) with
  | none => rfl
  | some slot =>
    rw [same] at hs ⊢
    have lt := initialSlot?_lt fits hs
    have typed : script.code.slotTypes[slot]? = some script.code.slots[slot].typeName := by
      rw [Code.slotTypes, Array.getElem?_map, Array.getElem?_eq_getElem lt]
      rfl
    dsimp only
    rw [typed, setAt?, if_pos (by rw [slots]; exact lt)]
    rfl

/-- A script begins without looking beyond the end of its slots. -/
theorem startIndexed_eq (vars : Vars) : startIndexed script vars = some (start script vars) := by
  have bound : ∀ (vars : Vars) (f : Frame), f.script = script → f.slots.size = script.code.slots.size →
      vars.foldlM bindIndexed f = some (vars.foldl bind f) := fun vars => by
    induction vars with
    | nil => exact fun _ _ _ => rfl
    | cons binding rest ih =>
      intro f same slots
      obtain ⟨-, kept, sizes⟩ := bind_place f binding
      rw [List.foldlM_cons, bindIndexed_eq fits same slots, List.foldl_cons]
      exact ih _ (kept.trans same) (sizes.trans slots)
  exact bound vars _ rfl Array.size_replicate

end

end Frame

namespace Machine

/-! ### Errors -/

/-- Looks at some places from `index` on for one where an error of a frame at `pc` goes. -/
def boundaryFrom (code : Code) (pc index : Nat) : Nat → Option (Option Nat)
  | 0 => return none
  | left + 1 => do
    let command ← code.dispatch[index]?
    if command.any (·.signature.errorBoundary) then
      let e ← code.entries[index]?
      if e.instruction.callbackOf.any (· < pc) then return some index
    boundaryFrom code pc (index + 1) left

/-- Where an error goes in a frame, looking at all places from its own to the end. -/
def boundaryIndexed (f : Frame) : Option (Option Nat) :=
  boundaryFrom f.script.code f.pc f.pc (f.script.code.entries.size - f.pc)

/-- The frame that catches an error, looking at its boundary. -/
def caughtAtIndexed (f : Frame) (target : Nat) (trace : String) : Option Frame := do
  let f := { f with pc := target }
  let e ← f.script.code.entries[target]?
  let f :=
    match e.instruction.callbackOf with
    | some owner => f.setBranch owner true
    | none => f
  return f.setVar "stack_trace" (.text trace)

/-- The frames after an error is caught, looking for the boundary in each. -/
def catchErrorIndexed (trace : String) : List Frame → Option (Option (List Frame))
  | [] => return none
  | f :: rest => do
    match ← boundaryIndexed f with
    | some target => return some ((← caughtAtIndexed f target trace) :: rest)
    | none => catchErrorIndexed trace rest

/-- Sends the trace of an error that no frame catches, and ends the queue by it. -/
def uncaught (m : Machine) (e : ScriptError) : Machine :=
  let verbosity := (m.running.frames.head?.map (·.verbosity)).getD default
  match m.emit verbosity (trace m.running.frames e) with
  | (none, m) => m.stopWithError
  | (some f, m) =>
    let report := s!"Error while handling error '{e.message}': " ++ f.text
    match m.emit .minimal report with
    | (none, m) => m.stopWithError
    | (some f, m) => m.breakOff f

/-- Handles an error of the queue at work, with the places that it looks at. -/
def handleIndexed (m : Machine) (e : ScriptError) : Option Machine := do
  match ← catchErrorIndexed (trace m.running.frames e) m.running.frames with
  | some frames => return { m with running := { m.running with frames := frames } }
  | none => return m.uncaught e

/-- The places from a frame's own to the end are all there. By induction on how many are left. -/
theorem boundaryFrom_eq (code : Code) (pc : Nat) {index left : Nat} (end_ : index + left = code.entries.size) :
    boundaryFrom code pc index left =
      some (((code.entries.toList.drop index).findIdx? fun e =>
        e.command.any (·.signature.errorBoundary) && e.instruction.callbackOf.any (· < pc)).map (index + ·)) := by
  induction left generalizing index with
  | zero =>
    rw [List.drop_of_length_le (by rw [Array.length_toList]; omega)]
    rfl
  | succ left ih =>
    have lt : index < code.entries.size := by omega
    have here : code.entries[index]? = some code.entries[index] := Array.getElem?_eq_getElem lt
    have first : code.entries.toList.drop index = code.entries[index] :: code.entries.toList.drop (index + 1) := by
      rw [List.drop_eq_getElem_cons (by rw [Array.length_toList]; exact lt), Array.getElem_toList]
    have more := @ih (index + 1) (by omega)
    rw [boundaryFrom, Code.dispatch, Array.getElem?_map, here, first, List.findIdx?_cons, more]
    have passed (found : Option Nat) : (found.map (· + 1)).map (index + ·) = found.map (index + 1 + ·) := by
      cases found with
      | none => rfl
      | some n => exact congrArg some (by dsimp only; omega)
    cases command : code.entries[index].command.any (·.signature.errorBoundary) with
    | false =>
      rw [Bool.false_and, if_neg Bool.false_ne_true, passed]
      simp only [Option.map_some, Option.bind_eq_bind, Option.bind_some, command, Bool.false_eq_true, if_false]
    | true =>
      rw [Bool.true_and]
      cases owner : code.entries[index].instruction.callbackOf.any (· < pc) with
      | false =>
        rw [if_neg Bool.false_ne_true, passed]
        simp only [Option.map_some, Option.bind_eq_bind, Option.bind_some, command, owner, if_true,
          Bool.false_eq_true, if_false]
      | true =>
        simp only [Option.map_some, Option.bind_eq_bind, Option.bind_some, command, owner, if_true, Nat.add_zero]
        rfl

theorem boundaryIndexed_eq (f : Frame) : boundaryIndexed f = some (boundary? f) := by
  by_cases within : f.pc ≤ f.script.code.entries.size
  · exact boundaryFrom_eq f.script.code f.pc (Nat.add_sub_cancel' within)
  · have beyond : f.script.code.entries.size ≤ f.pc := by omega
    rw [boundaryIndexed, Nat.sub_eq_zero_of_le beyond, boundary?, List.drop_of_length_le beyond]
    rfl

theorem caughtAtIndexed_eq {f : Frame} {target : Nat} (h : boundary? f = some target) (trace : String) :
    caughtAtIndexed f target trace = some (caughtAt f target trace) := by
  obtain ⟨-, e, here, -⟩ := boundary?_bounds h
  unfold caughtAtIndexed caughtAt
  dsimp only
  rw [here]
  rfl

theorem catchErrorIndexed_eq (trace : String) (frames : List Frame) :
    catchErrorIndexed trace frames = some (catchError trace frames) := by
  induction frames with
  | nil => rfl
  | cons f rest ih =>
    rw [catchErrorIndexed, boundaryIndexed_eq, catchError]
    cases ht : boundary? f with
    | none => exact ih
    | some target =>
      show (caughtAtIndexed f target trace).bind _ = _
      rw [caughtAtIndexed_eq ht]
      rfl

/-- No error of any machine looks beyond the end of an array. -/
theorem handleIndexed_eq (m : Machine) (e : ScriptError) : m.handleIndexed e = some (m.handle e) := by
  rw [handleIndexed, catchErrorIndexed_eq, handle]
  show (match catchError (trace m.running.frames e) m.running.frames with
    | some _ => _
    | none => _) = _
  cases catchError (trace m.running.frames e) m.running.frames with
  | some frames => rfl
  | none => rfl

/-! ### Steps -/

/-- Goes on as a command says, with the places that a script that begins looks at. -/
def followIndexed (m : Machine) (flow : Flow) : Option Machine := do
  match flow with
  | .enter script vars =>
    return { m with running := { m.running with frames := (← Frame.startIndexed script vars) :: m.running.frames } }
  | .launch script vars waits =>
    let child : Queue :=
      { id := m.engine.nextId, frames := [← Frame.startIndexed script vars], delayable := true,
        ownOutput := m.running.ownOutput }
    return {
      engine := { m.engine with nextId := m.engine.nextId + 1 }, running := child,
      callers := ⟨m.running, waits⟩ :: m.callers }
  | flow => return m.follow flow

/-- Runs the instruction at the innermost frame, looking at its command and its entry. -/
def executeIndexed (m : Machine) (f : Frame) (below : List Frame) : Option Machine := do
  let dispatched ← f.script.code.dispatch[f.pc]?
  let entry ← f.script.code.entries[f.pc]?
  match dispatched with
  | none =>
    (m.withFrames m.engine (f.next :: below)).handleIndexed
      (.runtime (.unknownCommand entry.instruction.name))
  | some command =>
    let site : Site := ⟨entry, f.pc, below.length + 1, m.running.delayable, m.running.ownOutput⟩
    let (result, scene) := command.action.performIndexed.run.on site ⟨m.engine, f.next⟩
    let m := m.withFrames scene.engine (scene.frame :: below)
    match result with
    | .ok flow => m.followIndexed (← flow)
    | .error failure => m.handleIndexed failure.toScriptError

/-- One step, with the places that it looks at. -/
def stepIndexed (m : Machine) : Option Outcome := do
  match m.left? with
  | some q => return ({ m with running := q } : Machine).yield
  | none =>
    match m.running.frames with
    | [] => return .next m.awake.stop
    | f :: below =>
      if f.script.code.entries.size ≤ f.pc then
        return .next { m.awake with running := m.awake.running.completeFrame }
      return .next (← m.awake.executeIndexed f below)

variable {m n : Machine} {f : Frame} {below : List Frame} {entry : Entry}

/-- What an instruction comes to in a machine whose frame is sound: it fails properly, and looks at no place beyond an
    end. -/
theorem performed_eq (sound : f.Sound Script.FromSource) (here : f.script.code.entries[f.pc]? = some entry)
    {command : Command} (known : entry.command = some command) (site : Site) (at_ : site.entry = entry)
    (index : site.index = f.pc) (e : Engine) :
    command.action.performIndexed.run.on site ⟨e, f.next⟩ =
        ((command.action.perform.on site ⟨e, f.next⟩).1.map some, (command.action.perform.on site ⟨e, f.next⟩).2) ∧
      FailsProperly (command.action.perform.on site ⟨e, f.next⟩).1 := by
  subst at_
  rw [← index] at here
  have source := sound.script
  have dispatched := source.ordered.get? here
  rw [known] at dispatched
  have name := name?_builtin dispatched.symm
  have lt : site.index < f.script.code.entries.size := Code.Ordered.lt_size here
  have scene : Scene.Of f.script ⟨e, f.next⟩ := ⟨rfl, sound.slots⟩
  have pc : f.next.pc ≤ f.script.code.entries.size := Nat.succ_le_of_lt (index ▸ lt)
  exact ⟨Action.performIndexed_eq source here name scene pc, (Action.fair source here name _ scene).2.2⟩

/-- A script that comes up begins without looking beyond the end of its slots. -/
theorem followIndexed_eq {flow : Flow} {a : Action} {depth : Nat} (fits : flow.Fits Script.FromSource a depth)
    (m : Machine) : m.followIndexed flow = some (m.follow flow) := by
  cases flow with
  | enter script vars =>
    rw [followIndexed, Frame.startIndexed_eq fits.2.2.fits]
    rfl
  | launch script vars waits =>
    rw [followIndexed, Frame.startIndexed_eq fits.2.fits]
    rfl
  | _ => rfl

theorem executeIndexed_eq (gives : m.engine.Gives Script.FromSource) (sound : f.Sound Script.FromSource)
    (here : f.script.code.entries[f.pc]? = some entry) :
    m.executeIndexed f below = some (m.execute f below entry) := by
  have done := performs Script.closed_fromSource Script.FromSource.ordered below gives sound here
  rw [execute_eq]
  unfold executeIndexed perform at *
  rw [Code.dispatch, Array.getElem?_map, here]
  cases hc : entry.command with
  | none =>
    show (match entry.command with | none => _ | some _ => _) = _
    rw [hc]
    exact handleIndexed_eq _ _
  | some command =>
    show (match entry.command with | none => _ | some _ => _) = _
    rw [hc] at done ⊢
    dsimp only at done ⊢
    obtain ⟨same, -⟩ := performed_eq sound here hc
      ⟨entry, f.pc, below.length + 1, m.running.delayable, m.running.ownOutput⟩ rfl rfl m.engine
    rw [same]
    generalize command.action.perform.on _ _ = r at done ⊢
    obtain ⟨failure | flow, scene⟩ := r
    · exact handleIndexed_eq _ _
    · obtain ⟨c, -, fits⟩ := done.flow flow rfl
      exact followIndexed_eq fits _

/-- A machine that comes up takes its step without looking beyond the end of an array. -/
theorem Reachable.stepIndexed_eq (h : m.Reachable) : m.stepIndexed = some m.step := by
  have sound := h.sound
  unfold stepIndexed
  cases left : m.left? with
  | some q => rw [step_of_left left]; rfl
  | none =>
    rw [step_of_free left]
    have stack := sound.running
    cases frames : m.running.frames with
    | nil => rfl
    | cons f below =>
      rw [frames] at stack
      have top := stack.sound f List.mem_cons_self
      dsimp only
      split
      · rename_i beyond
        rw [Array.getElem?_eq_none beyond]
        rfl
      · rename_i within
        have lt : f.pc < f.script.code.entries.size := Nat.not_le.mp within
        have here : f.script.code.entries[f.pc]? = some f.script.code.entries[f.pc] := Array.getElem?_eq_getElem lt
        rw [here, executeIndexed_eq (m := m.awake) sound.gives top here]
        rfl

/-- An error that an instruction of a machine that comes up raises is one of a script, its output or a tag, or that of
    an `event` without a block. -/
theorem Reachable.proper_of_raises (h : m.Reachable) {error : ScriptError} (raises : m.Raises f below entry error n) :
    error.Proper := by
  have stack := h.sound.running
  rw [raises.stands.frames] at stack
  have top := stack.sound f List.mem_cons_self
  obtain ⟨e, g, performed, -⟩ := raises.raised
  unfold perform at performed
  cases hc : entry.command with
  | none =>
    rw [hc] at performed
    cases performed
    exact trivial
  | some command =>
    rw [hc] at performed
    obtain ⟨-, fails⟩ := performed_eq top raises.stands.here hc
      ⟨entry, f.pc, below.length + 1, m.awake.running.delayable, m.awake.running.ownOutput⟩ rfl rfl
      m.awake.engine
    dsimp only at performed
    generalize command.action.perform.on _ _ = r at performed fails
    obtain ⟨failure | flow, scene⟩ := r
    · cases performed
      exact (fails failure rfl).toScriptError
    · cases performed

end Machine

end CommandScript
