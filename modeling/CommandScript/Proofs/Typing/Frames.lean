import CommandScript.Proofs.Machine.Reachable
import CommandScript.Proofs.Typing.Commands

/-! Slots stay typed along every run. A step changes the slots of the innermost frame at most, by the command of its
    instruction, and puts one fresh frame on a stack at most. The one thing that is in no way checked is what a fresh
    frame is given for the predefined variables of its script. -/

namespace CommandScript

namespace Frame

/-- A frame with the slots of another, in the same script. -/
structure SameSlots (f g : Frame) : Prop where
  script : g.script = f.script
  slots : g.slots = f.slots

theorem SameSlots.refl (f : Frame) : f.SameSlots f :=
  ⟨rfl, rfl⟩

theorem SameSlots.trans {f g k : Frame} (h : f.SameSlots g) (h' : g.SameSlots k) : f.SameSlots k :=
  ⟨h'.script.trans h.script, h'.slots.trans h.slots⟩

theorem SameSlots.typed {f g : Frame} (h : f.SameSlots g) (typed : f.Typed) : g.Typed :=
  typed.of_same h.script h.slots

theorem Resumes.sameSlots {f g : Frame} (h : f.Resumes g) : f.SameSlots g :=
  ⟨h.script, h.slots⟩

theorem sameSlots_setVars (vars : Vars) (f : Frame) :
    f.SameSlots (vars.foldl (fun f (name, v) => f.setVar name v) f) := by
  induction vars generalizing f with
  | nil => exact .refl f
  | cons b rest ih =>
    have first : f.SameSlots (f.setVar b.1 b.2) := ⟨rfl, rfl⟩
    exact first.trans (ih _)

end Frame

/-- Completing the innermost frame leaves the slots of the others. -/
theorem Queue.sameSlots_completeFrame {q : Queue} {f : Frame} (h : f ∈ q.completeFrame.frames) :
    ∃ d ∈ q.frames, d.SameSlots f := by
  unfold completeFrame at h
  split at h
  · exact ⟨f, h, .refl f⟩
  · exact absurd h List.not_mem_nil
  · rename_i inner parent rest hframes
    rw [hframes]
    rcases List.mem_cons.mp h with rfl | h
    · have told : parent.SameSlots (parent.setVar "determinations" (.list inner.determinations)) := ⟨rfl, rfl⟩
      exact ⟨parent, List.mem_cons_of_mem _ List.mem_cons_self, told.trans (Frame.sameSlots_setVars _ _)⟩
    · exact ⟨f, List.mem_cons_of_mem _ (List.mem_cons_of_mem _ h), .refl f⟩

namespace Machine

/-- The frames of the queues that are not at work: of those that have started others, and of those that wait in the
    engine. -/
def others (callers : List Caller) (queues : List Queue) : List Frame :=
  callers.flatMap (·.queue.frames) ++ queues.flatMap (·.frames)

/-- The frames of all queues that are alive. -/
def frames (m : Machine) : List Frame :=
  m.running.frames ++ others m.callers m.engine.queues

/-- The frames of all queues that a step leaves alive. -/
def Outcome.frames : Outcome → List Frame
  | .next m => m.frames
  | .rest engine queue => queue.frames ++ others [] engine.queues

/-- A frame is put on the stack of the queue at work, or it is the first of a new queue that is at work instead. -/
structure Pushed (m m' : Machine) (f : Frame) : Prop where
  head : m'.running.frames.head? = some f
  deeper : m'.running.frames.length = m.running.frames.length + 1 ∧ m'.callers.length = m.callers.length ∨
    m'.running.frames.length = 1 ∧ m'.callers.length = m.callers.length + 1

/-- A step puts a fresh frame on a stack. -/
def Pushes (m : Machine) (f : Frame) : Prop :=
  (∃ m', m.step = .next m' ∧ m.Pushed m' f) ∧ ∃ script vars, f = Frame.start script vars

/-- An engine that has the types that every engine has, with queues whose slots are all typed. -/
structure Typed (m : Machine) : Prop where
  types : m.engine.registries.types = .builtin
  frames : ∀ f ∈ m.frames, f.Typed

variable {m : Machine} {f g : Frame} {below : List Frame} {entry : Entry}

theorem mem_frames : f ∈ m.frames ↔ f ∈ m.running.frames ∨ f ∈ others m.callers m.engine.queues :=
  List.mem_append

/-! ### Going on -/

/-- Handling an error leaves the slots of all frames that remain. -/
theorem sameSlots_handle {error : ScriptError} (h : f ∈ (m.handle error).frames) : ∃ d ∈ m.frames, d.SameSlots f := by
  rcases handle_cases m error with
    ⟨above, d, below, k, hframes, resumes, handled⟩ | ⟨e, ⟨outbox, -, rfl⟩, handled⟩ |
      ⟨e, ⟨outbox, -, rfl⟩, -, handled⟩
  · rw [handled] at h
    unfold frames at h ⊢
    rw [hframes]
    rcases List.mem_append.mp h with h | h
    · rcases List.mem_cons.mp h with rfl | h
      · exact ⟨d, by simp, resumes.sameSlots⟩
      · exact ⟨f, by simp [h], .refl f⟩
    · exact ⟨f, List.mem_append_right _ h, .refl f⟩
  · rw [handled] at h
    exact ⟨f, List.mem_append_right _ h, .refl f⟩
  · rw [handled] at h
    exact ⟨f, h, .refl f⟩

/-- A queue that is left has its frames where it waits, and they are gone where it is given up. -/
theorem sameSlots_yield (h : f ∈ m.yield.frames) : ∃ d ∈ m.frames, d.SameSlots f := by
  unfold yield at h
  unfold frames
  split at h
  · rename_i callers
    rw [callers]
    exact ⟨f, h, .refl f⟩
  · rename_i c callers hc
    rw [hc]
    split at h
    · obtain ⟨d, hd, slots⟩ := sameSlots_handle h
      refine ⟨d, List.mem_append_right _ ?_, slots⟩
      simpa [frames, others] using hd
    · refine ⟨f, ?_, .refl f⟩
      split at h <;> simp only [Outcome.frames, frames, others, List.flatMap_cons, List.flatMap_append,
        List.mem_append, List.flatMap_nil] at h ⊢ <;> tauto

/-- Going on as a command says leaves the slots of all frames, but for a fresh one. -/
theorem sameSlots_follow {flow : Flow} (h : f ∈ (m.follow flow).frames) : (∃ d ∈ m.frames, d.SameSlots f) ∨
    m.Pushed (m.follow flow) f ∧ ∃ script vars, f = Frame.start script vars := by
  have same : f ∈ m.frames → ∃ d ∈ m.frames, d.SameSlots f := fun h => ⟨f, h, .refl f⟩
  cases flow with
  | proceed => exact Or.inl (same h)
  | pause seconds =>
    refine Or.inl (same ?_)
    unfold follow at h
    dsimp only at h
    split at h <;> exact h
  | await gate =>
    refine Or.inl (same ?_)
    unfold follow at h
    dsimp only at h
    split at h <;> exact h
  | completeFrame =>
    rcases List.mem_append.mp h with h | h
    · obtain ⟨d, hd, slots⟩ := Queue.sameSlots_completeFrame h
      exact Or.inl ⟨d, List.mem_append_left _ hd, slots⟩
    · exact Or.inl (same (List.mem_append_right _ h))
  | stopQueue => exact Or.inl (same (List.mem_append_right _ h))
  | enter script vars =>
    rcases List.mem_append.mp h with h | h
    · rcases List.mem_cons.mp h with rfl | h
      · exact Or.inr ⟨⟨rfl, Or.inl ⟨rfl, rfl⟩⟩, script, vars, rfl⟩
      · exact Or.inl (same (List.mem_append_left _ h))
    · exact Or.inl (same (List.mem_append_right _ h))
  | launch script vars waits =>
    rcases List.mem_append.mp h with h | h
    · obtain rfl := List.mem_singleton.mp h
      exact Or.inr ⟨⟨rfl, Or.inr ⟨rfl, rfl⟩⟩, script, vars, rfl⟩
    · refine Or.inl (same ?_)
      simp only [follow, others, List.flatMap_cons, List.mem_append] at h
      unfold frames others
      simp only [List.mem_append]
      tauto

/-! ### One step -/

/-- The instruction of a frame leaves its slots typed, and the types of the engine. -/
theorem perform_typed (below : List Frame) (source : f.script.FromSource)
    (here : f.script.code.entries[f.pc]? = some entry) (types : m.engine.registries.types = .builtin)
    (typed : f.Typed) : (m.perform f below entry).2.1.registries.types = .builtin ∧
      (m.perform f below entry).2.2.Typed := by
  unfold perform
  cases hc : entry.command with
  | none => exact ⟨types, typed.of_same rfl rfl⟩
  | some c =>
    have known := source.ordered.get? here
    rw [hc] at known
    have safe : c.action.perform.Safe f.script
        ⟨entry, f.pc, below.length + 1, m.running.delayable, m.running.ownOutput⟩ :=
      Action.safe source here (name?_builtin known.symm)
    obtain ⟨after, -⟩ := safe ⟨m.engine, f.next⟩ ⟨rfl, types, typed.of_same rfl rfl⟩
    exact ⟨after.types, after.frame⟩

/-- What is alive after an instruction has the slots from before, but for the frame of the instruction and a fresh
    one. -/
theorem sameSlots_conclude {r : Except ScriptError Flow} {e : Engine} (queues : e.queues = m.engine.queues)
    (h : f ∈ (m.conclude below (r, e, g)).frames) :
    (∃ d ∈ g :: below ++ others m.callers m.engine.queues, d.SameSlots f) ∨
      (m.withFrames e (g :: below)).Pushed (m.conclude below (r, e, g)) f ∧
        ∃ script vars, f = Frame.start script vars := by
  have all : (m.withFrames e (g :: below)).frames = g :: below ++ others m.callers m.engine.queues := by
    rw [← queues]
    rfl
  rw [← all]
  cases r with
  | error error => exact Or.inl (sameSlots_handle h)
  | ok flow => exact sameSlots_follow h

theorem registries_handle (m : Machine) (error : ScriptError) :
    (m.handle error).engine.registries = m.engine.registries := by
  obtain ⟨_, _, -, handled⟩ := engine_handle m error
  rw [handled]

/-- A step leaves the types of the engine. -/
theorem registries_conclude (m : Machine) (below : List Frame) (r : Except ScriptError Flow) (e : Engine)
    (g : Frame) :
    (m.conclude below (r, e, g)).engine.registries = e.registries := by
  cases r with
  | error error => exact registries_handle (m.withFrames e (g :: below)) error
  | ok flow =>
    cases flow with
    | pause seconds | await gate =>
      unfold conclude follow
      dsimp only
      split <;> rfl
    | proceed | completeFrame | stopQueue | enter _ _ | launch _ _ _ => rfl

/-- Where an instruction runs, a queue has that instruction's frame on top. -/
theorem StandsAt.mem (h : m.StandsAt g below entry) : g ∈ m.frames :=
  mem_frames.mpr (Or.inl (by rw [h.frames]; exact List.mem_cons_self))

/-- A frame with typed slots whose script ran before. -/
structure KeepsTyped (m : Machine) (f : Frame) : Prop where
  typed : f.Typed
  script : ∃ d ∈ m.frames, f.script = d.script

theorem Typed.keepsTyped_of_sameSlots (typed : m.Typed) (h : ∃ d ∈ m.frames, d.SameSlots f) : m.KeepsTyped f := by
  obtain ⟨d, hd, slots⟩ := h
  exact ⟨slots.typed (typed.frames d hd), d, hd, slots.script⟩

theorem Typed.keepsTyped (typed : m.Typed) (h : f ∈ m.frames) : m.KeepsTyped f :=
  typed.keepsTyped_of_sameSlots ⟨f, h, .refl f⟩

/-- A queue that is left keeps its frames. -/
theorem Typed.leave_frames {q : Queue} (typed : m.Typed) (left : m.left? = some q) (h : f ∈ m.step.frames) :
    m.KeepsTyped f := by
  have hq : q.frames = m.running.frames := by
    unfold left? at left
    repeat' split at left
    all_goals cases left <;> rfl
  rw [step_of_left left] at h
  obtain ⟨d, hd, slots⟩ := sameSlots_yield h
  refine typed.keepsTyped_of_sameSlots ⟨d, mem_frames.mpr ?_, slots⟩
  rw [← hq]
  exact mem_frames.mp hd

section
variable {P : Script → Prop} (closed : Script.Closed P) (source : ∀ {s : Script}, P s → s.FromSource)
include closed source

/-- An instruction leaves the types of the engine, and typed slots in every frame but a fresh one. -/
theorem Typed.execute_frames (typed : m.Typed) (sound : m.Sound P) (here : m.StandsAt g below entry) :
    (m.awake.execute g below entry).engine.registries.types = .builtin ∧
      ∀ f ∈ (m.awake.execute g below entry).frames, m.KeepsTyped f ∨ m.Pushes f := by
  have steps := here.step
  have top := sound.running.sound g (by rw [here.frames]; exact List.mem_cons_self)
  have done := performs (m := m.awake) closed (fun h => (source h).ordered) below sound.gives top here.here
  obtain ⟨types, slots⟩ := perform_typed (m := m.awake) below (source top.script) here.here typed.types
    (typed.frames g here.mem)
  rw [execute_eq] at steps ⊢
  generalize m.awake.perform g below entry = p at done types slots steps ⊢
  obtain ⟨r, e, k⟩ := p
  refine ⟨by rw [registries_conclude]; exact types, fun f h => ?_⟩
  rcases sameSlots_conclude (m := m.awake) done.aside.queues h with ⟨d, hd, like⟩ | ⟨pushed, start⟩
  · rcases List.mem_cons.mp hd with rfl | hd
    · exact Or.inl ⟨like.typed slots, g, here.mem, like.script.trans done.script⟩
    · refine Or.inl (typed.keepsTyped_of_sameSlots ⟨d, mem_frames.mpr ?_, like⟩)
      rw [here.frames]
      exact List.mem_append.mp (List.mem_cons_of_mem _ hd)
  · refine Or.inr ⟨⟨_, steps, pushed.head, ?_⟩, start⟩
    rw [here.frames]
    exact pushed.deeper

/-- After a step of typed queues, the engine has the types that it had, and every frame has typed slots and runs a
    script that ran before, or it is a fresh one. -/
theorem Typed.step_frames (typed : m.Typed) (sound : m.Sound P) :
    (∀ m', m.step = .next m' → m'.engine.registries.types = .builtin) ∧
      ∀ f ∈ m.step.frames, m.KeepsTyped f ∨ m.Pushes f := by
  cases left : m.left? with
  | some q =>
    refine ⟨fun m' next => ?_, fun f h => Or.inl (typed.leave_frames left h)⟩
    rcases leaves_of_left left next with leaves | ⟨failure, c, callers, -, -, rfl⟩
    · obtain ⟨queues, hengine⟩ := leaves.engine
      rw [hengine]
      exact typed.types
    · rw [registries_handle]
      exact typed.types
  | none =>
    obtain ⟨running, kept, gate, wait⟩ := left?_eq_none.mp left
    have steps := step_of_free left
    split at steps
    · rw [steps]
      exact ⟨fun _ next => by cases next; exact typed.types,
        fun f h => Or.inl (typed.keepsTyped (List.mem_append_right _ h))⟩
    · rename_i g below hframes
      split at steps
      · rw [steps]
        refine ⟨fun _ next => by cases next; exact typed.types, fun f h => ?_⟩
        rcases List.mem_append.mp h with h | h
        · obtain ⟨d, hd, slots⟩ := Queue.sameSlots_completeFrame h
          exact Or.inl (typed.keepsTyped_of_sameSlots ⟨d, List.mem_append_left _ hd, slots⟩)
        · exact Or.inl (typed.keepsTyped (List.mem_append_right _ h))
      · rename_i entry here
        obtain ⟨types, frames⟩ := typed.execute_frames closed source sound ⟨running, kept, gate, wait, hframes, here⟩
        rw [steps]
        exact ⟨fun _ next => by cases next; exact types, frames⟩

end

end Machine

/-! ### Fresh frames -/

namespace Frame

variable {script : Script} {vars : Vars} {i : Nat} {v : Value}

/-- A slot of a fresh frame is empty, or holds an initial variable that goes to it. -/
theorem start_slots_cases (h : (start script vars).slots[i]? = some v) :
    v = .null ∨ ∃ b ∈ vars, initialSlot? script (Text.lower b.1) = some i ∧ v = b.2 := by
  rw [start_eq_foldl] at h
  have filled : ∀ f : Frame, f = vars.foldl bind (blank script) → f.Of script ∧ ∀ v, f.slots[i]? = some v →
      v = .null ∨ ∃ b ∈ vars, initialSlot? script (Text.lower b.1) = some i ∧ v = b.2 := by
    rintro f rfl
    refine List.foldlRecOn vars bind (motive := fun f : Frame => f.Of script ∧ ∀ v, f.slots[i]? = some v →
        v = .null ∨ ∃ b ∈ vars, initialSlot? script (Text.lower b.1) = some i ∧ v = b.2)
      ⟨of_blank script, fun v hv => Or.inl ?_⟩ fun f ⟨hf, cases⟩ b hb => ⟨hf.bind b, fun v hv => ?_⟩
    · have blanks := Array.getElem?_replicate (n := script.code.slots.size) (v := Value.null) (i := i)
      split at blanks <;> cases hv.symm.trans blanks
      rfl
    · by_cases hi : initialSlot? script (Text.lower b.1) = some i
      · rw [hf.bind_slot hi] at hv
        obtain ⟨lt, hv⟩ := Array.getElem?_eq_some_iff.mp hv
        refine Or.inr ⟨b, hb, hi, ?_⟩
        rw [← hv]
        exact Array.getElem_setIfInBounds_self _
      · rw [hf.bind_slots_ne hi] at hv
        exact cases v hv
  exact (filled _ rfl).2 v h

/-- A slot that takes an initial variable is that of the predefined variable of its name. -/
theorem predefined_of_initialSlot? {r : Registries} {row : List Instruction} {predefined : List (String × String)}
    (h : compile r row predefined = .ok script.code) {n : String} (hi : initialSlot? script n = some i) :
    ∃ t, predefinedType? predefined n = some t ∧ script.code.slots[i]? = some ⟨n, t⟩ := by
  cases he : script.code.entries[0]? with
  | none =>
    rw [initialSlot?, he] at hi
    cases hi
  | some e =>
    obtain ⟨⟨t, known⟩, -⟩ := predefinedSlot_of_initialSlot? h he hi
    exact ⟨t, known.type, known.declared⟩

end Frame

namespace Machine

/-- What a slot of a frame holds after a step. -/
inductive SlotHolds (m : Machine) (predefined : List (String × String)) (f : Frame) (i : Nat) (s : Slot) : Prop
  /-- `null`, or a value of its type. -/
  | typed (value : (f.slots[i]?.getD .null).HasType s.typeName)
  /-- Anything, if its type is unknown, as that of some predefined variable is. -/
  | unknown (type : ¬IsBuiltinType s.typeName) {p : String × String} (mem : p ∈ predefined) (own : ¬IsBuiltinType p.2)
  /-- In the frame that the step has pushed, what the frame is given for the predefined variable. -/
  | given {vars : Vars} {b : String × Value} (pushes : m.Pushes f) (fresh : f = Frame.start f.script vars)
    (mem : b ∈ vars) (own : predefinedType? predefined (Text.lower b.1) = some s.typeName)
    (name : s.name = Text.lower b.1) (value : f.slots[i]? = some b.2)

/-- Every slot of every frame that is alive after a step holds `null` or a value of its type, unless the step has begun
    a script with an initial value for the variable, which is predefined. -/
theorem Reachable.slotHolds {m : Machine} (h : m.Reachable) (typed : m.Typed) {f : Frame} (hf : f ∈ m.step.frames)
    {row : List Instruction} {predefined : List (String × String)}
    (compiled : compile .builtin row predefined = .ok f.script.code) {i : Nat} {s : Slot}
    (hs : f.script.code.slots[i]? = some s) : m.SlotHolds predefined f i s := by
  by_cases known : IsBuiltinType s.typeName
  · rcases (typed.step_frames Script.closed_fromSource id h.sound).2 f hf with ⟨kept, -⟩ | pushes
    · exact .typed (kept i s hs known)
    · obtain ⟨script, vars, fresh⟩ := pushes.2
      have own : f.script = script := by
        rw [fresh]
        exact (Frame.start_place script vars).2.1
      subst own
      cases hv : f.slots[i]? with
      | none => exact .typed (by rw [hv]; exact Value.null_hasType _)
      | some v =>
        have cases := hv
        rw [fresh] at cases
        rcases Frame.start_slots_cases cases with rfl | ⟨b, hb, hi, rfl⟩
        · exact .typed (by rw [hv]; exact Value.null_hasType _)
        · obtain ⟨t, ht, hslot⟩ := Frame.predefined_of_initialSlot? compiled hi
          cases hs.symm.trans hslot
          exact .given pushes fresh hb ht rfl hv
  · by_cases all : ∀ p ∈ predefined, IsBuiltinType p.2
    · exact absurd (compile_slotsKnown compiled all s (Array.mem_of_getElem? hs)) known
    · obtain ⟨p, mem, own⟩ : ∃ p ∈ predefined, ¬IsBuiltinType p.2 := by simpa using all
      exact .unknown known mem own

/-! ### Beginnings -/

/-- The machine that begins to run a script on a queue of its own. -/
def begin (e : Engine) (script : Script) (vars : Vars) : Machine :=
  ⟨(e.newQueue script vars false false).2, (e.newQueue script vars false false).1, []⟩

/-- A script that adds to a variable that it does not declare. -/
def addition : String :=
  "set n += 1"

theorem Reachable.slotHolds_addition : ∃ (m : Machine) (f : Frame) (row : List Instruction), m.Reachable ∧ m.Typed ∧
    f ∈ m.step.frames ∧ compile .builtin row [("n", "integer")] = .ok f.script.code ∧
      f.slots.toList.map Value.toText = ["42"] ∧ ∀ (i : Nat) (s : Slot), f.script.code.slots[i]? = some s →
        m.SlotHolds [("n", "integer")] f i s := by
  have found : (Script.ofSource .builtin "main" addition [("n", "integer")]).toOption.any (fun (s : Script) =>
      decide (∀ f ∈ (begin { registries := .builtin } s [("n", .integer 41)]).frames, f.Typed) &&
        (begin { registries := .builtin } s [("n", .integer 41)]).step.frames.map
          (fun f => (f.pc, f.slots.toList.map Value.toText)) = [(1, ["42"])]) = true := by
    decide +kernel
  obtain ⟨s, made, found⟩ := (Option.any_eq_true _ _).mp found
  obtain ⟨frames, stepped⟩ := Bool.and_eq_true_iff.mp found
  have made := toOption_eq_some.mp made
  have reachable := Reachable.start Engine.fromSource_new (.source rfl made) [("n", .integer 41)] false false
  have typed : (begin { registries := .builtin } s [("n", .integer 41)]).Typed := ⟨rfl, of_decide_eq_true frames⟩
  obtain ⟨f, hf, values⟩ := List.map_eq_singleton_iff.mp (of_decide_eq_true stepped)
  obtain ⟨pc, values⟩ := Prod.mk.inj values
  have mem : f ∈ (begin { registries := .builtin } s [("n", .integer 41)]).step.frames := by
    rw [hf]
    exact List.mem_cons_self
  -- The frame is the one from before, since it does not stand at its beginning.
  have own : f.script = s := by
    rcases (typed.step_frames Script.closed_fromSource id reachable.sound).2 f mem with ⟨-, d, hd, same⟩ |
        ⟨-, script, vars, fresh⟩
    · obtain rfl := List.mem_singleton.mp hd
      rw [same]
      exact (Frame.start_place s _).2.1
    · have start := congrArg Place.pc (Frame.start_place script vars).1
      rw [← fresh] at start
      cases pc.symm.trans start
  obtain ⟨row, compiled⟩ := Script.compile_of_ofSource made
  rw [← own] at compiled
  exact ⟨_, f, row, reachable, typed, mem, compiled, values, fun i s hs => reachable.slotHolds typed mem compiled hs⟩

/-- A script that shows a variable that it does not declare. -/
def display : String :=
  "echo <\x7bvar[n]\x7d>"

/-- What a function is called with is not made a value of the type that is predefined. -/
theorem Reachable.called_mistyped : ∃ function main : Script,
    Script.ofSource .builtin "f" display [("n", "integer")] = .ok function ∧
    Script.ofSource .builtin "main" "call f --n=abc" [] = .ok main ∧
    (begin (Engine.registerFunction { registries := .builtin } "f" function) main []).Reachable ∧
    (begin (Engine.registerFunction { registries := .builtin } "f" function) main []).Typed ∧
    ∃ f ∈ (begin (Engine.registerFunction { registries := .builtin } "f" function) main []).step.frames,
      f.script.name = "f" ∧ f.script.code.slots.toList = [⟨"n", "integer"⟩] ∧
        f.slots.toList.map Value.toText = ["abc"] ∧ ¬f.Typed := by
  have found : (Script.ofSource .builtin "f" display [("n", "integer")]).toOption.any (fun function =>
      (Script.ofSource .builtin "main" "call f --n=abc" []).toOption.any fun main =>
        decide (∀ f ∈ (begin (Engine.registerFunction { registries := .builtin } "f" function) main []).frames,
          f.Typed) &&
        (begin (Engine.registerFunction { registries := .builtin } "f" function) main []).step.frames.any fun f =>
          f.script.name = "f" ∧ f.script.code.slots.toList = [⟨"n", "integer"⟩] ∧
            f.slots.toList.map Value.toText = ["abc"] ∧ ¬f.Typed) = true := by
    decide +kernel
  obtain ⟨function, made, found⟩ := (Option.any_eq_true _ _).mp found
  obtain ⟨main, begun, found⟩ := (Option.any_eq_true _ _).mp found
  obtain ⟨frames, stepped⟩ := Bool.and_eq_true_iff.mp found
  have made := toOption_eq_some.mp made
  have begun := toOption_eq_some.mp begun
  have engine : (Engine.registerFunction { registries := .builtin } "f" function).FromSource :=
    Engine.fromSource_iff.mpr ((Engine.fromSource_iff.mp Engine.fromSource_new).registerFunction _ (.source rfl made))
  obtain ⟨f, hf, mistyped⟩ := List.any_eq_true.mp stepped
  exact ⟨function, main, made, begun, .start engine (.source rfl begun) [] false false,
    ⟨rfl, of_decide_eq_true frames⟩, f, hf, of_decide_eq_true mistyped⟩

end Machine

/-! ### Runs without predefined variables -/

/-- A script from a source text that gives no slot to any initial variable. -/
structure Script.Free (s : Script) : Prop where
  source : s.FromSource
  none : ∀ n, Frame.initialSlot? s n = Option.none

theorem Script.no_initialSlot {r : Registries} {row : List Instruction} {s : Script}
    (h : compile r row [] = .ok s.code) (n : String) : Frame.initialSlot? s n = none := by
  cases hi : Frame.initialSlot? s n with
  | none => rfl
  | some i =>
    obtain ⟨t, ht, -⟩ := Frame.predefined_of_initialSlot? h hi
    cases ht

theorem Script.closed_free : Script.Closed Script.Free where
  block commands origin here block made := by
    refine ⟨.block commands origin.source here block made, ?_⟩
    obtain ⟨code, hc, h⟩ := bind_eq_ok.mp made
    cases h
    exact no_initialSlot hc
  report {r} commands name verbosity text := by
    refine ⟨.report commands name verbosity text, ?_⟩
    unfold ofReport
    dsimp only
    split
    · rename_i code hcode
      exact no_initialSlot hcode
    · exact no_initialSlot (compile_nil r)

namespace Machine

variable {m m' : Machine}

/-- A fresh frame of such a script has empty slots. -/
theorem typed_start {script : Script} (free : script.Free) (vars : Vars) : (Frame.start script vars).Typed := by
  intro i s _ _
  cases hv : (Frame.start script vars).slots[i]? with
  | none => exact Value.null_hasType _
  | some v =>
    rcases Frame.start_slots_cases hv with rfl | ⟨b, -, hi, -⟩
    · exact Value.null_hasType _
    · rw [free.none] at hi
      cases hi

theorem Typed.step (typed : m.Typed) (sound : m.Sound Script.Free) (next : m.step = .next m') : m'.Typed := by
  obtain ⟨types, frames⟩ := typed.step_frames Script.closed_free Script.Free.source sound
  refine ⟨types m' next, fun f hf => ?_⟩
  have after := sound.step Script.closed_free (fun h => h.source.ordered) next
  rcases frames f (by rw [next]; exact hf) with
    ⟨kept, -⟩ | ⟨⟨m'', next', pushed⟩, script, vars, fresh⟩
  · exact kept
  · cases next.symm.trans next'
    have free := (after.running.sound f (List.mem_of_mem_head? pushed.head)).script
    rw [fresh, (Frame.start_place script vars).2.1] at free
    rw [fresh]
    exact typed_start free vars

/-- Along a whole run, all slots stay typed, if no script that the engine gives has predefined variables. -/
theorem Typed.after? {steps : Nat} (typed : m.Typed) (sound : m.Sound Script.Free) (h : m.after? steps = some m') :
    m'.Typed := by
  induction steps generalizing m with
  | zero =>
    cases h
    exact typed
  | succ steps ih =>
    rw [Machine.after?] at h
    split at h
    · rename_i next
      exact ih (typed.step sound next) (sound.step Script.closed_free (fun h => h.source.ordered) next) h
    · cases h

theorem typed_begin {e : Engine} (types : e.registries.types = .builtin) (idle : e.queues = []) {script : Script}
    (free : script.Free) (vars : Vars) : (begin e script vars).Typed := by
  refine ⟨types, fun f hf => ?_⟩
  rcases mem_frames.mp hf with hf | hf
  · obtain rfl := List.mem_singleton.mp hf
    exact typed_start free vars
  · unfold others begin Engine.newQueue at hf
    rw [show ({ e with nextId := e.nextId + 1 } : Engine).queues = [] from idle] at hf
    exact absurd hf List.not_mem_nil

/-- The frames of scripts without predefined variables are such that what their chains give has its static type. -/
theorem Typed.slotsTyped {f : Frame} (typed : m.Typed) (hf : f ∈ m.frames) {row : List Instruction}
    (compiled : compile .builtin row [] = .ok f.script.code) : SlotsTyped f.script.code.slots f.slots :=
  (typed.frames f hf).slotsTyped (compile_slotsKnown compiled (fun _ hp => absurd hp List.not_mem_nil))

end Machine

end CommandScript
