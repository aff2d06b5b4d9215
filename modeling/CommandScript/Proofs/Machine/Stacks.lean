import CommandScript.Engine.Host
import CommandScript.Proofs.Machine.Commands
import CommandScript.Proofs.Structured.Errors

/-! Stacks of frames, and what a step does to one. The innermost frame advances, and then a frame may be put on it, or
    it is left with others on top of the frame that goes on; a stack can also end. Sound stacks stay sound. -/

namespace CommandScript

/-! ### Frames -/

/-- A frame whose place lies in its script and is not discarded, with a value in each slot and loops that can have
    come as far as they have. -/
structure Frame.Sound (P : Script → Prop) (f : Frame) : Prop where
  script : P f.script
  floor : f.floor ≤ f.pc
  pc : f.pc ≤ f.script.code.entries.size
  slots : f.slots.size = f.script.code.slots.size
  loops : ∀ loop ∈ f.loops, loop.2.Valid

/-- A frame that waits for a script it has called. -/
def Frame.Calling (f : Frame) : Prop :=
  ∃ entry, f.current? = some entry ∧ entry.instruction.name = "call"

/-- A frame goes on where it is, or at a later instruction. -/
structure Frame.Resumes (f g : Frame) : Prop where
  script : g.script = f.script
  slots : g.slots = f.slots
  floor : g.floor = f.floor
  loops : g.loops = f.loops
  le : f.pc ≤ g.pc
  within : g.pc = f.pc ∨ g.pc < f.script.code.entries.size

theorem Frame.Resumes.refl (f : Frame) : f.Resumes f :=
  ⟨rfl, rfl, rfl, rfl, Nat.le_refl _, Or.inl rfl⟩

/-- A frame runs the instruction it stands at, and goes on where that leaves it or at a later one. -/
def Frame.Advances (f g : Frame) : Prop :=
  ∃ entry k, ∃ r : Except ScriptError Flow, f.script.code.entries[f.pc]? = some entry ∧ k.script = f.script ∧
    k.slots.size = f.slots.size ∧ f.next.Moves f.pc entry k r ∧ k.Resumes g

theorem Frame.Advances.script {f g : Frame} (h : f.Advances g) : g.script = f.script := by
  obtain ⟨_, k, _, -, hscript, -, -, resumes⟩ := h
  exact resumes.script.trans hscript

/-- What an instruction discards stays discarded. -/
theorem Frame.Moves.floor_le {ε : Type} {index : Nat} {entry : Entry} {f g : Frame} {r : Except ε Flow}
    (h : f.Moves index entry g r) (floor : f.floor ≤ f.pc) : f.floor ≤ g.floor := by
  cases h with
  | goto _ _ _ lt hfloor => omega
  | stay _ hfloor | skip _ _ _ hfloor | begin _ _ hfloor | back _ _ _ _ _ _ _ hfloor | stuck _ _ _ _ hfloor
    | ended _ _ hfloor => exact Nat.le_of_eq hfloor.symm

theorem mem_eraseKey [BEq κ] {key : κ} {pairs : List (κ × α)} {pair : κ × α} (h : pair ∈ eraseKey key pairs) :
    pair ∈ pairs :=
  (List.mem_filter.mp h).1

namespace Frame.Sound

variable {P : Script → Prop} {f g : Frame} (h : f.Sound P)
include h

theorem resumes (r : f.Resumes g) : g.Sound P where
  script := by rw [r.script]; exact h.script
  floor := Nat.le_trans (Nat.le_of_eq r.floor) (Nat.le_trans h.floor r.le)
  pc := by
    have := h.pc
    have := r.within
    rw [r.script]
    omega
  slots := by rw [r.slots, r.script]; exact h.slots
  loops := by rw [r.loops]; exact h.loops

/-- An instruction leaves its frame sound. -/
theorem moves {entry : Entry} (here : f.script.code.entries[f.pc]? = some entry) (ordered : f.script.code.Ordered)
    {ε : Type} {r : Except ε Flow} (m : f.next.Moves f.pc entry g r) (script : g.script = f.script)
    (slots : g.slots.size = f.slots.size) : g.Sound P := by
  have hlt : f.pc < f.script.code.entries.size := Code.Ordered.lt_size here
  have next : f.next.pc = f.pc + 1 := rfl
  have hfloor : f.next.floor ≤ f.pc := h.floor
  have set : ∀ {owner : Nat} {state : LoopState}, state.Valid → ∀ loop ∈ setKey owner state f.next.loops,
      loop.2.Valid := fun valid loop hm => by
    rcases mem_setKey hm with rfl | hm
    · exact valid
    · exact h.loops loop hm
  suffices facts : g.floor ≤ g.pc ∧ g.pc ≤ f.script.code.entries.size ∧ ∀ loop ∈ g.loops, loop.2.Valid from
    ⟨script ▸ h.script, facts.1, script ▸ facts.2.1, by rw [slots, script]; exact h.slots, facts.2.2⟩
  cases m with
  | stay pc floor loops => exact ⟨by omega, by omega, by rw [loops]; exact h.loops⟩
  | skip block pc le floor loops =>
    obtain ⟨hstart, hle, -⟩ := ordered.block here block
    exact ⟨by omega, le, by rw [loops]; exact h.loops⟩
  | begin valid pc floor loops => exact ⟨by omega, by omega, by rw [loops]; exact set valid⟩
  | back callbackOf hereO block running hnext free pc floor loops =>
    obtain ⟨hstart, -, hstop, -⟩ := ordered.block hereO block
    have owner : _ < f.script.code.entries.size := Code.Ordered.lt_size hereO
    have valid := h.loops _ (mem_of_lookup running)
    exact ⟨by omega, by omega, by rw [loops]; exact set (valid.next hnext)⟩
  | stuck callbackOf running hnext pc floor loops =>
    have valid := h.loops _ (mem_of_lookup running)
    exact ⟨by omega, by omega, by rw [loops]; exact set (valid.next hnext)⟩
  | ended callbackOf pc floor loops =>
    exact ⟨by omega, by omega, by rw [loops]; exact fun loop hm => h.loops loop (mem_eraseKey hm)⟩
  | goto _ hereM name lt floor loops =>
    have mark : g.pc - 1 < f.script.code.entries.size := Code.Ordered.lt_size hereM
    exact ⟨by omega, by omega, by rw [loops]; exact h.loops⟩

theorem advances (ordered : f.script.code.Ordered) (a : f.Advances g) : g.Sound P ∧ f.floor ≤ g.floor := by
  obtain ⟨entry, k, r, here, script, slots, moves, resumes⟩ := a
  refine ⟨(h.moves here ordered moves script slots).resumes resumes, ?_⟩
  rw [resumes.floor]
  exact moves.floor_le (Nat.le_succ_of_le h.floor)

end Frame.Sound

theorem Frame.sound_start {P : Script → Prop} {script : Script} (h : P script) (vars : Vars) :
    (Frame.start script vars).Sound P := by
  obtain ⟨hplace, hscript, hslots⟩ := Frame.start_place script vars
  have hpc : (Frame.start script vars).pc = 0 := congrArg Place.pc hplace
  have hfloor : (Frame.start script vars).floor = 0 := congrArg Place.floor hplace
  have hloops : (Frame.start script vars).loops = [] := congrArg Place.loops hplace
  refine ⟨by rw [hscript]; exact h, by omega, by omega, by rw [hslots, hscript], ?_⟩
  rw [hloops]
  exact fun _ hm => absurd hm List.not_mem_nil

/-! ### Stacks -/

/-- A stack of sound frames, not too many, of which all but the innermost wait for a script they have called. -/
structure SoundStack (P : Script → Prop) (frames : List Frame) : Prop where
  sound : ∀ f ∈ frames, f.Sound P
  depth : frames.length ≤ maxCallDepth
  calling : ∀ f ∈ frames.tail, f.Calling

/-- What a step makes of a stack. -/
inductive Progress (P : Script → Prop) : List Frame → List Frame → Prop
  /-- The innermost frame goes on. -/
  | moved {f g : Frame} {below : List Frame} (advances : f.Advances g) : Progress P (f :: below) (g :: below)
  /-- A script that the innermost frame calls begins. -/
  | entered {f g : Frame} {below : List Frame} {script : Script} {vars : Vars} (advances : f.Advances g)
    (calling : g.Calling) (room : below.length + 1 < maxCallDepth) (gives : P script) :
    Progress P (f :: below) (Frame.start script vars :: g :: below)
  /-- Frames end, and the one below them goes on. -/
  | left {above below : List Frame} {f g : Frame} (ends : above ≠ []) (resumes : f.Resumes g) :
    Progress P (above ++ f :: below) (g :: below)
  /-- All frames end. -/
  | ended (frames : List Frame) : Progress P frames []

theorem SoundStack.below {P : Script → Prop} {above below : List Frame} {f : Frame}
    (h : SoundStack P (above ++ f :: below)) : SoundStack P (f :: below) where
  sound g hg := h.sound g (List.mem_append_right _ hg)
  depth := by
    have := h.depth
    rw [List.length_append] at this
    omega
  calling g hg := by
    refine h.calling g ?_
    cases above with
    | nil => exact hg
    | cons _ above => exact List.mem_append_right _ (List.mem_cons_of_mem _ hg)

/-- The innermost frame of a sound stack may be any sound frame. -/
theorem SoundStack.top {P : Script → Prop} {below : List Frame} {f g : Frame} (h : SoundStack P (f :: below))
    (sound : g.Sound P) : SoundStack P (g :: below) where
  sound k hk := by
    rcases List.mem_cons.mp hk with rfl | hk
    · exact sound
    · exact h.sound k (List.mem_cons_of_mem _ hk)
  depth := h.depth
  calling := h.calling

theorem soundStack_nil {P : Script → Prop} : SoundStack P [] :=
  ⟨fun _ h => absurd h List.not_mem_nil, Nat.zero_le _, fun _ h => absurd h List.not_mem_nil⟩

theorem soundStack_start {P : Script → Prop} {script : Script} (h : P script) (vars : Vars) :
    SoundStack P [Frame.start script vars] where
  sound f hf := by
    rw [List.mem_singleton.mp hf]
    exact Frame.sound_start h vars
  depth := show 1 ≤ maxCallDepth by decide
  calling f hf := absurd hf List.not_mem_nil

theorem SoundStack.progress {P : Script → Prop} (ordered : ∀ {s : Script}, P s → s.code.Ordered)
    {frames frames' : List Frame} (h : SoundStack P frames) (p : Progress P frames frames') :
    SoundStack P frames' := by
  cases p with
  | moved advances =>
    have sound := h.sound _ List.mem_cons_self
    exact h.top (sound.advances (ordered sound.script) advances).1
  | entered advances calling room gives =>
    have sound := h.sound _ List.mem_cons_self
    have next := h.top (sound.advances (ordered sound.script) advances).1
    refine ⟨fun k hk => ?_, room, fun k hk => ?_⟩
    · rcases List.mem_cons.mp hk with rfl | hk
      · exact Frame.sound_start gives _
      · exact next.sound k hk
    · rcases List.mem_cons.mp hk with rfl | hk
      · exact calling
      · exact next.calling k hk
  | left _ resumes =>
    have next := h.below
    exact next.top ((next.sound _ List.mem_cons_self).resumes resumes)
  | ended => exact soundStack_nil

/-! ### Errors -/

theorem boundary?_bounds {f : Frame} {target : Nat} (h : Machine.boundary? f = some target) :
    f.pc ≤ target ∧ ∃ entry, f.script.code.entries[target]? = some entry ∧ entry.Catches f.pc := by
  obtain ⟨offset, hfound, rfl⟩ := Option.map_eq_some_iff.mp h
  obtain ⟨hlt, hcatches, -⟩ := List.findIdx?_eq_some_iff_getElem.mp hfound
  rw [List.getElem_drop, catches_iff] at hcatches
  refine ⟨Nat.le_add_right _ _, _, ?_, hcatches⟩
  rw [← Array.getElem?_toList]
  exact List.getElem?_eq_getElem _

theorem caughtAt_resumes {f : Frame} {target : Nat} (h : Machine.boundary? f = some target) (trace : String) :
    f.Resumes (Machine.caughtAt f target trace) := by
  obtain ⟨hle, entry, here, -⟩ := boundary?_bounds h
  have hlt : target < f.script.code.entries.size := Code.Ordered.lt_size here
  unfold Machine.caughtAt
  dsimp only
  split
  · exact ⟨rfl, rfl, rfl, rfl, hle, Or.inr hlt⟩
  · exact ⟨rfl, rfl, rfl, rfl, hle, Or.inr hlt⟩

/-- An error is caught by the innermost frame that has a boundary for it. -/
theorem catchError_eq_some {trace : String} {frames frames' : List Frame}
    (h : Machine.catchError trace frames = some frames') : ∃ above f below target, frames = above ++ f :: below ∧
      Machine.boundary? f = some target ∧ frames' = Machine.caughtAt f target trace :: below := by
  induction frames with
  | nil => cases h
  | cons f rest ih =>
    rw [Machine.catchError] at h
    split at h
    · rename_i target ht
      cases h
      exact ⟨[], f, rest, target, rfl, ht, rfl⟩
    · obtain ⟨above, d, below, target, rfl, hd, rfl⟩ := ih h
      exact ⟨f :: above, d, below, target, rfl, hd, rfl⟩

end CommandScript
