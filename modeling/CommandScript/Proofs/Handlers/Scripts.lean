import CommandScript.Proofs.Handlers.Changes
import CommandScript.Proofs.Structured.Acts

/-! What scripts change about handlers. Only an instruction `event` does: its arguments say which change it makes, and
    it makes that one or none. A machine goes through the changes of its instructions, one after another. -/

namespace CommandScript

/-! ### One instruction -/

namespace Scene

/-- The priority that an instruction gives to its handler: zero, unless a fourth argument says another. -/
def priority? (s : Scene) (entry : Entry) : Option Int :=
  if entry.args.length = 4 then do
    let value ← (s.argument entry 3).toOption
    let n ← value.asInteger?
    if minPriority ≤ n.toInt ∧ n.toInt ≤ maxPriority then some n.toInt else none
  else some 0

/-- The block of an instruction as a script. -/
def body? (s : Scene) (entry : Entry) (name : String) : Option Script := do
  let block ← entry.instruction.block
  (Script.ofBlock s.engine.registries name s.frame.script block).toOption

/-- The change that the arguments of an instruction `event` ask for. There is none if one of them cannot be evaluated,
    and no handler is added if the priority or the block is not a valid one. -/
def handlerChange? (s : Scene) (entry : Entry) : Option Change := do
  let action ← (s.argument entry 0).toOption
  let event ← (s.argument entry 1).toOption
  let name ← (s.argument entry 2).toOption
  if Text.lower action.toText = "remove" then
    return .remove (Text.lower event.toText) (Text.lower name.toText)
  let priority ← s.priority? entry
  let script ← s.body? entry (Text.lower name.toText)
  return .add (Text.lower event.toText) ⟨Text.lower name.toText, script, priority, true⟩

/-- The names of a change that a script makes are in lower case. -/
theorem lower_of_handlerChange? {s : Scene} {entry : Entry} {c : Change} (h : s.handlerChange? entry = some c) :
    c.Lower := by
  obtain ⟨action, -, h⟩ := Option.bind_eq_some_iff.mp h
  obtain ⟨event, -, h⟩ := Option.bind_eq_some_iff.mp h
  obtain ⟨name, -, h⟩ := Option.bind_eq_some_iff.mp h
  split at h
  · cases h
    exact ⟨Text.lower_lower _, Text.lower_lower _⟩
  · obtain ⟨priority, -, h⟩ := Option.bind_eq_some_iff.mp h
    obtain ⟨script, -, h⟩ := Option.bind_eq_some_iff.mp h
    cases h
    exact ⟨Text.lower_lower _, Text.lower_lower _⟩

end Scene

namespace Act

theorem on_priorityArg (site : Site) (s : Scene) :
    ∃ r, priorityArg.on site s = (r, s) ∧ r.toOption = s.priority? site.entry := by
  unfold priorityArg Scene.priority?
  rw [on_bind, on_argCount]
  dsimp only
  by_cases four : site.entry.args.length = 4
  · rw [if_neg (not_not.mpr four), if_pos four, on_bind, on_arg]
    cases s.argument site.entry 3 with
    | error f => exact ⟨_, rfl, rfl⟩
    | ok value =>
      dsimp only
      cases hn : value.asInteger? with
      | none => exact ⟨_, rfl, by simp [Except.toOption, hn]⟩
      | some n =>
        by_cases range : minPriority ≤ n.toInt ∧ n.toInt ≤ maxPriority
        · dsimp only
          rw [if_pos range]
          exact ⟨_, rfl, by simp [Except.toOption, hn, range]⟩
        · dsimp only
          rw [if_neg range]
          exact ⟨_, rfl, by simp [Except.toOption, hn, range]⟩
  · rw [if_pos four, if_neg four]
    exact ⟨_, rfl, rfl⟩

theorem on_bodyScript (name : String) (site : Site) (s : Scene) :
    ∃ r, (bodyScript name).on site s = (r, s) ∧ r.toOption = s.body? site.entry name := by
  unfold bodyScript Scene.body?
  rw [on_bind, on_instruction]
  dsimp only
  cases site.entry.instruction.block with
  | none => exact ⟨_, rfl, rfl⟩
  | some block =>
    dsimp only
    rw [on_bind, on_get]
    dsimp only
    rw [on_bind, on_frame]
    dsimp only
    cases hs : Script.ofBlock s.engine.registries name s.frame.script block with
    | ok script => exact ⟨_, rfl, by simp [Except.toOption, hs]⟩
    | error e => exact ⟨_, rfl, by simp [Except.toOption, hs]⟩

/-- What does nothing to handlers, at the end of something. -/
theorem Spares.sameLists {x : Act α} (h : Spares .noop x) (site : Site) (s : Scene) :
    Engine.SameLists s.engine (x.on site s).2.engine :=
  ⟨(h site s).events nofun, (h site s).autorun⟩

/-- An instruction `event` makes the change that its arguments ask for. -/
theorem event_changes (site : Site) (s : Scene) :
    Engine.SameLists ((s.handlerChange? site.entry).toList.foldl Change.make s.engine)
    (event.on site s).2.engine := by
  unfold event Scene.handlerChange?
  -- The arguments are read one after another; where one fails, nothing has been changed.
  rw [on_bind, on_argText]
  cases s.argument site.entry 0 with
  | error f => exact .refl _
  | ok action =>
  dsimp only [Except.map]
  rw [on_bind, on_argText]
  cases s.argument site.entry 1 with
  | error f => exact .refl _
  | ok event =>
  dsimp only [Except.map]
  rw [on_bind, on_argText]
  cases s.argument site.entry 2 with
  | error f => exact .refl _
  | ok name =>
  dsimp only [Except.map, Except.toOption, Option.bind_eq_bind, Option.bind_some]
  by_cases remove : Text.lower action.toText = "remove"
  · rw [if_pos remove, if_pos remove, on_bind, on_get]
    dsimp only
    rw [on_bind, on_modify]
    dsimp only
    -- What follows a change only sends a message, and goes on behind the block.
    refine Spares.sameLists ?_ site
      ⟨(s.engine.removeHandler (Text.lower event.toText) (Text.lower name.toText)).2, s.frame⟩
    split
    · exact (spares_say _ _).map _
    · exact (spares_say _ _).map _
  · rw [if_neg remove, if_neg remove, on_bind]
    obtain ⟨r, priority, same⟩ := on_priorityArg site s
    rw [priority, ← same]
    cases r with
    | error f => exact .refl _
    | ok n =>
    dsimp only [Except.toOption, Option.bind_some]
    rw [on_bind]
    obtain ⟨r, body, same⟩ := on_bodyScript (Text.lower name.toText) site s
    rw [body, ← same]
    cases r with
    | error f => exact .refl _
    | ok script =>
    dsimp only [Except.toOption, Option.bind_some]
    rw [on_bind, on_modify, Text.lower_lower]
    dsimp only
    refine Spares.sameLists ?_ site ⟨s.engine.registerHandler (Text.lower event.toText) _, s.frame⟩
    exact (spares_say _ _).bind fun _ => (spares_skipBlock (a := .noop) nofun).map _

end Act

/-! ### Machines -/

namespace Machine

variable {m m' : Machine} {f g : Frame} {below : List Frame} {entry : Entry} {r : Except ScriptError Flow}
  {e : Engine}

/-- The changes that an instruction of a frame makes: none unless its command is `event`. -/
def changesOf (m : Machine) (f : Frame) (entry : Entry) : List Change :=
  match entry.command.map Command.action with
  | some .event => (Scene.handlerChange? ⟨m.engine, f.next⟩ entry).toList
  | _ => []

/-- The changes that the next step of a machine makes: those of the instruction that is next, if the queue runs on. -/
def changes (m : Machine) : List Change :=
  match m.left?, m.running.frames with
  | none, f :: _ =>
    match f.script.code.entries[f.pc]? with
    | some entry => m.changesOf f entry
    | none => []
  | _, _ => []

theorem changesOf_of_ne (other : ∀ c, entry.command = some c → c.action ≠ .event) : m.changesOf f entry = [] := by
  unfold changesOf
  split
  · rename_i event
    obtain ⟨c, hc, action⟩ := Option.map_eq_some_iff.mp event
    exact absurd action (other c hc)
  · rfl

theorem lower_of_changes {c : Change} (h : c ∈ m.changes) : c.Lower := by
  unfold changes at h
  split at h
  · split at h
    · unfold changesOf at h
      split at h
      · exact Scene.lower_of_handlerChange? (Option.mem_toList.mp h)
      · cases h
    · cases h
  · cases h

theorem perform_changes (performed : m.perform f below entry = (r, e, g)) :
    Engine.SameLists ((m.changesOf f entry).foldl Change.make m.engine) e := by
  cases hc : entry.command with
  | none =>
    obtain ⟨rfl, -⟩ := perform_of_none hc performed
    rw [changesOf_of_ne fun c h => by rw [hc] at h; cases h]
    exact .refl _
  | some c =>
    by_cases event : c.action = .event
    · rw [changesOf, hc, Option.map_some, event]
      rw [perform, hc] at performed
      dsimp only at performed
      rw [event] at performed
      cases performed
      exact Act.event_changes ⟨entry, f.pc, below.length + 1, m.running.delayable, m.running.ownOutput⟩
        ⟨m.engine, f.next⟩
    · have spares := perform_spares hc performed
      rw [changesOf_of_ne fun d h => by rw [hc] at h; cases h; exact event]
      exact ⟨spares.events event, spares.autorun⟩

theorem sameLists_handle (m : Machine) (error : ScriptError) : Engine.SameLists m.engine (m.handle error).engine := by
  obtain ⟨_, _, -, handled⟩ := engine_handle m error
  rw [handled]
  exact ⟨rfl, rfl⟩

/-- However an instruction concludes, the handlers and the scheduled scripts are those that it has left. -/
theorem sameLists_conclude (m : Machine) (below : List Frame) (r : Except ScriptError Flow) (e : Engine) (g : Frame) :
    Engine.SameLists e (m.conclude below (r, e, g)).engine := by
  cases r with
  | error error => exact sameLists_handle (m.withFrames e (g :: below)) error
  | ok flow =>
    cases flow with
    | pause seconds | await gate =>
      unfold conclude follow
      dsimp only
      split <;> exact ⟨rfl, rfl⟩
    | proceed | completeFrame | stopQueue | enter _ _ | launch _ _ _ => exact ⟨rfl, rfl⟩

/-- A step makes its changes, and leaves all other handlers and all that is scheduled alone. -/
theorem step_changes (next : m.step = .next m') :
    Engine.SameLists (m.changes.foldl Change.make m.engine) m'.engine := by
  rcases step_cases next with
    (leaves | givesUp) | ⟨free, ⟨hnil, rfl⟩ | ⟨f, below, frames, finished, rfl⟩ | ⟨f, below, entry, at_, rfl⟩⟩
  · obtain ⟨q, left, -⟩ := leaves.left
    obtain ⟨queues, engine⟩ := leaves.engine
    rw [engine, changes, left]
    exact ⟨rfl, rfl⟩
  · rw [changes, givesUp.left]
    obtain ⟨failure, c, callers, -, -, rfl⟩ := givesUp
    exact sameLists_handle ⟨m.engine, c.queue, callers⟩ failure.toScriptError
  · rw [changes, free, hnil]
    exact ⟨rfl, rfl⟩
  · rw [changes, free, frames]
    dsimp only
    rw [finished]
    exact .refl _
  · rw [changes, free, at_.frames]
    dsimp only
    rw [at_.here, execute_eq]
    generalize performed : m.awake.perform f below entry = p
    obtain ⟨r, e, g⟩ := p
    exact (perform_changes performed).trans (sameLists_conclude m.awake below r e g)

end Machine

end CommandScript
