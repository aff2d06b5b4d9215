import CommandScript.Proofs.Handlers.Scripts
import CommandScript.Proofs.Machine.Accords
import CommandScript.Proofs.Machine.Messages
import CommandScript.Proofs.Machine.Unwinding

/-! Instructions that fail. Most commands change nothing in an engine but the messages sent and the scripts loaded,
    whatever they come to. `once`, `function` and `event` do, but only when nothing can fail any more. -/

namespace CommandScript

/-! ### Commands that change nothing -/

namespace Engine

/-- An engine after some messages, with some scripts loaded. -/
def Cached (e e' : Engine) : Prop :=
  ∃ outbox scripts, (e.outbox.Whole → outbox.Whole) ∧ e' = { e with outbox := outbox, scripts := scripts }

namespace Cached

theorem refl (e : Engine) : Cached e e :=
  ⟨e.outbox, e.scripts, id, rfl⟩

theorem post {e e' : Engine} (h : Cached e e') (m : Message) : Cached e ((post m).on e').2 := by
  obtain ⟨outbox, scripts, whole, rfl⟩ := h
  rw [on_post]
  exact ⟨_, scripts, fun h => whole_send (e := { e with outbox := outbox }) (whole h) [m], rfl⟩

theorem keep {e e' : Engine} (h : Cached e e') (key : String) (s : Script) :
    Cached e { e' with scripts := setKey key s e'.scripts } := by
  obtain ⟨outbox, scripts, whole, rfl⟩ := h
  exact ⟨outbox, setKey key s scripts, whole, rfl⟩

/-- One engine, on its way from `e`. -/
theorem library (e : Engine) : Library fun a b => b = a ∧ Cached e a where
  registries := by
    rintro a b ⟨rfl, -⟩
    rfl
  post m := by
    rintro a b ⟨rfl, h⟩
    exact ⟨rfl, rfl, h.post m⟩
  functions := by
    rintro a b ⟨rfl, -⟩
    rfl
  scripts := by
    rintro a b ⟨rfl, -⟩
    rfl
  loader := by
    rintro a b ⟨rfl, -⟩
    rfl
  extension := by
    rintro a b ⟨rfl, -⟩
    rfl
  verbosity := by
    rintro a b ⟨rfl, -⟩
    rfl
  keep := by
    rintro a b ⟨rfl, h⟩ key s
    exact ⟨rfl, h.keep key s⟩

end Cached

end Engine

/-- The commands that change nothing that an engine keeps for all queues. -/
def Action.changesNothing (a : Action) : Prop :=
  a ≠ .once ∧ a ≠ .function ∧ a ≠ .event

theorem Action.cached_of_changesNothing {a : Action} (h : a.changesNothing) (site : Site) (s : Scene) :
    s.engine.Cached (a.perform.on site s).2.engine := by
  have library := Engine.Cached.library s.engine
  have accords : a.perform.Accords fun e e' => e' = e ∧ s.engine.Cached e := by
    cases a with
    | once => exact absurd rfl h.1
    | function => exact absurd rfl h.2.1
    | event => exact absurd rfl h.2.2
    | call => exact Act.accords_call library
    | run => exact Act.accords_launch library
    | _ => exact Action.accords_of_isSolitary library.toAccord rfl
  exact (accords site s.frame ⟨rfl, .refl _⟩).engine.2

/-! ### Commands that change something -/

namespace Act

theorem on_onceMode (site : Site) (s : Scene) : ∃ r, onceMode.on site s = (r, s) := by
  unfold onceMode
  rw [on_bind, on_argCount]
  dsimp only
  split
  · rw [on_bind, on_argText]
    cases s.argument site.entry 1 with
    | error f => exact ⟨_, rfl⟩
    | ok word =>
      dsimp only [Except.map]
      split <;> exact ⟨_, rfl⟩
  · exact ⟨_, rfl⟩

/-- The frame has just passed the instruction, in a script in order, and nothing behind it is discarded. -/
structure Passed (site : Site) (f : Frame) : Prop where
  here : f.script.code.entries[site.index]? = some site.entry
  ordered : f.script.code.Ordered
  floor : f.floor ≤ site.index

section
variable {site : Site} {s t : Scene} {f : Failure}

theorem say_succeeds {kind : MessageKind} {text : String} {k : Unit → Act α} (whole : s.engine.outbox.Whole)
    (hk : ∀ e, (k ()).on site ⟨e, s.frame⟩ ≠ (.error f, t)) : (say kind text >>= k).on site s ≠ (.error f, t) := by
  rw [on_bind, on_say_whole whole]
  exact hk _

theorem skipBlock_succeeds (passed : Passed site s.frame) :
    (do skipBlock; return Flow.proceed : Act Flow).on site s ≠ (.error f, t) := by
  obtain ⟨pc, skipped, -⟩ := on_skipBlock_ordered passed.here passed.ordered passed.floor
  rw [on_bind, skipped]
  nofun

end

section
variable {site : Site} {s t : Scene} {f : Failure} (whole : s.engine.outbox.Whole)
include whole

/-- A name is recorded only where it is new, and then nothing fails. -/
theorem recordOnce_error {id : String} {mode : OnceMode} (failed : (recordOnce id mode).on site s = (.error f, t)) :
    t = s := by
  unfold recordOnce at failed
  rw [on_bind, on_get] at failed
  dsimp only at failed
  rw [on_bind, on_modify] at failed
  dsimp only at failed
  by_cases seen : s.engine.once.contains (Text.lower id) = true
  · simp only [Engine.markOnce, seen, if_true, Bool.false_eq_true, if_false] at failed
    cases mode with
    | error =>
      cases failed
      rfl
    | warning => exact absurd failed (say_succeeds whole nofun)
    | quiet => cases failed
  · simp only [Engine.markOnce, seen, if_true, Bool.false_eq_true, if_false] at failed
    exact absurd failed (say_succeeds whole nofun)

theorem enterOnce_error (failed : enterOnce.on site s = (.error f, t)) : t = s := by
  unfold enterOnce at failed
  rw [on_bind, on_argText] at failed
  cases text : s.argument site.entry 0 with
  | error g =>
    rw [text] at failed
    cases failed
    rfl
  | ok text' =>
    rw [text] at failed
    dsimp only [Except.map] at failed
    obtain ⟨r, mode⟩ := on_onceMode site s
    rw [on_bind, mode] at failed
    cases r with
    | error g =>
      cases failed
      rfl
    | ok mode => exact recordOnce_error whole failed

theorem once_error (passed : Passed site s.frame) (failed : once.on site s = (.error f, t)) : t = s := by
  rw [once_eq, on_bind] at failed
  have keeps := steady_enterOnce (P := fun _ => True) site s
  generalize entered : enterOnce.on site s = r at failed keeps
  obtain ⟨g | taken, u⟩ := r
  · cases failed
    exact enterOnce_error whole entered
  · -- The block is entered or passed over, which does not fail.
    have passed' : Passed site u.frame :=
      ⟨by rw [keeps.script]; exact passed.here, by rw [keeps.script]; exact passed.ordered,
        by rw [keeps.floor]; exact passed.floor⟩
    dsimp only at failed
    unfold enter at failed
    rw [on_bind, on_onFrame] at failed
    cases taken with
    | true => cases failed
    | false => exact absurd failed (skipBlock_succeeds passed')

theorem function_error (passed : Passed site s.frame) (failed : function.on site s = (.error f, t)) : t = s := by
  unfold function at failed
  rw [on_bind, on_argText] at failed
  cases text : s.argument site.entry 0 with
  | error g =>
    rw [text] at failed
    cases failed
    rfl
  | ok text' =>
    rw [text] at failed
    dsimp only [Except.map] at failed
    obtain ⟨r, body, -⟩ := on_bodyScript (Text.lower text'.toText) site s
    rw [on_bind, body] at failed
    cases r with
    | error g =>
      cases failed
      rfl
    | ok script =>
      dsimp only at failed
      rw [on_bind, on_modify] at failed
      dsimp only at failed
      exact absurd failed (say_succeeds whole fun e => skipBlock_succeeds passed)

theorem event_error (passed : Passed site s.frame) (failed : event.on site s = (.error f, t)) : t = s := by
  unfold event at failed
  rw [on_bind, on_argText] at failed
  cases action : s.argument site.entry 0 with
  | error g =>
    rw [action] at failed
    cases failed
    rfl
  | ok action' =>
  rw [action] at failed
  dsimp only [Except.map] at failed
  rw [on_bind, on_argText] at failed
  cases event : s.argument site.entry 1 with
  | error g =>
    rw [event] at failed
    cases failed
    rfl
  | ok event' =>
  rw [event] at failed
  dsimp only [Except.map] at failed
  rw [on_bind, on_argText] at failed
  cases name : s.argument site.entry 2 with
  | error g =>
    rw [name] at failed
    cases failed
    rfl
  | ok name' =>
  rw [name] at failed
  dsimp only [Except.map] at failed
  split at failed
  · -- A handler is removed at the end, where only messages follow.
    rw [on_bind, on_get] at failed
    dsimp only at failed
    rw [on_bind, on_modify] at failed
    dsimp only at failed
    have whole' : (s.engine.removeHandler (Text.lower event'.toText) (Text.lower name'.toText)).2.outbox.Whole := by
      unfold Engine.removeHandler
      dsimp only
      split <;> exact whole
    split at failed <;> exact absurd failed (say_succeeds whole' nofun)
  · obtain ⟨r, priority, -⟩ := on_priorityArg site s
    rw [on_bind, priority] at failed
    cases r with
    | error g =>
      cases failed
      rfl
    | ok n =>
    dsimp only at failed
    obtain ⟨r, body, -⟩ := on_bodyScript (Text.lower name'.toText) site s
    rw [on_bind, body] at failed
    cases r with
    | error g =>
      cases failed
      rfl
    | ok script =>
      dsimp only at failed
      rw [on_bind, on_modify] at failed
      dsimp only at failed
      exact absurd failed (say_succeeds whole fun e => skipBlock_succeeds passed)

end

end Act

theorem Action.cached_of_error {a : Action} {site : Site} {s t : Scene} {f : Failure} (whole : s.engine.outbox.Whole)
    (passed : Act.Passed site s.frame) (failed : a.perform.on site s = (.error f, t)) : s.engine.Cached t.engine := by
  have unchanged : t = s → s.engine.Cached t.engine := by
    rintro rfl
    exact .refl _
  by_cases rest : a.changesNothing
  · have cached := cached_of_changesNothing rest site s
    rwa [failed] at cached
  · cases a with
    | once => exact unchanged (Act.once_error whole passed failed)
    | function => exact unchanged (Act.function_error whole passed failed)
    | event => exact unchanged (Act.event_error whole passed failed)
    | _ => exact absurd ⟨nofun, nofun, nofun⟩ rest

/-! ### Machines -/

namespace Machine

variable {m n : Machine} {f g : Frame} {below : List Frame} {entry : Entry} {error : ScriptError} {e : Engine}

theorem cached_of_perform_error (source : f.script.FromSource) (floor : f.floor ≤ f.pc)
    (here : f.script.code.entries[f.pc]? = some entry) (whole : m.engine.outbox.Whole)
    (performed : m.perform f below entry = (.error error, e, g)) : m.engine.Cached e := by
  cases hc : entry.command with
  | none =>
    obtain ⟨rfl, -⟩ := perform_of_none hc performed
    exact .refl _
  | some c =>
    rw [perform, hc] at performed
    dsimp only at performed
    have passed : Act.Passed ⟨entry, f.pc, below.length + 1, m.running.delayable, m.running.ownOutput⟩ f.next :=
      ⟨here, source.ordered, floor⟩
    generalize on : c.action.perform.on _ _ = r at performed
    obtain ⟨failure | flow, t⟩ := r
    · cases performed
      exact Action.cached_of_error (s := ⟨m.engine, f.next⟩) whole passed on
    · cases performed

/-- An instruction that fails leaves everything that the engine keeps as it was: the names of `once` blocks, functions,
    handlers, scheduled scripts and queues among it. Messages may have been sent and scripts of files loaded. Handling
    the error changes nothing else either, except that a queue that ends lets go on what waits for it. -/
theorem engine_of_raises (source : f.script.FromSource) (floor : f.floor ≤ f.pc) (whole : m.engine.outbox.Whole)
    (raises : m.Raises f below entry error n) : m.step = .next (n.handle error) ∧
      ∃ outbox scripts, n.engine = { m.engine with outbox := outbox, scripts := scripts } ∧
        ∃ outbox' released, (n.handle error).engine =
          { m.engine with outbox := outbox', scripts := scripts, released := released } := by
  refine ⟨raises.step, ?_⟩
  obtain ⟨outbox', released, -, handled⟩ := engine_handle n error
  obtain ⟨e, g, performed, rfl⟩ := raises.raised
  obtain ⟨outbox, scripts, -, he⟩ := cached_of_perform_error source floor raises.stands.here whole performed
  refine ⟨outbox, scripts, he, outbox', released, ?_⟩
  rw [handled]
  show ({ e with outbox := outbox', released := released } : Engine) = _
  rw [he]

/-- The second of two `once` blocks of a name fails, and records nothing. -/
theorem engine_of_raises_once : ∃ (m n : Machine) (f : Frame) (below : List Frame) (entry : Entry)
    (error : ScriptError), m.Raises f below entry error n ∧ m.engine.once = ["a"] ∧ n.engine.once = ["a"] ∧
      (n.handle error).engine.once = ["a"] := by
  have found : (afterSource? "once a { noop; } once a { noop; }" 2).any (fun m =>
      m.engine.once = ["a"] && m.raised?.isSome) = true := by
    decide +kernel
  obtain ⟨m, hm, found⟩ := (Option.any_eq_true _ _).mp found
  simp only [Bool.and_eq_true, decide_eq_true_eq] at found
  obtain ⟨once, raised⟩ := found
  obtain ⟨⟨error, n⟩, hn⟩ := Option.isSome_iff_exists.mp raised
  obtain ⟨f, below, entry, raises⟩ := raises_of_raised? hn
  obtain ⟨reachable, whole⟩ := of_afterSource hm
  have top := reachable.sound.running.sound f (by rw [raises.stands.frames]; exact List.mem_cons_self)
  obtain ⟨-, outbox, scripts, engine, outbox', released, handled⟩ :=
    engine_of_raises top.script top.floor whole raises
  refine ⟨m, n, f, below, entry, error, raises, once, ?_, ?_⟩
  · rw [engine]
    exact once
  · rw [handled]
    exact once

end Machine

end CommandScript
