import CommandScript.Proofs.Machine.Messages
import CommandScript.Proofs.Machine.Unwinding
import CommandScript.Proofs.Traces.Citations

/-! What is said of an error that no `try` catches: one message, with a line for the error and one for each frame, the
    innermost first, that cites the instruction the frame runs. An output that breaks off on that message gets a
    report of its own. -/

namespace CommandScript

/-! ### The text of a trace -/

/-- A script as traces name it. -/
def Script.title (s : Script) : String :=
  match s.origin with
  | some origin => s!"'{s.name}' (in '{origin}')"
  | none => s!"'{s.name}'"

/-- What a trace says of an instruction of a script, on a line of its own. -/
def Script.citation (s : Script) (i : Instruction) : String :=
  s!"\n    in script {s.title} at line {i.line}: (" ++ i.source ++ ")"

namespace Machine

theorem traceLine_eq {f : Frame} {e : Entry} (h : f.current? = some e) :
    traceLine f = f.script.citation e.instruction := by
  unfold traceLine
  rw [h]
  rfl

theorem trace_eq (frames : List Frame) (error : ScriptError) :
    trace frames error = "ERROR: \"" ++ error.message ++ "\"" ++ String.join (frames.map traceLine) := by
  unfold trace
  generalize "ERROR: \"" ++ error.message ++ "\"" = text
  induction frames generalizing text with
  | nil => simp
  | cons f rest ih => rw [List.foldl_cons, ih, List.map_cons, String.join_cons, String.append_assoc]

end Machine

namespace Machine

variable {m n : Machine} {f : Frame} {below : List Frame} {entry : Entry} {error : ScriptError}

theorem report_eq {g : Frame} (frames : m.running.frames = g :: below) :
    m.report error = m.alarm g.verbosity (trace m.running.frames error) := by
  rw [report, frames]
  rfl

/-- A frame that runs an instruction of a script from a source text has a line that cites it. -/
theorem cites_of_current {k : Frame} {e : Entry} (source : k.script.FromSource) (h : k.current? = some e) :
    k.script.Cites e.instruction ∧ traceLine k = k.script.citation e.instruction := by
  refine ⟨source.cites _ ?_, traceLine_eq h⟩
  unfold Frame.current? at h
  split at h
  · cases h
  · rw [← Array.getElem?_toList] at h
    exact List.mem_map_of_mem (List.mem_of_getElem? h)

/-- An error that no `try` in any frame catches ends the queue, and is reported once: the text names the error, and then
    for each frame, the innermost first, the script, the line and the text of the instruction it runs. For the frames
    below the innermost that is the call they wait in, and for the innermost it is the instruction that the error is of,
    a `goto` whose own message breaks off aside. Nothing is sent if the innermost frame reports nothing. An output that
    breaks off on the report gets another, about that; if it breaks off on this too, the queue is given up. -/
theorem Reachable.reports_uncaught (h : m.Reachable) (fails : m.Fails below entry error n)
    (outside : ∀ k ∈ n.running.frames, ∀ o b, ¬k.InTry o b) :
    m.step = .next (n.handle error) ∧
    ∃ g text sent, n.running.frames = g :: below ∧
      (g.current? = some entry ∨
        entry.instruction.name = "goto" ∧ ∃ mark, g.current? = some mark ∧ mark.instruction.name = "mark") ∧
      (∀ k ∈ below, ∃ call, k.current? = some call ∧ call.instruction.name = "call") ∧
      (∀ k ∈ g :: below, ∃ e, k.current? = some e ∧ k.script.Cites e.instruction ∧
        traceLine k = k.script.citation e.instruction) ∧
      text = "ERROR: \"" ++ error.message ++ "\"" ++ String.join ((g :: below).map traceLine) ∧
      sent = (if g.verbosity = .quiet then []
        else if n.running.ownOutput then [⟨true, .bad, text⟩, ⟨false, .bad, text⟩] else [⟨false, .bad, text⟩]) ∧
      (n.engine.outbox.breaks? sent.length = none →
        (n.handle error).engine = (n.engine.send sent).release (.queue n.running.id)) ∧
      (∀ taken, n.engine.outbox.breaks? sent.length = some taken →
        match (n.engine.send (sent.take taken)).outbox.breaks? (n.secondReport error).length with
        | none => (n.handle error).engine =
            (n.engine.send (sent.take taken ++ n.secondReport error)).release (.queue n.running.id)
        | some again => n.handle error =
            breakOff { n with engine := n.engine.send (sent.take taken ++ (n.secondReport error).take again) }
              (.breakOff outputFailure)) ∧
      (¬n.BreaksTwice error → (n.handle error).running.running = false ∧ (n.handle error).running.frames = [] ∧
        (n.handle error).running.result.errored = true) := by
  obtain ⟨g, frames, current⟩ := fails.current h
  have settled := fails.notAtTry h
  have calling : ∀ k ∈ below, ∃ call, k.current? = some call ∧ call.instruction.name = "call" := fun k hk =>
    (fails.calling h k hk).2
  have uncaught := catchError_eq_none (trace n.running.frames error) fun k hk =>
    boundary?_eq_none_of_outside (settled k hk).1.ordered (settled k hk).2 (outside k hk)
  have handled := handle_uncaught_eq uncaught
  rw [report_eq frames] at handled
  refine ⟨fails.step, g, trace n.running.frames error, _, frames, current, calling, ?_, ?_, rfl, ?_⟩
  · intro k hk
    obtain ⟨e, he⟩ : ∃ e, k.current? = some e := by
      rcases List.mem_cons.mp hk with rfl | hk
      · rcases current with here | ⟨-, mark, here, -⟩
        · exact ⟨_, here⟩
        · exact ⟨_, here⟩
      · obtain ⟨call, here, -⟩ := calling k hk
        exact ⟨call, here⟩
    exact ⟨e, he, cites_of_current (settled k (frames ▸ hk)).1 he⟩
  · rw [trace_eq, frames]
  · rw [← alarm_eq]
    refine ⟨fun whole => ?_, fun taken breaks => ?_, (h.uncaught fails outside).1⟩
    · rw [handled, whole]
      rfl
    · rw [breaks] at handled
      dsimp only at handled
      rw [handled]
      cases (n.engine.send ((n.alarm g.verbosity (trace n.running.frames error)).take taken)).outbox.breaks?
          (n.secondReport error).length with
      | none => exact congrArg (Engine.release · (.queue n.running.id)) (Engine.send_send n.engine _ _)
      | some again =>
        dsimp only
        rw [Engine.send_send]

theorem Raises.whole (raises : m.Raises f below entry error n) (h : m.Reachable) (whole : m.engine.outbox.Whole) :
    n.engine.outbox.Whole := by
  have stack := h.sound.running
  rw [raises.stands.frames] at stack
  have done := performs (m := m.awake) Script.closed_fromSource Script.FromSource.ordered below h.sound.gives
    (stack.sound f List.mem_cons_self) raises.stands.here
  obtain ⟨e, g, hp, rfl⟩ := raises.raised
  rw [hp] at done
  exact done.aside.outbox.whole whole

/-- An error in a function that another function calls has a line for each of the three frames. -/
theorem Reachable.reports_uncaught_nestedCalls : ∃ (m n : Machine) (f : Frame) (below : List Frame) (entry : Entry)
    (error : ScriptError), m.Reachable ∧ m.Raises f below entry error n ∧
      (∀ k ∈ n.running.frames, ∀ o b, ¬k.InTry o b) ∧
      (n.handle error).engine.outbox.messages = n.engine.outbox.messages.push ⟨false, .bad,
        "ERROR: \"deep failure\"\n    in script 'inner' (in 'main') at line 3: (error deep failure)" ++
          "\n    in script 'outer' (in 'main') at line 7: (call inner)" ++
          "\n    in script 'main' at line 9: (call outer)"⟩ := by
  have found : ((afterSource? ("function inner \x7b\n  if true \x7b\n    error deep failure\n  \x7d\n\x7d\n" ++
      "function outer \x7b\n  call inner\n\x7d\ncall outer;\necho unreachable") 5).bind raised?).any (fun r =>
        decide (∀ k ∈ r.2.running.frames, "try" ∉ k.script.instructions.map (·.name)) &&
        decide (∀ k ∈ r.2.running.frames, k.verbosity ≠ .quiet) && r.2.running.ownOutput = false &&
        "ERROR: \"" ++ r.1.message ++ "\"" ++ String.join (r.2.running.frames.map traceLine) =
          "ERROR: \"deep failure\"\n    in script 'inner' (in 'main') at line 3: (error deep failure)" ++
          "\n    in script 'outer' (in 'main') at line 7: (call inner)" ++
          "\n    in script 'main' at line 9: (call outer)") = true := by
    decide +kernel
  obtain ⟨⟨error, n⟩, hn, found⟩ := (Option.any_eq_true _ _).mp found
  simp only [Bool.and_eq_true, decide_eq_true_eq] at found
  obtain ⟨⟨⟨noTry, loud⟩, shared⟩, lines⟩ := found
  obtain ⟨m, hm, hn⟩ := Option.bind_eq_some_iff.mp hn
  obtain ⟨f, below, entry, raises⟩ := raises_of_raised? hn
  obtain ⟨reachable, whole⟩ := of_afterSource hm
  have outside : ∀ k ∈ n.running.frames, ∀ o b, ¬k.InTry o b := fun k hk => not_inTry (noTry k hk)
  obtain ⟨-, g, text, sent, frames, -, -, -, htext, hsent, delivered, -⟩ :=
    reachable.reports_uncaught (.raises raises) outside
  rw [frames] at lines loud
  rw [shared, if_neg (loud g List.mem_cons_self), if_neg Bool.false_ne_true] at hsent
  have taken := (raises.whole reachable whole).breaks?_eq_none sent.length
  refine ⟨m, n, f, below, entry, error, reachable, raises, outside, ?_⟩
  rw [delivered taken, hsent, htext, lines]
  simp [Engine.send, Engine.release]

/-- An output that breaks off on the trace of an error gets a second message, about that. -/
theorem reports_uncaught_breakingOff : ∃ (m n : Machine) (f : Frame) (below : List Frame) (entry : Entry)
    (error : ScriptError), m.Reachable ∧ m.Raises f below entry error n ∧
      (∀ k ∈ n.running.frames, ∀ o b, ¬k.InTry o b) ∧ n.running.frames.map (·.verbosity) = [.minimal] ∧
      n.engine.outbox.messages = #[] ∧ (n.handle error).engine.outbox.messages =
        #[⟨false, .bad, "ERROR: \"x\"\n    in script 'main' at line 1: (error x)"⟩,
          ⟨false, .bad, "Error while handling error 'x': output failed"⟩] := by
  have found : (atSource? { breaksAt := some 1 } "error x").any (fun m => m.raised?.any fun r =>
      decide (∀ k ∈ r.2.running.frames, "try" ∉ k.script.instructions.map (·.name)) &&
      r.2.running.frames.map (·.verbosity) = [.minimal] && r.2.engine.outbox.messages = #[] &&
      (r.2.handle r.1).engine.outbox.messages =
        #[⟨false, .bad, "ERROR: \"x\"\n    in script 'main' at line 1: (error x)"⟩,
          ⟨false, .bad, "Error while handling error 'x': output failed"⟩]) = true := by
    decide +kernel
  obtain ⟨m, hm, found⟩ := (Option.any_eq_true _ _).mp found
  obtain ⟨⟨error, n⟩, hn, found⟩ := (Option.any_eq_true _ _).mp found
  simp only [Bool.and_eq_true, decide_eq_true_eq] at found
  obtain ⟨⟨⟨noTry, verbosity⟩, before⟩, after⟩ := found
  obtain ⟨f, below, entry, raises⟩ := raises_of_raised? hn
  exact ⟨m, n, f, below, entry, error, reachable_atSource hm, raises, fun k hk => not_inTry (noTry k hk), verbosity,
    before, after⟩

end Machine

end CommandScript
