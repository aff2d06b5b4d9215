import CommandScript.Proofs.Machine.Effects

/-! What becomes of messages. They are sent in turn, up to the one an output breaks off after. Where the output breaks
    off on the trace of an error, that is said instead, and where it breaks off on this too, the queue is given up. -/

namespace CommandScript

namespace Outbox

/-- An output that breaks off no more: the messages it breaks off after, if any, were sent before. -/
def Whole (o : Outbox) : Prop :=
  ∀ k, o.breaksAt k = true → k ≤ o.messages.size

theorem Leads.whole {o o' : Outbox} (h : o.Leads o') (whole : o.Whole) : o'.Whole := fun k broke =>
  Nat.le_trans (whole k (by rwa [← h.breaksAt])) h.le

theorem whole_of_never {o : Outbox} (h : o.breaksAt = fun _ => false) : o.Whole := by
  intro k hk
  rw [h] at hk
  cases hk

/-- How many more messages an output takes until it breaks off, if it does so within the next `count`. -/
def breaks? (o : Outbox) (count : Nat) : Option Nat :=
  ((List.range' (o.messages.size + 1) count).findIdx? o.breaksAt).map (· + 1)

theorem breaksAt_of_breaks? {o : Outbox} {count taken : Nat} (h : o.breaks? count = some taken) :
    o.breaksAt (o.messages.size + taken) = true ∧ 0 < taken ∧ taken ≤ count := by
  obtain ⟨index, found, rfl⟩ := Option.map_eq_some_iff.mp h
  obtain ⟨lt, broke, -⟩ := List.findIdx?_eq_some_iff_getElem.mp found
  rw [List.getElem_range'] at broke
  rw [List.length_range'] at lt
  exact ⟨by rw [← broke]; congr 1; omega, Nat.succ_pos _, lt⟩

theorem Whole.breaks?_eq_none {o : Outbox} (whole : o.Whole) (count : Nat) : o.breaks? count = none := by
  cases breaks : o.breaks? count with
  | none => rfl
  | some taken =>
    obtain ⟨broke, positive, -⟩ := breaksAt_of_breaks? breaks
    have := whole _ broke
    omega

end Outbox

namespace Engine

/-- An engine after some more messages. -/
def send (e : Engine) (sent : List Message) : Engine :=
  { e with outbox := { e.outbox with messages := e.outbox.messages ++ sent.toArray } }

@[simp] theorem send_nil (e : Engine) : e.send [] = e := by
  simp [send]

@[simp] theorem send_send (e : Engine) (sent more : List Message) :
    (e.send sent).send more = e.send (sent ++ more) := by
  simp [send, Array.append_assoc]

theorem Posted.send (e : Engine) (sent : List Message) : Posted e (e.send sent) :=
  ⟨(e.send sent).outbox, ⟨rfl, by simp [Engine.send]⟩, rfl⟩

theorem whole_send {e : Engine} (whole : e.outbox.Whole) (sent : List Message) : (e.send sent).outbox.Whole := by
  intro k hk
  have := whole k hk
  simp only [send, Array.size_append]
  omega

/-- What a queue sends for a message: nothing where it is not shown, and an error to the engine as well where the queue
    has an output of its own. -/
def emitted (own : Bool) (verbosity : Verbosity) (text : String) (kind : MessageKind) : List Message :=
  if kind.shownAt verbosity then
    ⟨own, kind, text⟩ :: if own && kind = .bad then [⟨false, kind, text⟩] else []
  else []

theorem on_post (m : Message) (e : Engine) :
    (post m).on e =
      (if e.outbox.breaksAt (e.outbox.messages.size + 1) then .error (.breakOff outputFailure) else .ok (),
        e.send [m]) := by
  rw [post, EngineM.on_bind, EngineM.on_get]
  dsimp only
  rw [EngineM.on_bind, EngineM.on_set]
  dsimp only [Outbox.post, send]
  rw [Array.push_eq_append]
  by_cases broke : e.outbox.breaksAt (e.outbox.messages.size + 1) = true <;> simp only [broke] <;> rfl

/-- Behind a message that an output takes, it breaks off one message earlier. -/
theorem breaks?_succ (e : Engine) (m : Message) (count : Nat) : e.outbox.breaks? (count + 1) =
    if e.outbox.breaksAt (e.outbox.messages.size + 1) then some 1
    else ((e.send [m]).outbox.breaks? count).map (· + 1) := by
  have behind : (e.send [m]).outbox.messages.size = e.outbox.messages.size + 1 := by simp [send]
  have same : (e.send [m]).outbox.breaksAt = e.outbox.breaksAt := rfl
  rw [Outbox.breaks?, Outbox.breaks?, behind, same, List.range'_succ, List.findIdx?_cons]
  split <;> rfl

/-- Messages are sent in turn, up to where the output breaks off. -/
theorem on_posts (sent : List Message) (e : Engine) : (sent.forM post).on e =
    match e.outbox.breaks? sent.length with
    | none => (.ok (), e.send sent)
    | some taken => (.error (.breakOff outputFailure), e.send (sent.take taken)) := by
  induction sent generalizing e with
  | nil =>
    rw [send_nil]
    rfl
  | cons m rest ih =>
    rw [List.forM_eq_forM, List.forM_cons, EngineM.on_bind, on_post, List.length_cons, breaks?_succ e m]
    by_cases broke : e.outbox.breaksAt (e.outbox.messages.size + 1) = true
    · rw [if_pos broke, if_pos broke]
      rfl
    · rw [if_neg broke, if_neg broke]
      dsimp only
      rw [← List.forM_eq_forM, ih]
      cases (e.send [m]).outbox.breaks? rest.length with
      | none =>
        rw [send_send]
        rfl
      | some taken =>
        dsimp only [Option.map_some]
        rw [send_send]
        rfl

theorem on_emit (own : Bool) (verbosity : Verbosity) (text : String) (kind : MessageKind) (e : Engine) :
    (emit own verbosity text kind).on e = ((emitted own verbosity text kind).forM post).on e := by
  unfold emit emitted
  split
  · split <;> simp [List.forM_eq_forM]
  · rfl

theorem on_post_whole {e : Engine} (whole : e.outbox.Whole) (m : Message) :
    (post m).on e = (.ok (), e.send [m]) := by
  rw [on_post, if_neg]
  intro broke
  have := whole _ broke
  omega

theorem on_emit_whole {e : Engine} (whole : e.outbox.Whole) (own : Bool) (verbosity : Verbosity) (text : String)
    (kind : MessageKind) :
    (emit own verbosity text kind).on e = (.ok (), e.send (emitted own verbosity text kind)) := by
  rw [on_emit, on_posts, whole.breaks?_eq_none]

end Engine

theorem Act.on_say_whole {s : Scene} (whole : s.engine.outbox.Whole) (kind : MessageKind) (text : String)
    (site : Site) :
    (say kind text).on site s =
      (.ok (), { s with engine := s.engine.send (Engine.emitted site.ownOutput s.frame.verbosity text kind) }) := by
  have sent := Engine.on_emit_whole whole site.ownOutput s.frame.verbosity text kind
  unfold EngineM.on at sent
  rw [on_say, sent]

namespace Machine

variable {m : Machine} {error : ScriptError}

/-- What the queue at work sends for an error that nothing catches, where it reports as `verbosity` says. -/
def alarm (m : Machine) (verbosity : Verbosity) (text : String) : List Message :=
  Engine.emitted m.running.ownOutput verbosity text .bad

theorem alarm_eq (m : Machine) (verbosity : Verbosity) (text : String) : m.alarm verbosity text =
    if verbosity = .quiet then []
    else if m.running.ownOutput then [⟨true, .bad, text⟩, ⟨false, .bad, text⟩] else [⟨false, .bad, text⟩] := by
  unfold alarm Engine.emitted
  cases verbosity <;> cases m.running.ownOutput <;> rfl

theorem length_alarm_le (m : Machine) (verbosity : Verbosity) (text : String) :
    (m.alarm verbosity text).length ≤ 2 := by
  rw [alarm_eq]
  split
  · exact Nat.zero_le 2
  · split
    · exact Nat.le_refl 2
    · exact Nat.le_succ 1

theorem emit_eq (m : Machine) (verbosity : Verbosity) (text : String) : m.emit verbosity text =
    match m.engine.outbox.breaks? (m.alarm verbosity text).length with
    | none => (none, { m with engine := m.engine.send (m.alarm verbosity text) })
    | some taken =>
      (some (.breakOff outputFailure), { m with engine := m.engine.send ((m.alarm verbosity text).take taken) }) := by
  have sent := Engine.on_emit m.running.ownOutput verbosity text .bad m.engine
  rw [Engine.on_posts] at sent
  unfold EngineM.on ExceptT.run StateT.run at sent
  unfold emit ExceptT.run
  rw [sent]
  unfold alarm
  cases m.engine.outbox.breaks? _ <;> rfl

/-- The messages for the trace of an error that nothing catches. -/
def report (m : Machine) (error : ScriptError) : List Message :=
  m.alarm ((m.running.frames.head?.map (·.verbosity)).getD default) (trace m.running.frames error)

/-- The messages that say that the output has broken off on the trace of an error. -/
def secondReport (m : Machine) (error : ScriptError) : List Message :=
  m.alarm .minimal (s!"Error while handling error '{error.message}': " ++ outputFailure)

/-- What becomes of an error that nothing catches. -/
theorem handle_uncaught_eq (h : catchError (trace m.running.frames error) m.running.frames = none) : m.handle error =
    match m.engine.outbox.breaks? (m.report error).length with
    | none => stopWithError { m with engine := m.engine.send (m.report error) }
    | some taken =>
      match (m.engine.send ((m.report error).take taken)).outbox.breaks? (m.secondReport error).length with
      | none => stopWithError
        { m with engine := (m.engine.send ((m.report error).take taken)).send (m.secondReport error) }
      | some again => breakOff
        { m with engine := (m.engine.send ((m.report error).take taken)).send ((m.secondReport error).take again) }
        (.breakOff outputFailure) := by
  unfold handle
  dsimp only
  rw [h]
  dsimp only
  rw [emit_eq, ← report]
  cases m.engine.outbox.breaks? (m.report error).length with
  | none => rfl
  | some taken =>
    dsimp only
    rw [emit_eq]
    unfold secondReport alarm
    dsimp only [Failure.text]
    cases (m.engine.send ((m.report error).take taken)).outbox.breaks? _ <;> rfl

/-- The output breaks off on the trace of an error, and on what is said of that. -/
def BreaksTwice (m : Machine) (error : ScriptError) : Prop :=
  ∃ taken, m.engine.outbox.breaks? (m.report error).length = some taken ∧
    ((m.engine.send ((m.report error).take taken)).outbox.breaks? (m.secondReport error).length).isSome = true

theorem breaksAgain_of_breaks? {taken again : Nat}
    (first : m.engine.outbox.breaks? (m.report error).length = some taken)
    (second : (m.engine.send ((m.report error).take taken)).outbox.breaks? (m.secondReport error).length =
      some again) :
    m.engine.outbox.BreaksAgain
      ((m.engine.send ((m.report error).take taken)).send ((m.secondReport error).take again)).outbox := by
  obtain ⟨broke, positive, le⟩ := Outbox.breaksAt_of_breaks? first
  obtain ⟨broke', positive', le'⟩ := Outbox.breaksAt_of_breaks? second
  have short : (m.secondReport error).length ≤ 2 := m.length_alarm_le _ _
  have size : (m.engine.send ((m.report error).take taken)).outbox.messages.size =
      m.engine.outbox.messages.size + taken := by
    simp only [Engine.send, Array.size_append, List.size_toArray, List.length_take]
    omega
  rw [size] at broke'
  refine ⟨_, _, by omega, by omega, by omega, ?_, broke, broke'⟩
  simp only [Engine.send, Array.size_append, List.size_toArray, List.length_take]
  omega

section
variable (whole : m.engine.outbox.Whole)
include whole

theorem emit_whole (verbosity : Verbosity) (text : String) :
    m.emit verbosity text = (none, { m with engine := m.engine.send (m.alarm verbosity text) }) := by
  rw [emit_eq, whole.breaks?_eq_none]

theorem handle_whole (error : ScriptError) :
    m.handle error =
      match catchError (trace m.running.frames error) m.running.frames with
      | some frames => { m with running := { m.running with frames := frames } }
      | none => stopWithError { m with engine := m.engine.send (m.report error) } := by
  unfold handle
  dsimp only
  rw [emit_whole whole]
  rfl

end

end Machine

end CommandScript
