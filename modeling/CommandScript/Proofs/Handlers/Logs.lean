import CommandScript.Proofs.Handlers.Scripts
import CommandScript.Proofs.Queues.Operations

/-! An engine with the log of all changes of its handlers and of what is scheduled: those that its host makes, and those
    that scripts make while they run. The log says what the lists hold, and in which order. -/

namespace CommandScript.Engine

variable {e e' e₁ : Engine} {log more : List Change} {steps : Nat}

/-! ### What scripts change -/

/-- What happens to an engine while scripts run, with the changes that their instructions make, in order. -/
inductive Goes : List Change → Engine → Engine → Prop
  /-- Something that leaves handlers and what is scheduled alone. -/
  | aside {e e' : Engine} (same : e.SameLists e') : Goes [] e e'
  | step {m m' : Machine} (next : m.step = .next m') : Goes m.changes m.engine m'.engine
  | append {changes more : List Change} {e e₁ e' : Engine} (first : Goes changes e e₁) (rest : Goes more e₁ e') :
    Goes (changes ++ more) e e'

/-- An engine comes from another by what scripts do. -/
def GoesOn (e e' : Engine) : Prop :=
  ∃ changes, Goes changes e e'

namespace GoesOn

theorem aside (same : e.SameLists e') : e.GoesOn e' :=
  ⟨[], .aside same⟩

theorem trans (h : e.GoesOn e₁) (h' : e₁.GoesOn e') : e.GoesOn e' := by
  obtain ⟨changes, first⟩ := h
  obtain ⟨more, rest⟩ := h'
  exact ⟨changes ++ more, first.append rest⟩

theorem run {m : Machine} {q : Queue} (run : m.run steps = some (e, q)) : m.engine.GoesOn e := by
  induction steps generalizing m with
  | zero => cases run
  | succ steps ih =>
    rw [Machine.run] at run
    split at run
    · rename_i m' next
      exact GoesOn.trans ⟨_, .step next⟩ (ih run)
    · rename_i rest
      cases run
      obtain ⟨-, -, rfl⟩ := Machine.rest_cases rest
      exact .aside (.refl _)

theorem execute? {script : Script} {vars : Vars} {result : RunResult}
    (done : e.execute? steps script vars = some (result, e')) : e.GoesOn e' := by
  obtain ⟨⟨_, q⟩, ran, done⟩ := Option.bind_eq_some_iff.mp done
  have begun : e.GoesOn { e with nextId := e.nextId + 1 } := .aside ⟨rfl, rfl⟩
  cases done
  exact begun.trans (run ran)

end GoesOn

/-! ### What the host changes -/

/-- An engine with the log of all changes of its handlers and of what is scheduled. -/
inductive Logged : List Change → Engine → Prop
  | new {e : Engine} (events : e.events = []) (autorun : e.autorun = []) : Logged [] e
  /-- A handler is registered. Its name is put into lower case. -/
  | register {log : List Change} {e : Engine} (h : Logged log e) (event name : String) (script : Script)
    (priority : Int) (fromScript : Bool) :
    Logged (log ++ [.add (Text.lower event) ⟨Text.lower name, script, priority, fromScript⟩])
      (e.registerHandler event ⟨Text.lower name, script, priority, fromScript⟩)
  | remove {log : List Change} {e : Engine} (h : Logged log e) (event name : String) :
    Logged (log ++ [.remove (Text.lower event) (Text.lower name)]) (e.removeHandler event name).2
  | reload {log : List Change} {e : Engine} (h : Logged log e) : Logged (log ++ [.reload]) e.reload
  /-- A script is scheduled that has a priority. -/
  | schedule {log : List Change} {e : Engine} (h : Logged log e) (script : Script) (priority : Int)
    (header : (script.header? "autorun").bind (Decimal.readWhole? minPriority maxPriority) = some priority) :
    Logged (log ++ [.schedule priority script]) (e.schedule script).2
  /-- Scripts run. -/
  | scripts {log changes : List Change} {e e' : Engine} (h : Logged log e) (goes : Goes changes e e') :
    Logged (log ++ changes) e'

theorem Follows.goes {changes : List Change} (goes : Goes changes e e') :
    ∀ {log}, Follows log e → Follows (log ++ changes) e' := by
  induction goes with
  | aside same =>
    intro log h
    rw [List.append_nil]
    exact h.same same
  | step next =>
    intro log h
    exact (h.makeAll fun c hc => Machine.lower_of_changes hc).same (Machine.step_changes next)
  | append _ _ first rest =>
    intro log h
    rw [← List.append_assoc]
    exact rest (first h)

theorem NamesDistinct.goesOn (h : e.NamesDistinct) (goes : e.GoesOn e') : e'.NamesDistinct := by
  obtain ⟨changes, goes⟩ := goes
  induction goes with
  | aside same => exact h.same same
  | step next => exact (h.makeAll _).same (Machine.step_changes next)
  | append _ _ first rest => exact rest (first h)

theorem registerHandler_lower (e : Engine) (event : String) (h : Handler) :
    e.registerHandler (Text.lower event) h = e.registerHandler event h := by
  rw [registerHandler, registerHandler, handlers, handlers, Text.lower_lower]

theorem removeHandler_lower (e : Engine) (event name : String) :
    e.removeHandler (Text.lower event) (Text.lower name) = e.removeHandler event name := by
  rw [removeHandler, removeHandler, Text.lower_lower, Text.lower_lower]

theorem Logged.follows (h : Logged log e) : Follows log e := by
  induction h with
  | new events autorun => exact .new events autorun
  | register _ event name script priority fromScript ih =>
    rw [← registerHandler_lower]
    exact ih.add ⟨Text.lower_lower _, Text.lower_lower _⟩
  | remove _ event name ih =>
    rw [← removeHandler_lower]
    exact ih.remove ⟨Text.lower_lower _, Text.lower_lower _⟩
  | reload _ ih => exact ih.reload
  | schedule _ script priority header ih =>
    rw [Engine.schedule, header]
    exact ih.schedule priority script
  | scripts _ goes ih => exact ih.goes goes

/-- Several scripts are started, each on a queue of its own and in the engine that the one before it leaves.
    A queue that is given up is the last one. -/
inductive Starts (steps : Nat) : Engine → List Script → Engine → Prop
  | none {e : Engine} : Starts steps e [] e
  | next {e e₁ e' : Engine} {script : Script} {scripts : List Script} {q : Queue}
    (first : e.startQueue? steps script [] false = some (q, e₁)) (kept : q.result.brokeOff = .none)
    (rest : Starts steps e₁ scripts e') : Starts steps e (script :: scripts) e'
  | last {e e' : Engine} {script : Script} {scripts : List Script} {q : Queue}
    (first : e.startQueue? steps script [] false = some (q, e')) (broken : q.result.brokeOff ≠ .none) :
    Starts steps e (script :: scripts) e'

theorem startAll?_eq_some {scripts : List Script} :
    e.startAll? steps scripts = some e' ↔ Starts steps e scripts e' := by
  constructor
  · intro done
    induction scripts generalizing e with
    | nil =>
      cases done
      exact .none
    | cons script scripts ih =>
      obtain ⟨⟨q, e₁⟩, first, rest⟩ := Option.bind_eq_some_iff.mp done
      cases broke : q.result.brokeOff with
      | none =>
        simp only [broke] at rest
        exact .next first broke (ih rest)
      | some f =>
        simp only [broke] at rest
        cases rest
        exact .last first (by simp [broke])
  · intro starts
    induction starts with
    | none => rfl
    | next first kept _ ih => simp [startAll?, first, kept, ih]
    | last first broken => simp [startAll?, first, Option.isSome_iff_ne_none.mpr broken]

/-- The handlers of each event are those that the log leaves in force, and the scheduled scripts are those that it
    leaves scheduled: ascending by priority and, for one priority, in the order of the log. No two handlers of an event
    have one name, and the scheduled scripts are started in their order. -/
theorem Logged.arranged (h : Logged log e) :
    (∀ event, Arranged Handler.priority (InForce log (Text.lower event)) (e.handlers event) ∧
      ((e.handlers event).map fun x => Text.lower x.name).Nodup) ∧
    Arranged Prod.fst (Scheduled log) e.autorun ∧
    ∀ steps e', e.startScheduled? steps = some e' ↔ Starts steps e (e.autorun.map (·.2)) e' :=
  ⟨fun event => ⟨h.follows.handlers (Text.lower event), h.follows.nodup (Text.lower event)⟩, h.follows.autorun,
    fun _ _ => startAll?_eq_some⟩

/-- A script adds a handler in front of those of its host and takes the place of one of them, which then comes last;
    three scripts are scheduled. A reload leaves the other handler of the host. -/
theorem Logged.arranged_replaced : ∃ (log : List Change) (e : Engine), e.Logged log ∧
    (e.handlers "join").map (fun x => (x.name, x.priority)) = [("c", 1), ("a", 5), ("b", 5)] ∧
    e.autorun.map (fun x => (x.1, x.2.name)) = [(-1, "x"), (2, "y"), (2, "z")] ∧
    (e.reload.handlers "join").map (·.name) = ["a"] ∧
    Arranged Handler.priority (InForce log "join") (e.handlers "join") ∧ Arranged Prod.fst (Scheduled log) e.autorun ∧
    Arranged Handler.priority (InForce (log ++ [.reload]) "join") (e.reload.handlers "join") := by
  let script : Script := .ofCode "host" default .empty
  let waiting (name priority : String) : Script :=
    { Script.ofCode name default .empty with headers := [("autorun", priority)] }
  let registered : Engine := (registerHandler { registries := .builtin } "Join"
    ⟨Text.lower "B", script, 5, false⟩).registerHandler "JOIN" ⟨Text.lower "a", script, 5, false⟩
  let before : Engine := (((registered.schedule (waiting "y" "2")).2.schedule (waiting "x" "-1")).2.schedule
    (waiting "z" "2")).2
  have host : Logged _ registered :=
    ((Logged.new rfl rfl).register "Join" "B" script 5 false).register "JOIN" "a" script 5 false
  have scheduled : Logged _ before :=
    ((host.schedule (waiting "y" "2") 2 (by decide)).schedule (waiting "x" "-1") (-1) (by decide)).schedule
      (waiting "z" "2") 2 (by decide)
  have found : ((Script.ofSource .builtin "main"
      "event add join c 1 { echo c }; event add Join B 5 { echo b }" []).toOption).any (fun s =>
        (before.execute? 30 s []).any fun r =>
          (r.2.handlers "join").map (fun x => (x.name, x.priority)) = [("c", 1), ("a", 5), ("b", 5)] &&
            r.2.autorun.map (fun x => (x.1, x.2.name)) = [(-1, "x"), (2, "y"), (2, "z")] &&
              (r.2.reload.handlers "join").map (·.name) = ["a"]) = true := by
    decide +kernel
  obtain ⟨s, -, found⟩ := (Option.any_eq_true _ _).mp found
  obtain ⟨⟨result, e⟩, ran, found⟩ := (Option.any_eq_true _ _).mp found
  simp only [Bool.and_eq_true, decide_eq_true_eq] at found
  obtain ⟨⟨handlers, autorun⟩, left⟩ := found
  obtain ⟨changes, goes⟩ := GoesOn.execute? ran
  have logged := scheduled.scripts goes
  have lower : Text.lower "join" = "join" := by decide
  have here := (logged.arranged.1 "join").1
  have reloaded := (logged.reload.arranged.1 "join").1
  rw [lower] at here reloaded
  exact ⟨_, e, logged, handlers, autorun, left, here, logged.arranged.2.1, reloaded⟩

end CommandScript.Engine
