import CommandScript.Proofs.Handlers.Logs

/-! What happens when an event is dispatched: one handler after another is started, whatever the handlers do to the
    handlers of the event. -/

namespace CommandScript

/-! ### Determinations -/

namespace Determination

/-- Whether an event is cancelled after some determinations: what the last of them says that is recognised. -/
def outcome (cancelled : Bool) (values : List Value) : Bool :=
  ((values.filterMap fun v => read? v.toText).getLast?).elim cancelled (· = .cancelled)

/-- The reports on the determinations that are not recognised. -/
def reports (values : List Value) : List Message :=
  (values.filter fun v => (read? v.toText).isNone).map fun v => ⟨false, .bad, unknownMessage v.toText⟩

variable {cancelled : Bool} {value : Value} {values rest : List Value}

theorem outcome_cons_none (h : read? value.toText = none) :
    outcome cancelled (value :: rest) = outcome cancelled rest := by
  rw [outcome, List.filterMap_cons, h]
  rfl

theorem outcome_cons_some {d : Determination} (h : read? value.toText = some d) :
    outcome cancelled (value :: rest) = outcome (d = .cancelled) rest := by
  rw [outcome, List.filterMap_cons, h, List.getLast?_cons, outcome]
  cases (rest.filterMap fun v => read? v.toText).getLast? <;> rfl

theorem outcome_append : outcome cancelled (values ++ rest) = outcome (outcome cancelled values) rest := by
  induction values generalizing cancelled with
  | nil => rfl
  | cons value values ih =>
    rw [List.cons_append]
    cases h : read? value.toText with
    | none => rw [outcome_cons_none h, outcome_cons_none h, ih]
    | some d => rw [outcome_cons_some h, outcome_cons_some h, ih]

end Determination

namespace Engine

variable {e e' e₁ : Engine} {event event' : Event} {steps : Nat}

/-- An engine after reports on determinations that are not recognised. -/
def reported (e : Engine) (values : List Value) : Engine :=
  { e with outbox := { e.outbox with messages := e.outbox.messages ++ (Determination.reports values).toArray } }

theorem on_output {text : String} {kind : MessageKind} {x : Unit} (h : (output text kind).on e = (.ok x, e')) :
    e' = { e with outbox := { e.outbox with messages := e.outbox.messages.push ⟨false, kind, text⟩ } } := by
  rw [output, post, EngineM.on_bind, EngineM.on_get] at h
  dsimp only at h
  rw [EngineM.on_bind, EngineM.on_set] at h
  dsimp only at h
  split at h
  · cases h
  · cases h
    rfl

/-- What a handler determined sets the event, and is reported where it is not recognised. -/
theorem on_applyDeterminations {values : List Value}
    (h : (applyDeterminations event values).on e = (.ok event', e')) :
    event' = { event with cancelled := Determination.outcome event.cancelled values } ∧ e' = e.reported values := by
  induction values generalizing event e with
  | nil =>
    cases h
    exact ⟨rfl, by simp [reported, Determination.reports]⟩
  | cons value rest ih =>
    unfold applyDeterminations Event.determine at h
    cases hread : Determination.read? value.toText with
    | some d =>
      have same : e.reported (value :: rest) = e.reported rest := by
        rw [reported, reported, Determination.reports, List.filter_cons_of_neg (by simp [hread])]
        rfl
      rw [hread] at h
      rw [same, Determination.outcome_cons_some hread]
      cases d with
      | cancelled => exact ih h
      | uncancelled => exact ih h
    | none =>
      rw [hread] at h
      dsimp only at h
      rw [EngineM.on_bind] at h
      split at h
      · rename_i x e₁ output
        obtain rfl := on_output output
        obtain ⟨sets, reports⟩ := ih h
        refine ⟨by rw [sets, Determination.outcome_cons_none hread], ?_⟩
        rw [reports, reported, reported, Determination.reports, Determination.reports,
          List.filter_cons_of_pos (by rw [hread]; rfl), List.map_cons]
        simp
      · cases h

/-! ### Rounds -/

/-- One handler of a dispatch. -/
structure Round where
  /-- The engine at the moment when the handler is started. -/
  engine : Engine
  handler : Handler
  /-- What its script comes to, and the engine that it leaves. -/
  result : RunResult
  left : Engine

/-- The engine after a round. -/
def Round.after (r : Round) : Engine :=
  r.left.reported r.result.determinations

/-- The names that have run. -/
def ran (rounds : List Round) : List String :=
  rounds.map (·.handler.name)

/-- What handlers have determined, in order. -/
def determined (rounds : List Round) : List Value :=
  rounds.flatMap (·.result.determinations)

/-- The handlers of an event, at some moment. -/
def listed (e : Engine) (event : Event) : List Handler :=
  (e.events.lookup event.name).getD []

/-- A handler is the first of an event whose name is not among some. -/
def IsNext (e : Engine) (event : Event) (done : List String) (h : Handler) : Prop :=
  ∃ earlier later, e.listed event = earlier ++ h :: later ∧ (∀ k ∈ earlier, k.name ∈ done) ∧ h.name ∉ done

theorem nextHandler?_eq_some {done : List String} {h : Handler} :
    e.nextHandler? event done = some h ↔ e.IsNext event done h := by
  rw [nextHandler?, List.find?_eq_some_iff_append, IsNext, listed]
  simp only [List.contains_eq_mem, decide_eq_false_iff_not, Bool.not_eq_eq_eq_not, Bool.not_true, decide_eq_true_eq,
    Bool.not_not]
  constructor
  · rintro ⟨fresh, earlier, later, list, before⟩
    exact ⟨earlier, later, list, before, fresh⟩
  · rintro ⟨earlier, later, list, before, fresh⟩
    exact ⟨fresh, earlier, later, list, before⟩

theorem nextHandler?_eq_none {done : List String} :
    e.nextHandler? event done = none ↔ ∀ h ∈ e.listed event, h.name ∈ done := by
  rw [nextHandler?, List.find?_eq_none, listed]
  simp

theorem IsNext.congr {done done' : List String} {h : Handler} (next : e.IsNext event done h)
    (same : ∀ name, name ∈ done ↔ name ∈ done') : e.IsNext event done' h := by
  obtain ⟨earlier, later, list, before, fresh⟩ := next
  exact ⟨earlier, later, list, fun k hk => (same _).mp (before k hk), fun h => fresh ((same _).mpr h)⟩

theorem IsNext.mem {done : List String} {h : Handler} (next : e.IsNext event done h) : h ∈ e.listed event := by
  obtain ⟨earlier, later, list, -, -⟩ := next
  rw [list]
  exact List.mem_append_right _ List.mem_cons_self

/-- What one round of a dispatch that returns comes to: no handler is left, or one runs, and then the others. -/
theorem dispatchFrom?_cases {done : List String} {rounds : Nat}
    (dispatched : e.dispatchFrom? steps event done (rounds + 1) = some (.ok event', e')) :
    (e.nextHandler? event done = none ∧ event' = event ∧ e = e') ∨
      ∃ h result left event₁ e₁, e.nextHandler? event done = some h ∧
        e.execute? steps h.script event.vars = some (result, left) ∧
        (applyDeterminations event result.determinations).on left = (.ok event₁, e₁) ∧
        e₁.dispatchFrom? steps event₁ (h.name :: done) rounds = some (.ok event', e') := by
  unfold dispatchFrom? at dispatched
  split at dispatched
  · rename_i none
    cases dispatched
    exact Or.inl ⟨none, rfl, rfl⟩
  · rename_i h found
    obtain ⟨⟨result, left⟩, ran, dispatched⟩ := Option.bind_eq_some_iff.mp dispatched
    dsimp only at dispatched
    split at dispatched
    · cases dispatched
    · split at dispatched
      · rename_i event₁ e₁ applied
        exact Or.inr ⟨h, result, left, event₁, e₁, found, ran, applied, dispatched⟩
      · cases dispatched

/-- An event as some rounds have set it. -/
def setBy (event : Event) (rounds : List Round) : Event :=
  { event with cancelled := Determination.outcome event.cancelled (determined rounds) }

/-- The rounds of a dispatch that began in an engine, and the engine that they lead to. In each, the first handler runs
    whose name has not run, with the fields of the event as variables and `cancelled` as the rounds before have set
    it. -/
inductive Dispatching (steps : Nat) (e : Engine) (event : Event) : List Round → Engine → Prop
  | begin : Dispatching steps e event [] e
  | round {before : List Round} {r : Round} (earlier : Dispatching steps e event before r.engine)
    (next : r.engine.IsNext event (ran before) r.handler)
    (started : r.engine.execute? steps r.handler.script
      (event.context ++ [("cancelled", .boolean (Determination.outcome event.cancelled (determined before)))]) =
        some (r.result, r.left)) : Dispatching steps e event (before ++ [r]) r.after

namespace Dispatching

variable {rounds : List Round}

theorem ran_concat (rounds : List Round) (r : Round) : ran (rounds ++ [r]) = ran rounds ++ [r.handler.name] := by
  rw [ran, List.map_append]
  rfl

theorem setBy_concat (event : Event) (rounds : List Round) (r : Round) : setBy event (rounds ++ [r]) =
    { setBy event rounds with
      cancelled := Determination.outcome (setBy event rounds).cancelled r.result.determinations } := by
  rw [setBy, determined, List.flatMap_append, Determination.outcome_append, List.flatMap_singleton]
  rfl

theorem nodup (h : Dispatching steps e event rounds e₁) : (ran rounds).Nodup := by
  induction h with
  | begin => exact List.nodup_nil
  | round _ next _ ih =>
    obtain ⟨_, _, -, -, fresh⟩ := next
    rw [ran_concat, List.nodup_append]
    refine ⟨ih, List.nodup_singleton _, fun name hname other hother same => fresh ?_⟩
    rw [List.mem_singleton.mp hother] at same
    exact same ▸ hname

/-- What holds at every moment at which a handler is started. -/
theorem of_mem (h : Dispatching steps e event rounds e₁) {r : Round} (hr : r ∈ rounds) :
    ∃ before, Dispatching steps e event before r.engine ∧ r.engine.IsNext event (ran before) r.handler := by
  induction h with
  | begin => cases hr
  | @round before _ earlier next _ ih =>
    rcases List.mem_append.mp hr with hr | hr
    · exact ih hr
    · cases List.mem_singleton.mp hr
      exact ⟨before, earlier, next⟩

theorem dispatchFrom? {done : List String} {fuel : Nat} (h : Dispatching steps e event rounds e₁)
    (same : ∀ name, name ∈ done ↔ name ∈ ran rounds)
    (dispatched : e₁.dispatchFrom? steps (setBy event rounds) done fuel = some (.ok event', e')) :
    ∃ all, Dispatching steps e event all e' ∧ (∀ k ∈ e'.listed event, k.name ∈ ran all) ∧
    event' = setBy event all := by
  induction fuel generalizing e₁ rounds done with
  | zero => cases dispatched
  | succ fuel ih =>
    rcases dispatchFrom?_cases dispatched with
      ⟨none, rfl, rfl⟩ | ⟨k, result, left, event₂, e₂, found, started, applied, rest⟩
    · exact ⟨rounds, h, fun k hk => (same _).mp (nextHandler?_eq_none.mp none k hk), rfl⟩
    · have next : e₁.IsNext event (ran rounds) k := (nextHandler?_eq_some.mp found).congr same
      have round := Dispatching.round (r := ⟨e₁, k, result, left⟩) h next started
      obtain ⟨rfl, rfl⟩ := on_applyDeterminations applied
      refine ih round (fun name => ?_) (by rw [setBy_concat]; exact rest)
      rw [ran_concat, List.mem_cons, List.mem_append, List.mem_singleton, same, or_comm]

theorem goesOn (h : Dispatching steps e event rounds e₁) : e.GoesOn e₁ := by
  induction h with
  | begin => exact .aside (.refl e)
  | @round _ r _ _ started ih => exact (ih.trans (.execute? started)).trans (.aside ⟨rfl, rfl⟩)

/-- A handler that is in the list at every moment, and whose name has run, has run itself, and no other of its name. -/
theorem once (h : Dispatching steps e event rounds e₁) (distinct : e.NamesDistinct) {k : Handler}
    (present : ∀ r ∈ rounds, k ∈ r.engine.listed event) (name : k.name ∈ ran rounds) :
    ∃ before r after, rounds = before ++ r :: after ∧ r.handler = k ∧ k.name ∉ ran (before ++ after) := by
  obtain ⟨r, hr, same⟩ := List.mem_map.mp name
  obtain ⟨earlier, begun, next⟩ := h.of_mem hr
  have alone : r.handler = k := List.inj_on_of_nodup_map ((distinct.goesOn begun.goesOn).lookup event.name) next.mem
    (present r hr) same
  obtain ⟨before, after, rfl⟩ := List.append_of_mem hr
  refine ⟨before, r, after, rfl, alone, ?_⟩
  have nodup := h.nodup
  rw [ran, List.map_append, List.map_cons, List.nodup_middle, List.nodup_cons, ← List.map_append, same] at nodup
  exact nodup.1

end Dispatching

/-- A dispatch that returns has started handlers one after another, each the first of the event at that moment whose
    name had not run, with what was determined before it, and no name twice. Every handler that the event has at the end
    has a name that ran: one that it had all along ran itself, exactly once. The event is set by the last determination
    that is recognised; each other one is reported when its handler ends. -/
theorem dispatch?_runs_once (h : e.dispatch? steps event = some (.ok event', e')) :
    ∃ rounds, Dispatching steps e event rounds e' ∧ (ran rounds).Nodup ∧
      (∀ k ∈ e'.listed event, k.name ∈ ran rounds) ∧
      (e.NamesDistinct → ∀ k ∈ e'.listed event, (∀ r ∈ rounds, k ∈ r.engine.listed event) →
        ∃ before r after, rounds = before ++ r :: after ∧ r.handler = k ∧ k.name ∉ ran (before ++ after)) ∧
      event' = { event with cancelled := Determination.outcome event.cancelled (determined rounds) } := by
  obtain ⟨rounds, dispatching, all, sets⟩ := Dispatching.begin.dispatchFrom? (fun _ => Iff.rfl) h
  exact ⟨rounds, dispatching, dispatching.nodup, all,
    fun distinct k hk present => dispatching.once distinct present (all k hk), sets⟩

/-- A handler that adds one in front of itself and then removes itself, and one that puts another in its own place: the
    first determines that the event is cancelled, and the last determines something that is not recognised. -/
theorem dispatch?_runs_once_changing : ∃ (e e' : Engine) (event' : Event) (rounds : List Round), e.NamesDistinct ∧
    e.dispatch? 9 (.ofName "p") = some (.ok event', e') ∧
    (e.listed (.ofName "p")).map (fun k => (k.name, k.priority)) = [("a", 5), ("b", 7)] ∧
    (e'.listed (.ofName "p")).map (fun k => (k.name, k.priority)) = [("z", 1), ("b", 9)] ∧
    event'.cancelled = true ∧ e'.outbox.messages.toList.map (·.text) = [Determination.unknownMessage "no"] ∧
    Dispatching 9 e (.ofName "p") rounds e' ∧ (ran rounds).Nodup ∧ "z" ∈ ran rounds ∧ "b" ∈ ran rounds ∧
    Determination.outcome false (determined rounds) = true := by
  let host (a b : Script) : Engine :=
    (registerHandler { registries := .builtin } "p" ⟨"a", a, 5, false⟩).registerHandler "p" ⟨"b", b, 7, false⟩
  have found : ((Script.ofSource .builtin "a" "event add p z 1 {}; event remove p a; determine cancelled"
      []).toOption).any (fun a => ((Script.ofSource .builtin "b" "determine no; event add p b 9 {}" []).toOption).any
        fun b => ((host a b).listed (.ofName "p")).map (fun k => (k.name, k.priority)) = [("a", 5), ("b", 7)] &&
          ((host a b).dispatch? 9 (.ofName "p")).any fun done => done.1.toOption.any fun event =>
            (done.2.listed (.ofName "p")).map (fun k => (k.name, k.priority)) = [("z", 1), ("b", 9)] &&
              event.cancelled && done.2.outbox.messages.toList.map (·.text) =
                [Determination.unknownMessage "no"]) = true := by
    decide +kernel
  obtain ⟨a, -, found⟩ := (Option.any_eq_true _ _).mp found
  obtain ⟨b, -, found⟩ := (Option.any_eq_true _ _).mp found
  obtain ⟨before, found⟩ := Bool.and_eq_true_iff.mp found
  obtain ⟨⟨result, e'⟩, done, found⟩ := (Option.any_eq_true _ _).mp found
  obtain ⟨event', ok, found⟩ := (Option.any_eq_true _ _).mp found
  obtain rfl := toOption_eq_some.mp ok
  simp only [Bool.and_eq_true, decide_eq_true_eq] at before found
  obtain ⟨⟨after, cancelled⟩, texts⟩ := found
  obtain ⟨rounds, dispatching, nodup, all, -, sets⟩ := dispatch?_runs_once done
  have new : NamesDistinct { registries := .builtin } := fun _ h => absurd h List.not_mem_nil
  have names : ∀ name ∈ ["z", "b"], name ∈ ran rounds := fun name hname => by
    have same : (e'.listed (.ofName "p")).map (·.name) = ["z", "b"] := by
      have := congrArg (List.map Prod.fst) after
      rwa [List.map_map] at this
    rw [← same] at hname
    obtain ⟨k, hk, rfl⟩ := List.mem_map.mp hname
    exact all k hk
  rw [sets] at cancelled
  exact ⟨host a b, e', event', rounds, (new.add "p" _).add "p" _, done, before, after, sets ▸ cancelled, texts,
    dispatching, nodup, names "z" (by simp), names "b" (by simp), cancelled⟩

end Engine

end CommandScript
