import CommandScript.Proofs.Handlers.Scripts
import CommandScript.Proofs.Machine.Gotos
import CommandScript.Proofs.Machine.Setting
import CommandScript.Proofs.Names.Given

/-! What the commands do that write names. They see a name in lower case, with the blanks around it,
    so a name that is spelled in another way comes to the same if its lower case is the same.
    `define` and `mark` do not look at their names when they run. -/

namespace CommandScript

/-! ### Names in arguments -/

/-- Names without blanks around them. -/
def Instruction.Trimmed (i : Instruction) : Prop :=
  ∀ p name, i.nameAt? p = some name → Text.trim name = name

/-- The place of an instruction, with the names of the instruction spelled in another way. -/
def Site.respelled (spell : String → String) (site : Site) : Site :=
  { site with entry := site.entry.respelled spell }

theorem Scene.argument_name {e : Entry} (written : e.Written) {p : Nat} {name : String}
    (h : e.instruction.nameAt? p = some name) (s : Scene) : s.argument e p = .ok (.text name) := by
  obtain ⟨c, hc, value⟩ := written p name h
  rw [argument, hc]
  exact value _

theorem Scene.argument_respelled (spell : String → String) {e : Entry} (written : e.Written)
    (p : Nat) (s : Scene) :
    s.argument (e.respelled spell) p =
      match e.instruction.nameAt? p with
      | some name => .ok (.text (spell name))
      | none => s.argument e p := by
  have there : (e.respelled spell).args[p]? =
      (e.args[p]?).map fun c => c.naming ((e.instruction.nameAt? p).map spell) := by
    rw [Entry.respelled, List.getElem?_mapIdx]
  rw [argument, there]
  cases hn : e.instruction.nameAt? p with
  | none =>
    rw [argument]
    cases e.args[p]? <;> rfl
  | some name =>
    obtain ⟨c, hc, -⟩ := written p name hn
    rw [hc]
    rfl

namespace Act

/-- What a command does that is the same with the names of the instruction spelled in another way. -/
def Agrees (spell : String → String) (site : Site) (a : Act α) : Prop :=
  ∀ s, a.on (site.respelled spell) s = a.on site s

section
variable {spell : String → String} {site : Site}

theorem Agrees.pure (x : α) : Agrees spell site (pure x : Act α) :=
  fun _ => rfl

theorem Agrees.bind {a : Act α} {k : α → Act β} (ha : Agrees spell site a)
    (hk : ∀ x, Agrees spell site (k x)) :
    Agrees spell site (a >>= k) := by
  intro s
  rw [on_bind, on_bind, ha]
  generalize a.on site s = r
  obtain ⟨_ | x, t⟩ := r
  · rfl
  · exact hk x t

/-- Reading the place is the same where the rest sees no difference. -/
theorem Agrees.read {k : Site → Act α} (same : k (site.respelled spell) = k site)
    (hk : Agrees spell site (k site)) :
    Agrees spell site (read >>= k) := by
  intro s
  rw [on_bind, on_bind, on_read, on_read]
  dsimp only
  rw [same]
  exact hk s

theorem Agrees.fail (f : RuntimeFault) : Agrees spell site (fail f : Act α) :=
  fun _ => rfl

theorem Agrees.failInternal (f : InternalFault) : Agrees spell site (failInternal f : Act α) :=
  fun _ => rfl

theorem Agrees.get : Agrees spell site get :=
  fun _ => rfl

theorem Agrees.modify (change : Scene → Scene) : Agrees spell site (modify change) :=
  fun _ => rfl

theorem Agrees.frame : Agrees spell site frame :=
  fun _ => rfl

theorem Agrees.onFrame (change : Frame → Frame) : Agrees spell site (onFrame change) :=
  fun _ => rfl

theorem Agrees.onEngine (m : EngineM α) : Agrees spell site (onEngine m) := by
  intro s
  rw [on_onEngine, on_onEngine]

theorem agrees_types : Agrees spell site types :=
  Agrees.get.bind fun _ => .pure _

theorem agrees_say (kind : MessageKind) (text : String) : Agrees spell site (say kind text) :=
  .read rfl (Agrees.frame.bind fun _ => .onEngine _)

/-- Reading the instruction is the same where the rest does not look at its arguments. -/
theorem agrees_instruction {k : Instruction → Act α}
    (same : k (site.entry.instruction.respelled spell) = k site.entry.instruction)
    (hk : Agrees spell site (k site.entry.instruction)) : Agrees spell site (instruction >>= k) := by
  intro s
  rw [on_bind, on_bind, on_instruction, on_instruction]
  show (k (site.entry.instruction.respelled spell)).on _ s = _
  rw [same]
  exact hk s

theorem agrees_jump (target : Nat) : Agrees spell site (jump target) := by
  unfold jump
  refine Agrees.frame.bind fun _ => ?_
  split
  · exact .onFrame _
  · exact .fail _

theorem agrees_skipBlock : Agrees spell site skipBlock := by
  unfold skipBlock
  refine agrees_instruction rfl ?_
  split
  · exact .pure _
  · exact .read rfl (Agrees.frame.bind fun _ => agrees_jump _)

theorem agrees_bodyScript (name : String) : Agrees spell site (bodyScript name) := by
  unfold bodyScript
  refine agrees_instruction rfl ?_
  split
  · exact .failInternal _
  · refine Agrees.get.bind fun _ => Agrees.frame.bind fun _ => ?_
    split
    · exact .pure _
    · exact .fail _

theorem agrees_argCount : Agrees spell site argCount := by
  intro s
  rw [on_argCount, on_argCount]
  show (Except.ok (site.entry.respelled spell).args.length, s) = _
  rw [Entry.respelled, List.length_mapIdx]

section
variable (written : site.entry.Written)
include written

theorem agrees_arg {p : Nat} (other : site.entry.instruction.nameAt? p = none) :
    Agrees spell site (arg p) := by
  intro s
  rw [on_arg, on_arg]
  show (s.argument (site.entry.respelled spell) p, s) = _
  rw [Scene.argument_respelled spell written, other]

theorem agrees_argText {p : Nat} (other : site.entry.instruction.nameAt? p = none) :
    Agrees spell site (argText p) :=
  (agrees_arg written other).bind fun _ => .pure _

/-- The text of a name is seen in lower case only. -/
theorem agrees_lowered {p : Nat} {k : String → Act α}
    (lower : ∀ name, site.entry.instruction.nameAt? p = some name →
      Text.lower (spell name) = Text.lower name)
    (same : ∀ t t', Text.lower t' = Text.lower t → k t' = k t) (hk : ∀ t, Agrees spell site (k t)) :
    Agrees spell site (argText p >>= k) := by
  cases hn : site.entry.instruction.nameAt? p with
  | none => exact (agrees_argText written hn).bind hk
  | some name =>
    intro s
    have here : (argText p).on site s = (.ok name, s) := by
      rw [on_argText, Scene.argument_name written hn]
      rfl
    have there : (argText p).on (site.respelled spell) s = (.ok (spell name), s) := by
      rw [on_argText]
      show ((s.argument (site.entry.respelled spell) p).map Value.toText, s) = _
      rw [Scene.argument_respelled spell written, hn]
      rfl
    rw [on_bind, on_bind, here, there]
    dsimp only
    rw [same name (spell name) (lower name hn)]
    exact hk _ s

/-! ### Commands -/

theorem agrees_define (name : site.entry.instruction.name = "define") : Agrees spell site define := by
  have value : site.entry.instruction.nameAt? 1 = none :=
    Instruction.nameAt?_eq_none (by rw [name]; decide)
  unfold define
  refine .read rfl ?_
  split
  · exact .failInternal _
  · refine Agrees.frame.bind fun _ => agrees_types.bind fun _ => (agrees_arg written value).bind fun _ =>
      Agrees.frame.bind fun _ => ?_
    split
    · exact (agrees_say _ _).bind fun _ => (Agrees.onFrame _).bind fun _ => .pure _
    · exact (Agrees.onFrame _).bind fun _ => .pure _

theorem agrees_priorityArg (name : site.entry.instruction.name = "event") :
    Agrees spell site priorityArg := by
  have priority : site.entry.instruction.nameAt? 3 = none :=
    Instruction.nameAt?_eq_none (by rw [name]; decide)
  unfold priorityArg
  refine agrees_argCount.bind fun _ => ?_
  split
  · exact .pure _
  refine (agrees_arg written priority).bind fun _ => ?_
  split
  · exact .fail _
  split
  · exact .pure _
  · exact .fail _

variable
  (lower : ∀ p name, site.entry.instruction.nameAt? p = some name →
    Text.lower (spell name) = Text.lower name)
include lower

theorem agrees_set (name : site.entry.instruction.name = "set") : Agrees spell site Act.set := by
  have mode : site.entry.instruction.nameAt? 1 = none :=
    Instruction.nameAt?_eq_none (by rw [name]; decide)
  have value : site.entry.instruction.nameAt? 2 = none :=
    Instruction.nameAt?_eq_none (by rw [name]; decide)
  unfold Act.set
  refine agrees_lowered written (lower 0) (fun _ _ same => by simp only [same]) fun _ => .read rfl ?_
  split
  · exact .fail _
  refine (agrees_argText written mode).bind fun _ => ?_
  dsimp only
  split
  · exact .fail _
  refine Agrees.frame.bind fun _ => (agrees_arg written value).bind fun _ => agrees_types.bind fun _ => ?_
  split
  · exact .fail _
  split
  · exact (agrees_say _ _).bind fun _ => (Agrees.onFrame _).bind fun _ => .pure _
  · exact (Agrees.onFrame _).bind fun _ => .pure _

theorem agrees_function : Agrees spell site function := by
  unfold function
  exact agrees_lowered written (lower 0) (fun _ _ same => by simp only [same]) fun _ =>
    (agrees_bodyScript _).bind fun _ => (Agrees.modify _).bind fun _ => (agrees_say _ _).bind fun _ =>
      agrees_skipBlock.bind fun _ => .pure _

theorem agrees_event (name : site.entry.instruction.name = "event") : Agrees spell site event := by
  unfold event
  refine agrees_lowered written (lower 0) (fun _ _ same => by simp only [same]) fun _ => ?_
  refine agrees_lowered written (lower 1) (fun _ _ same => by simp only [same]) fun _ => ?_
  refine agrees_lowered written (lower 2) (fun _ _ same => by simp only [same]) fun _ => ?_
  split
  · refine Agrees.get.bind fun s => ?_
    generalize s.engine.removeHandler _ _ = outcome
    obtain ⟨removed, e⟩ := outcome
    refine (Agrees.modify _).bind fun _ => ?_
    cases removed with
    | true => exact (agrees_say _ _).bind fun _ => .pure _
    | false => exact (agrees_say _ _).bind fun _ => .pure _
  · exact (agrees_priorityArg written name).bind fun _ => (agrees_bodyScript _).bind fun _ =>
      (Agrees.modify _).bind fun _ => (agrees_say _ _).bind fun _ =>
        agrees_skipBlock.bind fun _ => .pure _

end

end

end Act

/-! ### Machines -/

namespace Machine
variable {m : Machine} {f : Frame} {below : List Frame} {entry : Entry}

theorem perform_respelled {spell : String → String} {c : Command} (hc : entry.command = some c)
    (agrees : Act.Agrees spell ⟨entry, f.pc, below.length + 1, m.running.delayable, m.running.ownOutput⟩
      c.action.perform) : m.perform f below (entry.respelled spell) = m.perform f below entry := by
  have same : (entry.respelled spell).command = some c := hc
  rw [perform, perform, hc, same]
  have agree := agrees ⟨m.engine, f.next⟩
  rw [Site.respelled] at agree
  dsimp only at agree ⊢
  rw [agree]

/-- A command that writes names does the same with the names spelled in another way, if it does not
    look at them or they are the same in lower case. -/
theorem perform_renamed (m : Machine) (below : List Frame) (ordered : f.script.code.Ordered)
    (here : f.script.code.entries[f.pc]? = some entry) (written : entry.Written)
    (naming : namePositions entry.instruction.name ≠ []) {spell : String → String}
    (alike : entry.instruction.name = "define" ∨ entry.instruction.name = "mark" ∨
      ∀ p name, entry.instruction.nameAt? p = some name → Text.lower (spell name) = Text.lower name) :
    m.perform f below (entry.respelled spell) = m.perform f below entry := by
  have lower (define : entry.instruction.name ≠ "define") (mark : entry.instruction.name ≠ "mark") :=
    (alike.resolve_left define).resolve_left mark
  rcases namePositions_cases naming with name | name | name | name | name
  · obtain ⟨c, hc, action⟩ := ordered.action here name (a := .define) rfl
    exact perform_respelled hc (action ▸ Act.agrees_define written name)
  · obtain ⟨c, hc, action⟩ := ordered.action here name (a := .set) rfl
    have lower := lower (by rw [name]; decide) (by rw [name]; decide)
    exact perform_respelled hc (action ▸ Act.agrees_set written lower name)
  · obtain ⟨c, hc, action⟩ := ordered.action here name (a := .mark) rfl
    exact perform_respelled hc (action ▸ Act.Agrees.pure _)
  · obtain ⟨c, hc, action⟩ := ordered.action here name (a := .function) rfl
    have lower := lower (by rw [name]; decide) (by rw [name]; decide)
    exact perform_respelled hc (action ▸ Act.agrees_function written lower)
  · obtain ⟨c, hc, action⟩ := ordered.action here name (a := .event) rfl
    have lower := lower (by rw [name]; decide) (by rw [name]; decide)
    exact perform_respelled hc (action ▸ Act.agrees_event written lower name)

/-- What an instruction `event` changes, by the names that it writes. -/
theorem changesOf_event (m : Machine) (ordered : f.script.code.Ordered)
    (here : f.script.code.entries[f.pc]? = some entry) (name : entry.instruction.name = "event")
    (written : entry.Written) {action event handler : String}
    (haction : entry.instruction.nameAt? 0 = some action)
    (hevent : entry.instruction.nameAt? 1 = some event)
    (hhandler : entry.instruction.nameAt? 2 = some handler) :
    m.changesOf f entry =
      if Text.lower action = "remove" then [.remove (Text.lower event) (Text.lower handler)]
      else (do
        let priority ← Scene.priority? ⟨m.engine, f.next⟩ entry
        let script ← Scene.body? ⟨m.engine, f.next⟩ entry (Text.lower handler)
        return .add (Text.lower event) ⟨Text.lower handler, script, priority, true⟩ :
          Option Change).toList := by
  obtain ⟨c, hc, same⟩ := ordered.action here name (a := .event) rfl
  rw [changesOf, hc, Option.map_some, same]
  dsimp only
  rw [Scene.handlerChange?, Scene.argument_name written haction, Scene.argument_name written hevent,
    Scene.argument_name written hhandler]
  show (if Text.lower action = "remove" then _ else _ : Option Change).toList = _
  split <;> rfl

/-- An instruction `set` finds a variable for each `define` in sight with a name of the same plain
    form, and stores in its slot what its mode makes of it. -/
def SetsDefined (m : Machine) (f : Frame) (below : List Frame) (entry : Entry) : Prop :=
  ∀ (k : Nat) (d : Entry) (defined set : String),
    f.script.code.entries[k]? = some d → d.instruction.name = "define" →
    d.instruction.nameAt? 0 = some defined →
    entry.instruction.nameAt? 0 = some set → Text.plain defined = Text.plain set →
    f.script.code.InSight k f.pc →
      ∃ slot, entry.names.lookup (Text.plain set) = some slot ∧ ∀ mode input v,
        Scene.Setter ⟨m.engine, f.next⟩ entry mode input →
        Scene.updated ⟨m.engine, f.next⟩ slot mode input = .ok v → m.engine.outbox.Whole →
          ∃ e, m.perform f below entry = (.ok .proceed, e, f.next.setSlot slot v)

/-- An instruction `event` adds or removes a handler, by the plain forms of the names that it writes. -/
def ChangesHandlers (m : Machine) (f : Frame) (below : List Frame) (entry : Entry) : Prop :=
  ∀ action event handler : String, entry.instruction.nameAt? 0 = some action →
    entry.instruction.nameAt? 1 = some event → entry.instruction.nameAt? 2 = some handler →
      (Text.plain action = "remove" →
        m.changesOf f entry = [.remove (Text.plain event) (Text.plain handler)]) ∧
      (Text.plain action ≠ "remove" → ∀ priority script,
        Scene.priority? ⟨m.engine, f.next⟩ entry = some priority →
        Scene.body? ⟨m.engine, f.next⟩ entry (Text.plain handler) = some script →
          m.changesOf f entry = [.add (Text.plain event) ⟨Text.plain handler, script, priority, true⟩]) ∧
      Engine.SameLists ((m.changesOf f entry).foldl Change.make m.engine) (m.perform f below entry).2.1

section
variable (m : Machine) (below : List Frame) (source : f.script.FromSource)
  (here : f.script.code.entries[f.pc]? = some entry) (trimmed : entry.instruction.Trimmed)
include source here trimmed

theorem setsDefined (name : entry.instruction.name = "set") : m.SetsDefined f below entry := by
  intro k d defined set hd define hdefined hset same sight
  obtain ⟨slot, found⟩ := source.in_sight here hd define hdefined sight
  rw [same] at found
  refine ⟨slot, found, fun mode input v setter updated whole => ?_⟩
  obtain ⟨r, t, hon, performed⟩ := perform_of_name m below here source.ordered name (a := .set) rfl
  rw [Text.plain, trimmed 0 set hset] at found
  obtain ⟨e, stored⟩ := Act.on_set_value
    ⟨entry, f.pc, below.length + 1, m.running.delayable, m.running.ownOutput⟩
    (Scene.argument_name (source.written here) hset _) found setter updated whole
  cases stored.symm.trans hon
  exact ⟨e, performed⟩

theorem changesHandlers (name : entry.instruction.name = "event") : m.ChangesHandlers f below entry := by
  intro action event handler haction hevent hhandler
  have changes := changesOf_event m source.ordered here name (source.written here) haction hevent hhandler
  simp only [← Text.plain_of_trim (trimmed 0 action haction),
    ← Text.plain_of_trim (trimmed 1 event hevent),
    ← Text.plain_of_trim (trimmed 2 handler hhandler)] at changes
  refine ⟨fun remove => by rw [changes, if_pos remove], fun add priority script hpriority hscript => ?_,
    perform_changes rfl⟩
  rw [changes, if_neg add, hpriority, hscript]
  rfl

end

/-- Names mean the same when a script is compiled and when it runs, but for the blanks around them. -/
theorem Reachable.names_agree (h : m.Reachable) (at_ : m.StandsAt f below entry)
    (naming : namePositions entry.instruction.name ≠ []) :
    entry.instruction.Named ∧
    (∃ r row predefined, compile r row predefined = .ok f.script.code ∧
      compile r (row.map (Instruction.respelled Text.plain)) predefined =
        .ok (f.script.code.respelled Text.plain)) ∧
    m.awake.perform f below (entry.respelled Text.lower) = m.awake.perform f below entry ∧
    (entry.instruction.name = "define" ∨ entry.instruction.name = "mark" ∨ entry.instruction.Trimmed →
      m.awake.perform f below (entry.respelled Text.plain) = m.awake.perform f below entry) ∧
    (entry.instruction.name = "set" → entry.instruction.Trimmed → m.awake.SetsDefined f below entry) ∧
    (entry.instruction.name = "event" → entry.instruction.Trimmed →
      m.awake.ChangesHandlers f below entry) := by
  have source := (h.sound.running.sound f (by simp [at_.frames])).script
  have written := source.written at_.here
  obtain ⟨r, row, predefined, commands, compiled⟩ := source.compiled
  refine ⟨source.named at_.here,
    ⟨r, row, predefined, compiled, compile_respelled keepsPlain_plain commands compiled⟩,
    ?_, fun alike => ?_, fun name trimmed => setsDefined _ below source at_.here trimmed name,
    fun name trimmed => changesHandlers _ below source at_.here trimmed name⟩
  · refine perform_renamed _ below source.ordered at_.here written naming (.inr (.inr fun _ name _ => ?_))
    exact Text.lower_lower name
  · refine perform_renamed _ below source.ordered at_.here written naming
      (alike.imp id (Or.imp id fun trimmed => ?_))
    intro p name hname
    rw [Text.plain, trimmed p name hname, Text.lower_lower]

theorem Reachable.names_agree_set : ∃ (m : Machine) (f : Frame) (below : List Frame) (entry : Entry)
    (e : Engine) (v : Value), m.Reachable ∧ m.StandsAt f below entry ∧
    namePositions entry.instruction.name ≠ [] ∧ entry.instruction.nameAt? 0 = some "GRÖßE" ∧
    m.awake.perform f below (entry.respelled Text.plain) = m.awake.perform f below entry ∧
    m.awake.perform f below entry = (.ok .proceed, e, f.next.setSlot 0 v) ∧ v.toText = "b" := by
  have found : (afterSource? "define Größe a; set GRÖßE = b" 1).any (fun m =>
      m.standsWhere fun f e => e.instruction.name = "set" &&
        e.instruction.nameAt? 0 = some "GRÖßE" && e.names.lookup (Text.plain "GRÖßE") = some 0 &&
        (f.script.code.entries[0]?.any fun d =>
          d.instruction.name = "define" && d.instruction.nameAt? 0 = some "Größe") &&
        decide (f.script.code.InSight 0 f.pc) &&
        decide ((Scene.argument ⟨m.awake.engine, f.next⟩ e 1).toOption.bind
          (fun v => SetMode.read? (Text.trim v.toText)) = some .assign) &&
        (Scene.argument ⟨m.awake.engine, f.next⟩ e 2).toOption.any fun input =>
          (Scene.updated ⟨m.awake.engine, f.next⟩ 0 .assign input).toOption.any
            fun v => v.toText = "b") = true := by
    decide +kernel
  obtain ⟨m, hm, found⟩ := (Option.any_eq_true _ _).mp found
  obtain ⟨f, below, entry, at_, here⟩ := exists_of_standsWhere found
  simp only [Bool.and_eq_true, decide_eq_true_eq, Option.any_eq_true] at here
  obtain ⟨⟨⟨⟨⟨⟨name, written⟩, lookup⟩, d, hd, define, defined⟩, sight⟩, mode⟩, input, hinput, v,
    hv, value⟩ := here
  obtain ⟨reachable, whole⟩ := of_afterSource hm
  have naming : namePositions entry.instruction.name ≠ [] := by
    rw [name]
    decide
  have trimmed : entry.instruction.Trimmed := by
    intro p text htext
    obtain rfl : p = 0 := by
      by_contra other
      rw [Instruction.nameAt?_eq_none (by rw [name]; simpa [namePositions] using other)] at htext
      cases htext
    cases written.symm.trans htext
    decide
  obtain ⟨-, -, -, agrees, sets, -⟩ := reachable.names_agree at_ naming
  have same : Text.plain "Größe" = Text.plain "GRÖßE" := by decide +kernel
  obtain ⟨slot, found, stored⟩ :=
    sets name trimmed 0 d "Größe" "GRÖßE" hd define defined written same sight
  cases lookup.symm.trans found
  obtain ⟨e, performed⟩ := stored .assign input v ⟨mode, toOption_eq_some.mp hinput⟩
    (toOption_eq_some.mp hv) whole
  exact ⟨m, f, below, entry, e, v, reachable, at_, naming, written, agrees (.inr (.inr trimmed)),
    performed, value⟩

/-- A name with blanks around it is accepted, but the variable that is defined by it cannot be set
    by it. -/
theorem set_misses_defined_name :
    ¬∀ (m : Machine) (f : Frame) (below : List Frame) (entry : Entry), m.Reachable →
    m.StandsAt f below entry → namePositions entry.instruction.name ≠ [] →
      (m.awake.perform f below (entry.respelled Text.plain)).2.2.slots =
        (m.awake.perform f below entry).2.2.slots := by
  intro all
  have found : (afterSource? "define \" x \" 1; set \" x \" = 2" 1).any (fun m =>
      decide (m.running.frames.length = 1) && m.standsWhere fun f e => e.instruction.name = "set" &&
        decide ((m.awake.perform f [] (e.respelled Text.plain)).2.2.slots[0]?.map Value.toText =
          some "2") &&
          decide (((m.awake.perform f [] e).2.2.slots[0]?.map Value.toText) = some "1")) = true := by
    decide +kernel
  obtain ⟨m, hm, found⟩ := (Option.any_eq_true _ _).mp found
  simp only [Bool.and_eq_true, decide_eq_true_eq] at found
  obtain ⟨single, stands⟩ := found
  obtain ⟨f, below, entry, at_, here⟩ := exists_of_standsWhere stands
  simp only [Bool.and_eq_true, decide_eq_true_eq] at here
  obtain ⟨⟨name, plain⟩, written⟩ := here
  rw [at_.frames, List.length_cons] at single
  obtain rfl := List.length_eq_zero_iff.mp (Nat.succ.inj single)
  rw [all m f [] entry (reachable_afterSource hm) at_ (by rw [name]; decide), written] at plain
  exact absurd plain (by decide)

end Machine

end CommandScript
