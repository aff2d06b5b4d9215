import CommandScript.Proofs.Structured.Acts
import CommandScript.Proofs.Machine.Messages
import CommandScript.Proofs.Machine.Unwinding
import CommandScript.Proofs.Text.Case
import CommandScript.Proofs.Typing.Chains

/-! Gotos and the marks that they find. Labels are the same up to case and the blanks around them. A goto goes on behind
    the first mark behind it that has its label, but passes over labels in which a letter outside ASCII is a capital. -/

namespace CommandScript

/-! ### Labels -/

/-- Whether two labels are the same up to case and the blanks around them. -/
def SameLabel (l label : String) : Prop :=
  Text.lower (Text.trim l) = Text.lower (Text.trim label)

/-- Whether no letter of a label is a capital, but those of ASCII. -/
def AsciiCapitals (l : String) : Prop :=
  Text.asciiLower (Text.trim l) = Text.lower (Text.trim l)

instance (l label : String) : Decidable (SameLabel l label) :=
  inferInstanceAs (Decidable (_ = _))

instance (l : String) : Decidable (AsciiCapitals l) :=
  inferInstanceAs (Decidable (_ = _))

/-- The text of the first argument, if it is written out. -/
def Entry.literal? (e : Entry) : Option String :=
  e.args.head?.bind CompiledArgument.literal?

/-- The label of a mark. -/
def Entry.label? (e : Entry) : Option String :=
  if e.instruction.name = "mark" then e.literal? else none

/-- The label of the mark at a place of code. -/
def Code.label? (code : Code) (k : Nat) : Option String :=
  (code.entries[k]?).bind Entry.label?

/-- A goto takes marks of its label, whose capitals are of ASCII. -/
theorem Act.isMark_iff {label : String} {e : Entry} : isMark (Text.lower (Text.trim label)) e = true ↔
    ∃ l, e.label? = some l ∧ SameLabel l label ∧ AsciiCapitals l := by
  have takes (l : String) : Text.eqIgnoreAsciiCase (Text.trim l) (Text.lower (Text.trim label)) = true ↔
      SameLabel l label ∧ AsciiCapitals l := by
    rw [Text.eqIgnoreAsciiCase_iff, Text.asciiLower_lower, SameLabel, AsciiCapitals]
    constructor
    · intro same
      have lower : Text.lower (Text.trim l) = Text.lower (Text.trim label) := by
        rw [← Text.lower_asciiLower, same, Text.lower_lower]
      exact ⟨lower, same.trans lower.symm⟩
    · rintro ⟨same, ascii⟩
      exact ascii.trans same
  rw [isMark, Bool.and_eq_true, beq_iff_eq, Option.any_eq_true, Entry.label?]
  constructor
  · rintro ⟨name, l, literal, taken⟩
    exact ⟨l, by rw [if_pos name]; exact literal, (takes l).mp taken⟩
  · rintro ⟨l, hl, same⟩
    split at hl
    · rename_i name
      exact ⟨name, l, hl, (takes l).mpr same⟩
    · cases hl

/-! ### The search -/

/-- `j` is the place of the first mark from `start` on whose label `P` holds of. -/
structure Code.FirstMark (code : Code) (start : Nat) (P : String → Prop) (j : Nat) (l : String) : Prop where
  behind : start ≤ j
  here : code.label? j = some l
  holds : P l
  first : ∀ i, start ≤ i → i < j → ∀ l', code.label? i = some l' → ¬P l'

theorem Code.FirstMark.of_imp {code : Code} {start j : Nat} {P Q : String → Prop} {l : String}
    (h : code.FirstMark start P j l) (weaker : ∀ l, Q l → P l) (holds : Q l) : code.FirstMark start Q j l :=
  ⟨h.behind, h.here, holds, fun i lo hi l' hl' q => h.first i lo hi l' hl' (weaker l' q)⟩

theorem Code.FirstMark.unique {code : Code} {start j j' : Nat} {P : String → Prop} {l l' : String}
    (h : code.FirstMark start P j l) (h' : code.FirstMark start P j' l') : j = j' ∧ l = l' := by
  have same : j = j' := by
    rcases Nat.lt_trichotomy j j' with lt | same | gt
    · exact absurd h.holds (h'.first j h.behind lt l h.here)
    · exact same
    · exact absurd h'.holds (h.first j' h'.behind gt l' h'.here)
  subst same
  exact ⟨rfl, Option.some.inj (h.here.symm.trans h'.here)⟩

/-- A search of entries by their labels comes to the first one, or there is none. -/
theorem Code.findIdx?_label (code : Code) (start : Nat) {P : String → Prop} {p : Entry → Bool}
    (hp : ∀ e, p e = true ↔ ∃ l, e.label? = some l ∧ P l) :
    match (code.entries.toList.drop start).findIdx? p with
    | some i => ∃ l, code.FirstMark start P (start + i) l
    | none => ∀ k l, start ≤ k → code.label? k = some l → ¬P l := by
  have at_ (i : Nat) : (code.entries.toList.drop start)[i]? = code.entries[start + i]? := by
    rw [List.getElem?_drop, Array.getElem?_toList]
  split
  · rename_i i found
    obtain ⟨lt, taken, first⟩ := List.findIdx?_eq_some_iff_getElem.mp found
    obtain ⟨l, hl, holds⟩ := (hp _).mp taken
    have here := (List.getElem?_eq_getElem lt).symm.trans (at_ i)
    refine ⟨l, Nat.le_add_right start i, by rw [Code.label?, ← here]; exact hl, holds, fun k lo hi l' hl' p' => ?_⟩
    obtain ⟨e, he, label⟩ := Option.bind_eq_some_iff.mp hl'
    obtain ⟨n, rfl⟩ := Nat.exists_eq_add_of_le lo
    rw [← at_] at he
    obtain ⟨bound, rfl⟩ := List.getElem?_eq_some_iff.mp he
    exact first n (by omega) ((hp _).mpr ⟨l', label, p'⟩)
  · rename_i nowhere
    intro k l lo hl holds
    obtain ⟨e, he, label⟩ := Option.bind_eq_some_iff.mp hl
    obtain ⟨n, rfl⟩ := Nat.exists_eq_add_of_le lo
    rw [← at_] at he
    have missed := List.findIdx?_eq_none_iff.mp nowhere e (List.mem_of_getElem? he)
    rw [(hp e).mpr ⟨l, label, holds⟩] at missed
    cases missed

theorem Code.exists_firstMark {code : Code} {start k : Nat} {P : String → Prop} [DecidablePred P] {l : String}
    (behind : start ≤ k) (here : code.label? k = some l) (holds : P l) :
    ∃ j l, code.FirstMark start P j l := by
  have labelled (e : Entry) : (e.label?.any fun l => decide (P l)) = true ↔ ∃ l, e.label? = some l ∧ P l := by
    simp [Option.any_eq_true]
  have search := code.findIdx?_label start labelled
  split at search
  · obtain ⟨l, first⟩ := search
    exact ⟨_, l, first⟩
  · exact absurd holds (search k l behind here)

/-! ### The command -/

namespace Act

theorem on_argText_literal {site : Site} {label : String} (literal : site.entry.literal? = some label) (s : Scene) :
    (argText 0).on site s = (.ok label, s) := by
  obtain ⟨a, ha, hl⟩ := Option.bind_eq_some_iff.mp literal
  rw [on_argText, Scene.argument, ← List.head?_eq_getElem?, ha]
  dsimp only
  rw [CompiledArgument.evaluate, CompiledArgument.evaluateWith_of_literal? hl]
  rfl

theorem on_say_proceed (kind : MessageKind) (text : String) (site : Site) (s : Scene) :
    ∃ r e, (do say kind text; return Flow.proceed : Act Flow).on site s = (r, ⟨e, s.frame⟩) ∧
      (s.engine.outbox.Whole → r = .ok .proceed) := by
  rw [on_bind]
  have whole (h : s.engine.outbox.Whole) := on_say_whole h kind text site
  rw [on_say] at whole ⊢
  generalize Engine.emit site.ownOutput s.frame.verbosity text kind = emitted at whole ⊢
  cases result : (emitted.run.run s.engine).1 with
  | error f =>
    refine ⟨.error f, _, rfl, fun h => ?_⟩
    have := congrArg Prod.fst (whole h)
    rw [result] at this
    cases this
  | ok u => exact ⟨.ok .proceed, _, rfl, fun _ => rfl⟩

/-- A goto goes on behind the first mark that it takes, before its message, or fails where it is. -/
theorem on_goto (site : Site) {label : String} (literal : site.entry.literal? = some label) (s : Scene) :
    (∃ j l, s.frame.script.code.FirstMark s.frame.pc (fun l => SameLabel l label ∧ AsciiCapitals l) j l ∧
      ∃ r e, goto.on site s = (r, ⟨e, { s.frame with floor := j + 1, pc := j + 1 }⟩) ∧
        (s.engine.outbox.Whole → r = .ok .proceed)) ∨
    ((∀ k l, s.frame.pc ≤ k → s.frame.script.code.label? k = some l →
        ¬(SameLabel l label ∧ AsciiCapitals l)) ∧
      goto.on site s = (.error (.error (.runtime .unknownMark)), s)) := by
  have search := s.frame.script.code.findIdx?_label s.frame.pc fun e =>
    (isMark_iff : isMark (Text.lower (Text.trim label)) e = true ↔ _)
  unfold goto
  rw [on_bind, on_argText_literal literal]
  dsimp only
  rw [on_bind, on_frame]
  dsimp only
  split at search
  · rename_i i found
    obtain ⟨l, first⟩ := search
    refine Or.inl ⟨s.frame.pc + i, l, first, ?_⟩
    rw [found]
    dsimp only
    rw [on_bind, on_onFrame]
    -- The frame has moved before the message about it.
    exact on_say_proceed .good _ site { s with frame :=
      { s.frame with floor := s.frame.pc + i + 1, pc := s.frame.pc + i + 1 } }
  · rename_i nowhere
    exact Or.inr ⟨search, by rw [nowhere, on_fail]⟩

end Act

namespace Machine
variable {m : Machine} {f : Frame} {below : List Frame} {entry : Entry} {label : String}

theorem StandsAt.goto_cases (at_ : m.StandsAt f below entry) (ordered : f.script.code.Ordered)
    (name : entry.instruction.name = "goto") (literal : entry.literal? = some label) :
    (∃ j l, f.script.code.FirstMark (f.pc + 1) (fun l => SameLabel l label ∧ AsciiCapitals l) j l ∧
      ∃ r e, m.awake.perform f below entry = (r, e, { f with floor := j + 1, pc := j + 1 }) ∧
        (m.engine.outbox.Whole → r = .ok .proceed)) ∨
    ((∀ k l, f.pc < k → f.script.code.label? k = some l →
        ¬(SameLabel l label ∧ AsciiCapitals l)) ∧
      m.awake.perform f below entry = (.error (.runtime .unknownMark), m.awake.engine, f.next)) := by
  obtain ⟨r, t, hon, performed⟩ := perform_of_name m.awake below at_.here ordered name (a := .goto) rfl
  rcases Act.on_goto ⟨entry, f.pc, below.length + 1, m.awake.running.delayable, m.awake.running.ownOutput⟩ literal
    ⟨m.awake.engine, f.next⟩ with ⟨j, l, first, r', e, moved, whole⟩ | ⟨nowhere, failed⟩
  · cases moved.symm.trans hon
    exact Or.inl ⟨j, l, first, _, e, performed, fun h => by rw [whole h]; rfl⟩
  · cases failed.symm.trans hon
    exact Or.inr ⟨nowhere, performed⟩

/-- A goto with a mark of its own label behind it goes on behind the first mark that has the same label up to case, and
    discards everything before, exactly if no letter of that mark's label is a capital but those of ASCII. If there are
    such capitals in all of these labels, the goto fails. -/
theorem Reachable.goto_mark (h : m.Reachable) (at_ : m.StandsAt f below entry)
    (name : entry.instruction.name = "goto") (literal : entry.literal? = some label)
    (later : ∃ k, f.pc < k ∧ f.script.code.label? k = some label) :
    ∃ j l, f.script.code.FirstMark (f.pc + 1) (fun l => SameLabel l label) j l ∧
      (AsciiCapitals l → (∃ r e, m.awake.perform f below entry = (r, e, { f with floor := j + 1, pc := j + 1 })) ∧
        (m.engine.outbox.Whole →
          ∃ e, m.step = .next (m.awake.withFrames e ({ f with floor := j + 1, pc := j + 1 } :: below)))) ∧
      (¬AsciiCapitals l → (m.awake.perform f below entry).2.2.pc ≠ j + 1) ∧
      ((∀ k l', f.pc < k → f.script.code.label? k = some l' → SameLabel l' label →
        ¬AsciiCapitals l') → ∃ n, m.Raises f below entry (.runtime .unknownMark) n) := by
  have ordered := (h.sound.running.sound f (by simp [at_.frames])).script.ordered
  obtain ⟨k, behind, here⟩ := later
  obtain ⟨j, l, first⟩ := Code.exists_firstMark (P := fun l => SameLabel l label) behind here rfl
  refine ⟨j, l, first, ?_⟩
  rcases at_.goto_cases ordered name literal with ⟨i, l', taken, r, e, performed, whole⟩ | ⟨nowhere, performed⟩
  · refine ⟨fun ascii => ?_, fun capitals => ?_, fun none => ?_⟩
    · obtain ⟨rfl, rfl⟩ := taken.unique (first.of_imp (fun _ => And.left) ⟨first.holds, ascii⟩)
      refine ⟨⟨r, e, performed⟩, fun h => ⟨e, ?_⟩⟩
      rw [at_.step, execute_eq, performed, whole h]
      rfl
    · rw [performed]
      intro same
      obtain rfl := Nat.succ.inj same
      cases first.here.symm.trans taken.here
      exact capitals taken.holds.2
    · exact absurd taken.holds.2 (none i l' taken.behind taken.here taken.holds.1)
  · refine ⟨fun ascii => ?_, fun _ => ?_, fun _ => ⟨_, at_, _, _, performed, rfl⟩⟩
    · exact absurd ⟨first.holds, ascii⟩ (nowhere j l first.behind first.here)
    · rw [performed]
      exact Nat.ne_of_lt (Nat.lt_succ_of_le first.behind)

/-- The queue at work stands at a goto in the beginning of its script, with a mark of the same label at `k`. -/
def atGoto (m : Machine) (label : String) (k : Nat) : Bool :=
  m.running.running && m.running.result.brokeOff.isNone && m.running.waitingOn.isNone &&
    !decide (0 < m.running.wait) && (m.running.frames.head?).any fun f => f.pc = 0 && 0 < k &&
      f.script.code.label? k = some label &&
      (f.script.code.entries[f.pc]?).any fun e => e.instruction.name = "goto" && e.literal? = some label

theorem exists_of_atGoto {k : Nat} (h : m.atGoto label k = true) :
    ∃ f below entry, m.StandsAt f below entry ∧ entry.instruction.name = "goto" ∧ entry.literal? = some label ∧
      f.pc < k ∧ f.script.code.label? k = some label := by
  simp only [atGoto, Bool.and_eq_true, Option.any_eq_true, decide_eq_true_eq, Bool.not_eq_true',
    decide_eq_false_iff_not, Option.isNone_iff_eq_none] at h
  obtain ⟨⟨⟨⟨running, kept⟩, gate⟩, wait⟩, f, hf, ⟨⟨pc, behind⟩, there⟩, entry, here, name, literal⟩ := h
  obtain ⟨below, frames⟩ := List.head?_eq_some_iff.mp hf
  exact ⟨f, below, entry, ⟨running, kept, by rw [gate]; rfl, wait, frames, here⟩, name, literal, by rwa [pc], there⟩

/-- The labels of the marks in the script of the innermost frame. -/
def labels (m : Machine) : List String :=
  (m.running.frames.head?.toList.flatMap fun f => f.script.code.entries.toList).filterMap Entry.label?

theorem mem_labels {k : Nat} {l : String} (frames : m.running.frames = f :: below)
    (h : f.script.code.label? k = some l) : l ∈ m.labels := by
  obtain ⟨e, he, hl⟩ := Option.bind_eq_some_iff.mp h
  rw [← Array.getElem?_toList] at he
  rw [labels, frames]
  exact List.mem_filterMap.mpr ⟨e, by simpa using List.mem_of_getElem? he, hl⟩

theorem Reachable.goto_mark_inBlock : ∃ (m : Machine) (f : Frame) (below : List Frame) (entry : Entry),
    m.Reachable ∧ m.StandsAt f below entry ∧ entry.instruction.name = "goto" ∧ entry.literal? = some "Aé" ∧
      (∃ k, f.pc < k ∧ f.script.code.label? k = some "Aé") ∧
      ∃ j l e, f.script.code.FirstMark (f.pc + 1) (fun l => SameLabel l "Aé") j l ∧
        m.step = .next (m.awake.withFrames e ({ f with floor := j + 1, pc := j + 1 } :: below)) := by
  have found : (afterSource? "goto Aé; mark b; if true \x7b mark aé; echo x \x7d; mark Aé" 0).any (fun m =>
      m.atGoto "Aé" 5 && m.labels.all fun l => AsciiCapitals l) = true := by
    decide +kernel
  obtain ⟨m, hm, found⟩ := (Option.any_eq_true _ _).mp found
  simp only [Bool.and_eq_true, List.all_eq_true, decide_eq_true_eq] at found
  obtain ⟨goto, ascii⟩ := found
  obtain ⟨f, below, entry, at_, name, literal, behind, here⟩ := exists_of_atGoto goto
  obtain ⟨reachable, whole⟩ := of_afterSource hm
  obtain ⟨j, l, first, succeeds, -, -⟩ := reachable.goto_mark at_ name literal ⟨5, behind, here⟩
  obtain ⟨e, step⟩ := (succeeds (ascii l (mem_labels at_.frames first.here))).2 whole
  exact ⟨m, f, below, entry, reachable, at_, name, literal, ⟨5, behind, here⟩, j, l, e, first, step⟩

/-- A goto does not find the mark of its own label, if that is a capital outside ASCII. -/
theorem goto_misses_mark : ¬∀ (m : Machine) (f : Frame) (below : List Frame) (entry : Entry) (label : String),
    m.Reachable → m.StandsAt f below entry → entry.instruction.name = "goto" → entry.literal? = some label →
      Text.trim label ≠ "" → (∃ k, f.pc < k ∧ f.script.code.label? k = some label) →
        ∀ error n, ¬m.Raises f below entry error n := by
  intro all
  have found : (afterSource? "goto É; mark É; echo found" 0).any (fun m =>
      m.atGoto "É" 1 && m.labels.all fun l => !decide (AsciiCapitals l)) = true := by
    decide +kernel
  obtain ⟨m, hm, found⟩ := (Option.any_eq_true _ _).mp found
  simp only [Bool.and_eq_true, List.all_eq_true, Bool.not_eq_true', decide_eq_false_iff_not] at found
  obtain ⟨goto, capitals⟩ := found
  obtain ⟨f, below, entry, at_, name, literal, behind, here⟩ := exists_of_atGoto goto
  have reachable := reachable_afterSource hm
  have ordered := (reachable.sound.running.sound f (by simp [at_.frames])).script.ordered
  have nonblank : Text.trim "É" ≠ "" := by decide
  rcases at_.goto_cases ordered name literal with ⟨_, l, taken, -⟩ | ⟨-, performed⟩
  · exact capitals l (mem_labels at_.frames taken.here) taken.holds.2
  · exact all m f below entry "É" reachable at_ name literal nonblank ⟨1, behind, here⟩ _ _
      ⟨at_, _, _, performed, rfl⟩

end Machine

end CommandScript
