import CommandScript.Proofs.Guards.Tables
import CommandScript.Proofs.Names.Renaming
import CommandScript.Proofs.Scoping.Lexical
import CommandScript.Proofs.Typing.Declared

/-! Scripts from source text have a literal name that is not blank wherever a name has to stand, since that is checked
    before they are compiled. The argument that writes a name has this name for its value, and what a `define` declares
    is found by the plain form of its name. -/

namespace CommandScript

/-! ### Literal names -/

/-- A literal name with a plain form stands at each position of names. -/
def Instruction.Named (i : Instruction) : Prop :=
  ∀ p ∈ namePositions i.name, ∃ name, i.nameAt? p = some name ∧ Text.plain name ≠ ""

theorem plainName_eq_ok {i : Instruction} {p : Nat} {name : String} (h : plainName i p = .ok name) :
    ∃ text, i.args[p]?.bind Argument.literal? = some text ∧ Text.plain text = name ∧ name ≠ "" := by
  unfold plainName at h
  split at h
  · cases h
  · rename_i text literal
    dsimp only at h
    split at h
    · cases h
    · rename_i filled
      have same : Text.plain text = name := Except.ok.inj h
      exact ⟨text, literal, same, fun empty => filled (by rw [← Text.plain, same, empty]; rfl)⟩

theorem unless_eq_ok {ε α : Type} {reject : ε → Rejection} {x : Except ε α} (h : Rejection.unless reject x = .ok ()) :
    ∃ a, x = .ok a := by
  cases x with
  | ok a => exact ⟨a, rfl⟩
  | error e => cases h

/-- The positions where an action looks for plain names. -/
def Action.namePositions : Action → List Nat
  | define | set | mark | function => [0]
  | event => [0, 1, 2]
  | _ => []

theorem plainName_of_check {a : Action} {i : Instruction} (h : a.check i = .ok ()) {p : Nat}
    (hp : p ∈ a.namePositions) : ∃ name, plainName i p = .ok name := by
  cases a
  case define =>
    obtain rfl := List.mem_singleton.mp hp
    obtain ⟨name, hname, -⟩ := bind_eq_ok.mp h
    exact ⟨name, hname⟩
  case set =>
    obtain rfl := List.mem_singleton.mp hp
    obtain ⟨name, hname, -⟩ := bind_eq_ok.mp h
    exact ⟨name, hname⟩
  case mark =>
    obtain rfl := List.mem_singleton.mp hp
    exact unless_eq_ok h
  case function =>
    obtain rfl := List.mem_singleton.mp hp
    exact unless_eq_ok h
  case event =>
    obtain ⟨action, haction, h⟩ := bind_eq_ok.mp h
    obtain ⟨event, hevent, h⟩ := bind_eq_ok.mp h
    obtain ⟨handler, hhandler, -⟩ := bind_eq_ok.mp h
    rcases List.mem_cons.mp hp with rfl | hp
    · exact ⟨action, haction⟩
    rcases List.mem_cons.mp hp with rfl | hp
    · exact ⟨event, hevent⟩
    obtain rfl := List.mem_singleton.mp hp
    exact ⟨handler, hhandler⟩
  all_goals exact absurd hp List.not_mem_nil

/-- The commands that write names have actions that look for them at the same positions. -/
theorem exists_command_of_namePositions {name : String} {p : Nat} (hp : p ∈ namePositions name) :
    ∃ c, CommandRegistry.builtin.get? name = some c ∧ p ∈ c.action.namePositions := by
  unfold CommandScript.namePositions at hp
  split at hp
  · rename_i event
    rw [event]
    exact ⟨_, rfl, hp⟩
  split at hp
  · rename_i other
    rcases other with rfl | rfl | rfl | rfl <;> exact ⟨_, rfl, hp⟩
  · exact absurd hp List.not_mem_nil

/-- An instruction that is accepted has its names. -/
theorem Instruction.named_of_check {i : Instruction} (h : i.check .builtin = .ok ()) : i.Named := by
  intro p hp
  obtain ⟨c, hc, position⟩ := exists_command_of_namePositions hp
  obtain ⟨_, plain⟩ := plainName_of_check (parts_of_check (check_command h hc)).2.2 position
  obtain ⟨text, literal, rfl, filled⟩ := plainName_eq_ok plain
  exact ⟨text, by rw [nameAt?, if_pos hp, literal], filled⟩

theorem needsEnd_of_namePositions {name : String} (h : namePositions name ≠ []) :
    CommandRegistry.builtin.needsEnd name = false := by
  refine Bool.eq_false_iff.mpr fun needs => h ?_
  rcases needsEnd_builtin.mp needs with rfl | rfl | rfl <;> decide

/-- The instructions of a script have their names. -/
theorem Script.FromSource.named {s : Script} (h : s.FromSource) {index : Nat} {e : Entry}
    (he : s.code.entries[index]? = some e) : e.instruction.Named := by
  by_cases none : namePositions e.instruction.name = []
  · intro p hp
    rw [none] at hp
    cases hp
  · have mem : e ∈ s.code.entries.toList := List.mem_of_getElem? (Array.getElem?_toList.trans he)
    exact Instruction.named_of_check (h.checked _ (List.mem_map_of_mem mem)
      (h.ordered.callbackOf_eq_none he (needsEnd_of_namePositions none)))

/-! ### The values of the arguments that write names -/

/-- The arguments that write the names of an entry have these names for their values. -/
def Entry.Written (e : Entry) : Prop :=
  ∀ p name, e.instruction.nameAt? p = some name →
    ∃ c, e.args[p]? = some c ∧ ∀ run, c.evaluateWith run = .ok (.text name)

theorem Entry.written_of_mapM {e : Entry} {s : TagScope} {table table' : ChainTable}
    (h : (e.instruction.args.mapM (compileArgument s)).run table = .ok (e.args, table')) : e.Written := by
  intro p name hname
  cases ha : e.instruction.args[p]? with
  | none =>
    rw [Instruction.nameAt?, ha] at hname
    split at hname <;> cases hname
  | some a => exact evaluateWith_of_mapM h ha (Instruction.literal_of_nameAt? ha hname)

theorem compile_written {r : Registries} {row : List Instruction} {predefined : List (String × String)} {code : Code}
    (h : compile r row predefined = .ok code) : ∀ e ∈ code.entries, e.Written := by
  obtain ⟨c, hfold, h⟩ := bind_eq_ok.mp h
  cases h
  refine foldlM_keeps (fun c => ∀ e ∈ c.entries, e.Written) (fun c i c' kept hadd => ?_) ?_ hfold
  · obtain ⟨args, table, named, table', d, ha, -, -, rfl⟩ := Compilation.add_eq_ok hadd
    rw [Compilation.extend_entries]
    intro e he
    rcases Array.mem_push.mp he with he | rfl
    · exact kept e he
    · exact Entry.written_of_mapM ha
  · rw [(start_empty predefined).1]
    exact fun e he => absurd he (Array.not_mem_empty e)

theorem Script.FromSource.written {s : Script} (h : s.FromSource) {index : Nat} {e : Entry}
    (he : s.code.entries[index]? = some e) : e.Written := by
  obtain ⟨r, row, predefined, -, hc⟩ := h.compiled
  exact compile_written hc e (Array.mem_of_getElem? he)

/-! ### Variables in sight -/

/-- An instruction stands behind another one, within the innermost block around that, if there is one. What the other
    one declares is in sight there. -/
def Code.InSight (code : Code) (declaring index : Nat) : Prop :=
  declaring < index ∧ ∀ owner ∈ (ownersAround (code.entries.toList.map (·.instruction)) declaring).head?,
    blockHolds (code.entries.toList.map (·.instruction)) owner index = true

instance (code : Code) (declaring index : Nat) : Decidable (code.InSight declaring index) :=
  inferInstanceAs (Decidable (_ ∧ _))

section
variable {s : Script} (h : s.FromSource) {index : Nat} {e : Entry} (he : s.code.entries[index]? = some e)
include h he

theorem Script.FromSource.define_checked (name : e.instruction.name = "define") :
    e.instruction.callbackOf = none ∧ e.instruction.block = none := by
  have owner := h.ordered.callbackOf_eq_none he (by rw [name]; decide)
  have mem : e.instruction ∈ s.instructions :=
    List.mem_map_of_mem (List.mem_of_getElem? (Array.getElem?_toList.trans he))
  have known : ∃ c, CommandRegistry.builtin.get? e.instruction.name = some c ∧ c.signature.block = .forbidden := by
    rw [name]
    exact ⟨_, rfl, rfl⟩
  obtain ⟨c, hc, forbidden⟩ := known
  exact ⟨owner, (parts_of_check (Instruction.check_command (h.checked _ mem owner) hc)).2.1 forbidden⟩

/-- The variable that a `define` declares has the plain form of its name. -/
theorem Script.FromSource.defined (name : e.instruction.name = "define") {text : String}
    (written : e.instruction.nameAt? 0 = some text) :
    ∃ slot v, e.declares = some slot ∧ s.code.slots[slot]? = some v ∧ v.name = Text.plain text := by
  obtain ⟨c, hc, action⟩ := h.ordered.action he name (a := .define) rfl
  have mem : e ∈ s.code.entries.toList := List.mem_of_getElem? (Array.getElem?_toList.trans he)
  have owner := (h.define_checked he name).1
  obtain ⟨slot, hslot⟩ := Option.isSome_iff_exists.mp ((h.fits.entries e mem).defines c hc action owner)
  obtain ⟨r, row, predefined, commands, compiled⟩ := h.compiled
  obtain ⟨typeNames, d, hd, hv⟩ := declared_at compiled he hslot
  rw [commands] at hd
  obtain ⟨plain, typeName, hplain, same⟩ := declaration_of_define hd ((h.ordered.get? he).symm.trans hc) action owner
  cases same
  refine ⟨slot, _, hslot, hv, ?_⟩
  show Text.lower plain = Text.plain text
  obtain ⟨given, literal, rfl, -⟩ := plainName_eq_ok hplain
  rw [Instruction.nameAt?, literal] at written
  split at written
  · cases written
    rw [Text.plain, Text.lower_lower]
  · cases written

/-- A variable of a `define` can be set where it is in sight, unless a later one of its name is in sight. -/
theorem Script.FromSource.in_sight {k : Nat} {d : Entry} (hd : s.code.entries[k]? = some d)
    (name : d.instruction.name = "define") {text : String} (written : d.instruction.nameAt? 0 = some text)
    (sight : s.code.InSight k index) : ∃ slot, e.names.lookup (Text.plain text) = some slot := by
  obtain ⟨slot, v, declares, hv, same⟩ := h.defined hd name written
  obtain ⟨r, row, predefined, -, hc⟩ := h.compiled
  obtain ⟨rfl, -⟩ := compile_entries hc
  rw [(code_lexicallyScoped h.ordered.laid hc).names he, latest?]
  refine Option.isSome_iff_exists.mp ?_
  rw [Option.isSome_map, List.getLast?_isSome]
  refine List.ne_nil_of_mem (a := ⟨some k, v.name, slot⟩) (List.mem_filter.mpr ⟨List.mem_append_right _ ?_, ?_⟩)
  · rw [declaredBy, List.mem_filterMap]
    refine ⟨(d, k), ?_, ?_⟩
    · rw [List.mk_mem_zipIdx_iff_getElem?, Array.getElem?_toList]
      exact hd
    · show d.declares.bind _ = _
      rw [declares, Option.bind_some, hv]
      rfl
  · rw [same, beq_self_eq_true, Bool.true_and, Bool.or_eq_true]
    have none : blockAt? (s.code.entries.toList.map (·.instruction)) k = none := by
      rw [blockAt?, List.getElem?_map, Array.getElem?_toList, hd, Option.map_some, Option.bind_some,
        (h.define_checked hd name).2]
    refine .inl (Bool.and_eq_true_iff.mpr ⟨decide_eq_true sight.1, ?_⟩)
    rw [Declared.home, Option.bind_some, none, Option.isSome_none, if_neg Bool.false_ne_true, Option.all_eq_true]
    exact sight.2

end

end CommandScript
