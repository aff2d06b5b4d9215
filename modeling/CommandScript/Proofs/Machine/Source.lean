import CommandScript.Engine.Machine
import CommandScript.Proofs.Compile.Entries
import CommandScript.Proofs.Layout.Extract
import CommandScript.Proofs.Layout.WellLaid

/-! Scripts that come from source texts with the commands of every engine: the texts themselves, blocks cut out of
    them for functions and handlers, and the reports on texts that do not compile. All of them are laid out as rows,
    and an engine that has such scripts only makes more of them. -/

namespace CommandScript

/-! ### Code in order -/

/-- Instructions that are laid out as a row, each with the command of its name. -/
structure Code.Ordered (code : Code) : Prop where
  laid : Laid .builtin 0 none (code.entries.toList.map (·.instruction))
  command : ∀ e ∈ code.entries.toList, e.command = CommandRegistry.builtin.get? e.instruction.name

namespace Code.Ordered

variable {code : Code} (h : code.Ordered)
include h

theorem get? {index : Nat} {e : Entry} (he : code.entries[index]? = some e) :
    e.command = CommandRegistry.builtin.get? e.instruction.name := by
  rw [← Array.getElem?_toList] at he
  exact h.command e (List.mem_of_getElem? he)

omit h in
theorem at_iff {index : Nat} {i : Instruction} :
    At 0 (code.entries.toList.map (·.instruction)) index i ↔
      ∃ e, code.entries[index]? = some e ∧ e.instruction = i := by
  rw [at_zero, List.getElem?_map, Array.getElem?_toList, Option.map_eq_some_iff]

omit h in
theorem at_entry {index : Nat} {e : Entry} (he : code.entries[index]? = some e) :
    At 0 (code.entries.toList.map (·.instruction)) index e.instruction :=
  at_iff.mpr ⟨e, he, rfl⟩

omit h in
theorem lt_size {index : Nat} {e : Entry} (he : code.entries[index]? = some e) : index < code.entries.size :=
  (Array.getElem?_eq_some_iff.mp he).1

/-- The command of an instruction does what its name says. -/
theorem action {index : Nat} {e : Entry} (he : code.entries[index]? = some e) {name : String}
    (hname : e.instruction.name = name) {a : Action}
    (known : (CommandRegistry.builtin.get? name).map (·.action) = some a) :
    ∃ c, e.command = some c ∧ c.action = a := by
  obtain ⟨c, hc, rfl⟩ := Option.map_eq_some_iff.mp known
  exact ⟨c, by rw [h.get? he, hname, hc], rfl⟩

/-- A block begins right behind its owner and ends within the script, and its owner is a command. -/
theorem block {index : Nat} {e : Entry} (he : code.entries[index]? = some e) {s : Span}
    (hs : e.instruction.block = some s) : s.start = index + 1 ∧ s.start ≤ s.stop ∧ s.stop ≤ code.entries.size ∧
      e.instruction.callbackOf = none := by
  have bounds := h.laid.block_bounds (at_entry he) hs
  rw [List.length_map, Array.length_toList, Nat.zero_add] at bounds
  exact ⟨bounds.1, bounds.2.1, bounds.2.2, h.laid.callbackOf_of_block (at_entry he) hs⟩

/-- The owner of the block that an instruction ends has the name of the instruction. -/
theorem owner_name {index owner : Nat} {e : Entry} (he : code.entries[index]? = some e)
    (ho : e.instruction.callbackOf = some owner) : ∃ o, code.entries[owner]? = some o ∧
      o.instruction.name = e.instruction.name := by
  obtain ⟨i, s, hi, -, hn, -, -⟩ := h.laid.endsAt_of_callbackOf (at_entry he) ho
  obtain ⟨i', hi', hend⟩ := h.laid.end_eq (at_entry he) ho
  rw [hi'.unique hi] at hend
  obtain ⟨o, hoe, rfl⟩ := at_iff.mp hi
  refine ⟨o, hoe, ?_⟩
  have lower : Text.asciiLower o.instruction.name = o.instruction.name := by
    rcases needsEnd_builtin.mp hn with hn | hn | hn <;>
    · rw [hn]
      decide
  rw [hend]
  exact lower.symm

/-- The owner of the block that an instruction ends. -/
theorem owner {index owner : Nat} {e : Entry} (he : code.entries[index]? = some e)
    (ho : e.instruction.callbackOf = some owner) : ∃ o s, code.entries[owner]? = some o ∧
      o.instruction.callbackOf = none ∧ o.instruction.block = some s ∧ s.stop = index ∧ o.command = e.command ∧
      CommandRegistry.builtin.needsEnd o.instruction.name = true := by
  obtain ⟨i, s, hi, hc, hn, hs, hstop⟩ := h.laid.endsAt_of_callbackOf (at_entry he) ho
  obtain ⟨o, hoe, rfl⟩ := at_iff.mp hi
  obtain ⟨o', hoe', name⟩ := h.owner_name he ho
  rw [hoe] at hoe'
  cases hoe'
  exact ⟨o, s, hoe, hc, hs, hstop, by rw [h.get? hoe, h.get? he, name], hn⟩

/-- Only loops and a `try` have an instruction for the end of their block. -/
theorem callbackOf_eq_none {index : Nat} {e : Entry} (he : code.entries[index]? = some e)
    (plain : CommandRegistry.builtin.needsEnd e.instruction.name = false) : e.instruction.callbackOf = none := by
  cases ends : e.instruction.callbackOf with
  | none => rfl
  | some owner =>
    obtain ⟨o, -, own, -, -, -, -, needs⟩ := h.owner he ends
    obtain ⟨o', own', same⟩ := h.owner_name he ends
    cases own.symm.trans own'
    rw [same, plain] at needs
    cases needs

/-- The instruction for the end of the block of an owner that asks for one. -/
theorem ended {owner : Nat} {o : Entry} (ho : code.entries[owner]? = some o) {s : Span}
    (hs : o.instruction.block = some s) (hn : CommandRegistry.builtin.needsEnd o.instruction.name = true) :
    ∃ e, code.entries[s.stop]? = some e ∧ e.instruction.callbackOf = some owner := by
  have hc := (h.block ho hs).2.2.2
  obtain ⟨i, hi, hcb⟩ := h.laid.exists_end ⟨o.instruction, s, at_entry ho, hc, hn, hs, rfl⟩
  obtain ⟨e, he, rfl⟩ := at_iff.mp hi
  exact ⟨e, he, hcb⟩

/-- A block inside another ends before the other does, with the instruction for its end inside as well. -/
theorem nested {outer inner : Nat} {o i : Entry} {s t : Span} (ho : code.entries[outer]? = some o)
    (hs : o.instruction.block = some s) (hi : code.entries[inner]? = some i) (ht : i.instruction.block = some t)
    (hlo : s.start ≤ inner) (hhi : inner < s.stop) :
    t.stop ≤ s.stop ∧ (CommandRegistry.builtin.needsEnd i.instruction.name = true → t.stop < s.stop) :=
  h.laid.nested (at_entry ho) hs (at_entry hi) ht hlo hhi

end Code.Ordered

/-- What is compiled from a row is in order. -/
theorem Code.ordered_of_compile {r : Registries} (hr : r.commands = .builtin) {row : List Instruction}
    (laid : Laid .builtin 0 none row) {predefined : List (String × String)} {code : Code}
    (h : compile r row predefined = .ok code) : code.Ordered := by
  obtain ⟨hrow, hcommand⟩ := compile_entries h
  refine ⟨by rw [hrow]; exact laid, fun e he => ?_⟩
  rw [hcommand e he, hr]

/-! ### Scripts -/

/-- A script that comes from a source text with the commands of every engine. -/
inductive Script.FromSource : Script → Prop
  | source {r : Registries} {name source : String} {predefined : List (String × String)} {s : Script}
    (commands : r.commands = .builtin) (made : Script.ofSource r name source predefined = .ok s) : FromSource s
  /-- A block of one, for a function or a handler. -/
  | block {r : Registries} {name : String} {owner s : Script} {i : Instruction} {b : Span}
    (commands : r.commands = .builtin) (origin : FromSource owner) (here : i ∈ owner.instructions)
    (block : i.block = some b) (made : Script.ofBlock r name owner b = .ok s) : FromSource s
  /-- The report on a text that does not compile. -/
  | report {r : Registries} (commands : r.commands = .builtin) (name : String) (verbosity : Verbosity)
    (text : String) : FromSource (Script.ofReport r name verbosity text)
  /-- With another verbosity. -/
  | reporting {s : Script} (origin : FromSource s) (verbosity : Verbosity) :
    FromSource { s with verbosity := verbosity }

theorem Script.ordered_ofReport {r : Registries} (hr : r.commands = .builtin) (name : String) (verbosity : Verbosity)
    (text : String) : (Script.ofReport r name verbosity text).code.Ordered := by
  have known :
      (CommandRegistry.builtin.get? (Text.asciiLower compileErrorName)).bind (·.signature.follows) = none := by
    decide
  unfold Script.ofReport
  dsimp only
  split
  · rename_i code hcode
    refine Code.ordered_of_compile hr (Laid.plain rfl rfl ?_ (Laid.nil _ _)) hcode
    unfold Linked
    dsimp only [Instruction.ofName]
    rw [known]
  · exact ⟨Laid.nil _ _, fun e he => absurd he (List.not_mem_nil)⟩

theorem Script.FromSource.ordered {s : Script} (h : s.FromSource) : s.code.Ordered := by
  induction h with
  | source commands made =>
    obtain ⟨row, hp, h⟩ := bind_eq_ok.mp made
    obtain ⟨code, hc, h⟩ := bind_eq_ok.mp h
    cases h
    rw [commands] at hp
    exact Code.ordered_of_compile commands (laid_of_parseScript hp) hc
  | block commands _ here block made ih =>
    obtain ⟨code, hc, h⟩ := bind_eq_ok.mp made
    cases h
    obtain ⟨index, hi⟩ := List.getElem?_of_mem here
    exact Code.ordered_of_compile commands (ih.laid.extractBlock hi block) hc
  | report commands name verbosity text => exact ordered_ofReport commands name verbosity text
  | reporting _ _ ih => exact ih

/-- A property of scripts that their blocks share, and the reports on texts that do not compile. -/
structure Script.Closed (P : Script → Prop) : Prop where
  block : ∀ {r : Registries} {name : String} {owner s : Script} {i : Instruction} {b : Span},
    r.commands = .builtin → P owner → i ∈ owner.instructions → i.block = some b →
      Script.ofBlock r name owner b = .ok s → P s
  report : ∀ {r : Registries}, r.commands = .builtin →
    ∀ name verbosity text, P (Script.ofReport r name verbosity text)

theorem Script.closed_fromSource : Script.Closed Script.FromSource :=
  ⟨FromSource.block, FromSource.report⟩

/-! ### Checks -/

/-- The check of an instruction does not look at places. -/
theorem Instruction.check_shift (r : CommandRegistry) (i : Instruction) (base : Nat) :
    (i.shift base).check r = i.check r := by
  have isNone : (i.shift base).block.isNone = i.block.isNone := Option.isNone_map
  have isSome : (i.shift base).block.isSome = i.block.isSome := Option.isSome_map
  have args : (i.shift base).args = i.args := rfl
  have named : (i.shift base).named = i.named := rfl
  have name : (i.shift base).name = i.name := rfl
  have waitFor : (i.shift base).waitFor = i.waitFor := rfl
  have line : (i.shift base).line = i.line := rfl
  have action (a : Action) : a.check (i.shift base) = a.check i := by
    cases a <;> simp only [Action.check, plainName, loopVariable, args, named, name, isNone, isSome]
  simp only [check, Command.check, action, args, name, line, isNone, isSome, waitFor]

theorem Instruction.check_command {i : Instruction} (h : i.check .builtin = .ok ()) {c : Command}
    (hc : CommandRegistry.builtin.get? i.name = some c) : c.check i = .ok () := by
  rw [check, hc] at h
  dsimp only at h
  cases checked : c.check i with
  | ok _ => rfl
  | error e =>
    rw [checked] at h
    cases h

/-- Instructions that pass the checks of their commands, where they do not stand for the end of a block. -/
def Checked (row : List Instruction) : Prop :=
  ∀ i ∈ row, i.callbackOf = none → i.check .builtin = .ok ()

theorem checked_of_parseScript {source : String} {row : List Instruction}
    (h : parseScript .builtin source = .ok row) : Checked row := by
  obtain ⟨-, -, -, checked⟩ := parseScript_eq_ok.mp h
  exact checked

theorem Checked.extractBlock {row : List Instruction} (h : Checked row) (s : Span) :
    Checked (CommandScript.extractBlock row s) := by
  intro i hi owner
  rw [extractBlock_eq] at hi
  obtain ⟨j, hj, rfl⟩ := List.mem_map.mp hi
  rw [Instruction.check_shift]
  exact h j (List.mem_of_mem_take (List.mem_of_mem_drop hj)) (Option.map_eq_none_iff.mp owner)

/-- All instructions of a script have been checked. -/
theorem Script.FromSource.checked {s : Script} (h : s.FromSource) : Checked s.instructions := by
  have compiled : ∀ {r : Registries} {row : List Instruction} {predefined : List (String × String)} {code : Code},
      Checked row → compile r row predefined = .ok code → Checked (code.entries.toList.map (·.instruction)) :=
    fun given hc => (compile_entries hc).1 ▸ given
  induction h with
  | source commands made =>
    obtain ⟨row, hp, h⟩ := bind_eq_ok.mp made
    obtain ⟨code, hc, h⟩ := bind_eq_ok.mp h
    cases h
    rw [commands] at hp
    exact compiled (checked_of_parseScript hp) hc
  | block commands _ _ _ made ih =>
    obtain ⟨code, hc, h⟩ := bind_eq_ok.mp made
    cases h
    exact compiled (ih.extractBlock _) hc
  | report commands name verbosity text =>
    unfold Script.ofReport
    dsimp only
    split
    · rename_i code hcode
      refine compiled (fun i hi _ => ?_) hcode
      rcases List.mem_singleton.mp hi with rfl
      rfl
    · exact List.forall_mem_nil _
  | reporting _ _ ih => exact ih

/-! ### Engines -/

/-- An engine with the commands of every engine whose functions and files all have a property. -/
structure Engine.Gives (P : Script → Prop) (e : Engine) : Prop where
  commands : e.registries.commands = .builtin
  functions : ∀ entry ∈ e.functions, P entry.2
  scripts : ∀ entry ∈ e.scripts, P entry.2
  loaded : ∀ load, e.loader = some load → ∀ file source, load file = .ok (some source) →
    ∀ name s, e.compileScript name source [] = .ok s → P s

/-- An engine whose functions and files come from source texts. What it loads always does. -/
def Engine.FromSource (e : Engine) : Prop :=
  e.registries.commands = .builtin ∧ (∀ entry ∈ e.functions, entry.2.FromSource) ∧
    ∀ entry ∈ e.scripts, entry.2.FromSource

theorem Engine.fromSource_new : FromSource { registries := .builtin } :=
  ⟨rfl, List.forall_mem_nil _, List.forall_mem_nil _⟩

theorem Engine.fromSource_of_compileScript {e : Engine} (he : e.registries.commands = .builtin) {name source : String}
    {predefined : List (String × String)} {s : Script} (h : e.compileScript name source predefined = .ok s) :
    s.FromSource := by
  obtain ⟨s', hs, h⟩ := bind_eq_ok.mp h
  cases h
  split
  · exact (Script.FromSource.source he hs).reporting _
  · exact Script.FromSource.source he hs

theorem Engine.fromSource_iff {e : Engine} : e.FromSource ↔ e.Gives Script.FromSource :=
  ⟨fun ⟨hc, hf, hs⟩ => ⟨hc, hf, hs, fun _ _ _ _ _ _ _ h => fromSource_of_compileScript hc h⟩,
    fun h => ⟨h.commands, h.functions, h.scripts⟩⟩

namespace Engine.Gives

variable {P : Script → Prop} {e : Engine} (h : e.Gives P)
include h

/-- What scripts an engine gives does not hang on anything else that it keeps. -/
theorem of_same {e' : Engine} (registries : e'.registries = e.registries) (loader : e'.loader = e.loader)
    (verbosity : e'.verbosity = e.verbosity) (functions : e'.functions = e.functions)
    (scripts : e'.scripts = e.scripts) : e'.Gives P where
  commands := registries ▸ h.commands
  functions := functions ▸ h.functions
  scripts := scripts ▸ h.scripts
  loaded load hl file source hs name s hc := by
    have same : e'.compileScript name source [] = e.compileScript name source [] := by
      unfold compileScript
      rw [registries, verbosity]
    exact h.loaded load (loader ▸ hl) file source hs name s (same ▸ hc)

theorem registerFunction (name : String) {s : Script} (hs : P s) : (e.registerFunction name s).Gives P where
  commands := h.commands
  functions entry hm := by
    rcases mem_setKey hm with rfl | hm
    · exact hs
    · exact h.functions entry hm
  scripts := h.scripts
  loaded := h.loaded

theorem keepScript (name : String) {s : Script} (hs : P s) :
    Gives P { e with scripts := setKey name s e.scripts } where
  commands := h.commands
  functions := h.functions
  scripts entry hm := by
    rcases mem_setKey hm with rfl | hm
    · exact hs
    · exact h.scripts entry hm
  loaded := h.loaded

end Engine.Gives

/-- An engine whose handlers all run scripts with a property. -/
def Engine.Handles (P : Script → Prop) (e : Engine) : Prop :=
  ∀ entry ∈ e.events, ∀ h ∈ entry.2, P h.script

namespace Engine.Handles

variable {P : Script → Prop} {e : Engine} (h : e.Handles P)
include h

theorem handlers (event : String) : ∀ k ∈ e.handlers event, P k.script := by
  intro k hk
  unfold Engine.handlers at hk
  cases found : e.events.lookup (Text.lower event) with
  | none => simp [found] at hk
  | some hs =>
    rw [found] at hk
    exact h _ (mem_of_lookup found) k hk

theorem registerHandler (event : String) {k : Handler} (hk : P k.script) : (e.registerHandler event k).Handles P := by
  intro entry hm j hj
  rcases mem_setKey hm with rfl | hm
  · rcases List.mem_append.mp hj with hj | hj
    · exact h.handlers event j (List.mem_filter.mp ((List.takeWhile_sublist _).mem hj)).1
    · rcases List.mem_cons.mp hj with rfl | hj
      · exact hk
      · exact h.handlers event j (List.mem_filter.mp ((List.dropWhile_sublist _).mem hj)).1
  · exact h entry hm j hj

theorem removeHandler (event name : String) : (e.removeHandler event name).2.Handles P := by
  unfold Engine.removeHandler
  dsimp only
  split
  · exact h
  · rename_i hs found
    intro entry hm j hj
    rcases mem_setKey hm with rfl | hm
    · exact h _ (mem_of_lookup found) j (List.mem_filter.mp hj).1
    · exact h entry hm j hj

end Engine.Handles

end CommandScript
