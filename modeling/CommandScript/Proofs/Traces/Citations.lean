import CommandScript.Proofs.Layout.Recovery
import CommandScript.Proofs.Machine.Source
import CommandScript.Proofs.Traces.Positions

/-! What the instructions of a script cite. A command keeps the text it was read from and its line when it is laid
    out, and a block cut out for a function or a handler keeps them too, with the name of the script that it was cut
    out of. -/

namespace CommandScript

/-! ### Commands -/

/-- A command of a source text: one of its tokens reads as the instruction. -/
structure Instruction.WrittenIn (source : String) (i : Instruction) : Prop where
  token : Token.command i.source i.line ∈ tokens source
  reads : Instruction.read i.source i.line = .ok i.unplaced

theorem Instruction.WrittenIn.of_unplaced {source : String} {i j : Instruction} (h : j.WrittenIn source)
    (same : i.unplaced = j.unplaced) : i.WrittenIn source := by
  obtain ⟨text, line⟩ : i.source = j.source ∧ i.line = j.line := by
    rw [unplaced, unplaced, Instruction.mk.injEq] at same
    exact ⟨same.2.2.2.2.1, same.2.2.2.1⟩
  constructor
  · rw [text, line]
    exact h.token
  · rw [text, line, same]
    exact h.reads

/-- What is read from a text cites it. -/
theorem Instruction.cites_of_read {text : String} {line : Nat} {i : Instruction}
    (h : Instruction.read text line = .ok i) : i.source = text ∧ i.line = line := by
  obtain ⟨head, rest, -, -, h⟩ := Instruction.read_eq_ok.mp h
  refine foldlM_keeps (fun i => i.source = text ∧ i.line = line) (fun i w j hi hj => ?_) ⟨rfl, rfl⟩ h
  unfold Instruction.addWord at hj
  split at hj <;>
  · obtain ⟨a, -, hj⟩ := bind_eq_ok.mp hj
    cases hj
    exact hi

theorem read_of_mem_readCommands {ts : List Token} {is : List Instruction} (h : readCommands ts = .ok is) :
    ∀ i ∈ is, Token.command i.source i.line ∈ ts ∧ Instruction.read i.source i.line = .ok i := by
  induction ts generalizing is with
  | nil =>
    cases h
    exact fun i hi => absurd hi List.not_mem_nil
  | cons token rest ih =>
    cases token with
    | command text line =>
      obtain ⟨i, hi, h⟩ := bind_eq_ok.mp h
      obtain ⟨more, hm, h⟩ := bind_eq_ok.mp h
      cases h
      intro j hj
      rcases List.mem_cons.mp hj with rfl | hj
      · obtain ⟨rfl, rfl⟩ := Instruction.cites_of_read hi
        exact ⟨List.mem_cons_self, hi⟩
      · exact ⟨List.mem_cons_of_mem _ (ih hm j hj).1, (ih hm j hj).2⟩
    | openBrace | closeBrace => exact fun j hj => ⟨List.mem_cons_of_mem _ (ih h j hj).1, (ih h j hj).2⟩

/-! ### Layout -/

/-- The commands of a laid-out source text are written there. -/
theorem writtenIn_of_parseScript {r : CommandRegistry} {source : String} {row : List Instruction}
    (h : parseScript r source = .ok row) : ∀ i ∈ row, i.callbackOf = none → i.WrittenIn source := by
  obtain ⟨tree, ht, hl, -⟩ := parseScript_eq_ok.mp h
  have commands := readCommands_of_ofTokens ht
  have fresh := fresh_of_readCommands commands
  intro i hi hc
  have read : i.unplaced ∈ commandsOf tree := by
    rw [← commands_of_layoutNodes fresh hl]
    exact List.mem_map_of_mem (List.mem_filter.mpr ⟨hi, by rw [Instruction.isCallback, hc]; rfl⟩)
  obtain ⟨token, reads⟩ := read_of_mem_readCommands commands _ read
  exact ⟨token, reads⟩

/-! ### Scripts -/

/-- A script that is compiled from the source text `source` of the name `name`, or from a block of it. -/
inductive Script.CompiledFrom (name source : String) : Script → Prop
  | source {r : Registries} {predefined : List (String × String)} {s : Script} (commands : r.commands = .builtin)
    (made : Script.ofSource r name source predefined = .ok s) : CompiledFrom name source s
  | block {r : Registries} {function : String} {owner s : Script} {i : Instruction} {b : Span}
    (commands : r.commands = .builtin) (compiled : CompiledFrom name source owner) (here : i ∈ owner.instructions)
    (block : i.block = some b) (made : Script.ofBlock r function owner b = .ok s) : CompiledFrom name source s
  | reporting {s : Script} (compiled : CompiledFrom name source s) (verbosity : Verbosity) :
    CompiledFrom name source { s with verbosity := verbosity }

/-- The instruction that raises the report on a text that does not compile. -/
def reportInstruction (report : String) : Instruction :=
  { Instruction.ofName compileErrorName 1 with
    args := [Argument.ofText report], source := compileErrorName ++ " \"" ++ report ++ "\"" }

theorem instructions_ofReport (r : Registries) (name : String) (verbosity : Verbosity) (report : String) :
    ∀ i ∈ (Script.ofReport r name verbosity report).instructions, i = reportInstruction report := by
  intro i hi
  unfold Script.ofReport at hi
  dsimp only at hi
  split at hi
  · rename_i code hcode
    have row : (Script.ofCode name verbosity code).instructions = [reportInstruction report] :=
      (compile_entries hcode).1
    rw [row] at hi
    exact List.mem_singleton.mp hi
  · exact absurd hi List.not_mem_nil

namespace Script.CompiledFrom

variable {name source : String} {s : Script} (h : s.CompiledFrom name source)
include h

/-- The name of the source text is that of the script, or its origin for a block. -/
theorem sourceName : s.sourceName = Text.lower name := by
  induction h with
  | source _ made =>
    obtain ⟨row, -, made⟩ := bind_eq_ok.mp made
    obtain ⟨code, -, made⟩ := bind_eq_ok.mp made
    cases made
    rfl
  | block _ _ _ _ made ih =>
    obtain ⟨code, -, made⟩ := bind_eq_ok.mp made
    cases made
    exact ih
  | reporting _ _ ih => exact ih

/-- The commands of a script are written in its source text, those of a block with the lines that they have there. -/
theorem written : ∀ i ∈ s.instructions, i.callbackOf = none → i.WrittenIn source := by
  induction h with
  | source _ made =>
    obtain ⟨row, hp, made⟩ := bind_eq_ok.mp made
    obtain ⟨code, hcode, made⟩ := bind_eq_ok.mp made
    cases made
    intro i hi
    rw [Script.instructions, Script.ofCode, (compile_entries hcode).1] at hi
    exact writtenIn_of_parseScript hp i hi
  | @block r function owner s j b _ _ _ _ made ih =>
    obtain ⟨code, hcode, made⟩ := bind_eq_ok.mp made
    cases made
    intro i hi hc
    rw [Script.instructions, Script.ofCode, (compile_entries hcode).1, extractBlock_eq] at hi
    obtain ⟨k, hk, rfl⟩ := List.mem_map.mp hi
    have mem : k ∈ owner.instructions := List.mem_of_mem_take (List.mem_of_mem_drop hk)
    exact (ih k mem (Option.map_eq_none_iff.mp hc)).of_unplaced rfl
  | reporting _ _ ih => exact ih

end Script.CompiledFrom

/-- A script from a source text is compiled from that text or a block of it, or is the report on one that does not
    compile. -/
theorem Script.FromSource.compiledFrom {s : Script} (h : s.FromSource) :
    (∃ name source, s.CompiledFrom name source) ∨ ∃ report, ∀ i ∈ s.instructions, i = reportInstruction report := by
  induction h with
  | source commands made => exact Or.inl ⟨_, _, .source commands made⟩
  | block commands _ here block made ih =>
    rcases ih with ⟨name, source, compiled⟩ | ⟨report, only⟩
    · exact Or.inl ⟨name, source, .block commands compiled here block made⟩
    · -- A report has no block.
      rw [only _ here] at block
      cases block
  | report _ name verbosity text => exact Or.inr ⟨text, instructions_ofReport _ name verbosity text⟩
  | reporting _ verbosity ih =>
    rcases ih with ⟨name, source, compiled⟩ | ⟨report, only⟩
    · exact Or.inl ⟨name, source, compiled.reporting verbosity⟩
    · exact Or.inr ⟨report, only⟩

/-! ### Instructions -/

/-- What the text and the line of an instruction stand for. -/
inductive Script.Cites (s : Script) (i : Instruction) : Prop
  /-- A command of the source text. -/
  | command {name source : String} (compiled : s.CompiledFrom name source) (named : s.sourceName = Text.lower name)
    (written : i.WrittenIn source) (begins : BeginsIn source.toList i.source.toList i.line)
  /-- The end of the block of a command of the source text. -/
  | blockEnd {name source : String} {o : Instruction} {owner : Nat} (compiled : s.CompiledFrom name source)
    (named : s.sourceName = Text.lower name) (here : s.instructions[owner]? = some o) (written : o.WrittenIn source)
    (begins : BeginsIn source.toList o.source.toList o.line) (eq : i = o.endOfBlock owner)
  /-- The report on a text that does not compile. -/
  | report {text : String} (eq : i = reportInstruction text)

theorem Script.FromSource.cites {s : Script} (h : s.FromSource) : ∀ i ∈ s.instructions, s.Cites i := by
  intro i hi
  rcases h.compiledFrom with ⟨name, source, compiled⟩ | ⟨report, only⟩
  · have cites : ∀ j ∈ s.instructions, j.callbackOf = none →
        j.WrittenIn source ∧ BeginsIn source.toList j.source.toList j.line := fun j hj hc =>
      ⟨compiled.written j hj hc, beginsIn_of_mem_tokens (compiled.written j hj hc).token⟩
    cases hc : i.callbackOf with
    | none => exact .command compiled compiled.sourceName (cites i hi hc).1 (cites i hi hc).2
    | some owner =>
      obtain ⟨index, here⟩ := List.getElem?_of_mem hi
      obtain ⟨o, ho, eq⟩ := h.ordered.laid.end_eq (at_zero.mpr here) hc
      obtain ⟨o', _, ho', hnone, -⟩ := h.ordered.laid.endsAt_of_callbackOf (at_zero.mpr here) hc
      rw [← ho.unique ho'] at hnone
      have mem := List.mem_of_getElem? (at_zero.mp ho)
      exact .blockEnd compiled compiled.sourceName (at_zero.mp ho) (cites o mem hnone).1 (cites o mem hnone).2 eq
  · exact .report (only i hi)

end CommandScript
