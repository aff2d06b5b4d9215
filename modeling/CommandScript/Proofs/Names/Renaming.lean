import CommandScript.Proofs.Chains.Agreement
import CommandScript.Proofs.Text.Plain

/-! Names that instructions write, and instructions in which the same names are spelled in another way. A script with
    all names spelled in another way, with the same plain forms, is compiled to the same code but for the arguments
    that write the names. -/

namespace CommandScript

/-! ### Names -/

/-- The positions of names in the arguments of a command. -/
def namePositions (command : String) : List Nat :=
  if command = "event" then [0, 1, 2]
  else if command = "define" ∨ command = "set" ∨ command = "mark" ∨ command = "function" then [0]
  else []

theorem namePositions_cases {name : String} (h : namePositions name ≠ []) :
    name = "define" ∨ name = "set" ∨ name = "mark" ∨ name = "function" ∨ name = "event" := by
  unfold namePositions at h
  split at h
  · rename_i event
    exact .inr (.inr (.inr (.inr event)))
  split at h
  · rename_i other
    rcases other with name | name | name | name <;> simp [name]
  · exact absurd rfl h

namespace Instruction

/-- The name that stands at a position of the arguments, as it is written, if names stand there. -/
def nameAt? (i : Instruction) (position : Nat) : Option String :=
  if position ∈ namePositions i.name then i.args[position]?.bind Argument.literal? else none

theorem nameAt?_eq_none {i : Instruction} {p : Nat} (other : p ∉ namePositions i.name) : i.nameAt? p = none :=
  if_neg other

end Instruction

/-- An argument with a name in its place, if there is one. -/
def Argument.naming (a : Argument) : Option String → Argument
  | some name => { a with segments := [.text name] }
  | none => a

/-- A compiled argument with a name in its place, if there is one. -/
def CompiledArgument.naming (c : CompiledArgument) : Option String → CompiledArgument
  | some name => ⟨[.text name], (Value.ofLiteral name).typeName⟩
  | none => c

/-- An instruction with its names spelled in another way. -/
def Instruction.respelled (spell : String → String) (i : Instruction) : Instruction :=
  { i with args := i.args.mapIdx fun p a => a.naming ((i.nameAt? p).map spell) }

/-- An entry with the names of its instruction spelled in another way. -/
def Entry.respelled (spell : String → String) (e : Entry) : Entry :=
  { e with
    instruction := e.instruction.respelled spell
    args := e.args.mapIdx fun p c => c.naming ((e.instruction.nameAt? p).map spell) }

/-- Code with all names spelled in another way. -/
def Code.respelled (spell : String → String) (code : Code) : Code :=
  { code with entries := code.entries.map (Entry.respelled spell) }

theorem Instruction.literal_of_nameAt? {i : Instruction} {p : Nat} {a : Argument} {name : String}
    (ha : i.args[p]? = some a) (h : i.nameAt? p = some name) : a.literal? = some name := by
  rw [nameAt?] at h
  split at h
  · rwa [ha] at h
  · cases h

/-! ### Literal arguments -/

section
variable (s : TagScope) (table : ChainTable)

theorem compileSegments_of_literal {segments : List Segment} {text : String} (h : literalText segments = some text) :
    ∃ parts, (compileSegments s segments).run table = .ok (parts, table) ∧ (∀ p ∈ parts, ∃ t, p = .text t) ∧
      ∀ run, joinParts run parts = .ok text := by
  induction segments generalizing text with
  | nil =>
    cases h
    rw [compileSegments]
    exact ⟨[], rfl, List.forall_mem_nil _, fun _ => rfl⟩
  | cons segment rest ih =>
    cases segment with
    | tag t => cases h
    | text t =>
      rw [literalText] at h
      obtain ⟨more, hmore, rfl⟩ := Option.map_eq_some_iff.mp h
      obtain ⟨parts, compiled, texts, joined⟩ := ih hmore
      refine ⟨.text t :: parts, ?_, List.forall_mem_cons.mpr ⟨⟨t, rfl⟩, texts⟩, fun run => ?_⟩
      · rw [compileSegments, compileSegment]
        exact run_bind_eq_ok.mpr ⟨_, _, rfl, run_bind_eq_ok.mpr ⟨_, _, compiled, rfl⟩⟩
      · rw [joinParts, joined]
        rfl

/-- A literal argument adds no chain to the table, and has its text for its value. -/
theorem compileArgument_of_literal {a : Argument} {text : String} (h : a.literal? = some text) :
    ∃ c, (compileArgument s a).run table = .ok (c, table) ∧ ∀ run, c.evaluateWith run = .ok (.text text) := by
  obtain ⟨segments, quoted⟩ := a
  obtain ⟨parts, compiled, texts, joined⟩ := compileSegments_of_literal s table h
  refine ⟨⟨parts, partsType table parts⟩, ?_, fun run => ?_⟩
  · rw [compileArgument]
    exact run_bind_eq_ok.mpr ⟨_, _, compiled, run_bind_eq_ok.mpr ⟨_, _, rfl, rfl⟩⟩
  · have value := joined run
    rw [CompiledArgument.evaluateWith]
    dsimp only
    split
    · obtain ⟨t, ht⟩ := texts _ List.mem_cons_self
      cases ht
    · rw [joinParts, joinParts] at value
      cases value
      rw [String.append_empty]
    · rw [value]
      rfl

end

section
variable {s : TagScope} {table table' : ChainTable} {as : List Argument} {cs : List CompiledArgument}
  (h : (as.mapM (compileArgument s)).run table = .ok (cs, table'))
include h

theorem compiled_of_mapM {p : Nat} {a : Argument} (ha : as[p]? = some a) :
    ∃ c t t', cs[p]? = some c ∧ (compileArgument s a).run t = .ok (c, t') := by
  induction as generalizing p cs table with
  | nil => cases ha
  | cons b rest ih =>
    rw [List.mapM_cons] at h
    obtain ⟨c, t₁, hc, h⟩ := run_bind_eq_ok.mp h
    obtain ⟨more, t₂, hmore, h⟩ := run_bind_eq_ok.mp h
    cases h
    cases p with
    | zero =>
      cases ha
      exact ⟨c, _, _, rfl, hc⟩
    | succ p => exact ih hmore ha

theorem evaluateWith_of_mapM {p : Nat} {a : Argument} (ha : as[p]? = some a) {text : String}
    (literal : a.literal? = some text) : ∃ c, cs[p]? = some c ∧ ∀ run, c.evaluateWith run = .ok (.text text) := by
  obtain ⟨c, t, t', hc, compiled⟩ := compiled_of_mapM h ha
  obtain ⟨c', compiled', value⟩ := compileArgument_of_literal s t literal
  cases compiled'.symm.trans compiled
  exact ⟨c, hc, value⟩

/-- Arguments are compiled to the same with names in their places that are literal anyway. -/
theorem mapM_naming {names : Nat → Option String} (literal : ∀ p a name, as[p]? = some a → names p = some name →
    ∃ text, a.literal? = some text) :
    ((as.mapIdx fun p a => a.naming (names p)).mapM (compileArgument s)).run table =
      .ok (cs.mapIdx fun p c => c.naming (names p), table') := by
  induction as generalizing names cs table with
  | nil =>
    cases h
    rfl
  | cons a rest ih =>
    rw [List.mapM_cons] at h
    obtain ⟨c, t₁, hc, h⟩ := run_bind_eq_ok.mp h
    obtain ⟨more, t₂, hmore, h⟩ := run_bind_eq_ok.mp h
    cases h
    have later : ((rest.mapIdx fun p a => a.naming (names (p + 1))).mapM (compileArgument s)).run t₁ =
        .ok (more.mapIdx fun p c => c.naming (names (p + 1)), table') :=
      ih hmore fun p a name ha hn => literal (p + 1) a name ha hn
    rw [List.mapIdx_cons, List.mapIdx_cons, List.mapM_cons]
    have first : (compileArgument s (a.naming (names 0))).run table = .ok (c.naming (names 0), t₁) := by
      cases hn : names 0 with
      | none => exact hc
      | some name =>
        obtain ⟨text, ht⟩ := literal 0 a name rfl hn
        obtain ⟨c', compiled, -⟩ := compileArgument_of_literal s table ht
        cases compiled.symm.trans hc
        rw [Argument.naming, compileArgument, compileSegments, compileSegment, compileSegments]
        rfl
    exact run_bind_eq_ok.mpr ⟨_, _, first, run_bind_eq_ok.mpr ⟨_, _, later, rfl⟩⟩

end

/-! ### Compiling -/

/-- A way to spell names that leaves their plain forms as they are. -/
def KeepsPlain (spell : String → String) : Prop :=
  ∀ name, Text.plain (spell name) = Text.plain name

theorem keepsPlain_plain : KeepsPlain Text.plain :=
  Text.plain_plain

theorem Argument.literal?_naming (a : Argument) (name : String) : (a.naming (some name)).literal? = some name := by
  show (some "").map (name ++ ·) = some name
  rw [Option.map_some, String.append_empty]

theorem Instruction.respelled_arg (spell : String → String) (i : Instruction) (p : Nat) :
    (i.respelled spell).args[p]? = (i.args[p]?).map fun a => a.naming ((i.nameAt? p).map spell) := by
  rw [respelled, List.getElem?_mapIdx]

namespace Compilation

/-- What has been compiled so far, with all names spelled in another way. -/
def respelled (spell : String → String) (c : Compilation) : Compilation :=
  { c with entries := c.entries.map (Entry.respelled spell) }

section
variable {spell : String → String}

theorem declared_respelled (c : Compilation) (i : Instruction) (table : ChainTable) (d : Option Declaration) :
    (c.respelled spell).declared (i.respelled spell) table d =
      ((c.declared i table d).1, (c.declared i table d).2.respelled spell) := by
  have block : (i.respelled spell).block = i.block := rfl
  have callback : (i.respelled spell).isCallback = i.isCallback := rfl
  have opened (c : Compilation) :
      (c.respelled spell).openBlock (i.respelled spell) = (c.openBlock i).respelled spell := by
    unfold openBlock
    rw [block, callback]
    cases i.block with
    | none => rfl
    | some b => cases i.isCallback <;> rfl
  have table :
      { c.respelled spell with table := table } = ({ c with table := table } : Compilation).respelled spell := rfl
  rw [declared, declared, table, opened]
  cases d <;> rfl

theorem extend_respelled (c : Compilation) (r : Registries) (i : Instruction) (args : List CompiledArgument)
    (named : List (String × CompiledArgument)) (table : ChainTable) (d : Option Declaration) :
    (c.respelled spell).extend r (i.respelled spell)
        (args.mapIdx fun p a => a.naming ((i.nameAt? p).map spell)) named table d =
      (c.extend r i args named table d).respelled spell := by
  unfold extend entryOf
  rw [declared_respelled]
  dsimp only [respelled]
  rw [Array.map_push]
  rfl

end

end Compilation

section
variable {spell : String → String} (keeps : KeepsPlain spell)
include keeps

/-- The plain names of an instruction are the same. -/
theorem plainName_respelled (i : Instruction) (p : Nat) : plainName (i.respelled spell) p = plainName i p := by
  have name : (i.respelled spell).name = i.name := rfl
  unfold plainName
  rw [Instruction.respelled_arg, name]
  cases ha : i.args[p]? with
  | none => rfl
  | some a =>
    cases hn : i.nameAt? p with
    | none => rfl
    | some t =>
      have plain := keeps t
      rw [Text.plain, Text.plain] at plain
      rw [Option.map_some, Option.map_some, Option.bind_some, Option.bind_some, Argument.literal?_naming,
        Instruction.literal_of_nameAt? ha hn]
      dsimp only
      rw [plain]

/-- The variable that an instruction declares is the same. -/
theorem declaration_respelled (i : Instruction) (cs : List CompiledArgument) :
    (i.respelled spell).declaration .builtin
        ((cs.mapIdx fun p c => c.naming ((i.nameAt? p).map spell)).map (·.typeName)) =
      i.declaration .builtin (cs.map (·.typeName)) := by
  have name : (i.respelled spell).name = i.name := rfl
  have callback : (i.respelled spell).isCallback = i.isCallback := rfl
  have line : (i.respelled spell).line = i.line := rfl
  unfold Instruction.declaration
  rw [name, callback, line]
  cases hg : CommandRegistry.builtin.get? i.name with
  | none => rfl
  | some c =>
    have declares : c.action.declares (i.respelled spell)
          ((cs.mapIdx fun p c => c.naming ((i.nameAt? p).map spell)).map (·.typeName)) =
        c.action.declares i (cs.map (·.typeName)) := by
      by_cases event : i.name = "event"
      · rw [event] at hg
        cases hg
        rfl
      · cases c.action
        case define =>
          -- The second argument is the value, which is no name.
          have value : i.nameAt? 1 = none := by
            rw [Instruction.nameAt?, namePositions, if_neg event, if_neg]
            split <;> decide
          simp only [Action.declares, plainName_respelled keeps, List.getElem?_map, List.getElem?_mapIdx, value,
            Option.map_none, CompiledArgument.naming, Option.map_id']
        all_goals rfl
    dsimp only
    rw [declares]

namespace Compilation

theorem add_respelled {c c' : Compilation} {r : Registries} (builtin : r.commands = .builtin) {i : Instruction}
    (h : c.add r i = .ok c') :
    (c.respelled spell).add r (i.respelled spell) = .ok (c'.respelled spell) := by
  obtain ⟨args, table, named, table', d, ha, hn, hd, rfl⟩ := add_eq_ok h
  have size : (c.respelled spell).entries.size = c.entries.size := Array.size_map
  have literal : ∀ p a name, i.args[p]? = some a → (i.nameAt? p).map spell = some name →
      ∃ text, a.literal? = some text := by
    intro p a name hp hname
    obtain ⟨t, ht, -⟩ := Option.map_eq_some_iff.mp hname
    exact ⟨t, Instruction.literal_of_nameAt? hp ht⟩
  have left :
      (c.respelled spell).leave (c.respelled spell).entries.size = (c.leave c.entries.size).respelled spell := by
    rw [size]
    rfl
  rw [builtin, ← declaration_respelled keeps, ← builtin] at hd
  rw [← extend_respelled, ← left]
  refine add_of_parts (?_ : _ = Except.ok (_, table)) ?_ hd
  · rw [left]
    exact mapM_naming ha literal
  · rw [left]
    exact hn

theorem foldlM_respelled {c c' : Compilation} {r : Registries} (builtin : r.commands = .builtin)
    {row : List Instruction} (h : row.foldlM (fun c i => c.add r i) c = .ok c') :
    (row.map (Instruction.respelled spell)).foldlM (fun c i => c.add r i) (c.respelled spell) =
      .ok (c'.respelled spell) := by
  induction row generalizing c with
  | nil =>
    cases h
    rfl
  | cons i rest ih =>
    rw [List.foldlM_cons] at h
    obtain ⟨c₁, hadd, hrest⟩ := bind_eq_ok.mp h
    rw [List.map_cons, List.foldlM_cons]
    exact bind_eq_ok.mpr ⟨_, add_respelled keeps builtin hadd, ih hrest⟩

end Compilation

/-- Instructions with their names spelled in another way are compiled to the entries with these names spelled that way,
    if the plain forms of the names are the same. -/
theorem compile_respelled {r : Registries} (builtin : r.commands = .builtin) {row : List Instruction}
    {predefined : List (String × String)} {code : Code} (h : compile r row predefined = .ok code) :
    compile r (row.map (Instruction.respelled spell)) predefined = .ok (code.respelled spell) := by
  obtain ⟨c, hfold, h⟩ := bind_eq_ok.mp h
  cases h
  have start : (Compilation.start predefined).respelled spell = Compilation.start predefined := by
    have empty := (start_empty predefined).1
    rw [Compilation.respelled, empty, Array.map_empty, ← empty]
  have folded := Compilation.foldlM_respelled keeps builtin hfold
  rw [start] at folded
  exact bind_eq_ok.mpr ⟨_, folded, rfl⟩

end

end CommandScript
