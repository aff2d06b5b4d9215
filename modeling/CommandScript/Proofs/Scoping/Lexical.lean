import CommandScript.Proofs.Chains.Scopes
import CommandScript.Proofs.Scoping.Invariant
import CommandScript.Proofs.Scoping.Reading

/-! Lexical scoping. What an argument reads by `var[name]`, and what `set` finds when the script runs, is the latest
    variable of the name in sight, as the places of the instructions and their blocks tell it. -/

namespace CommandScript

/-- Instructions of a source text, or of a block cut out of such. -/
inductive Parsed (rc : CommandRegistry) : List Instruction → Prop
  | source {source : String} {row : List Instruction} (read : parseScript rc source = .ok row) : Parsed rc row
  | block {row : List Instruction} {i : Instruction} {s : Span} (origin : Parsed rc row) (here : i ∈ row)
    (block : i.block = some s) : Parsed rc (extractBlock row s)

theorem Parsed.laid {rc : CommandRegistry} {row : List Instruction} (h : Parsed rc row) : Laid rc 0 none row := by
  induction h with
  | source read => exact laid_of_parseScript read
  | block _ here block ih =>
    obtain ⟨index, hi⟩ := List.getElem?_of_mem here
    exact ih.extractBlock hi block

/-- What the arguments of the instruction `i` at a place read, when `c` is compiled before it. -/
structure ReadsLatest (r : Registries) (row : List Instruction) (predefined : List (String × String)) (index : Nat)
    (i : Instruction) (c : Compilation) : Prop where
  /-- What begins with `var[n]` begins with the slot of the latest variable `n` in sight. -/
  resolves {first : Part} {n : String} : first.reads? r.bases = some n → ∀ body table slot,
    (∃ start table', (compileStart ((c.leave index).tagScope r i.line) body first).run table = .ok (start, table') ∧
      start.start = .slot slot) ↔ latest? (·.visible row index) (c.declarations predefined) n = some slot
  /-- With none in sight, it does not compile. -/
  unknown {first : Part} {n : String} : first.reads? r.bases = some n →
    latest? (·.visible row index) (c.declarations predefined) n = none → ∀ body table,
      (compileStart ((c.leave index).tagScope r i.line) body first).run table =
        .error ⟨i.line, .unknownVariable n body⟩
  /-- With none in sight of an argument that reads `n` anywhere, the script does not compile. The error says so, unless
      it is one that the arguments would have with a variable `n` as well. -/
  fails {n : String} : n ∈ i.reads r.bases → latest? (·.visible row index) (c.declarations predefined) n = none →
    ∃ e, compile r row predefined = .error e ∧ ((∃ body, e = ⟨i.line, .unknownVariable n body⟩) ∨
      ∀ slot, (i.compiled (((c.leave index).tagScope r i.line).assume n slot)).run c.table = .error e)

/-- What the instructions of compiled code read and find. -/
structure Code.LexicallyScoped (r : Registries) (row : List Instruction) (predefined : List (String × String))
    (code : Code) : Prop where
  /-- Every variable that an argument reads is in sight. -/
  found {index : Nat} {e : Entry} : code.entries[index]? = some e → ∀ n ∈ e.instruction.reads r.bases,
    (latest? (·.visible row index) (code.declarations predefined) n).isSome = true
  /-- The arguments have the values that they have when each variable that they read is the latest in sight. -/
  values {index : Nat} {e : Entry} : code.entries[index]? = some e → r.PlainNames → ∃ s : Sight, s.registries = r ∧
    (∀ n, (s.find? n).map (·.slot) = latest? (·.visible row index) (code.declarations predefined) n) ∧
      ∀ slots vars, e.values ⟨slots, vars, r.types.conversions, code.chains⟩ =
        e.instruction.values s r.adapt slots vars
  /-- Behind an instruction, the latest variables in sight or of its own can be set. -/
  names {index : Nat} {e : Entry} : code.entries[index]? = some e → ∀ n, e.names.lookup n =
    latest? (fun d => d.visible row index || d.place == some index) (code.declarations predefined) n
  /-- At the end, those of the top level. -/
  finalNames (n : String) : code.finalNames.lookup n =
    latest? (·.visible row row.length) (code.declarations predefined) n

/-! ### One instruction -/

/-- A row is compiled up to an instruction, then that, and on from there. -/
theorem compile_append (r : Registries) (before after : List Instruction) (i : Instruction)
    (predefined : List (String × String)) :
    compile r (before ++ i :: after) predefined = (do
      let c ← before.foldlM (fun c i => c.add r i) (Compilation.start predefined)
      let c ← c.add r i
      let c ← after.foldlM (fun c i => c.add r i) c
      return ⟨c.entries, c.table.map (·.chain), c.slots, (c.scopes.getLast?.map (·.names)).getD []⟩) := by
  rw [compile, List.foldlM_append]
  simp only [List.foldlM_cons, bind_assoc]

theorem eq_take_append {row : List Instruction} {index : Nat} {i : Instruction} (hi : row[index]? = some i) :
    row = row.take index ++ i :: row.drop (index + 1) := by
  obtain ⟨hlt, rfl⟩ := List.getElem?_eq_some_iff.mp hi
  rw [← List.drop_eq_getElem_cons hlt, List.take_append_drop]

section
variable {rc : CommandRegistry} {row : List Instruction} (laid : Laid rc 0 none row) {r : Registries}
  {predefined : List (String × String)} {index : Nat} {i : Instruction} {c : Compilation}
include laid

theorem scoped_of_take (hi : row[index]? = some i)
    (hc : (row.take index).foldlM (fun c i => c.add r i) (Compilation.start predefined) = .ok c) :
    Scoped row predefined index c := by
  obtain ⟨hlt, -⟩ := List.getElem?_eq_some_iff.mp hi
  have part : ∀ k j, (row.take index)[k]? = some j → row[0 + k]? = some j := fun k j hj => by
    rw [Nat.zero_add]
    rw [List.getElem?_take] at hj
    split at hj
    · exact hj
    · cases hj
  have h := ((scoped_start row predefined).foldlM laid part hc).1
  rwa [Nat.zero_add, List.length_take_of_le (Nat.le_of_lt hlt)] at h

theorem readsLatest (hi : row[index]? = some i)
    (hc : (row.take index).foldlM (fun c i => c.add r i) (Compilation.start predefined) = .ok c) :
    ReadsLatest r row predefined index i c := by
  have inv := scoped_of_take laid hi hc
  have lookup : ∀ n, ((c.leave index).tagScope r i.line).lookup n =
      latest? (·.visible row index) (c.declarations predefined) n := inv.lookup laid
  refine ⟨fun {first n} hn body table slot => ?_, fun {first n} hn none body table => ?_, fun {n} reads none => ?_⟩
  · rw [compileStart_reads _ hn, lookup]
    cases latest? (·.visible row index) (c.declarations predefined) n with
    | none => exact ⟨fun ⟨_, _, h, _⟩ => (by cases h), fun h => (by cases h)⟩
    | some s =>
      refine ⟨fun ⟨start, table', h, hslot⟩ => ?_, fun h => ?_⟩
      · cases h
        cases hslot
        rfl
      · cases h
        exact ⟨_, table, rfl, rfl⟩
  · rw [compileStart_reads _ hn, lookup, none]
    rfl
  · have absent := (lookup n).trans none
    suffices found : ∃ e, (i.compiled ((c.leave index).tagScope r i.line)).run c.table = .error e ∧
        ((∃ body, e = ⟨i.line, .unknownVariable n body⟩) ∨
          ∀ slot, (i.compiled (((c.leave index).tagScope r i.line).assume n slot)).run c.table = .error e) by
      obtain ⟨e, he, known⟩ := found
      refine ⟨e, ?_, known⟩
      have added : c.add r i = .error e := Compilation.add_eq_error (by rw [inv.size]; exact he)
      have split := compile_append r (row.take index) (row.drop (index + 1)) i predefined
      rw [← eq_take_append hi, hc] at split
      rw [split]
      show (c.add r i >>= _) = _
      rw [added]
      rfl
    -- Either the arguments fail for want of the variable, or they come to the same with it, and fail since they read
    -- it.
    by_cases wanting : ∃ body, (i.compiled ((c.leave index).tagScope r i.line)).run c.table =
        .error ⟨i.line, .unknownVariable n body⟩
    · obtain ⟨body, h⟩ := wanting
      exact ⟨_, h, Or.inl ⟨body, rfl⟩⟩
    · have same := fun slot => (compiled_lacks absent slot i c.table).resolve_left wanting
      obtain ⟨e, he⟩ := (same 0).2 reads
      exact ⟨e, he, Or.inr fun slot => (same slot).1.symm.trans he⟩

end

/-! ### Compiled code -/

theorem getLast?_of_forall₂ {α β : Type} {R : α → β → Prop} {as : List α} {bs : List β} (h : List.Forall₂ R as bs)
    {a : α} (ha : as.getLast? = some a) : ∃ b, bs.getLast? = some b ∧ R a b := by
  induction h with
  | nil => cases ha
  | @cons x y as bs first rest ih =>
    cases rest with
    | nil =>
      cases ha
      exact ⟨y, rfl, first⟩
    | cons hab rest =>
      rw [List.getLast?_cons_cons] at ha ⊢
      exact ih ha

/-- Compiling keeps to some view of what is in sight. -/
theorem follows_foldlM {r : Registries} (plain : r.PlainNames) {is : List Instruction} {c c' : Compilation}
    (follows : ∃ v, Follows r v c) (h : is.foldlM (fun c i => c.add r i) c = .ok c') : ∃ v, Follows r v c' :=
  foldlM_keeps (fun c => ∃ v, Follows r v c)
    (fun _ _ _ ⟨_, follows⟩ hadd => ⟨_, (follows.add plain hadd).1⟩) follows h

theorem follows_of_foldlM {r : Registries} (plain : r.PlainNames) {predefined : List (String × String)}
    {is : List Instruction} {c : Compilation}
    (h : is.foldlM (fun c i => c.add r i) (Compilation.start predefined) = .ok c) : ∃ v, Follows r v c :=
  follows_foldlM plain ⟨View.start predefined, follows_start predefined⟩ h

/-- As many entries are compiled as there are instructions before a place. -/
theorem entries_size {r : Registries} {row : List Instruction} {predefined : List (String × String)} {c : Compilation}
    {index : Nat} {i : Instruction} (hi : row[index]? = some i)
    (hc : (row.take index).foldlM (fun c i => c.add r i) (Compilation.start predefined) = .ok c) :
    c.entries.size = index := by
  obtain ⟨es, hes, his, -⟩ := entries_of_foldlM hc
  rw [(start_empty predefined).1, List.nil_append] at hes
  have length := congrArg List.length his
  rw [List.length_map, ← hes, Array.length_toList, List.length_take] at length
  have := (List.getElem?_eq_some_iff.mp hi).1
  omega

section
variable {rc : CommandRegistry} {row : List Instruction} (laid : Laid rc 0 none row) {r : Registries}
  {predefined : List (String × String)} {code : Code} (h : compile r row predefined = .ok code)

include h in
/-- How the code came to an instruction, and went on. -/
theorem compile_at {index : Nat} {e : Entry} (he : code.entries[index]? = some e) : ∃ c c₁ c₂,
    row[index]? = some e.instruction ∧
    (row.take index).foldlM (fun c i => c.add r i) (Compilation.start predefined) = .ok c ∧
    c.add r e.instruction = .ok c₁ ∧ (row.drop (index + 1)).foldlM (fun c i => c.add r i) c₁ = .ok c₂ ∧
    code = ⟨c₂.entries, c₂.table.map (·.chain), c₂.slots, (c₂.scopes.getLast?.map (·.names)).getD []⟩ := by
  have hi : row[index]? = some e.instruction := by
    rw [← (compile_entries h).1, List.getElem?_map, Array.getElem?_toList, he]
    rfl
  rw [eq_take_append hi, compile_append] at h
  obtain ⟨c, hc, h⟩ := bind_eq_ok.mp h
  obtain ⟨c₁, hadd, h⟩ := bind_eq_ok.mp h
  obtain ⟨c₂, hrest, h⟩ := bind_eq_ok.mp h
  cases h
  exact ⟨c, c₁, c₂, hi, hc, hadd, hrest, rfl⟩

include h in
/-- How an instruction was compiled, and what the code went on from. -/
theorem entry_compiled_at {index : Nat} {e : Entry} (he : code.entries[index]? = some e) : ∃ c args t₁ named t₂ d c₂,
    row[index]? = some e.instruction ∧
    (row.take index).foldlM (fun c i => c.add r i) (Compilation.start predefined) = .ok c ∧
    (e.instruction.args.mapM (compileArgument ((c.leave index).tagScope r e.instruction.line))).run c.table =
      .ok (args, t₁) ∧
    (e.instruction.named.mapM (compileNamed ((c.leave index).tagScope r e.instruction.line))).run t₁ =
      .ok (named, t₂) ∧
    e.instruction.declaration r.commands (args.map (·.typeName)) = .ok d ∧
    e = (c.leave index).entryOf r e.instruction args named t₂ d ∧
    (row.drop (index + 1)).foldlM (fun c i => c.add r i) ((c.leave index).extend r e.instruction args named t₂ d) =
      .ok c₂ ∧
    code = ⟨c₂.entries, c₂.table.map (·.chain), c₂.slots, (c₂.scopes.getLast?.map (·.names)).getD []⟩ := by
  obtain ⟨c, c₁, c₂, hi, hc, hadd, hrest, hcode⟩ := compile_at h he
  obtain ⟨args, t₁, named, t₂, d, hargs, hnamed, hd, rfl⟩ := Compilation.add_eq_ok hadd
  have size := entries_size hi hc
  rw [size] at hrest hargs hnamed
  refine ⟨c, args, t₁, named, t₂, d, c₂, hi, hc, hargs, hnamed, hd, ?_, hrest, hcode⟩
  obtain ⟨es, hes, -, -⟩ := entries_of_foldlM hrest
  rw [Compilation.extend_entries, Array.toList_push, List.append_assoc] at hes
  have here : (c.leave index).entries.toList.length = index := by
    rw [Array.length_toList]
    exact size
  rw [hcode, ← Array.getElem?_toList] at he
  dsimp only at he
  rw [hes, List.getElem?_append_right (Nat.le_of_eq here), here, Nat.sub_self] at he
  exact (Option.some.inj he).symm

include laid h

/-- What is in sight of an instruction does not hang on what is declared behind it. -/
theorem latest?_at {index : Nat} {e : Entry} (he : code.entries[index]? = some e) {c : Compilation}
    (hc : (row.take index).foldlM (fun c i => c.add r i) (Compilation.start predefined) = .ok c) (n : String) :
    latest? (·.visible row index) (code.declarations predefined) n =
      latest? (·.visible row index) (c.declarations predefined) n := by
  obtain ⟨c', c₁, c₂, hi, hc', hadd, hrest, rfl⟩ := compile_at h he
  cases hc.symm.trans hc'
  have inv := scoped_of_take laid hi hc
  have part : ∀ k j, (row.drop index)[k]? = some j → row[index + k]? = some j := fun k j hj => by
    rwa [List.getElem?_drop] at hj
  have onwards : (row.drop index).foldlM (fun c i => c.add r i) c = .ok c₂ := by
    obtain ⟨hlt, hi⟩ := List.getElem?_eq_some_iff.mp hi
    rw [List.drop_eq_getElem_cons hlt, hi, List.foldlM_cons]
    exact bind_eq_ok.mpr ⟨c₁, hadd, hrest⟩
  -- What is declared from the instruction on is not in sight of it.
  obtain ⟨-, ⟨more, hmore, later⟩, -⟩ := inv.foldlM laid part onwards
  show latest? _ (c₂.declarations predefined) n = _
  rw [hmore]
  refine latest?_append (fun d hd => ?_) n
  obtain ⟨j, hj, hle⟩ := later d hd
  rw [Declared.visible, hj, Option.all_some, decide_eq_false (Nat.not_lt.mpr hle), Bool.false_and]

theorem values_at {index : Nat} {e : Entry} (he : code.entries[index]? = some e) (plain : r.PlainNames) :
    ∃ s : Sight, s.registries = r ∧
      (∀ n, (s.find? n).map (·.slot) = latest? (·.visible row index) (code.declarations predefined) n) ∧
        ∀ slots vars, e.values ⟨slots, vars, r.types.conversions, code.chains⟩ =
          e.instruction.values s r.adapt slots vars := by
  obtain ⟨c, c₁, c₂, hi, hc, hadd, hrest, hcode⟩ := compile_at h he
  have inv := scoped_of_take laid hi hc
  obtain ⟨v, follows⟩ := follows_of_foldlM plain hc
  obtain ⟨follows₁, -, e', he', -, agree⟩ := follows.add plain hadd
  obtain ⟨sound, grows, es, hes, -, -⟩ := follows₁.foldlM plain hrest
  -- The entry that the instruction is compiled to is the one that the code has at its place.
  have same : e' = e := by
    have here : c₂.entries.toList[index]? = some e' := by
      rw [hes, he', Array.toList_push, List.append_assoc, List.getElem?_append_right (Nat.le_of_eq inv.size)]
      show (e' :: es)[index - c.entries.size]? = _
      rw [inv.size, Nat.sub_self]
      rfl
    rw [hcode, ← Array.getElem?_toList] at he
    exact Option.some.inj (here.symm.trans he)
  refine ⟨(v.leave index).sight r, rfl, fun n => ?_, fun slots vars => ?_⟩
  · rw [latest?_at laid h he hc, ← inv.lookup laid]
    exact (lookup_of_levels (follows.view.leave index).levels n).symm
  · have agrees := agree.mono grows
    rw [inv.size, same] at agrees
    rw [hcode]
    exact agrees.values (holds_of_sound sound slots vars)

theorem code_lexicallyScoped : code.LexicallyScoped r row predefined := by
  obtain ⟨c, hfold, hcode⟩ := bind_eq_ok.mp h
  cases hcode
  have part : ∀ k i, row[k]? = some i → row[0 + k]? = some i := fun k i hk => by rwa [Nat.zero_add]
  obtain ⟨last, -, es, hes, hnames⟩ := (scoped_start row predefined).foldlM laid part hfold
  rw [(start_empty predefined).1] at hes
  refine ⟨fun {index e} he n reads => ?_, fun he plain => values_at laid h he plain, fun {index e} he n => ?_,
    fun n => ?_⟩
  · obtain ⟨c', -, -, hi, hc', -⟩ := compile_at h he
    rw [latest?_at laid h he hc']
    -- The code has been compiled, so no variable that is read can have been missing.
    refine Option.isSome_iff_ne_none.mpr fun none => ?_
    obtain ⟨error, failed, -⟩ := (readsLatest laid hi hc').fails reads none
    cases h.symm.trans failed
  · rw [← Array.getElem?_toList] at he
    have he : es[index]? = some e := by
      rw [← he]
      exact congrArg (·[index]?) hes.symm
    have names := hnames index e he n
    rwa [Nat.zero_add] at names
  · obtain ⟨homes, has, top, -⟩ := last.stack
    obtain ⟨scope, hscope, hhas⟩ := getLast?_of_forall₂ has top
    show ((c.scopes.getLast?.map (·.names)).getD []).lookup n = latest? _ (c.declarations predefined) n
    rw [hscope, Option.map_some, Option.getD_some, hhas.lookup]
    refine latest?_congr (fun d hd => ?_) n
    have before := last.order.before d hd
    rw [Nat.zero_add] at before
    rw [← contains_homesAround laid before, homesAround, laid.ownersAround_length]
    cases d.home row <;> rfl

end

/-- Scoping is lexical in all instructions that are read from a source text or cut out of it: an argument reads the
    latest variable of the name in sight, a script with one that is not there does not compile, and behind every
    instruction and at the end the same variables are found. -/
theorem Parsed.lexicallyScoped {rc : CommandRegistry} {row : List Instruction} (h : Parsed rc row) (r : Registries)
    (predefined : List (String × String)) :
    (∀ index i c, row[index]? = some i →
      (row.take index).foldlM (fun c i => c.add r i) (Compilation.start predefined) = .ok c →
        ReadsLatest r row predefined index i c) ∧
    ∀ code, compile r row predefined = .ok code → code.LexicallyScoped r row predefined :=
  ⟨fun _ _ _ hi hc => readsLatest h.laid hi hc, fun _ hcode => code_lexicallyScoped h.laid hcode⟩

/-- A predefined variable that the script declares anew from its own value, and once more in a block. -/
def shadowing : String :=
  "define a <\x7bvar[a]\x7d>; if true \x7b define a 2; echo <\x7bvar[a]\x7d>; \x7d echo <\x7bvar[a]\x7d>"

theorem Parsed.lexicallyScoped_shadowing : ∃ row code, Parsed .builtin row ∧
    compile .builtin row [("A", "text")] = .ok code ∧ code.LexicallyScoped .builtin row [("A", "text")] ∧
      row.map (·.reads BaseRegistry.builtin) = [["a"], [], [], ["a"], ["a"]] ∧
      (List.range row.length).map (fun index =>
        latest? (·.visible row index) (code.declarations [("A", "text")]) "a") =
          [some 0, some 1, some 1, some 2, some 1] ∧
      code.entries.toList.map (·.names.lookup "a") = [some 1, some 1, some 2, some 2, some 1] ∧
      code.finalNames.lookup "a" = some 1 := by
  have found : ((parseScript CommandRegistry.builtin shadowing).toOption.bind fun row =>
      (compile .builtin row [("A", "text")]).toOption.map fun code => (row, code)).any (fun (row, code) =>
        row.map (·.reads BaseRegistry.builtin) = [["a"], [], [], ["a"], ["a"]] &&
          ((List.range row.length).map (fun index =>
            latest? (·.visible row index) (code.declarations [("A", "text")]) "a") =
              [some 0, some 1, some 1, some 2, some 1] &&
          (code.entries.toList.map (·.names.lookup "a") = [some 1, some 1, some 2, some 2, some 1] &&
            code.finalNames.lookup "a" = some 1))) = true := by
    decide +kernel
  obtain ⟨⟨row, code⟩, accepted, found⟩ := (Option.any_eq_true _ _).mp found
  obtain ⟨row', hp, accepted⟩ := Option.bind_eq_some_iff.mp accepted
  obtain ⟨code', hc, heq⟩ := Option.map_eq_some_iff.mp accepted
  cases heq
  simp only [Bool.and_eq_true, decide_eq_true_eq] at found
  have parsed : Parsed .builtin row := .source (toOption_eq_some.mp hp)
  have hc := toOption_eq_some.mp hc
  exact ⟨row, code, parsed, hc, (parsed.lexicallyScoped .builtin _).2 code hc, found⟩

end CommandScript
