import Mathlib.Data.List.Forall2
import CommandScript.Proofs.Outcome
import CommandScript.Script.Compile

/-! What compiling a list of instructions comes to, instruction by instruction: one entry for each, in order, with the
    command of its name. -/

namespace CommandScript

/-! ### Values by key -/

theorem lookup_setKey_self [BEq κ] [LawfulBEq κ] (key : κ) (value : α) (pairs : List (κ × α)) :
    (setKey key value pairs).lookup key = some value := by
  induction pairs with
  | nil => simp [setKey]
  | cons pair rest ih =>
    obtain ⟨k, v⟩ := pair
    rw [setKey]
    split
    · simp
    · rename_i hk
      have hk : (key == k) = false := beq_eq_false_iff_ne.mpr fun h => hk (by rw [h, beq_self_eq_true])
      rw [List.lookup_cons, hk]
      exact ih

theorem lookup_setKey_ne [BEq κ] [LawfulBEq κ] {key other : κ} (h : other ≠ key) (value : α)
    (pairs : List (κ × α)) : (setKey key value pairs).lookup other = pairs.lookup other := by
  have hne : (other == key) = false := by simpa using h
  induction pairs with
  | nil => simp [setKey, List.lookup_cons, hne]
  | cons pair rest ih =>
    obtain ⟨k, v⟩ := pair
    rw [setKey]
    split
    · rename_i hk
      have hk : k = key := by simpa using hk
      subst hk
      simp [List.lookup_cons, hne]
    · rw [List.lookup_cons, List.lookup_cons, ih]

theorem mem_setKey [BEq κ] {key : κ} {value : α} {pairs : List (κ × α)} {pair : κ × α}
    (h : pair ∈ setKey key value pairs) : pair = (key, value) ∨ pair ∈ pairs := by
  induction pairs with
  | nil => exact Or.inl (List.mem_singleton.mp h)
  | cons first rest ih =>
    obtain ⟨k, v⟩ := first
    rw [setKey] at h
    split at h
    · rcases List.mem_cons.mp h with h | h
      · exact Or.inl h
      · exact Or.inr (List.mem_cons_of_mem _ h)
    · rcases List.mem_cons.mp h with h | h
      · exact Or.inr (h ▸ List.mem_cons_self)
      · exact (ih h).imp id (List.mem_cons_of_mem _)

theorem mem_of_lookup [BEq κ] [LawfulBEq κ] {key : κ} {value : α} {pairs : List (κ × α)}
    (h : pairs.lookup key = some value) : (key, value) ∈ pairs := by
  induction pairs with
  | nil => cases h
  | cons first rest ih =>
    obtain ⟨k, v⟩ := first
    rw [List.lookup_cons] at h
    split at h
    · rename_i hk
      cases h
      rw [eq_of_beq hk]
      exact List.mem_cons_self
    · exact List.mem_cons_of_mem _ (ih h)

/-- Rows that go together still do when the same number of heads is dropped from each. -/
theorem forall₂_dropWhile {α β : Type} {R : α → β → Prop} {p : α → Bool} {q : β → Bool} {as : List α} {bs : List β}
    (same : ∀ a b, R a b → p a = q b) (h : List.Forall₂ R as bs) :
    List.Forall₂ R (as.dropWhile p) (bs.dropWhile q) := by
  induction h with
  | nil => exact .nil
  | @cons a b _ _ hab rest ih =>
    rw [List.dropWhile_cons, List.dropWhile_cons, same a b hab]
    split
    · exact ih
    · exact .cons hab rest

/-! ### One instruction -/

/-- The variable that an instruction declares, if it does not stand for the end of a block. -/
def Instruction.declaration (i : Instruction) (r : CommandRegistry) (typeNames : List String) :
    Except CompileError (Option Declaration) :=
  match r.get? i.name with
  | none => .ok none
  | some c =>
    if i.isCallback then .ok none
    else
      match c.action.declares i typeNames with
      | .ok d => .ok d
      | .error e => .error ⟨i.line, .rejected e⟩

namespace Compilation

/-- Opens the scope of the block that an instruction owns. -/
def openBlock (c : Compilation) (i : Instruction) : Compilation :=
  match i.block with
  | some s => if i.isCallback then c else { c with scopes := ⟨some s.stop, []⟩ :: c.scopes }
  | none => c

/-- Declares a variable, if there is one to declare, and says its slot. -/
def declareAny (c : Compilation) (d : Option Declaration) : Option Nat × Compilation :=
  match d with
  | some d => (some (c.declare d).1, (c.declare d).2)
  | none => (none, c)

/-- The slot of what an instruction declares, and what there is with its block open and its variable declared. -/
def declared (c : Compilation) (i : Instruction) (table : ChainTable) (d : Option Declaration) :
    Option Nat × Compilation :=
  ({ c with table := table }.openBlock i).declareAny d

/-- The entry of an instruction whose arguments are compiled. -/
def entryOf (c : Compilation) (r : Registries) (i : Instruction) (args : List CompiledArgument)
    (named : List (String × CompiledArgument)) (table : ChainTable) (d : Option Declaration) : Entry :=
  ⟨i, args, named, (c.declared i table d).1, (c.declared i table d).2.visible, r.commands.get? i.name⟩

/-- What there is after an instruction whose arguments are compiled. -/
def extend (c : Compilation) (r : Registries) (i : Instruction) (args : List CompiledArgument)
    (named : List (String × CompiledArgument)) (table : ChainTable) (d : Option Declaration) : Compilation :=
  { (c.declared i table d).2 with
    entries := (c.declared i table d).2.entries.push (c.entryOf r i args named table d) }

/-- Adding an instruction compiles its arguments, then those with keys, and declares its variable in what is left
    of the scopes. -/
theorem add_eq (c : Compilation) (r : Registries) (i : Instruction) : c.add r i = do
    let (args, table) ← (i.args.mapM (compileArgument ((c.leave c.entries.size).tagScope r i.line))).run c.table
    let (named, table) ← (i.named.mapM (compileNamed ((c.leave c.entries.size).tagScope r i.line))).run table
    let d ← i.declaration r.commands (args.map (·.typeName))
    return (c.leave c.entries.size).extend r i args named table d := by
  unfold add Instruction.declaration extend entryOf declared openBlock
  dsimp only
  refine bind_congr fun args => bind_congr fun named => ?_
  cases hg : r.commands.get? i.name with
  | none => rfl
  | some command =>
    dsimp only
    by_cases hc : i.isCallback = true
    · simp only [hc, if_true]
      rfl
    · simp only [if_neg hc]
      cases command.action.declares i (args.1.map (·.typeName)) with
      | error e => rfl
      | ok d => cases d <;> rfl

theorem add_eq_ok {c c' : Compilation} {r : Registries} {i : Instruction} (h : c.add r i = .ok c') :
    ∃ args table named table' d,
      (i.args.mapM (compileArgument ((c.leave c.entries.size).tagScope r i.line))).run c.table = .ok (args, table) ∧
      (i.named.mapM (compileNamed ((c.leave c.entries.size).tagScope r i.line))).run table = .ok (named, table') ∧
      i.declaration r.commands (args.map (·.typeName)) = .ok d ∧
      c' = (c.leave c.entries.size).extend r i args named table' d := by
  rw [add_eq] at h
  obtain ⟨⟨args, table⟩, ha, h⟩ := bind_eq_ok.mp h
  obtain ⟨⟨named, table'⟩, hn, h⟩ := bind_eq_ok.mp h
  obtain ⟨d, hd, h⟩ := bind_eq_ok.mp h
  cases h
  exact ⟨args, table, named, table', d, ha, hn, hd, rfl⟩

/-- Adding an instruction succeeds if its parts do. -/
theorem add_of_parts {c : Compilation} {r : Registries} {i : Instruction} {args : List CompiledArgument}
    {named : List (String × CompiledArgument)} {table table' : ChainTable} {d : Option Declaration}
    (ha : (i.args.mapM (compileArgument ((c.leave c.entries.size).tagScope r i.line))).run c.table =
      .ok (args, table))
    (hn : (i.named.mapM (compileNamed ((c.leave c.entries.size).tagScope r i.line))).run table =
      .ok (named, table'))
    (hd : i.declaration r.commands (args.map (·.typeName)) = .ok d) :
    c.add r i = .ok ((c.leave c.entries.size).extend r i args named table' d) := by
  rw [add_eq]
  exact bind_eq_ok.mpr ⟨(args, table), ha, bind_eq_ok.mpr ⟨(named, table'), hn, bind_eq_ok.mpr ⟨d, hd, rfl⟩⟩⟩

theorem openBlock_entries (c : Compilation) (i : Instruction) : (c.openBlock i).entries = c.entries := by
  unfold openBlock
  repeat' split
  all_goals rfl

theorem openBlock_table (c : Compilation) (i : Instruction) : (c.openBlock i).table = c.table := by
  unfold openBlock
  repeat' split
  all_goals rfl

theorem openBlock_slots (c : Compilation) (i : Instruction) : (c.openBlock i).slots = c.slots := by
  unfold openBlock
  repeat' split
  all_goals rfl

theorem declareAny_entries (c : Compilation) (d : Option Declaration) : (c.declareAny d).2.entries = c.entries := by
  cases d <;> rfl

theorem declareAny_table (c : Compilation) (d : Option Declaration) : (c.declareAny d).2.table = c.table := by
  cases d <;> rfl

theorem declared_slot (c : Compilation) (i : Instruction) (table : ChainTable) (d : Option Declaration) :
    (c.declared i table d).1 = d.map fun _ => c.slots.size := by
  cases d with
  | none => rfl
  | some d => exact congrArg (fun slots => some (Array.size slots)) (openBlock_slots _ _)

theorem declared_slots (c : Compilation) (i : Instruction) (table : ChainTable) (d : Option Declaration) :
    (c.declared i table d).2.slots =
      (d.map fun d => c.slots.push ⟨Text.lower d.name, d.typeName⟩).getD c.slots := by
  cases d with
  | none => exact openBlock_slots _ _
  | some d => exact congrArg (Array.push · _) (openBlock_slots _ _)

theorem declared_table (c : Compilation) (i : Instruction) (table : ChainTable) (d : Option Declaration) :
    (c.declared i table d).2.table = table := by
  rw [declared, declareAny_table, openBlock_table]

theorem extend_entries (c : Compilation) (r : Registries) (i : Instruction) (args : List CompiledArgument)
    (named : List (String × CompiledArgument)) (table : ChainTable) (d : Option Declaration) :
    (c.extend r i args named table d).entries = c.entries.push (c.entryOf r i args named table d) := by
  unfold extend declared
  dsimp only
  rw [declareAny_entries, openBlock_entries]

/-- The entry that an instruction adds. -/
theorem add_entries {c c' : Compilation} {r : Registries} {i : Instruction} (h : c.add r i = .ok c') :
    ∃ e, c'.entries = c.entries.push e ∧ e.instruction = i ∧ e.command = r.commands.get? i.name := by
  obtain ⟨args, _, named, table', d, -, -, -, rfl⟩ := add_eq_ok h
  exact ⟨_, extend_entries _ r i args named table' d, rfl, rfl⟩

end Compilation

/-! ### All instructions -/

theorem entries_of_foldlM {r : Registries} {is : List Instruction} {c c' : Compilation}
    (h : is.foldlM (fun c i => c.add r i) c = .ok c') :
    ∃ es, c'.entries.toList = c.entries.toList ++ es ∧ es.map (·.instruction) = is ∧
      ∀ e ∈ es, e.command = r.commands.get? e.instruction.name := by
  induction is generalizing c with
  | nil =>
    cases h
    exact ⟨[], by simp⟩
  | cons i rest ih =>
    rw [List.foldlM_cons] at h
    obtain ⟨c₁, h₁, h⟩ := bind_eq_ok.mp h
    obtain ⟨e, he, hi, hc⟩ := Compilation.add_entries h₁
    obtain ⟨es, hes, his, hcs⟩ := ih h
    refine ⟨e :: es, ?_, by rw [List.map_cons, hi, his], fun x hx => ?_⟩
    · rw [hes, he, Array.toList_push, List.append_assoc, List.singleton_append]
    · rcases List.mem_cons.mp hx with rfl | hx
      · rw [hc, hi]
      · exact hcs x hx

/-- Before the first instruction there are variables only. -/
theorem start_empty (predefined : List (String × String)) :
    (Compilation.start predefined).entries = #[] ∧ (Compilation.start predefined).table = #[] := by
  have keeps : ∀ (l : List (String × String)) (c : Compilation), c.entries = #[] ∧ c.table = #[] →
      (l.foldl (fun c d => (c.declare ⟨d.1, d.2⟩).2) c).entries = #[] ∧
        (l.foldl (fun c d => (c.declare ⟨d.1, d.2⟩).2) c).table = #[] := fun l => by
    induction l with
    | nil => exact fun _ h => h
    | cons d rest ih => exact fun c h => ih (c.declare ⟨d.1, d.2⟩).2 h
  exact keeps predefined _ ⟨rfl, rfl⟩

/-- Compiling keeps the instructions, and every entry has the command of its name. -/
theorem compile_entries {r : Registries} {is : List Instruction} {predefined : List (String × String)} {code : Code}
    (h : compile r is predefined = .ok code) :
    code.entries.toList.map (·.instruction) = is ∧
      ∀ e ∈ code.entries.toList, e.command = r.commands.get? e.instruction.name := by
  obtain ⟨c, hc, h⟩ := bind_eq_ok.mp h
  cases h
  obtain ⟨es, hes, h⟩ := entries_of_foldlM hc
  rw [(start_empty predefined).1] at hes
  dsimp only
  rw [hes]
  exact h

end CommandScript
