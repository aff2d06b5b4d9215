import CommandScript.Proofs.Chains.Agreement
import CommandScript.Script

/-! Compiling a list of instructions. The scopes of the compiler hold the variables that are in sight, instruction by
    instruction, and what is compiled in them keeps its value while the table grows to its end: the arguments of
    compiled code have the values that they have in the source, whatever is in the slots and in the dynamic variables
    when they are evaluated. -/

namespace CommandScript

/-! ### Variables in sight -/

/-- A scope that has the variables of a level. -/
structure LevelAgrees (slots : Array Slot) (l : Level) (scope : Scope) : Prop where
  stop : scope.stop = l.stop
  lookup : ∀ name, scope.names.lookup name = (l.declared.lookup name).map (·.slot)
  typed : ∀ {name : String} {x : Variable}, l.declared.lookup name = some x →
    ∃ slot, slots[x.slot]? = some slot ∧ slot.typeName = x.typeName

/-- Scopes and slots that have the variables of a view. -/
structure ViewAgrees (v : View) (c : Compilation) : Prop where
  levels : List.Forall₂ (LevelAgrees c.slots) v.levels c.scopes
  count : v.count = c.slots.size

theorem slots_push {slots : Array Slot} (slot : Slot) {i : Nat} {s : Slot} (h : slots[i]? = some s) :
    (slots.push slot)[i]? = some s := by
  rw [Array.getElem?_push, if_neg, h]
  have := (Array.getElem?_eq_some_iff.mp h).1
  omega

theorem LevelAgrees.mono {slots slots' : Array Slot}
    (grows : ∀ {i : Nat} {s : Slot}, slots[i]? = some s → slots'[i]? = some s) {l : Level} {scope : Scope}
    (h : LevelAgrees slots l scope) : LevelAgrees slots' l scope where
  stop := h.stop
  lookup := h.lookup
  typed hx := by
    obtain ⟨slot, hs, ht⟩ := h.typed hx
    exact ⟨slot, grows hs, ht⟩

section
variable {slots : Array Slot} {levels : List Level} {scopes : List Scope}

theorem lookup_of_levels (h : List.Forall₂ (LevelAgrees slots) levels scopes) (name : String) :
    (scopes.findSome? fun s => s.names.lookup name) =
      (levels.findSome? fun l => l.declared.lookup name).map (·.slot) := by
  induction h with
  | nil => rfl
  | @cons l scope _ _ hl _ ih =>
    rw [List.findSome?_cons, List.findSome?_cons, hl.lookup]
    cases l.declared.lookup name with
    | none => exact ih
    | some x => rfl

theorem typed_of_levels (h : List.Forall₂ (LevelAgrees slots) levels scopes) {name : String} {x : Variable}
    (hx : (levels.findSome? fun l => l.declared.lookup name) = some x) :
    ∃ slot, slots[x.slot]? = some slot ∧ slot.typeName = x.typeName := by
  induction h with
  | nil => cases hx
  | @cons l _ _ _ hl _ ih =>
    rw [List.findSome?_cons] at hx
    cases hn : l.declared.lookup name with
    | none =>
      rw [hn] at hx
      exact ih hx
    | some y =>
      rw [hn] at hx
      cases hx
      exact hl.typed hn

end

namespace ViewAgrees
variable {v : View} {c : Compilation}

/-- The compiler finds the variables that are in sight. -/
theorem finds (h : ViewAgrees v c) (r : Registries) (line : Nat) : (c.tagScope r line).Finds v.find? :=
  ⟨lookup_of_levels h.levels, typed_of_levels h.levels⟩

theorem leave (h : ViewAgrees v c) (index : Nat) : ViewAgrees (v.leave index) (c.leave index) :=
  ⟨forall₂_dropWhile (fun _ _ hl => congrArg (·.any (· ≤ index)) hl.stop.symm) h.levels, h.count⟩

theorem enter (h : ViewAgrees v c) (i : Instruction) : ViewAgrees (v.enter i) (c.openBlock i) := by
  unfold View.enter Compilation.openBlock
  cases i.block with
  | none => exact h
  | some s =>
    dsimp only
    split
    · exact h
    · exact ⟨.cons ⟨rfl, fun _ => rfl, fun hx => (by cases hx)⟩ h.levels, h.count⟩

theorem declare (h : ViewAgrees v c) (d : Declaration) : ViewAgrees (v.declare d) (c.declare d).2 := by
  obtain ⟨levels, count⟩ := h
  obtain ⟨scopes, slots, table, entries⟩ := c
  obtain ⟨vlevels, vcount⟩ := v
  dsimp only at levels count
  subst count
  cases levels with
  | nil => exact ⟨.nil, (Array.size_push _).symm⟩
  | @cons l scope _ _ hl hrest =>
    refine ⟨.cons ⟨hl.stop, fun name => ?_, fun {name x} hx => ?_⟩
      (hrest.imp fun _ _ => LevelAgrees.mono (slots_push _)), (Array.size_push _).symm⟩
    · show (setKey (Text.lower d.name) slots.size scope.names).lookup name = _
      by_cases hn : name = Text.lower d.name
      · rw [hn, lookup_setKey_self, List.lookup_cons_self]
        rfl
      · rw [lookup_setKey_ne hn, hl.lookup, List.lookup_cons, beq_eq_false_iff_ne.mpr hn]
    · by_cases hn : name = Text.lower d.name
      · rw [hn, List.lookup_cons_self] at hx
        cases hx
        exact ⟨_, Array.getElem?_push_size, rfl⟩
      · rw [List.lookup_cons, beq_eq_false_iff_ne.mpr hn] at hx
        obtain ⟨slot, hs, ht⟩ := hl.typed hx
        exact ⟨slot, slots_push _ hs, ht⟩

theorem declareAny (h : ViewAgrees v c) (d : Option Declaration) :
    ViewAgrees (match d with | some d => v.declare d | none => v) (c.declareAny d).2 := by
  cases d with
  | none => exact h
  | some d => exact h.declare d

end ViewAgrees

theorem viewAgrees_start (predefined : List (String × String)) :
    ViewAgrees (View.start predefined) (Compilation.start predefined) := by
  have keeps : ∀ (predefined : List (String × String)) (v : View) (c : Compilation), ViewAgrees v c →
      ViewAgrees (predefined.foldl (fun v d => v.declare ⟨d.1, d.2⟩) v)
        (predefined.foldl (fun c d => (c.declare ⟨d.1, d.2⟩).2) c) := by
    intro predefined
    induction predefined with
    | nil => exact fun _ _ h => h
    | cons d rest ih => exact fun v c h => ih _ _ (h.declare _)
  exact keeps predefined _ _ ⟨.cons ⟨rfl, fun _ => rfl, fun hx => (by cases hx)⟩ .nil, rfl⟩

/-! ### One instruction -/

/-- An entry whose arguments have what they have in the source. -/
structure EntryAgrees (r : Registries) (table : ChainTable) (v : View) (e : Entry) : Prop where
  args : List.Forall₂ (ArgumentAgrees (v.sight r) table) e.instruction.args e.args
  named : List.Forall₂ (fun a c => a.1 = c.1 ∧ ArgumentAgrees (v.sight r) table a.2 c.2) e.instruction.named e.named

theorem EntryAgrees.mono {r : Registries} {table table' : ChainTable} {v : View} {e : Entry}
    (h : EntryAgrees r table v e) (grows : Grows table table') : EntryAgrees r table' v e :=
  ⟨h.args.imp fun _ _ ha => ha.mono grows, h.named.imp fun _ _ ha => ⟨ha.1, ha.2.mono grows⟩⟩

/-- What each argument in a row comes to, the row comes to. -/
theorem mapM_agrees {α β : Type} {s : TagScope} {f : α → Compiling β} {P : ChainTable → α → β → Prop}
    (mono : ∀ {table table' : ChainTable} {a : α} {b : β}, Grows table table' → P table a b → P table' a b)
    (spec : ∀ (a : α) {table table' : ChainTable} {b : β}, Sound s.registries s.slots table →
      (f a).run table = .ok (b, table') → Extends s table table' ∧ P table' a b)
    {as : List α} {bs : List β} {table table' : ChainTable} (sound : Sound s.registries s.slots table)
    (h : (as.mapM f).run table = .ok (bs, table')) : Extends s table table' ∧ List.Forall₂ (P table') as bs := by
  induction as generalizing bs table with
  | nil =>
    rw [List.mapM_nil] at h
    cases h
    exact ⟨⟨Grows.refl _, sound⟩, .nil⟩
  | cons a rest ih =>
    rw [List.mapM_cons] at h
    obtain ⟨b, t₁, hb, h⟩ := run_bind_eq_ok.mp h
    obtain ⟨more, t₂, hmore, h⟩ := run_bind_eq_ok.mp h
    cases h
    obtain ⟨ext₁, agree⟩ := spec a sound hb
    obtain ⟨ext₂, agrees⟩ := ih ext₁.sound hmore
    exact ⟨ext₁.trans ext₂, .cons (mono ext₂.grows agree) agrees⟩

theorem mapM_argumentType {s : Sight} {table : ChainTable} {as : List Argument} {cs : List CompiledArgument}
    (h : List.Forall₂ (ArgumentAgrees s table) as cs) : as.mapM s.argumentType = some (cs.map (·.typeName)) := by
  induction h with
  | nil => rfl
  | cons h _ ih =>
    rw [List.mapM_cons, h.typed, ih]
    rfl

namespace Compilation

theorem declareAny_slots (c : Compilation) (d : Option Declaration) {i : Nat} {s : Slot} (h : c.slots[i]? = some s) :
    (c.declareAny d).2.slots[i]? = some s := by
  cases d with
  | none => exact h
  | some d => exact slots_push _ h

end Compilation

/-- What has been compiled of a list of instructions, up to a place where a view has the variables in sight. -/
structure Follows (r : Registries) (v : View) (c : Compilation) : Prop where
  view : ViewAgrees v c
  sound : Sound r c.slots c.table

theorem follows_start {r : Registries} (predefined : List (String × String)) :
    Follows r (View.start predefined) (Compilation.start predefined) := by
  refine ⟨viewAgrees_start predefined, ⟨fun {i e} he => ?_⟩⟩
  rw [(start_empty predefined).2] at he
  cases he

/-- Compiling an instruction adds an entry with what its arguments have in the source, and leads to what is in sight
    behind it. -/
theorem Follows.add {r : Registries} (plain : r.PlainNames) {v : View} {c c' : Compilation} {i : Instruction}
    (h : Follows r v c) (hadd : c.add r i = .ok c') :
    Follows r ((v.leave c.entries.size).after r i) c' ∧ Grows c.table c'.table ∧
      ∃ e, c'.entries = c.entries.push e ∧ e.instruction = i ∧ EntryAgrees r c'.table (v.leave c.entries.size) e := by
  obtain ⟨args, t₁, named, t₂, d, hargs, hnamed, hd, rfl⟩ := Compilation.add_eq_ok hadd
  have here := h.view.leave c.entries.size
  have finds := here.finds r i.line
  obtain ⟨ext₁, agree₁⟩ := mapM_agrees (P := fun t => ArgumentAgrees ((v.leave c.entries.size).sight r) t)
    (fun grows ha => ha.mono grows) (fun a _ _ _ sound ha => compileArgument_agrees finds plain a sound ha) h.sound
    hargs
  have namedSpec : ∀ (a : String × Argument) {table table' : ChainTable} {b : String × CompiledArgument},
      Sound r (c.leave c.entries.size).slots table →
      (compileNamed ((c.leave c.entries.size).tagScope r i.line) a).run table = .ok (b, table') →
      Extends ((c.leave c.entries.size).tagScope r i.line) table table' ∧
        (a.1 = b.1 ∧ ArgumentAgrees ((v.leave c.entries.size).sight r) table' a.2 b.2) := by
    intro a table table' b sound ha
    rw [compileNamed] at ha
    obtain ⟨arg, t, harg, ha⟩ := run_bind_eq_ok.mp ha
    cases ha
    obtain ⟨ext, agree⟩ := compileArgument_agrees finds plain a.2 sound harg
    exact ⟨ext, rfl, agree⟩
  obtain ⟨ext₂, agree₂⟩ := mapM_agrees
    (P := fun t (a : String × Argument) (b : String × CompiledArgument) =>
      a.1 = b.1 ∧ ArgumentAgrees ((v.leave c.entries.size).sight r) t a.2 b.2)
    (fun grows ha => ⟨ha.1, ha.2.mono grows⟩) namedSpec ext₁.sound hnamed
  have declares : (v.leave c.entries.size).declaration r i = d := by
    rw [View.declaration, mapM_argumentType agree₁]
    simp only [Option.bind_eq_bind, Option.bind_some, hd]
    rfl
  have table := Compilation.declared_table (c.leave c.entries.size) i t₂ d
  have view : ViewAgrees ((v.leave c.entries.size).after r i) ((c.leave c.entries.size).declared i t₂ d).2 := by
    have opened : ViewAgrees (v.leave c.entries.size) { c.leave c.entries.size with table := t₂ } :=
      ⟨here.levels, here.count⟩
    have declared := (opened.enter i).declareAny d
    rw [View.after, declares]
    cases d <;> exact declared
  refine ⟨⟨⟨view.levels, view.count⟩, ?_⟩, ?_, (c.leave c.entries.size).entryOf r i args named t₂ d, ?_, rfl, ?_⟩
  · show Sound r ((c.leave c.entries.size).declared i t₂ d).2.slots ((c.leave c.entries.size).declared i t₂ d).2.table
    rw [table]
    refine ext₂.sound.of_slots fun {j s} hs => Compilation.declareAny_slots _ _ ?_
    rw [Compilation.openBlock_slots]
    exact hs
  · show Grows c.table ((c.leave c.entries.size).declared i t₂ d).2.table
    rw [table]
    exact ext₁.grows.trans ext₂.grows
  · exact Compilation.extend_entries _ r i args named t₂ d
  · show EntryAgrees r ((c.leave c.entries.size).declared i t₂ d).2.table _ _
    rw [table]
    exact ⟨agree₁.imp fun _ _ ha => ha.mono ext₂.grows, agree₂⟩

/-! ### All instructions -/

theorem Follows.foldlM {r : Registries} (plain : r.PlainNames) {instructions : List Instruction} {v : View}
    {c c' : Compilation} (h : Follows r v c) (hfold : instructions.foldlM (fun c i => c.add r i) c = .ok c') :
    Sound r c'.slots c'.table ∧ Grows c.table c'.table ∧ ∃ es, c'.entries.toList = c.entries.toList ++ es ∧
      es.map (·.instruction) = instructions ∧
      List.Forall₂ (EntryAgrees r c'.table) (v.along r c.entries.size instructions) es := by
  induction instructions generalizing v c with
  | nil =>
    cases hfold
    exact ⟨h.sound, Grows.refl _, [], by rw [List.append_nil], rfl, .nil⟩
  | cons i rest ih =>
    rw [List.foldlM_cons] at hfold
    obtain ⟨c₁, hadd, hfold⟩ := bind_eq_ok.mp hfold
    obtain ⟨follows, grows, e, he, hi, agree⟩ := h.add plain hadd
    obtain ⟨sound, grows', es, hes, his, agrees⟩ := ih follows hfold
    refine ⟨sound, grows.trans grows', e :: es, ?_, by rw [List.map_cons, hi, his], ?_⟩
    · rw [hes, he, Array.toList_push, List.append_assoc, List.singleton_append]
    · rw [he, Array.size_push] at agrees
      exact .cons (agree.mono grows') agrees

/-! ### The names of every engine -/

theorem resolveFrom_mem {r : TypeRegistry} {key : String} {steps : Nat} {start : Option TagType} {t : TagType}
    {subTag : SubTag} (hstart : ∀ t ∈ start, t ∈ r.types) (h : r.resolveFrom key steps start = some (t, subTag)) :
    t ∈ r.types ∧ subTag ∈ t.subTags ∧ subTag.name = key := by
  induction steps generalizing start with
  | zero => cases h
  | succ steps ih =>
    cases start with
    | none => cases h
    | some t' =>
      rw [TypeRegistry.resolveFrom] at h
      cases hs : t'.subTag? key with
      | some s =>
        rw [hs] at h
        cases h
        have found := List.find?_some hs
        exact ⟨hstart _ rfl, List.mem_of_find?_eq_some hs, eq_of_beq found⟩
      | none =>
        rw [hs] at h
        refine ih (fun t ht => ?_) h
        obtain ⟨name, -, ht⟩ := Option.bind_eq_some_iff.mp ht
        exact List.mem_of_find?_eq_some ht

/-- The names of the bases and sub-tags that come with every engine can stand in the keys of chains. -/
theorem plainNames_builtin : Registries.builtin.PlainNames where
  base {name b} hb := by
    have names : ∀ b ∈ BaseRegistry.builtin.bases, ChainKey.IsName (Text.asciiLower b.name) := by
      simp [BaseRegistry.builtin, TagBase.converting, TagBase.null, TagBase.localVariable, TagBase.dynamicVariable,
        ChainKey.IsName, ChainKey.isNameChar, Text.asciiLower]
    have found := List.find?_some hb
    rw [← eq_of_beq found]
    exact names b (List.mem_of_find?_eq_some hb)
  step {current key x} hx := by
    have names : ∀ t ∈ TypeRegistry.builtin.types, ∀ s ∈ t.subTags, ChainKey.IsName s.name := by
      simp [TypeRegistry.builtin, textSubTags, numberSubTags, integerSubTags, booleanSubTags, listSubTags,
        ChainKey.IsName, ChainKey.isNameChar]
    obtain ⟨t, s⟩ := x
    obtain ⟨ht, hs, rfl⟩ := resolveFrom_mem (fun t ht => List.mem_of_find?_eq_some ht) hx
    exact names t ht s hs

/-! ### Values -/

/-- The values of the arguments of an entry, those with keys behind the others. -/
def Entry.values (e : Entry) (env : Environment) : List (Option Value) × List (String × Option Value) :=
  (e.args.map fun a => (a.evaluate env).toOption, e.named.map fun a => (a.1, (a.2.evaluate env).toOption))

/-- The values of the arguments of an instruction as they stand in the source. -/
def Instruction.values (i : Instruction) (s : Sight) (adapt : Adaptation) (slots : Array Value) (vars : Vars) :
    List (Option Value) × List (String × Option Value) :=
  (i.args.map (s.argumentValue adapt slots vars), i.named.map fun a => (a.1, s.argumentValue adapt slots vars a.2))

theorem EntryAgrees.values {r : Registries} {table : ChainTable} {v : View} {e : Entry} (h : EntryAgrees r table v e)
    {env : Environment} (holds : env.Holds r table) :
    e.values env = e.instruction.values (v.sight r) r.adapt env.slots env.vars := by
  have args : ∀ {as : List Argument} {cs : List CompiledArgument},
      List.Forall₂ (ArgumentAgrees (v.sight r) table) as cs →
      cs.map (fun a => (a.evaluate env).toOption) =
      as.map ((v.sight r).argumentValue r.adapt env.slots env.vars) := by
    intro as cs h
    induction h with
    | nil => rfl
    | cons h _ ih => exact congrArg₂ List.cons (h.value holds) ih
  have named : ∀ {as : List (String × Argument)} {cs : List (String × CompiledArgument)},
      List.Forall₂ (fun a c => a.1 = c.1 ∧ ArgumentAgrees (v.sight r) table a.2 c.2) as cs →
      cs.map (fun a => (a.1, (a.2.evaluate env).toOption)) =
        as.map fun a => (a.1, (v.sight r).argumentValue r.adapt env.slots env.vars a.2) := by
    intro as cs h
    induction h with
    | nil => rfl
    | cons h _ ih => exact congrArg₂ List.cons (congrArg₂ Prod.mk h.1.symm (h.2.value holds)) ih
  rw [Entry.values, Instruction.values, args h.args, named h.named]

/-- An environment with all chains of a sound table holds them. -/
theorem holds_of_sound {r : Registries} {typeSlots : Array Slot} {table : ChainTable}
    (sound : Sound r typeSlots table) (slots : Array Value) (vars : Vars) :
    Environment.Holds ⟨slots, vars, r.types.conversions, table.map (·.chain)⟩ r table where
  ordered {i c} hc := by
    rw [Array.getElem?_map] at hc
    obtain ⟨e, he, rfl⟩ := Option.map_eq_some_iff.mp hc
    obtain ⟨k, -, -, before, hk⟩ := sound.keyed he
    exact before_of_chainOf before hk
  types := rfl
  chain {i e} he := by
    rw [Array.getElem?_map, he]
    rfl

/-- The values of the arguments of instructions as they stand in the source, each in sight of the variables that are
    declared before. -/
def sourceValues (r : Registries) (adapt : Adaptation) (predefined : List (String × String))
    (instructions : List Instruction) (slots : Array Value) (vars : Vars) :
    List (List (Option Value) × List (String × Option Value)) :=
  List.zipWith (fun v i => i.values (v.sight r) adapt slots vars) ((View.start predefined).along r 0 instructions)
    instructions

/-- Every argument of compiled code evaluates, through the chains that the code shares, to the value that it has when
    its tags are read from the source. It fails where that does. -/
theorem entries_values {instructions : List Instruction} {predefined : List (String × String)} {code : Code}
    (h : compile .builtin instructions predefined = .ok code) (slots : Array Value) (vars : Vars) :
    code.entries.toList.map (·.values ⟨slots, vars, Registries.builtin.types.conversions, code.chains⟩) =
      sourceValues .builtin Registries.builtin.adapt predefined instructions slots vars := by
  rw [compile] at h
  obtain ⟨c, hfold, h⟩ := bind_eq_ok.mp h
  cases h
  obtain ⟨sound, -, es, hes, his, agrees⟩ := (follows_start predefined).foldlM plainNames_builtin hfold
  rw [(start_empty predefined).1] at hes agrees
  have holds := holds_of_sound sound slots vars
  have values : ∀ {views : List View} {es : List Entry}, List.Forall₂ (EntryAgrees .builtin c.table) views es →
      es.map (·.values ⟨slots, vars, Registries.builtin.types.conversions, c.table.map (·.chain)⟩) =
        List.zipWith (fun v i => i.values (v.sight .builtin) Registries.builtin.adapt slots vars) views
          (es.map (·.instruction)) := by
    intro views es h
    induction h with
    | nil => rfl
    | cons hagree _ ih => rw [List.map_cons, List.map_cons, List.zipWith_cons_cons, ih, hagree.values holds]
  show c.entries.toList.map _ = _
  rw [hes, sourceValues, ← his]
  rw [← his] at agrees
  exact values agrees

end CommandScript
