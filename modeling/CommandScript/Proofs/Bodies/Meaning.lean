import CommandScript.Proofs.Bodies.Scopes
import CommandScript.Proofs.Layout.Subtree
import CommandScript.Proofs.Typing.Soundness

/-! A block that is compiled alone keeps its meaning. Instruction by instruction, its variables are those that the same
    instructions declare when its script is compiled, with the same types, and its tags have the same static types,
    wherever they stand in parameters and fallbacks. What its script has outside the block, and which slots and chains
    are taken before, makes no difference. -/

namespace CommandScript

/-! ### Code so far and code at the end -/

/-- What has been compiled so far is in the code and in the table that there are at the end. -/
structure Compilation.Within (c : Compilation) (code : Code) (table : ChainTable) : Prop where
  entries {k : Nat} {e : Entry} : c.entries[k]? = some e → code.entries[k]? = some e
  slots {k : Nat} {v : Slot} : c.slots[k]? = some v → code.slots[k]? = some v
  table : Grows c.table table

section
variable {r : Registries} {c c' : Compilation} {i : Instruction} {code : Code} {table : ChainTable}

theorem Compilation.Within.of_add (plain : r.PlainNames) (follows : ∃ v, Follows r v c) (h : c.add r i = .ok c')
    (within : c'.Within code table) : c.Within code table := by
  obtain ⟨v, follows⟩ := follows
  obtain ⟨-, grows, -⟩ := follows.add plain h
  refine ⟨fun {k e} he => within.entries ?_, fun {k x} hx => within.slots ?_, grows.trans within.table⟩
  · obtain ⟨e', pushed, -⟩ := Compilation.add_entries h
    have lt := (Array.getElem?_eq_some_iff.mp he).1
    rwa [pushed, Array.getElem?_push, if_neg (Nat.ne_of_lt lt)]
  · obtain ⟨args, _, named, t, d, -, -, -, rfl⟩ := Compilation.add_eq_ok h
    refine Compilation.declareAny_slots _ d ?_
    rw [Compilation.openBlock_slots]
    exact hx

theorem Compilation.Within.of_foldlM (plain : r.PlainNames) {is : List Instruction} (follows : ∃ v, Follows r v c)
    (h : is.foldlM (fun c i => c.add r i) c = .ok c') (within : c'.Within code table) : c.Within code table := by
  induction is generalizing c with
  | nil =>
    cases h
    exact within
  | cons i rest ih =>
    rw [List.foldlM_cons] at h
    obtain ⟨c₁, hadd, h⟩ := bind_eq_ok.mp h
    obtain ⟨v, here⟩ := follows
    exact (ih ⟨_, (here.add plain hadd).1⟩ h).of_add plain ⟨v, here⟩ hadd

/-- What an instruction declares has the next slot, and the code says so at its place. -/
theorem Compilation.Within.declares {args : List CompiledArgument} {named : List (String × CompiledArgument)}
    {t : ChainTable} {d : Declaration} (within : (c.extend r i args named t (some d)).Within code table) :
    ∃ e, code.entries[c.entries.size]? = some e ∧ e.declares = some c.slots.size ∧
      code.slots[c.slots.size]? = some ⟨Text.lower d.name, d.typeName⟩ := by
  refine ⟨_, within.entries (e := c.entryOf r i args named t (some d)) ?_,
    Compilation.declared_slot c i t (some d), within.slots ?_⟩
  · rw [Compilation.extend_entries]
    exact Array.getElem?_push_size
  · show (c.declared i t (some d)).2.slots[c.slots.size]? = _
    rw [Compilation.declared_slots]
    exact Array.getElem?_push_size

/-- What an instruction of a block declares alone and in its script is the same variable. -/
theorem sameVariable_of_extend {d : Compilation} {j : Instruction} {own whole : Code} {T U t w : ChainTable}
    {base : Nat} {args args' : List CompiledArgument} {named named' : List (String × CompiledArgument)}
    {v : Declaration} (place : d.entries.size = base + c.entries.size)
    (within : (c.extend r i args named t (some v)).Within own T)
    (within' : (d.extend r j args' named' w (some v)).Within whole U) :
    SameVariable own whole base (Text.lower v.name) c.slots.size d.slots.size := by
  obtain ⟨e, he, ownSlot, hz⟩ := within.declares
  obtain ⟨f, hf, wholeSlot, hz'⟩ := within'.declares
  exact ⟨_, e, f, _, he, place ▸ hf, ownSlot, wholeSlot, hz, hz', rfl⟩

end

/-! ### Instructions of a block -/

/-- Moving an instruction down changes nothing of what it declares. -/
theorem Instruction.declaration_shift (i : Instruction) (base : Nat) (r : CommandRegistry) (types : List String) :
    (i.shift base).declaration r types = i.declaration r types := by
  have callback : (i.shift base).isCallback = i.isCallback := Option.isSome_map
  have declares : ∀ a : Action, a.declares (i.shift base) types = a.declares i types := fun a => by cases a <;> rfl
  unfold Instruction.declaration
  rw [callback, show (i.shift base).name = i.name from rfl]
  simp only [declares]
  rfl

/-- What an instruction of a block is compiled to, with the block alone and in its script. -/
structure SameEntry (bases : BaseRegistry) (own whole : ChainTable) (same : String → Nat → Nat → Prop) (base : Nat)
    (e f : Entry) : Prop where
  instruction : e.instruction = f.instruction.shift base
  args : Threefold (SameArgument bases own whole same) f.instruction.args e.args f.args
  named : Threefold (fun a c d => a.1 = c.1 ∧ a.1 = d.1 ∧ SameArgument bases own whole same a.2 c.2 d.2)
    f.instruction.named e.named f.named

/-- A block compiled alone, and its script, up to one instruction of the block. -/
structure Compilation.Alongside (r : Registries) (same : String → Nat → Nat → Prop) (base stop : Nat)
    (c d : Compilation) : Prop where
  own : ∃ v, Follows r v c
  whole : ∃ v, Follows r v d
  place : d.entries.size = base + c.entries.size
  scopes : ScopesAlongside same base stop c.scopes d.scopes

section
variable {r : Registries} (plain : r.PlainNames) {own whole : Code} {T U : ChainTable} {base stop : Nat}
  {c c' d d' : Compilation} {i : Instruction}
include plain

theorem Compilation.Alongside.meet (h : Compilation.Alongside r (SameVariable own whole base) base stop c d)
    (inside : base + c.entries.size < stop) (within : c.Within own T) (within' : d.Within whole U) (line : Nat) :
    ScopesMeet (SameVariable own whole base) ((c.leave c.entries.size).tagScope r line)
      ((d.leave d.entries.size).tagScope r line) := by
  obtain ⟨⟨v, follows⟩, ⟨v', follows'⟩, place, scopes⟩ := h
  have finds := (follows.view.leave c.entries.size).finds r line
  have finds' := (follows'.view.leave d.entries.size).finds r line
  have slot {s : TagScope} {find : String → Option Variable} (hs : s.Finds find) {n : String} {x : Nat}
      (hx : s.lookup n = some x) : ∃ v, s.slots[x]? = some v := by
    rw [hs.lookup] at hx
    obtain ⟨z, hz, rfl⟩ := Option.map_eq_some_iff.mp hx
    obtain ⟨v, hv, -⟩ := hs.typed hz
    exact ⟨v, hv⟩
  refine ⟨rfl, plain, ⟨_, finds⟩, ⟨_, finds'⟩, fun {n x} hx => ?_⟩
  have left := scopes.leave inside
  rw [← place] at left
  obtain ⟨y, hy, index, e, f, z, he, hf, ownSlot, wholeSlot, hz, hz', named⟩ := left.lookup hx
  refine ⟨y, hy, ⟨index, e, f, z, he, hf, ownSlot, wholeSlot, hz, hz', named⟩, ?_⟩
  obtain ⟨a, ha⟩ := slot finds hx
  obtain ⟨b, hb⟩ := slot finds' hy
  cases hz.symm.trans (within.slots ha)
  cases hz'.symm.trans (within'.slots hb)
  rw [ha, hb]

/-- Compiling an instruction of the block adds the same entry in both. -/
theorem Compilation.Alongside.add (h : Compilation.Alongside r (SameVariable own whole base) base stop c d)
    (above : ∀ s, i.block = some s → base ≤ s.stop) (inside : base + c.entries.size < stop)
    (hc : c.add r (i.shift base) = .ok c') (hd : d.add r i = .ok d') (within : c'.Within own T)
    (within' : d'.Within whole U) :
    Compilation.Alongside r (SameVariable own whole base) base stop c' d' ∧ ∃ e f, c'.entries = c.entries.push e ∧
      d'.entries = d.entries.push f ∧ SameEntry r.bases T U (SameVariable own whole base) base e f := by
  have meet := h.meet plain inside (within.of_add plain h.own hc) (within'.of_add plain h.whole hd) i.line
  obtain ⟨⟨v, follows⟩, ⟨v', follows'⟩, place, scopes⟩ := h
  have next := (follows.add plain hc).1
  have next' := (follows'.add plain hd).1
  obtain ⟨args, t₁, named, t₂, x, hargs, hnamed, hx, rfl⟩ := Compilation.add_eq_ok hc
  obtain ⟨args', w₁, named', w₂, x', hargs', hnamed', hx', rfl⟩ := Compilation.add_eq_ok hd
  have table : Grows t₂ T := Compilation.declared_table (c.leave c.entries.size) (i.shift base) t₂ x ▸ within.table
  have table' : Grows w₂ U := Compilation.declared_table (d.leave d.entries.size) i w₂ x' ▸ within'.table
  -- The arguments come first, then those with keys, in the tables that the former leave.
  obtain ⟨first, first', sameArgs⟩ := meet.args follows.sound follows'.sound hargs hargs'
  obtain ⟨second, second', sameNamed⟩ := meet.named first.sound first'.sound hnamed hnamed'
  have sameArgs := sameArgs (second.grows.trans table) (second'.grows.trans table')
  rw [Instruction.declaration_shift, sameArgs.typeNames_eq] at hx
  cases hx.symm.trans hx'
  have entries := Compilation.extend_entries (c.leave c.entries.size) r (i.shift base) args named t₂ x
  have entries' := Compilation.extend_entries (d.leave d.entries.size) r i args' named' w₂ x
  refine ⟨⟨⟨_, next⟩, ⟨_, next'⟩, ?_, ?_⟩, _, _, entries, entries', ⟨rfl, sameArgs, sameNamed table table'⟩⟩
  · rw [entries, entries', Array.size_push, Array.size_push]
    exact congrArg (· + 1) place
  · have left : ScopesAlongside (SameVariable own whole base) base stop (c.leave c.entries.size).scopes
        (d.leave d.entries.size).scopes := place ▸ scopes.leave inside
    refine left.declared above t₂ w₂ fun v hv => ?_
    subst hv
    exact sameVariable_of_extend place within within'

/-- Compiling the instructions of the block adds the same entries in both. -/
theorem Compilation.Alongside.foldlM {is : List Instruction}
    (h : Compilation.Alongside r (SameVariable own whole base) base stop c d)
    (above : ∀ i ∈ is, ∀ s, i.block = some s → base ≤ s.stop) (inside : base + c.entries.size + is.length ≤ stop)
    (hc : (is.map (·.shift base)).foldlM (fun c i => c.add r i) c = .ok c')
    (hd : is.foldlM (fun c i => c.add r i) d = .ok d') (within : c'.Within own T) (within' : d'.Within whole U) :
    ∃ es fs, c'.entries.toList = c.entries.toList ++ es ∧ d'.entries.toList = d.entries.toList ++ fs ∧
      List.Forall₂ (SameEntry r.bases T U (SameVariable own whole base) base) es fs := by
  induction is generalizing c d with
  | nil =>
    cases hc
    cases hd
    exact ⟨[], [], (List.append_nil _).symm, (List.append_nil _).symm, .nil⟩
  | cons i rest ih =>
    rw [List.map_cons, List.foldlM_cons] at hc
    rw [List.foldlM_cons] at hd
    obtain ⟨c₁, addOwn, hc⟩ := bind_eq_ok.mp hc
    obtain ⟨d₁, addWhole, hd⟩ := bind_eq_ok.mp hd
    rw [List.forall_mem_cons] at above
    rw [List.length_cons] at inside
    have follows₁ : ∃ v, Follows r v c₁ := h.own.imp' _ fun _ follows => (follows.add plain addOwn).1
    have follows₁' : ∃ v, Follows r v d₁ := h.whole.imp' _ fun _ follows => (follows.add plain addWhole).1
    obtain ⟨next, e, f, pushed, pushed', same⟩ := h.add plain above.1 (by omega) addOwn addWhole
      (within.of_foldlM plain follows₁ hc) (within'.of_foldlM plain follows₁' hd)
    have size : c₁.entries.size = c.entries.size + 1 := pushed ▸ Array.size_push _
    obtain ⟨es, fs, hes, hfs, more⟩ := ih next above.2 (by omega) hc hd
    refine ⟨e :: es, f :: fs, ?_, ?_, .cons same more⟩
    · rw [hes, pushed, Array.toList_push, List.append_assoc, List.singleton_append]
    · rw [hfs, pushed', Array.toList_push, List.append_assoc, List.singleton_append]

end

/-! ### Compiled blocks -/

/-- Behind an instruction with a block, the scope of the block is the innermost. -/
theorem Compilation.scopes_of_add {r : Registries} {c c' : Compilation} {i : Instruction} {s : Span}
    (h : c.add r i = .ok c') (block : i.block = some s) (command : i.callbackOf = none) :
    ∃ names outer, c'.scopes = ⟨some s.stop, names⟩ :: outer := by
  obtain ⟨args, _, named, t, d, -, -, -, rfl⟩ := Compilation.add_eq_ok h
  have opened : ∀ c : Compilation, (c.openBlock i).scopes = ⟨some s.stop, []⟩ :: c.scopes := fun c => by
    rw [Compilation.openBlock, block, Instruction.isCallback, command]
    rfl
  show ∃ names outer, (({ c.leave c.entries.size with table := t }.openBlock i).declareAny d).2.scopes = _
  cases d with
  | none => exact ⟨_, _, opened _⟩
  | some d =>
    rw [Compilation.declareAny, Compilation.declare]
    dsimp only
    rw [opened]
    exact ⟨_, _, rfl⟩

/-- A block compiled alone means what it does in the code of its script: it has an entry for each of its instructions,
    with the same tags and the same variables. The tables are those of the chains, alone and in the script. -/
structure Code.KeepsMeaning (r : Registries) (s : Span) (own : Code) (T : ChainTable) (whole : Code)
    (U : ChainTable) :
    Prop where
  size : own.entries.size = s.stop - s.start
  entries {k : Nat} : s.start + k < s.stop → ∃ e f, own.entries[k]? = some e ∧ whole.entries[s.start + k]? = some f ∧
    SameEntry r.bases T U (SameVariable own whole s.start) s.start e f
  ownChains : own.chains = T.map (·.chain)
  wholeChains : whole.chains = U.map (·.chain)

/-- What has been compiled at the end is all of the code. -/
theorem within_of_compile {r : Registries} {is : List Instruction} {predefined : List (String × String)} {code : Code}
    (h : compile r is predefined = .ok code) : ∃ c,
    is.foldlM (fun c i => c.add r i) (Compilation.start predefined) = .ok c ∧ c.Within code c.table ∧
      c.entries = code.entries ∧ chainTable r is predefined = .ok c.table ∧ code.chains = c.table.map (·.chain) := by
  obtain ⟨c, hc, h⟩ := bind_eq_ok.mp h
  cases h
  exact ⟨c, hc, ⟨fun h => h, fun h => h, Grows.refl _⟩, rfl, bind_eq_ok.mpr ⟨c, hc, rfl⟩, rfl⟩

/-- Before its first instruction, a block has no variables alone, and in its script at most that of its owner. -/
theorem alongside_start {r : Registries} (plain : r.PlainNames) {same : String → Nat → Nat → Prop} {i : Instruction}
    {s : Span} {d d' : Compilation} (follows : ∃ v, Follows r v d) (h : d.add r i = .ok d') (block : i.block = some s)
    (command : i.callbackOf = none) (start : s.start = d.entries.size + 1) :
    Compilation.Alongside r same s.start s.stop (Compilation.start []) d' := by
  obtain ⟨e, pushed, -⟩ := Compilation.add_entries h
  obtain ⟨names, outer, opened⟩ := Compilation.scopes_of_add h block command
  have empty : ([] : List Instruction).foldlM (fun c i => c.add r i) (Compilation.start []) =
    .ok (Compilation.start []) := rfl
  refine ⟨follows_of_foldlM plain empty, follows.imp' _ fun _ follows => (follows.add plain h).1, ?_, ?_⟩
  · rw [pushed, Array.size_push, start]
    rfl
  · rw [opened]
    exact .block rfl rfl fun n x hx => nomatch hx

section
variable {rc : CommandRegistry} {row : List Instruction} (laid : Laid rc 0 none row) {r : Registries} {index : Nat}
  {i : Instruction} {s : Span} (hi : row[index]? = some i) (hs : i.block = some s)
include laid hi hs

theorem Laid.length_block : ((row.take s.stop).drop s.start).length = s.stop - s.start := by
  have bounds := laid.block_bounds (at_zero.mpr hi) hs
  rw [List.length_drop, List.length_take]
  omega

/-- A script is compiled up to the owner of a block, then that, then the block, then the rest. -/
theorem Laid.foldlM_block {c d : Compilation} (h : row.foldlM (fun c i => c.add r i) c = .ok d) : ∃ d₀ d₁ d₂,
    (row.take index).foldlM (fun c i => c.add r i) c = .ok d₀ ∧ d₀.add r i = .ok d₁ ∧
      ((row.take s.stop).drop s.start).foldlM (fun c i => c.add r i) d₁ = .ok d₂ ∧
      (row.drop s.stop).foldlM (fun c i => c.add r i) d₂ = .ok d := by
  obtain ⟨start, le, -⟩ := laid.block_bounds (at_zero.mpr hi) hs
  have behind : row.drop (index + 1) = (row.take s.stop).drop s.start ++ row.drop s.stop := by
    have parts := List.take_append_drop (s.stop - s.start) (row.drop s.start)
    rw [List.drop_drop, Nat.add_sub_cancel' le, ← List.drop_take] at parts
    rw [parts, start]
  rw [eq_take_append hi, behind, List.foldlM_append] at h
  obtain ⟨d₀, hd₀, h⟩ := bind_eq_ok.mp h
  rw [List.foldlM_cons] at h
  obtain ⟨d₁, hadd, h⟩ := bind_eq_ok.mp h
  rw [List.foldlM_append] at h
  obtain ⟨d₂, hblock, hrest⟩ := bind_eq_ok.mp h
  exact ⟨d₀, d₁, d₂, hd₀, hadd, hblock, hrest⟩

/-- A block cut out of a row, compiled alone, means what it does in the row. -/
theorem Laid.compile_extractBlock (plain : r.PlainNames) {predefined : List (String × String)} {own whole : Code}
    (hwhole : compile r row predefined = .ok whole)
    (hown : compile r (CommandScript.extractBlock row s) [] = .ok own) :
    ∃ T U, chainTable r (CommandScript.extractBlock row s) [] = .ok T ∧ chainTable r row predefined = .ok U ∧
      own.KeepsMeaning r s T whole U := by
  obtain ⟨start, le, -⟩ := laid.block_bounds (at_zero.mpr hi) hs
  have length := laid.length_block hi hs
  obtain ⟨c, hc, within, entries, table, chains⟩ := within_of_compile hown
  obtain ⟨d, hd, within', -, table', chains'⟩ := within_of_compile hwhole
  obtain ⟨d₀, d₁, d₂, before, owner, block, rest⟩ := laid.foldlM_block hi hs hd
  have place : d₀.entries.size = index := (scoped_of_take laid hi before).size
  have alongside : Compilation.Alongside r (SameVariable own whole s.start) s.start s.stop
    (Compilation.start []) d₁ :=
    alongside_start plain (follows_of_foldlM plain before) owner hs (laid.callbackOf_of_block (at_zero.mpr hi) hs)
      (by omega)
  have within₂ := within'.of_foldlM plain (follows_foldlM plain alongside.whole block) rest
  have inside : s.start + (Compilation.start []).entries.size + ((row.take s.stop).drop s.start).length ≤ s.stop := by
    rw [length]
    exact Nat.le_of_eq (Nat.add_sub_cancel' le)
  rw [extractBlock_eq] at hc
  obtain ⟨es, fs, hes, hfs, same⟩ := alongside.foldlM plain
    (fun j hj t ht => ((laid.above_of_mem_block hi hs hj).block t ht).2) inside hc block within within₂
  have hes : own.entries.toList = es := entries ▸ hes
  have size : own.entries.size = s.stop - s.start := by
    rw [← length, ← List.length_map (Instruction.shift · s.start), ← extractBlock_eq, ← (compile_entries hown).1,
      List.length_map, Array.length_toList]
  refine ⟨_, _, table, table', size, fun {k} hk => ?_, chains, chains'⟩
  have lt : k < es.length := by
    rw [← hes, Array.length_toList]
    omega
  have lt' : k < fs.length := same.length_eq ▸ lt
  refine ⟨es[k], fs[k], ?_, within₂.entries ?_, same.get lt lt'⟩
  · rw [← Array.getElem?_toList, hes]
    exact List.getElem?_eq_getElem lt
  · have first : d₁.entries.toList.length = s.start := alongside.place
    rw [← Array.getElem?_toList, hfs, List.getElem?_append_right (by omega), first, Nat.add_sub_cancel_left]
    exact List.getElem?_eq_getElem lt'

end

/-- A block of a script that was read from a source text, compiled as a script of its own, means what it means in the
    script: wherever one of its arguments, at any depth of parameters and fallbacks, reads a variable, the variable is
    declared by the same instruction of the block, under the same name and with the same type, and every tag has the
    same static type. -/
theorem Script.ofBlock_keepsMeaning {r : Registries} (plain : r.PlainNames) {name source : String}
    {predefined : List (String × String)} {owner : Script} (made : ofSource r name source predefined = .ok owner)
    {index : Nat} {i : Instruction} {s : Span} (hi : owner.instructions[index]? = some i) (hs : i.block = some s)
    {called : String} {body : Script} (h : ofBlock r called owner s = .ok body) :
    ∃ T U, chainTable r (extractBlock owner.instructions s) [] = .ok T ∧
      chainTable r owner.instructions predefined = .ok U ∧ body.code.KeepsMeaning r s T owner.code U := by
  obtain ⟨row, read, made⟩ := bind_eq_ok.mp made
  obtain ⟨whole, hwhole, made⟩ := bind_eq_ok.mp made
  cases made
  obtain ⟨own, hown, h⟩ := bind_eq_ok.mp h
  cases h
  have instructions : Script.instructions { ofCode name (headerVerbosity (sourceHeaders source)) whole with
      headers := sourceHeaders source } = row := (compile_entries hwhole).1
  rw [instructions] at hi hown ⊢
  exact (laid_of_parseScript read).compile_extractBlock hi hs plain hwhole hown

/-- A function that declares `x` anew, with a variable that is typed after a tag, and a tag inside a parameter. -/
def shadowedBody : String :=
  "define x 1; function f \x7b define x a; repeat 3 --as=n \x7b define y <\x7bvar[n].add[1]\x7d>; " ++
    "echo <\x7bvar[x].append[<\x7bvar[y]\x7d>]||<\x7bvar[n]\x7d>\x7d> \x7d \x7d"

theorem Script.ofBlock_keepsMeaning_shadowedBody : ∃ owner i s body,
    ofSource .builtin "main" shadowedBody [("who", "text")] = .ok owner ∧ owner.instructions[1]? = some i ∧
      i.block = some s ∧ ofBlock .builtin "f" owner s = .ok body ∧
      owner.code.slots.toList =
        [⟨"who", "text"⟩, ⟨"x", "integer"⟩, ⟨"x", "text"⟩, ⟨"n", "integer"⟩, ⟨"y", "integer"⟩] ∧
      body.code.slots.toList = [⟨"x", "text"⟩, ⟨"n", "integer"⟩, ⟨"y", "integer"⟩] ∧
      ∃ T U, chainTable .builtin (extractBlock owner.instructions s) [] = .ok T ∧
        chainTable .builtin owner.instructions [("who", "text")] = .ok U ∧
          body.code.KeepsMeaning .builtin s T owner.code U := by
  have found : (ofSource .builtin "main" shadowedBody [("who", "text")]).toOption.any (fun owner =>
      decide (owner.code.slots.toList =
        [⟨"who", "text"⟩, ⟨"x", "integer"⟩, ⟨"x", "text"⟩, ⟨"n", "integer"⟩, ⟨"y", "integer"⟩]) &&
      (owner.instructions[1]?.bind (·.block)).any fun s => (ofBlock .builtin "f" owner s).toOption.any fun body =>
        decide (body.code.slots.toList = [⟨"x", "text"⟩, ⟨"n", "integer"⟩, ⟨"y", "integer"⟩])) = true := by
    decide +kernel
  obtain ⟨owner, made, found⟩ := (Option.any_eq_true _ _).mp found
  obtain ⟨slots, found⟩ := (Bool.and_eq_true _ _).mp found
  obtain ⟨s, hs, found⟩ := (Option.any_eq_true _ _).mp found
  obtain ⟨i, hi, hs⟩ := Option.bind_eq_some_iff.mp hs
  obtain ⟨body, hbody, found⟩ := (Option.any_eq_true _ _).mp found
  have made := toOption_eq_some.mp made
  have hbody := toOption_eq_some.mp hbody
  exact ⟨owner, i, s, body, made, hi, hs, hbody, of_decide_eq_true slots, of_decide_eq_true found,
    ofBlock_keepsMeaning plainNames_builtin made hi hs hbody⟩

end CommandScript
