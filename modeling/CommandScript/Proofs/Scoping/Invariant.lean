import CommandScript.Proofs.Scoping.Stack

/-! The scopes of the compiler from instruction to instruction. Before each, once the blocks that end there are left,
    they find the latest variables in sight; behind it, its own variable as well. -/

namespace CommandScript

/-- The variables declared so far, in order. -/
def Compilation.declarations (predefined : List (String × String)) (c : Compilation) : List Declared :=
  CommandScript.declarations predefined c.slots c.entries

/-- The variables of a script, in order. -/
def Code.declarations (predefined : List (String × String)) (code : Code) : List Declared :=
  CommandScript.declarations predefined code.slots code.entries

/-- What has been compiled of a row before a place. -/
structure Scoped (row : List Instruction) (predefined : List (String × String)) (index : Nat) (c : Compilation) :
    Prop where
  size : c.entries.size = index
  slots : ∀ e ∈ c.entries.toList, ∀ slot, e.declares = some slot → slot < c.slots.size
  order : InOrder (c.declarations predefined) index
  stack : ∃ homes, List.Forall₂ (Scope.Has row (c.declarations predefined)) homes c.scopes ∧
    homes.getLast? = some none ∧ homes.dropWhile (homeEnds row index) = homesAround row index

theorem declaredBy_push {slots : Array Slot} (v : Slot) {entries : List Entry}
    (inside : ∀ e ∈ entries, ∀ slot, e.declares = some slot → slot < slots.size) :
    declaredBy (slots.push v) entries = declaredBy slots entries := by
  refine List.filterMap_congr fun (e, index) he => ?_
  have he := inside e (List.fst_mem_of_mem_zipIdx he)
  dsimp only
  cases hd : e.declares with
  | none => rfl
  | some slot =>
    have next : (slots.push v)[slot]? = slots[slot]? := by
      rw [Array.getElem?_push, if_neg (Nat.ne_of_lt (he slot hd))]
    show ((slots.push v)[slot]?.bind _) = _
    rw [next]
    rfl

section
variable {r : CommandRegistry} {row : List Instruction} (laid : Laid r 0 none row)
  {predefined : List (String × String)} {index : Nat} {c : Compilation}

/-- The variable that an instruction declares, if any, in the next slot. -/
def Declaration.at (index : Nat) (slots : Array Slot) (d : Option Declaration) : List Declared :=
  (d.map fun d => ⟨some index, Text.lower d.name, slots.size⟩).toList

theorem place_of_mem_at {slots : Array Slot} {d : Option Declaration} {x : Declared}
    (hx : x ∈ Declaration.at index slots d) : x.place = some index := by
  obtain ⟨d, -, rfl⟩ := Option.map_eq_some_iff.mp (Option.mem_toList.mp hx)
  rfl

theorem InOrder.append {ds own : List Declared} (h : InOrder ds index) (hown : ∀ d ∈ own, d.place = some index)
    (one : own.length ≤ 1) : InOrder (ds ++ own) (index + 1) where
  before d hd i hi := by
    rcases List.mem_append.mp hd with hd | hd
    · exact Nat.lt_succ_of_lt (h.before d hd i hi)
    · cases (hown d hd).symm.trans hi
      exact Nat.lt_succ_self _
  sorted := by
    refine List.pairwise_append.mpr ⟨h.sorted, ?_, fun a ha b hb i hi => ⟨index, hown b hb, h.before a ha i hi⟩⟩
    match own, one with
    | [], _ => exact .nil
    | [d], _ => exact List.pairwise_singleton _ _

namespace Scoped

variable (h : Scoped row predefined index c)
include h

/-- Once the blocks that end before a place are left, the scopes are those of the blocks around it. -/
theorem leave : List.Forall₂ (Scope.Has row (c.declarations predefined)) (homesAround row index)
    (c.leave index).scopes := by
  obtain ⟨homes, has, -, around⟩ := h.stack
  rw [← around]
  refine forall₂_dropWhile (fun home scope hs => ?_) has
  rw [hs.stop]
  rfl

include laid

/-- The compiler finds the latest variable in sight. -/
theorem lookup (name : String) : (c.leave index).lookup name =
    latest? (·.visible row index) (c.declarations predefined) name := by
  have order : InOrder (c.declarations predefined) (index + 1) :=
    ⟨fun d hd i hi => Nat.lt_succ_of_lt (h.order.before d hd i hi), h.order.sorted⟩
  rw [Compilation.lookup, findSome?_of_has h.leave fun suffix =>
    apart_homesBehind laid order (suffix.trans (List.suffix_append _ _))]
  exact latest?_congr (fun d hd => contains_homesAround laid (h.order.before d hd)) name

variable {i : Instruction} (hi : row[index]? = some i) (table : ChainTable) (d : Option Declaration)
include hi

/-- The scopes behind an instruction have its variable as well. -/
theorem declared : List.Forall₂
    (Scope.Has row (c.declarations predefined ++ Declaration.at index c.slots d)) (homesBehind row index)
      ((c.leave index).declared i table d).2.scopes := by
  have opened := has_openBlock (c := { c.leave index with table := table }) hi
    (fun s hs => laid.callbackOf_of_block (at_zero.mpr hi) hs) h.order h.leave
  cases d with
  | none =>
    show List.Forall₂ (Scope.Has row (c.declarations predefined ++ [])) _ _
    rw [List.append_nil]
    exact opened
  | some d =>
    have added := has_declare (d := d) opened
    rw [Compilation.openBlock_slots] at added
    exact added

omit laid hi in
theorem declarations_extend (r : Registries) (args : List CompiledArgument)
    (named : List (String × CompiledArgument)) :
    ((c.leave index).extend r i args named table d).declarations predefined =
      c.declarations predefined ++ Declaration.at index c.slots d := by
  have size : c.entries.toList.length = index := h.size
  have own : ((c.leave index).entryOf r i args named table d).declares = d.map fun _ => c.slots.size :=
    Compilation.declared_slot _ _ _ _
  have slots : ((c.leave index).extend r i args named table d).slots =
      (d.map fun d => c.slots.push ⟨Text.lower d.name, d.typeName⟩).getD c.slots :=
    Compilation.declared_slots _ _ _ _
  have entries : ((c.leave index).extend r i args named table d).entries =
      c.entries.push ((c.leave index).entryOf r i args named table d) := Compilation.extend_entries _ _ _ _ _ _ _
  rw [Compilation.declarations, CommandScript.declarations, entries, slots, Array.toList_push,
    declaredBy_append, size, own, ← List.append_assoc]
  cases d with
  | none => rfl
  | some d =>
    rw [Option.map_some, Option.getD_some, declaredBy_push _ h.slots, Option.map_some, Option.bind_some,
      Array.getElem?_push_size]
    rfl

omit laid hi in
theorem slots_extend (r : Registries) (args : List CompiledArgument) (named : List (String × CompiledArgument)) :
    ∀ e ∈ ((c.leave index).extend r i args named table d).entries.toList, ∀ slot, e.declares = some slot →
      slot < ((c.leave index).extend r i args named table d).slots.size := by
  have slots : ((c.leave index).extend r i args named table d).slots =
      (d.map fun d => c.slots.push ⟨Text.lower d.name, d.typeName⟩).getD c.slots :=
    Compilation.declared_slots _ _ _ _
  intro e he slot hslot
  rw [Compilation.extend_entries, Array.toList_push] at he
  rw [slots]
  rcases List.mem_append.mp he with he | he
  · have hlt := h.slots e he slot hslot
    cases d with
    | none => exact hlt
    | some d => exact Nat.lt_of_lt_of_eq (Nat.lt_succ_of_lt hlt) (Array.size_push _).symm
  · have own : e.declares = d.map fun _ => c.slots.size := by
      rw [List.mem_singleton.mp he]
      exact Compilation.declared_slot _ _ _ _
    rw [own] at hslot
    cases d with
    | none => cases hslot
    | some d =>
      cases hslot
      exact Nat.lt_of_lt_of_eq (Nat.lt_succ_self _) (Array.size_push _).symm

/-- One more instruction. Its entry has the variables in sight behind it. -/
theorem extend (r : Registries) (args : List CompiledArgument) (named : List (String × CompiledArgument)) :
    Scoped row predefined (index + 1) ((c.leave index).extend r i args named table d) ∧
      ∀ name, ((c.leave index).entryOf r i args named table d).names.lookup name =
        latest? (fun x => x.visible row index || x.place == some index)
          (((c.leave index).extend r i args named table d).declarations predefined) name := by
  have declared := h.declared laid hi table d
  have grown := h.declarations_extend table d r args named (i := i)
  have order : InOrder (((c.leave index).extend r i args named table d).declarations predefined) (index + 1) := by
    rw [grown]
    exact h.order.append (fun x hx => place_of_mem_at hx) (Option.length_toList_le)
  rw [← grown] at declared
  have scopes := findSome?_of_has declared (apart_homesBehind laid order)
  refine ⟨⟨?_, h.slots_extend table d r args named, order, homesBehind row index, declared, ?_,
    homesAround_succ laid⟩, fun name => ?_⟩
  · rw [Compilation.extend_entries, Array.size_push]
    exact congrArg (· + 1) h.size
  · rw [homesBehind, homesAround, ← List.append_assoc, List.getLast?_concat]
  · rw [Compilation.entryOf, Compilation.visible, Compilation.lookup_visibleIn (distinct_of_has declared), scopes]
    exact latest?_congr (fun x hx => contains_homesBehind laid (order.before x hx)) name

end Scoped

end

/-! ### All instructions -/

/-- Before the first instruction the predefined variables have the first slots. -/
theorem start_eq (predefined : List (String × String)) : ∃ names,
    (Compilation.start predefined).scopes = [⟨none, names⟩] ∧ (names.map (·.1)).Nodup ∧
      (Compilation.start predefined).slots.size = predefined.length ∧
      ∀ p : Declared → Bool, (∀ d, d.place = none → p d = true) → ∀ name, names.lookup name =
        latest? p (predefined.zipIdx.map fun (p, slot) => ⟨none, Text.lower p.1, slot⟩) name := by
  -- The compiler declares from the first on, so the last variable is taken off.
  induction predefined using List.reverseRecOn with
  | nil => exact ⟨[], rfl, List.nodup_nil, rfl, fun _ _ _ => rfl⟩
  | append_singleton predefined d ih =>
    obtain ⟨names, hscopes, distinct, size, lookup⟩ := ih
    have next : Compilation.start (predefined ++ [d]) = ((Compilation.start predefined).declare ⟨d.1, d.2⟩).2 := by
      rw [Compilation.start, List.foldl_append]
      rfl
    refine ⟨setKey (Text.lower d.1) predefined.length names, ?_, nodup_setKey _ _ distinct, ?_, fun p hp name => ?_⟩
    · rw [next, Compilation.declare]
      dsimp only
      rw [hscopes, size]
    · rw [next, List.length_append, ← size]
      exact Array.size_push _
    · rw [List.zipIdx_append, List.map_append, Nat.zero_add, List.zipIdx_singleton, List.map_singleton,
        latest?_append_one, hp _ rfl, Bool.and_true]
      dsimp only
      by_cases hn : Text.lower d.1 = name
      · rw [if_pos (beq_iff_eq.mpr hn), ← hn]
        exact lookup_setKey_self _ _ _
      · rw [if_neg (fun h => hn (beq_iff_eq.mp h)), ← lookup p hp]
        exact lookup_setKey_ne (Ne.symm hn) _ _

section
variable {rc : CommandRegistry} {row : List Instruction} {predefined : List (String × String)}

theorem scoped_start (row : List Instruction) (predefined : List (String × String)) :
    Scoped row predefined 0 (Compilation.start predefined) := by
  obtain ⟨names, hscopes, distinct, -, lookup⟩ := start_eq predefined
  have entries := (start_empty predefined).1
  have ds : (Compilation.start predefined).declarations predefined =
      predefined.zipIdx.map fun (p, slot) => ⟨none, Text.lower p.1, slot⟩ := by
    rw [Compilation.declarations, declarations, entries]
    exact List.append_nil _
  have place : ∀ d ∈ (Compilation.start predefined).declarations predefined, d.place = none := by
    rw [ds]
    intro d hd
    obtain ⟨_, -, rfl⟩ := List.mem_map.mp hd
    rfl
  refine ⟨by rw [entries]; rfl, fun e he => ?_, ⟨fun d hd i hi => ?_, ?_⟩, [none], ?_, rfl, rfl⟩
  · rw [entries] at he
    exact absurd he List.not_mem_nil
  · cases (place d hd).symm.trans hi
  · rw [ds]
    exact List.pairwise_map.mpr (List.pairwise_of_forall fun _ _ i hi => by cases hi)
  · rw [hscopes, ds]
    refine .cons ⟨rfl, distinct, fun name => lookup _ (fun d hd => ?_) name⟩ .nil
    rw [Declared.home, hd]
    rfl

variable (laid : Laid rc 0 none row) {index : Nat} {c c' : Compilation}
include laid

/-- What is compiled of some instructions in a row. -/
theorem Scoped.foldlM {r : Registries} {is : List Instruction} (h : Scoped row predefined index c)
    (part : ∀ k i, is[k]? = some i → row[index + k]? = some i)
    (hfold : is.foldlM (fun c i => c.add r i) c = .ok c') :
    Scoped row predefined (index + is.length) c' ∧
      (∃ more, c'.declarations predefined = c.declarations predefined ++ more ∧
        ∀ d ∈ more, ∃ j, d.place = some j ∧ index ≤ j) ∧
      ∃ es, c'.entries.toList = c.entries.toList ++ es ∧ ∀ k e, es[k]? = some e → ∀ name,
        e.names.lookup name = latest? (fun x => x.visible row (index + k) || x.place == some (index + k))
          (c'.declarations predefined) name := by
  induction is generalizing index c with
  | nil =>
    cases hfold
    exact ⟨h, ⟨[], (List.append_nil _).symm, fun _ hd => absurd hd List.not_mem_nil⟩, [], (List.append_nil _).symm,
      fun k e he => by cases he⟩
  | cons i rest ih =>
    rw [List.foldlM_cons] at hfold
    obtain ⟨c₁, hadd, hfold⟩ := bind_eq_ok.mp hfold
    obtain ⟨args, _, named, table, d, -, -, -, rfl⟩ := Compilation.add_eq_ok hadd
    rw [h.size] at hfold
    obtain ⟨next, names⟩ := h.extend laid (part 0 i rfl) table d r args named
    have grown := h.declarations_extend table d r args named (i := i)
    obtain ⟨last, ⟨more, hmore, later⟩, es, hes, hnames⟩ := ih next (fun k j hj => by
      rw [Nat.succ_add_eq_add_succ]
      exact part (k + 1) j hj) hfold
    refine ⟨?_, ⟨Declaration.at index c.slots d ++ more, ?_, fun x hx => ?_⟩,
      (c.leave index).entryOf r i args named table d :: es, ?_, fun k e he name => ?_⟩
    · rw [List.length_cons, ← Nat.succ_add_eq_add_succ]
      exact last
    · rw [hmore, grown, List.append_assoc]
    · rcases List.mem_append.mp hx with hx | hx
      · exact ⟨index, place_of_mem_at hx, Nat.le_refl _⟩
      · obtain ⟨j, hj, hle⟩ := later x hx
        exact ⟨j, hj, Nat.le_of_succ_le hle⟩
    · rw [hes, Compilation.extend_entries, Array.toList_push, List.append_assoc]
      rfl
    · cases k with
      | zero =>
        cases he
        -- What the instructions behind declare is not in sight of the first.
        rw [names, hmore]
        refine (latest?_append (fun x hx => ?_) name).symm
        obtain ⟨j, hj, hle⟩ := later x hx
        have ahead : ¬j < index ∧ j ≠ index := by omega
        rw [Declared.visible, hj, Option.all_some, decide_eq_false ahead.1, Bool.false_and, Bool.false_or]
        exact beq_eq_false_iff_ne.mpr fun h => ahead.2 (Option.some.inj h)
      | succ k =>
        rw [← Nat.succ_add_eq_add_succ]
        exact hnames k e he name

end

end CommandScript
