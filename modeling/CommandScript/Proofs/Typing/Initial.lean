import Mathlib.Data.List.Nodup
import CommandScript.Engine.State
import CommandScript.Proofs.Scoping.Lexical
import CommandScript.Proofs.Typing.Values

/-! The variables that a frame begins with. A value for a predefined variable goes, as it is, to the slot that the first
    instruction reads the variable from, unless that instruction declares the name anew; all others go to the variables
    without a slot. -/

namespace CommandScript

/-! ### Folds -/

section
variable {σ β ω : Type} {step : σ → β → σ} {g : σ → ω} {ok : σ → Prop} (keeps : ∀ s b, ok s → ok (step s b))
include keeps

theorem foldl_get_same {l : List β} (miss : ∀ s, ok s → ∀ b ∈ l, g (step s b) = g s) {s : σ} (hs : ok s) :
    g (l.foldl step s) = g s := by
  induction l generalizing s with
  | nil => rfl
  | cons b rest ih =>
    rw [List.foldl_cons, ih (fun s hs b' hb => miss s hs b' (List.mem_cons_of_mem _ hb)) (keeps s b hs),
      miss s hs b List.mem_cons_self]

/-- What one item of a list sets and no other touches is so at the end. -/
theorem foldl_get {l : List β} {b : β} {x : ω} (hit : ∀ s, ok s → g (step s b) = x)
    (miss : ∀ s, ok s → ∀ b' ∈ l, b' ≠ b → g (step s b') = g s) (mem : b ∈ l) {s : σ} (hs : ok s) :
    g (l.foldl step s) = x := by
  induction l generalizing s with
  | nil => exact absurd mem List.not_mem_nil
  | cons b' rest ih =>
    have miss' := fun s hs b' hb => miss s hs b' (List.mem_cons_of_mem _ hb)
    rw [List.foldl_cons]
    by_cases later : b ∈ rest
    · exact ih miss' later (keeps s b' hs)
    · obtain rfl : b = b' := (List.mem_cons.mp mem).resolve_right later
      rw [foldl_get_same keeps (fun s hs c hc => miss' s hs c hc fun same => later (same ▸ hc)) (keeps s b hs),
        hit s hs]

end

/-! ### A fresh frame -/

/-- A frame of a script with all its slots. -/
structure Frame.Of (script : Script) (f : Frame) : Prop where
  of : f.script = script
  size : f.slots.size = script.code.slots.size

namespace Frame
variable {script : Script} {f : Frame} {b : String × Value}

theorem Of.bind (b : String × Value) (h : f.Of script) : (f.bind b).Of script := by
  obtain ⟨of, size⟩ := h
  unfold Frame.bind
  dsimp only
  split
  · exact ⟨of, Array.size_setIfInBounds.trans size⟩
  · exact ⟨of, size⟩

/-- An initial variable with a slot is there, and nothing else changes. -/
theorem Of.bind_slot (h : f.Of script) {slot : Nat} (hs : initialSlot? script (Text.lower b.1) = some slot) :
    f.bind b = f.setSlot slot b.2 := by
  rw [← h.of] at hs
  unfold Frame.bind
  dsimp only
  rw [hs]
  rfl

/-- One without a slot is among the variables, and nothing else changes. -/
theorem Of.bind_var (h : f.Of script) (hs : initialSlot? script (Text.lower b.1) = none) :
    f.bind b = f.setVar (Text.lower b.1) b.2 := by
  rw [← h.of] at hs
  unfold Frame.bind
  dsimp only
  rw [hs]
  rfl

theorem Of.bind_slots_ne (h : f.Of script) {i : Nat} (hi : initialSlot? script (Text.lower b.1) ≠ some i) :
    (f.bind b).slots[i]? = f.slots[i]? := by
  cases hs : initialSlot? script (Text.lower b.1) with
  | none => rw [h.bind_var hs]; rfl
  | some slot =>
    rw [h.bind_slot hs]
    exact Array.getElem?_setIfInBounds_ne fun same => hi (hs.trans (congrArg some same))

theorem Of.bind_vars_ne (h : f.Of script) {n : String} (hn : Text.lower b.1 ≠ n) :
    (f.bind b).vars.lookup n = f.vars.lookup n := by
  cases hs : initialSlot? script (Text.lower b.1) with
  | none =>
    rw [h.bind_var hs]
    exact lookup_setKey_ne (Ne.symm hn) _ _
  | some slot => rw [h.bind_slot hs]; rfl

/-- A frame before it has any variables. -/
def blank (script : Script) : Frame :=
  { script := script, slots := Array.replicate script.code.slots.size .null, vars := [],
    verbosity := script.verbosity }

theorem of_blank (script : Script) : (blank script).Of script :=
  ⟨rfl, Array.size_replicate⟩

theorem start_eq_foldl (script : Script) (vars : Vars) : start script vars = vars.foldl bind (blank script) := rfl

section
variable {vars : Vars}

/-- A slot that no initial variable goes to is empty. -/
theorem start_slots_null {i : Nat} (lt : i < script.code.slots.size)
    (h : ∀ b ∈ vars, initialSlot? script (Text.lower b.1) ≠ some i) : (start script vars).slots[i]? = some .null := by
  rw [start_eq_foldl, foldl_get_same (g := fun f : Frame => f.slots[i]?) (fun _ b => Of.bind b)
    (fun f hf b hb => hf.bind_slots_ne (h b hb)) (of_blank script)]
  exact (Array.getElem?_replicate ..).trans (if_pos lt)

theorem start_slots {i : Nat} (lt : i < script.code.slots.size) (mem : b ∈ vars)
    (hi : initialSlot? script (Text.lower b.1) = some i)
    (unique : ∀ b' ∈ vars, initialSlot? script (Text.lower b'.1) = some i → b' = b) :
    (start script vars).slots[i]? = some b.2 := by
  rw [start_eq_foldl]
  refine foldl_get (g := fun f : Frame => f.slots[i]?) (fun _ b => Of.bind b) (fun f hf => ?_)
    (fun f hf b' hb hne => hf.bind_slots_ne fun same => hne (unique b' hb same)) mem (of_blank script)
  rw [hf.bind_slot hi]
  exact Array.getElem?_setIfInBounds_self_of_lt (Nat.lt_of_lt_of_eq lt hf.size.symm)

theorem start_vars (mem : b ∈ vars) (hb : initialSlot? script (Text.lower b.1) = none)
    (unique : ∀ b' ∈ vars, Text.lower b'.1 = Text.lower b.1 → b' = b) :
    (start script vars).vars.lookup (Text.lower b.1) = some b.2 := by
  rw [start_eq_foldl]
  refine foldl_get (g := fun f : Frame => f.vars.lookup (Text.lower b.1)) (fun _ b => Of.bind b) (fun f hf => ?_)
    (fun f hf b' hb hne => hf.bind_vars_ne fun same => hne (unique b' hb same)) mem (of_blank script)
  rw [hf.bind_var hb]
  exact lookup_setKey_self _ _ _

end

end Frame

/-! ### The predefined variables -/

/-- The type of a predefined variable. If a name is predefined more than once, the last one counts. -/
def predefinedType? (predefined : List (String × String)) (n : String) : Option String :=
  (predefined.reverse.find? fun p => Text.lower p.1 == n).map (·.2)

namespace Compilation

/-- Scopes in which each name occurs at most once. -/
def Distinct (c : Compilation) : Prop :=
  c.scopes ≠ [] ∧ ∀ s ∈ c.scopes, (s.names.map (·.1)).Nodup

variable {c : Compilation}

theorem Distinct.lookup_visible (h : c.Distinct) (n : String) : c.visible.lookup n = c.lookup n :=
  lookup_visibleIn h.2 n

theorem Distinct.openBlock (h : c.Distinct) (i : Instruction) : (c.openBlock i).Distinct := by
  unfold Compilation.openBlock
  split
  · split
    · exact h
    · exact ⟨List.cons_ne_nil _ _, List.forall_mem_cons.mpr ⟨List.nodup_nil, h.2⟩⟩
  · exact h

theorem lookup_openBlock (c : Compilation) (i : Instruction) (n : String) :
    (c.openBlock i).lookup n = c.lookup n := by
  unfold openBlock
  split
  · split <;> rfl
  · rfl

theorem Distinct.declare (h : c.Distinct) (d : Declaration) : (c.declare d).2.Distinct := by
  obtain ⟨some, distinct⟩ := h
  obtain ⟨s, outer, hs⟩ := List.exists_cons_of_ne_nil some
  have scopes : (c.declare d).2.scopes =
      { s with names := setKey (Text.lower d.name) c.slots.size s.names } :: outer := by
    rw [Compilation.declare]
    dsimp only
    rw [hs]
  rw [hs] at distinct
  obtain ⟨first, rest⟩ := List.forall_mem_cons.mp distinct
  rw [Distinct, scopes]
  exact ⟨List.cons_ne_nil _ _, List.forall_mem_cons.mpr ⟨nodup_setKey _ _ first, rest⟩⟩

theorem Distinct.lookup_declare (h : c.Distinct) (d : Declaration) (n : String) :
    (c.declare d).2.lookup n = if Text.lower d.name = n then some c.slots.size else c.lookup n := by
  obtain ⟨s, outer, hs⟩ := List.exists_cons_of_ne_nil h.1
  rw [lookup, lookup, Compilation.declare]
  dsimp only
  rw [hs]
  dsimp only
  rw [List.findSome?_cons, List.findSome?_cons]
  by_cases hn : Text.lower d.name = n
  · rw [if_pos hn, ← hn, lookup_setKey_self]
  · rw [if_neg hn, lookup_setKey_ne (Ne.symm hn)]

/-- Before the first instruction, the variables in sight are the predefined ones, with their types. -/
theorem start_predefined (predefined : List (String × String)) : (start predefined).Distinct ∧ ∀ n,
    match predefinedType? predefined n with
    | some t => ∃ slot, (start predefined).lookup n = some slot ∧ (start predefined).slots[slot]? = some ⟨n, t⟩
    | none => (start predefined).lookup n = none := by
  induction predefined using List.reverseRecOn with
  | nil => exact ⟨⟨List.cons_ne_nil _ _, by simp [start]⟩, fun n => rfl⟩
  | append_singleton predefined d ih =>
    obtain ⟨distinct, found⟩ := ih
    have next : start (predefined ++ [d]) = ((start predefined).declare ⟨d.1, d.2⟩).2 := by
      rw [start, List.foldl_append]
      rfl
    rw [next]
    refine ⟨distinct.declare _, fun n => ?_⟩
    have type : predefinedType? (predefined ++ [d]) n =
        if Text.lower d.1 = n then some d.2 else predefinedType? predefined n := by
      rw [predefinedType?, List.reverse_append, List.reverse_singleton, List.singleton_append, List.find?_cons]
      by_cases hn : Text.lower d.1 = n
      · rw [if_pos hn, beq_iff_eq.mpr hn]
        rfl
      · rw [if_neg hn, beq_eq_false_iff_ne.mpr hn]
        rfl
    rw [type, distinct.lookup_declare]
    by_cases hn : Text.lower d.1 = n
    · rw [if_pos hn, if_pos hn]
      refine ⟨_, rfl, ?_⟩
      rw [← hn]
      exact Array.getElem?_push_size
    · rw [if_neg hn, if_neg hn]
      have before := found n
      cases ht : predefinedType? predefined n with
      | none =>
        rw [ht] at before
        exact before
      | some t =>
        rw [ht] at before
        obtain ⟨slot, hslot, hs⟩ := before
        exact ⟨slot, hslot, slots_push _ hs⟩

theorem leave_start (predefined : List (String × String)) : (start predefined).leave 0 = start predefined := by
  obtain ⟨names, scopes, -⟩ := start_eq predefined
  have kept : ((start predefined).scopes.dropWhile fun s => s.stop.any (· ≤ 0)) = (start predefined).scopes := by
    rw [scopes]
    rfl
  rw [leave, kept]

end Compilation

/-- The variable that an instruction declares. -/
def Entry.Declares (code : Code) (e : Entry) (n : String) : Prop :=
  ∃ slot v, e.declares = some slot ∧ code.slots[slot]? = some v ∧ v.name = n

section
variable {r : Registries} {row : List Instruction} {predefined : List (String × String)} {code : Code} {e : Entry}

theorem slots_of_foldlM {is : List Instruction} {c c' : Compilation}
    (h : is.foldlM (fun c i => c.add r i) c = .ok c') {i : Nat} {s : Slot} (hs : c.slots[i]? = some s) :
    c'.slots[i]? = some s := by
  refine foldlM_keeps (fun c => c.slots[i]? = some s) (fun c j c' hc hadd => ?_) hs h
  obtain ⟨args, _, named, table, d, -, -, -, rfl⟩ := Compilation.add_eq_ok hadd
  show ((c.leave c.entries.size).declared j table d).2.slots[i]? = some s
  refine Compilation.declareAny_slots _ d ?_
  rw [Compilation.openBlock_slots]
  exact hc

/-- An entry is what its instruction is compiled to behind the ones before it, and the slots that there are then
    remain. -/
theorem entry_at (h : compile r row predefined = .ok code) {index : Nat} (he : code.entries[index]? = some e) :
    ∃ c args named table d typeNames,
      (row.take index).foldlM (fun c i => c.add r i) (Compilation.start predefined) = .ok c ∧
      e.instruction.declaration r.commands typeNames = .ok d ∧
      e = (c.leave index).entryOf r e.instruction args named table d ∧
      ∀ {i : Nat} {s : Slot}, ((c.leave index).declared e.instruction table d).2.slots[i]? = some s →
        code.slots[i]? = some s := by
  obtain ⟨c, args, _, named, table, d, c₂, -, hc, -, -, hd, hentry, hrest, hcode⟩ := entry_compiled_at h he
  refine ⟨c, args, named, table, d, _, hc, hd, hentry, fun {i s} hs => ?_⟩
  rw [hcode]
  exact slots_of_foldlM hrest hs

/-- What the first instruction declares gets the first slot behind those of the predefined variables, and hides the one
    of its name from what follows. -/
theorem first_names (h : compile r row predefined = .ok code) (he : code.entries[0]? = some e) :
    ∃ d : Option Declaration, e.declares = d.map (fun _ => (Compilation.start predefined).slots.size) ∧
      (∀ n, e.names.lookup n = if d.any (Text.lower ·.name = n) then some (Compilation.start predefined).slots.size
        else (Compilation.start predefined).lookup n) ∧
      ∀ d' ∈ d, code.slots[(Compilation.start predefined).slots.size]? = some ⟨Text.lower d'.name, d'.typeName⟩ := by
  obtain ⟨c, args, named, table, d, _, hc, -, hentry, slots⟩ := entry_at h he
  -- The first instruction is compiled where the predefined variables are in sight.
  cases hc
  rw [Compilation.leave_start] at hentry slots
  obtain ⟨distinct, -⟩ := Compilation.start_predefined predefined
  have declares : e.declares = d.map fun _ => (Compilation.start predefined).slots.size := by
    rw [hentry]
    exact Compilation.declared_slot _ _ _ _
  have names : e.names = ((Compilation.start predefined).declared e.instruction table d).2.visible := by
    rw [hentry]
    rfl
  have given : ({ Compilation.start predefined with table := table } : Compilation).Distinct := distinct
  have opened := given.openBlock e.instruction
  have sight (n : String) : ({ Compilation.start predefined with table := table }.openBlock e.instruction).lookup n =
      (Compilation.start predefined).lookup n := Compilation.lookup_openBlock _ _ n
  refine ⟨d, declares, fun n => ?_, fun d' hd' => ?_⟩
  · cases d with
    | none =>
      rw [names, Option.any_none, if_neg Bool.false_ne_true, ← sight, ← opened.lookup_visible]
      rfl
    | some d =>
      rw [names, Option.any_some, ← sight,
        ← Compilation.openBlock_slots { Compilation.start predefined with table := table }]
      simp only [decide_eq_true_eq]
      exact ((opened.declare d).lookup_visible n).trans (opened.lookup_declare d n)
  · obtain rfl := Option.mem_def.mp hd'
    refine slots ?_
    rw [Compilation.declared_slots]
    exact Array.getElem?_push_size

/-- An initial variable has the slot of the predefined variable of its name, unless the first instruction declares the
    name. -/
theorem initialSlot?_cases {script : Script} (h : compile r row predefined = .ok script.code)
    (he : script.code.entries[0]? = some e) (n : String) :
    Frame.initialSlot? script n = (Compilation.start predefined).lookup n ∧ ¬e.Declares script.code n ∨
      Frame.initialSlot? script n = none ∧ e.Declares script.code n := by
  obtain ⟨d, declares, names, own⟩ := first_names h he
  have initial : Frame.initialSlot? script n = (e.names.lookup n).filter fun slot => e.declares ≠ some slot := by
    rw [Frame.initialSlot?, he]
  rw [initial, names, declares]
  cases d with
  | none =>
    refine Or.inl ⟨?_, fun ⟨slot, v, hslot, _, _⟩ => (by rw [declares] at hslot; cases hslot)⟩
    rw [Option.any_none, if_neg Bool.false_ne_true]
    cases (Compilation.start predefined).lookup n <;> rfl
  | some d =>
    have own := own d rfl
    rw [Option.any_some]
    by_cases hn : Text.lower d.name = n
    · refine Or.inr ⟨?_, _, _, declares, own, hn⟩
      simp [hn]
    · refine Or.inl ⟨?_, fun ⟨slot, v, hslot, hv, name⟩ => hn ?_⟩
      · have before := (Compilation.start_predefined predefined).2 n
        split at before
        · obtain ⟨slot, hslot, hs⟩ := before
          have ne := Nat.ne_of_lt (Array.getElem?_eq_some_iff.mp hs).1
          simp [hn, hslot, ne.symm]
        · simp [hn, before]
      · rw [declares] at hslot
        cases hslot
        cases own.symm.trans hv
        exact name

/-- The slot of a predefined variable, with its type: the one that the tags of the first instruction read it from. -/
structure PredefinedSlot (predefined : List (String × String)) (code : Code) (e : Entry) (n : String) (slot : Nat)
    (t : String) : Prop where
  lookup : (Compilation.start predefined).lookup n = some slot
  type : predefinedType? predefined n = some t
  declared : code.slots[slot]? = some ⟨n, t⟩
  reads {first : Part} : first.reads? BaseRegistry.builtin = some n → ∀ body table, ∃ start,
    (compileStart (((Compilation.start predefined).leave 0).tagScope .builtin e.instruction.line) body first).run
      table = .ok (start, table) ∧ start.start = .slot slot

theorem predefinedSlot_of_lookup (h : compile r row predefined = .ok code) {n : String} {slot : Nat}
    (hslot : (Compilation.start predefined).lookup n = some slot) :
    ∃ t, PredefinedSlot predefined code e n slot t := by
  obtain ⟨c, hfold, h⟩ := bind_eq_ok.mp h
  cases h
  have found := (Compilation.start_predefined predefined).2 n
  split at found
  · rename_i t ht
    obtain ⟨slot', hslot', hs⟩ := found
    cases hslot.symm.trans hslot'
    refine ⟨t, hslot, ht, slots_of_foldlM hfold hs, fun reads body table => ?_⟩
    have sight : (((Compilation.start predefined).leave 0).tagScope .builtin e.instruction.line).lookup n =
        some slot := by
      rw [Compilation.leave_start]
      exact hslot
    have started :=
      compileStart_reads (((Compilation.start predefined).leave 0).tagScope .builtin e.instruction.line) reads body
    rw [started, sight]
    exact ⟨_, rfl, rfl⟩
  · cases hslot.symm.trans found

section
variable {script : Script} (h : compile r row predefined = .ok script.code) (he : script.code.entries[0]? = some e)
  {n t : String} {slot : Nat}
include h he

theorem initialSlot?_of_free (known : PredefinedSlot predefined script.code e n slot t)
    (free : ¬e.Declares script.code n) : Frame.initialSlot? script n = some slot := by
  rcases initialSlot?_cases h he n with ⟨same, -⟩ | ⟨-, own⟩
  · exact same.trans known.lookup
  · exact absurd own free

theorem initialSlot?_of_declares (own : e.Declares script.code n) : Frame.initialSlot? script n = none := by
  rcases initialSlot?_cases h he n with ⟨-, free⟩ | ⟨none, -⟩
  · exact absurd own free
  · exact none

theorem initialSlot?_of_other (other : predefinedType? predefined n = none) : Frame.initialSlot? script n = none := by
  rcases initialSlot?_cases h he n with ⟨same, -⟩ | ⟨none, -⟩
  · have found := (Compilation.start_predefined predefined).2 n
    rw [other] at found
    exact same.trans found
  · exact none

/-- The slot that an initial variable goes to is that of the predefined variable of its name. -/
theorem predefinedSlot_of_initialSlot? (initial : Frame.initialSlot? script n = some slot) :
    (∃ t, PredefinedSlot predefined script.code e n slot t) ∧ ¬e.Declares script.code n := by
  rcases initialSlot?_cases h he n with ⟨same, free⟩ | ⟨none, -⟩
  · exact ⟨predefinedSlot_of_lookup h (same.symm.trans initial), free⟩
  · cases none.symm.trans initial

/-- A slot takes the variables of one name only. -/
theorem name_of_initialSlot? {n' : String} (known : PredefinedSlot predefined script.code e n slot t)
    (initial : Frame.initialSlot? script n' = some slot) : n' = n := by
  obtain ⟨⟨t', known'⟩, -⟩ := predefinedSlot_of_initialSlot? h he initial
  exact congrArg Slot.name (Option.some.inj (known'.declared.symm.trans known.declared))

end

/-- What a frame has at its beginning of some initial variables. -/
structure Frame.Begins (predefined : List (String × String)) (script : Script) (e : Entry) (vars : Vars) (f : Frame) :
    Prop where
  /-- Every predefined variable has a slot. -/
  slot {n t : String} : predefinedType? predefined n = some t →
    ∃ slot, PredefinedSlot predefined script.code e n slot t
  /-- It holds the initial variable as that is, and so as its type has it if the variable is of the type. -/
  held {b : String × Value} {slot : Nat} {t : String} : b ∈ vars →
    PredefinedSlot predefined script.code e (Text.lower b.1) slot t → ¬e.Declares script.code (Text.lower b.1) →
      f.slots[slot]? = some b.2 ∧ (b.2.HasType t → f.slots[slot]? = some (TypeRegistry.builtin.convert b.2 t))
  /-- If the first instruction declares the name anew, the slot is empty, and the variable is one without a slot. -/
  renewed {b : String × Value} {slot : Nat} {t : String} : b ∈ vars →
    PredefinedSlot predefined script.code e (Text.lower b.1) slot t → e.Declares script.code (Text.lower b.1) →
      f.slots[slot]? = some .null ∧ f.vars.lookup (Text.lower b.1) = some b.2
  others {b : String × Value} : b ∈ vars → predefinedType? predefined (Text.lower b.1) = none →
    f.vars.lookup (Text.lower b.1) = some b.2
  rest {i : Nat} : i < script.code.slots.size → (∀ b ∈ vars, ∀ t,
    PredefinedSlot predefined script.code e (Text.lower b.1) i t → e.Declares script.code (Text.lower b.1)) →
      f.slots[i]? = some .null

theorem Frame.begins_of_compile {script : Script} (h : compile r row predefined = .ok script.code)
    (he : script.code.entries[0]? = some e) {vars : Vars} (distinct : (vars.map fun b => Text.lower b.1).Nodup) :
    (Frame.start script vars).Begins predefined script e vars := by
  have unique : ∀ b ∈ vars, ∀ b' ∈ vars, Text.lower b'.1 = Text.lower b.1 → b' = b := fun b hb b' hb' same =>
    List.inj_on_of_nodup_map distinct hb' hb same
  have size : ∀ {n t : String} {slot : Nat}, PredefinedSlot predefined script.code e n slot t →
      slot < script.code.slots.size := fun known => (Array.getElem?_eq_some_iff.mp known.declared).1
  refine ⟨fun {n t} ht => ?_, fun {b slot t} hb known free => ?_, fun {b slot t} hb known own => ?_,
    fun {b} hb other => ?_, fun {i} lt free => ?_⟩
  · have found := (Compilation.start_predefined predefined).2 n
    rw [ht] at found
    obtain ⟨slot, hslot, -⟩ := found
    obtain ⟨t', known⟩ := predefinedSlot_of_lookup (e := e) h hslot
    cases ht.symm.trans known.type
    exact ⟨slot, known⟩
  · have value := Frame.start_slots (size known) hb (initialSlot?_of_free h he known free) fun b' hb' initial =>
      unique b hb b' hb' (name_of_initialSlot? h he known initial)
    exact ⟨value, fun typed => by rw [builtin_convert_eq_self typed]; exact value⟩
  · refine ⟨Frame.start_slots_null (size known) fun b' _ initial => ?_,
      Frame.start_vars hb (initialSlot?_of_declares h he own) (unique b hb)⟩
    obtain ⟨-, free⟩ := predefinedSlot_of_initialSlot? h he initial
    rw [name_of_initialSlot? h he known initial] at free
    exact free own
  · exact Frame.start_vars hb (initialSlot?_of_other h he other) (unique b hb)
  · refine Frame.start_slots_null lt fun b hb initial => ?_
    obtain ⟨⟨t, known⟩, own⟩ := predefinedSlot_of_initialSlot? h he initial
    exact own (free b hb t known)

end

theorem Script.compile_of_ofSource {r : Registries} {name source : String} {predefined : List (String × String)}
    {script : Script} (h : Script.ofSource r name source predefined = .ok script) :
    ∃ row, compile r row predefined = .ok script.code := by
  obtain ⟨row, -, h⟩ := bind_eq_ok.mp h
  obtain ⟨code, hc, h⟩ := bind_eq_ok.mp h
  cases h
  exact ⟨row, hc⟩

/-- Initial variables find the slots of the predefined variables of their names, as the first instruction sees them. -/
theorem Script.start_begins {name source : String} {predefined : List (String × String)} {script : Script}
    (h : Script.ofSource .builtin name source predefined = .ok script) {e : Entry}
    (he : script.code.entries[0]? = some e) {vars : Vars} (distinct : (vars.map fun b => Text.lower b.1).Nodup) :
    (Frame.start script vars).Begins predefined script e vars := by
  obtain ⟨row, hc⟩ := Script.compile_of_ofSource h
  exact Frame.begins_of_compile hc he distinct

/-- A script that adds to a variable that it does not declare. -/
def counting : String :=
  "echo <\x7bvar[count].add[1]\x7d>"

theorem Script.start_begins_counting : ∃ script e, Script.ofSource .builtin "typed" counting [("Count", "integer")] =
      .ok script ∧ script.code.entries[0]? = some e ∧
    (([("COUNT", .integer 41), ("more", .null)] : Vars).map fun b => Text.lower b.1).Nodup ∧
      (Frame.start script [("COUNT", .integer 41), ("more", .null)]).Begins [("Count", "integer")] script e
        [("COUNT", .integer 41), ("more", .null)] := by
  have found : ((Script.ofSource .builtin "typed" counting [("Count", "integer")]).toOption.bind fun script =>
      script.code.entries[0]?).isSome = true := by
    decide +kernel
  obtain ⟨e, found⟩ := Option.isSome_iff_exists.mp found
  obtain ⟨script, made, he⟩ := Option.bind_eq_some_iff.mp found
  have made := toOption_eq_some.mp made
  have distinct : (([("COUNT", .integer 41), ("more", .null)] : Vars).map fun b => Text.lower b.1).Nodup := by
    decide
  exact ⟨script, e, made, he, distinct, Script.start_begins made he distinct⟩

/-- What a frame begins with is not made a value of the type that is predefined. -/
theorem Frame.start_not_converted : ∃ script, Script.ofSource .builtin "typed" counting [("count", "integer")] =
      .ok script ∧ script.code.slots = #[⟨"count", "integer"⟩] ∧
    (Frame.start script [("count", .text "abc")]).slots[0]? = some (.text "abc") ∧
      TypeRegistry.builtin.convert (.text "abc") "integer" = .null := by
  have found : (Script.ofSource .builtin "typed" counting [("count", "integer")]).toOption.any
    (fun (script : Script) =>
      decide (script.code.slots = #[⟨"count", "integer"⟩]) &&
        (Frame.start script [("count", .text "abc")]).slots[0]?.any fun v =>
          v.typeName = "text" ∧ v.toText = "abc") = true := by
    decide +kernel
  have converted : (TypeRegistry.builtin.convert (.text "abc") "integer").isNull = true := by
    decide
  obtain ⟨script, made, found⟩ := (Option.any_eq_true _ _).mp found
  obtain ⟨slots, value⟩ := Bool.and_eq_true_iff.mp found
  obtain ⟨v, held, text⟩ := (Option.any_eq_true _ _).mp value
  obtain ⟨type, shown⟩ := of_decide_eq_true text
  cases Value.eq_text type shown
  exact ⟨script, toOption_eq_some.mp made, of_decide_eq_true slots, held, Value.eq_null_of_isNull converted⟩

end CommandScript
