import CommandScript.Proofs.Machine.Commands
import CommandScript.Proofs.Typing.Initial
import CommandScript.Proofs.Typing.Soundness

/-! The types that slots are declared with. A loop variable has the type of what its loop gives it, and if the types of
    the predefined variables are known, those of all slots are: the static types of tags do not leave the types that
    come with every engine. -/

namespace CommandScript

/-! ### Static types are known -/

/-- A result whose type is known, or named by the parameter. -/
def Returns.Known : Returns → Prop
  | .fixed t => IsBuiltinType t
  | .special resolve => resolve = namedType

theorem builtin_returns_known : ∀ t ∈ TypeRegistry.builtin.types, ∀ s ∈ t.subTags, s.returns.Known := by
  simp [TypeRegistry.builtin, textSubTags, numberSubTags, integerSubTags, booleanSubTags, listSubTags, Returns.Known,
    IsBuiltinType]

theorem builtin_base_returns_known : ∀ b ∈ BaseRegistry.builtin.bases, b.returns.Known := by
  simp [BaseRegistry.builtin, TagBase.converting, TagBase.null, TagBase.localVariable, TagBase.dynamicVariable,
    Returns.Known, TypeRegistry.builtin, IsBuiltinType]

theorem isBuiltinType_ofLiteral (w : String) : IsBuiltinType (Value.ofLiteral w).typeName := by
  unfold Value.ofLiteral
  repeat' split
  all_goals simp [Value.typeName, IsBuiltinType, TypeRegistry.builtin]

theorem isBuiltinType_text : IsBuiltinType "text" := by
  simp [IsBuiltinType, TypeRegistry.builtin]

theorem isBuiltinType_dynamic : IsBuiltinType "dynamic" := by
  simp [IsBuiltinType, TypeRegistry.builtin]

/-- Tags that are read where all variables have known types. -/
structure Sight.Known (s : Sight) : Prop where
  registries : s.registries = .builtin
  find {n : String} {x : Variable} : s.find? n = some x → IsBuiltinType x.typeName

namespace Sight.Known

variable {s : Sight} (h : s.Known) {t : String}
include h

theorem returned {returns : Returns} (known : returns.Known) {param : Option Argument}
    (ht : s.returned returns param = some t) : IsBuiltinType t := by
  cases returns with
  | fixed t' =>
    cases ht
    exact known
  | special resolve =>
    have named := toOption_eq_some.mp ht
    rw [show resolve = namedType from known,
      show s.registries.types = TypeRegistry.builtin from congrArg Registries.types h.registries] at named
    cases hw : param.bind Argument.sole? with
    | none =>
      rw [hw] at named
      cases named
    | some w =>
      rw [hw] at named
      have found := namedType_eq_ok named
      simp only [TypeRegistry.conversions] at found
      exact isBuiltinType_of_canonicalName? found

theorem startType {first : Part} (ht : s.startType first = some t) : IsBuiltinType t := by
  obtain ⟨base, hb, ht⟩ := Option.bind_eq_some_iff.mp ht
  rw [h.registries] at hb
  split at ht
  · obtain ⟨x, hx, ht⟩ := Option.bind_eq_some_iff.mp ht
    cases ht
    obtain ⟨n, -, hx⟩ := Option.bind_eq_some_iff.mp hx
    exact h.find hx
  · exact h.returned (builtin_base_returns_known base (List.mem_of_find?_eq_some hb)) ht

theorem stepsType {current : String} (known : IsBuiltinType current) {steps : List Part}
    (ht : s.stepsType current steps = some t) : IsBuiltinType t := by
  induction steps generalizing current with
  | nil =>
    cases ht
    exact known
  | cons step rest ih =>
    obtain ⟨key, param⟩ := step
    obtain ⟨⟨owner, subTag⟩, hr, ht⟩ := Option.bind_eq_some_iff.mp ht
    obtain ⟨next, hnext, ht⟩ := Option.bind_eq_some_iff.mp ht
    rw [h.registries] at hr
    obtain ⟨howner, hsub, -⟩ := resolve?_name hr
    exact ih (h.returned (builtin_returns_known owner howner subTag hsub) hnext) ht

theorem tagType : ∀ {tag : Tag}, s.tagType tag = some t → IsBuiltinType t
  | ⟨[], none⟩, ht => (by cases ht)
  | ⟨[], some _⟩, ht => (by cases ht)
  | ⟨first :: rest, none⟩, ht => by
    obtain ⟨start, hstart, ht⟩ := Option.bind_eq_some_iff.mp ht
    exact h.stepsType (h.startType hstart) ht
  | ⟨first :: rest, some fallback⟩, ht => by
    obtain ⟨t', ht', ht⟩ := Option.bind_eq_some_iff.mp ht
    obtain ⟨start, hstart, ht'⟩ := Option.bind_eq_some_iff.mp ht'
    obtain ⟨f, -, ht⟩ := Option.bind_eq_some_iff.mp ht
    cases ht
    split
    · exact h.stepsType (h.startType hstart) ht'
    · exact isBuiltinType_dynamic

theorem argumentType {a : Argument} (ht : s.argumentType a = some t) : IsBuiltinType t := by
  unfold Sight.argumentType at ht
  split at ht
  · exact h.tagType ht
  · cases ht
    exact isBuiltinType_ofLiteral _
  · cases ht
    exact isBuiltinType_text

theorem argumentTypes {as : List Argument} {ts : List String} (hts : as.mapM s.argumentType = some ts) :
    ∀ t ∈ ts, IsBuiltinType t := by
  induction as generalizing ts with
  | nil =>
    cases hts
    exact List.forall_mem_nil _
  | cons a rest ih =>
    rw [List.mapM_cons] at hts
    obtain ⟨t, ht, hts⟩ := Option.bind_eq_some_iff.mp hts
    obtain ⟨more, hmore, hts⟩ := Option.bind_eq_some_iff.mp hts
    cases hts
    exact List.forall_mem_cons.mpr ⟨h.argumentType ht, ih hmore⟩

end Sight.Known

/-! ### What instructions declare -/

section
variable {i : Instruction} {typeNames : List String} {d : Declaration}

/-- Variables are declared by `define`, with the type of its value, and by the headers of loops. -/
theorem declaration_cases (h : i.declaration .builtin typeNames = .ok (some d)) :
    i.name = "define" ∧ d.typeName = typeNames[1]?.getD "text" ∨ i.name = "repeat" ∧ d.typeName = "integer" ∨
      i.name = "foreach" ∧ d.typeName = "dynamic" := by
  unfold Instruction.declaration at h
  split at h
  · cases h
  rename_i c hc
  have name := name?_builtin hc
  split at h
  · cases h
  split at h
  · rename_i declared hd
    cases h
    cases ha : c.action <;> rw [ha] at name hd
    case define =>
      obtain ⟨n, -, hd⟩ := bind_eq_ok.mp hd
      cases hd
      exact Or.inl ⟨(Option.some.inj name).symm, rfl⟩
    case repeatBlock =>
      obtain ⟨n, -, hd⟩ := bind_eq_ok.mp hd
      obtain ⟨n, -, rfl⟩ := Option.map_eq_some_iff.mp (Except.ok.inj hd)
      exact Or.inr (Or.inl ⟨(Option.some.inj name).symm, rfl⟩)
    case foreach =>
      obtain ⟨n, -, hd⟩ := bind_eq_ok.mp hd
      obtain ⟨n, -, rfl⟩ := Option.map_eq_some_iff.mp (Except.ok.inj hd)
      exact Or.inr (Or.inr ⟨(Option.some.inj name).symm, rfl⟩)
    all_goals cases hd
  · cases h

theorem declaration_known (h : i.declaration .builtin typeNames = .ok (some d))
    (known : ∀ t ∈ typeNames, IsBuiltinType t) : IsBuiltinType d.typeName := by
  rcases declaration_cases h with ⟨-, ht⟩ | ⟨-, ht⟩ | ⟨-, ht⟩ <;> rw [ht]
  · cases hsecond : typeNames[1]? with
    | none => exact isBuiltinType_text
    | some t => exact known t (List.mem_of_getElem? hsecond)
  · simp [IsBuiltinType, TypeRegistry.builtin]
  · exact isBuiltinType_dynamic

end

/-! ### The slots of compiled code -/

/-- Slots with types that are known. -/
def SlotsKnown (slots : Array Slot) : Prop :=
  ∀ s ∈ slots, IsBuiltinType s.typeName

section
variable {r : Registries} {row : List Instruction} {predefined : List (String × String)} {code : Code}

theorem start_slotsKnown (known : ∀ p ∈ predefined, IsBuiltinType p.2) :
    SlotsKnown (Compilation.start predefined).slots := by
  unfold Compilation.start
  refine List.foldlRecOn predefined _ (motive := fun c : Compilation => SlotsKnown c.slots) ?_ ?_
  · exact fun s hs => absurd hs (Array.not_mem_empty s)
  · intro c hc p hp s hs
    rcases Array.mem_push.mp hs with hs | rfl
    · exact hc s hs
    · exact known p hp

/-- An instruction declares a variable of a known type where all are. -/
theorem add_slotsKnown {v : View} {c c' : Compilation} {i : Instruction} (follows : Follows .builtin v c)
    (known : SlotsKnown c.slots) (h : c.add .builtin i = .ok c') : SlotsKnown c'.slots := by
  have sight : ((v.leave c.entries.size).sight .builtin).Known := ⟨rfl, fun hx => by
    obtain ⟨slot, hs, ht⟩ := typed_of_levels (follows.view.leave c.entries.size).levels hx
    rw [← ht]
    exact known slot (Array.mem_of_getElem? hs)⟩
  obtain ⟨-, -, e, he, hi, agrees⟩ := follows.add plainNames_builtin h
  obtain ⟨args, _, named, table, d, -, -, hd, rfl⟩ := Compilation.add_eq_ok h
  have same : (c.leave c.entries.size).entryOf .builtin i args named table d = e := by
    rw [Compilation.extend_entries] at he
    exact (Array.push_eq_push.mp he).1
  have types := sight.argumentTypes (mapM_argumentType agrees.args)
  rw [← same] at types
  show SlotsKnown ((c.leave c.entries.size).declared i table d).2.slots
  rw [Compilation.declared_slots]
  cases d with
  | none => exact known
  | some d =>
    intro s hs
    rcases Array.mem_push.mp hs with hs | rfl
    · exact known s hs
    · exact declaration_known hd types

/-- The types of all slots are known if those of the predefined variables are. -/
theorem compile_slotsKnown (h : compile .builtin row predefined = .ok code)
    (known : ∀ p ∈ predefined, IsBuiltinType p.2) : SlotsKnown code.slots := by
  obtain ⟨c, hfold, hcode⟩ := bind_eq_ok.mp h
  cases hcode
  refine (foldlM_keeps (fun c => (∃ v, Follows .builtin v c) ∧ SlotsKnown c.slots) (fun c i c' hc hadd => ?_)
    ⟨⟨_, follows_start predefined⟩, start_slotsKnown known⟩ hfold).2
  obtain ⟨⟨v, follows⟩, hslots⟩ := hc
  exact ⟨⟨_, (follows.add plainNames_builtin hadd).1⟩, add_slotsKnown follows hslots hadd⟩

/-- The slot that an entry names is the one of the variable that its instruction declares. -/
theorem declared_at (h : compile r row predefined = .ok code) {index : Nat} {e : Entry}
    (he : code.entries[index]? = some e) {slot : Nat} (hslot : e.declares = some slot) : ∃ typeNames d,
      e.instruction.declaration r.commands typeNames = .ok (some d) ∧
        code.slots[slot]? = some ⟨Text.lower d.name, d.typeName⟩ := by
  obtain ⟨c, args, named, table, d, typeNames, -, hd, hentry, slots⟩ := entry_at h he
  have declares : e.declares = d.map fun _ => (c.leave index).slots.size := by
    rw [hentry]
    exact Compilation.declared_slot _ _ _ _
  rw [declares] at hslot
  obtain ⟨d, rfl, rfl⟩ := Option.map_eq_some_iff.mp hslot
  refine ⟨typeNames, d, hd, slots ?_⟩
  rw [Compilation.declared_slots]
  exact Array.getElem?_push_size

end

/-! ### Loops -/

theorem compile_nil (r : Registries) : compile r [] [] = .ok .empty := by
  simp [compile, Compilation.start, Code.empty]
  rfl

/-- The code of a script is compiled with the commands of every engine. -/
theorem Script.FromSource.compiled {s : Script} (h : s.FromSource) : ∃ r row predefined,
    r.commands = .builtin ∧ compile r row predefined = .ok s.code := by
  induction h with
  | source commands made =>
    obtain ⟨row, hc⟩ := Script.compile_of_ofSource made
    exact ⟨_, row, _, commands, hc⟩
  | block commands _ _ _ made =>
    obtain ⟨code, hc, h⟩ := bind_eq_ok.mp made
    cases h
    exact ⟨_, _, _, commands, hc⟩
  | @report r commands name verbosity text =>
    unfold Script.ofReport
    dsimp only
    split
    · rename_i code hcode
      exact ⟨r, _, _, commands, hcode⟩
    · exact ⟨r, [], [], commands, compile_nil r⟩
  | reporting _ _ ih => exact ih

/-- The variable of a loop is of the type that the loop gives it values of. -/
theorem Script.FromSource.loopVariable {s : Script} (h : s.FromSource) {index : Nat} {e : Entry}
    (he : s.code.entries[index]? = some e) {slot : Nat} (hslot : e.declares = some slot) :
    (e.instruction.name = "repeat" → ∃ n, s.code.slots[slot]? = some ⟨n, "integer"⟩) ∧
      (e.instruction.name = "foreach" → ∃ n, s.code.slots[slot]? = some ⟨n, "dynamic"⟩) := by
  obtain ⟨r, row, predefined, commands, hc⟩ := h.compiled
  obtain ⟨typeNames, d, hd, hs⟩ := declared_at hc he hslot
  rw [commands] at hd
  rcases declaration_cases hd with ⟨name, -⟩ | ⟨name, ht⟩ | ⟨name, ht⟩ <;> rw [name]
  · exact ⟨fun other => absurd other (by decide), fun other => absurd other (by decide)⟩
  · rw [ht] at hs
    exact ⟨fun _ => ⟨_, hs⟩, fun other => absurd other (by decide)⟩
  · rw [ht] at hs
    exact ⟨fun other => absurd other (by decide), fun _ => ⟨_, hs⟩⟩

end CommandScript
