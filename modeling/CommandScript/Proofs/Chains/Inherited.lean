import CommandScript.Proofs.Numbers.Literals

/-! The sub-tags `type` and `as` of a variable. They belong to text, and so they are given any value as text: `type`
    names the type of this text, and `as` gives what it is read as. -/

namespace CommandScript

/-! ### Values read from their text -/

namespace Decimal

/-- The texts of the floats that are not finite. -/
theorem floatText_of_not_finite {x : Float} (infinite : x.isFinite = false) :
    floatText x ∈ ["NaN", "inf", "-inf"] := by
  rw [floatText]
  cases number : x.isNaN with
  | true => exact List.mem_cons_self
  | false =>
    have bits : x.toBits.toNat % twoTo 63 = 2047 * twoTo 52 := magnitude_of_not_finite infinite number
    simp only [Bool.false_eq_true, if_false, bits, if_true]
    split
    · decide
    · decide

end Decimal

namespace Value

/-- What the text of a value is read as, by the type of the value. -/
def reread (v : Value) : Value :=
  TypeRegistry.builtin.convert (.text v.toText) v.typeName

/-- Values that are read back from their text: of the numbers the finite ones, and of the lists those whose items are
    kept apart by the bars, and are each what a literal of their text has. -/
def Kept : Value → Prop
  | number x => x.isFinite = true
  | list items => items = [] ∨ (list items).toText ≠ "" ∧ ∀ v ∈ items, '|' ∉ v.toText.toList ∧ ofLiteral v.toText = v
  | _ => True

theorem reread_number_of_not_finite {x : Float} (infinite : x.isFinite = false) : (number x).reread = null := by
  have made (w : Value) : TypeRegistry.builtin.convert w "number" = createNumber w := rfl
  have none : ∀ s ∈ ["NaN", "inf", "-inf"], (readNumber? (Text.trim s)).isNone = true := by decide
  have read := Option.isNone_iff_eq_none.mp (none _ (Decimal.floatText_of_not_finite infinite))
  rw [reread, typeName, toText, made, createNumber, asNumber?, read]

theorem reread_list (items : List Value) : (list items).reread = list (asList (.text (list items).toText)) := rfl

theorem reread_list_eq_iff (items : List Value) : (list items).reread = list items ↔ (list items).Kept := by
  have cut (t : String) : asList (.text t) = if t.isEmpty then [] else (Text.splitBars t).map ofLiteral := rfl
  rw [reread_list, list.injEq, Kept, cut]
  by_cases empty : (list items).toText = ""
  · rw [empty]
    exact ⟨fun same => .inl same.symm, fun kept => (kept.resolve_right fun more => more.1 rfl).symm⟩
  have filled : items.map toText ≠ [] := by
    intro none
    rw [toText_list, none] at empty
    exact empty rfl
  rw [if_neg (String.isEmpty_iff.not.mpr empty)]
  -- Items without bars are what the bars of the text cut out again.
  have again (none : ∀ p ∈ items.map toText, '|' ∉ p.toList) :
      (Text.splitBars (list items).toText).map ofLiteral = items ↔ ∀ v ∈ items, ofLiteral v.toText = v := by
    rw [toText_list, Text.splitBars_join filled none, List.map_map]
    exact ⟨fun same => List.map_inj_left.mp (same.trans (List.map_id' _).symm),
      fun same => (List.map_congr_left same).trans (List.map_id' _)⟩
  constructor
  · intro same
    have none : ∀ v ∈ items, '|' ∉ v.toText.toList := by
      intro v hv
      rw [← same] at hv
      obtain ⟨q, hq, rfl⟩ := List.mem_map.mp hv
      exact not_mem_toText_ofLiteral (Text.not_mem_of_splitBars hq)
    have each := (again (List.forall_mem_map.mpr none)).mp same
    exact .inr ⟨empty, fun v hv => ⟨none v hv, each v hv⟩⟩
  · rintro (rfl | ⟨-, kept⟩)
    · exact absurd rfl filled
    · exact (again (List.forall_mem_map.mpr fun v hv => (kept v hv).1)).mpr fun v hv => (kept v hv).2

/-- A value that is not `null` is read back from its text exactly if it is kept. -/
theorem reread_eq_iff {v : Value} (filled : v.isNull = false) : v.reread = v ↔ v.Kept := by
  cases v with
  | null => cases filled
  | text t => exact iff_of_true rfl trivial
  | integer n => exact iff_of_true (Literal.integer n).convert_toText trivial
  | boolean b => exact iff_of_true (Literal.boolean b).convert_toText trivial
  | number x =>
    cases finite : x.isFinite with
    | true => exact iff_of_true (Literal.number finite).convert_toText finite
    | false =>
      rw [reread_number_of_not_finite finite]
      refine iff_of_false (fun h => (by cases h)) fun h => ?_
      cases finite.symm.trans h
  | list items => exact reread_list_eq_iff items

end Value

/-! ### Sub-tags of text -/

/-- An argument that calls a sub-tag on a variable. -/
def Argument.ofVariable (name key : String) (param : Option String) : Argument :=
  ⟨[.tag ⟨[⟨"var", some (.ofText name)⟩, ⟨key, param.map .ofText⟩], none⟩], false⟩

/-- A sub-tag of text is given a value as text. -/
theorem Registries.adapt_text {v : Value} (filled : v.isNull = false) :
    Registries.builtin.adapt "text" v.typeName v = .text v.toText := by
  cases v with
  | null => cases filled
  | _ => rfl

section
variable {types : Conversions} {w t : String} (names : types.canonicalName (Text.trim w) = some t)
include names

/-- `as` makes its value one of the type that its parameter names. -/
theorem asResult_of_canonicalName {v : Value} : asResult ⟨v, some (.text w), types⟩ = types.convert v t := by
  have parameter : SubTagCall.paramText ⟨v, some (.text w), types⟩ = w := Value.toText.eq_2 w
  rw [asResult, parameter, names, Option.getD_some]

theorem toOption_namedType : (namedType (some w) types).toOption = some t := by
  rw [namedType, names]
  rfl

end

namespace Sight
variable {s : Sight} {name : String}

theorem named_ofText : s.named (some (.ofText name)) = s.find? (Text.lower (Text.trim name)) := by
  have literal : (Argument.ofText name).literal? = some name := by
    simp [Argument.ofText, Argument.literal?, literalText]
  rw [named, Option.bind_some, literal, Option.bind_some]

variable (builtin : s.registries = .builtin)
include builtin

theorem base_variable : s.registries.bases.get? (Text.lower "var") = some TagBase.localVariable := by
  rw [builtin, show Text.lower "var" = "var" by decide]
  rfl

theorem startType_variable :
    s.startType ⟨"var", some (.ofText name)⟩ = (s.find? (Text.lower (Text.trim name))).map (·.typeName) := by
  rw [startType, base_variable builtin, named_ofText]
  cases s.find? (Text.lower (Text.trim name)) <;> rfl

/-- A sub-tag of a variable has a type only if the variable is in sight. -/
theorem exists_of_argumentType {key typeName : String} {param : Option String}
    (typed : s.argumentType (.ofVariable name key param) = some typeName) :
    ∃ x, s.find? (Text.lower (Text.trim name)) = some x := by
  rw [Argument.ofVariable, argumentType, tagType, partsType, startType_variable builtin] at typed
  obtain ⟨_, found, -⟩ := Option.bind_eq_some_iff.mp typed
  obtain ⟨x, found, -⟩ := Option.map_eq_some_iff.mp found
  exact ⟨x, found⟩

section
variable {x : Variable} (found : s.find? (Text.lower (Text.trim name)) = some x) {slots : Array Value} {vars : Vars}
  {v : Value} (held : slots[x.slot]? = some v) (type : v.typeName = x.typeName) (filled : v.isNull = false)
include found held type filled

/-- A sub-tag that belongs to text is called on the text of a variable. -/
theorem argumentValue_ofVariable {key : String} {param : Option String} {owner : TagType} {subTag : SubTag}
    (resolved : TypeRegistry.builtin.resolve? v.typeName (Text.lower key) = some (owner, subTag))
    (text : owner.name = "text") {p : Option Value}
    (given : s.paramValue Registries.builtin.adapt slots vars subTag.param (param.map .ofText) = some p)
    (known : p.any Value.isNull = false)
    {next : Value} (run : subTag.run ⟨.text v.toText, p, TypeRegistry.builtin.conversions⟩ = .ok next) {t : String}
    (returned : s.returned subTag.returns (param.map .ofText) = some t) :
    s.argumentValue Registries.builtin.adapt slots vars (.ofVariable name key param) = some next := by
  have value : s.startValue Registries.builtin.adapt slots vars ⟨"var", some (.ofText name)⟩ = some v := by
    rw [startValue, base_variable builtin, named_ofText, found]
    show some (slots[x.slot]?.getD .null) = _
    rw [held, Option.getD_some]
  have steps :
      s.stepsValue Registries.builtin.adapt slots vars v.typeName v [⟨key, param.map .ofText⟩] = some next := by
    rw [stepsValue, if_neg (by rw [filled]; exact Bool.false_ne_true), builtin]
    have resolved : Registries.builtin.types.resolve? v.typeName (Text.lower key) = some (owner, subTag) := resolved
    rw [resolved]
    simp only [Option.bind_eq_bind, Option.bind_some, text, Registries.adapt_text filled, given, known, returned]
    show (subTag.run ⟨.text v.toText, p, TypeRegistry.builtin.conversions⟩).toOption.bind _ = _
    rw [run]
    rfl
  have start : s.startType ⟨"var", some (.ofText name)⟩ = some v.typeName := by
    rw [startType_variable builtin, found, Option.map_some, type]
  rw [Argument.ofVariable, argumentValue, tagValue, partsValue, value, start]
  simp only [Option.bind_eq_bind, Option.bind_some, steps]
  split
  · rename_i null
    rw [Value.eq_null_of_isNull null]
    rfl
  · rfl

theorem argumentValue_type :
    s.argumentValue Registries.builtin.adapt slots vars (.ofVariable name "type" none) = some (.text "text") := by
  have lower : Text.lower "type" = "type" := by decide
  obtain ⟨owner, resolved, text⟩ : ∃ owner, TypeRegistry.builtin.resolve? v.typeName "type" =
      some (owner, ⟨"type", .fixed "text", .none, fun c => .ok (.text c.value.typeName)⟩) ∧ owner.name = "text" := by
    cases v with
    | null => cases filled
    | _ => exact ⟨_, rfl, rfl⟩
  exact argumentValue_ofVariable builtin found held type filled (lower.symm ▸ resolved) text rfl rfl rfl rfl

theorem argumentValue_as {w : String} (names : TypeRegistry.builtin.canonicalName? (Text.trim w) = some v.typeName) :
    s.argumentValue Registries.builtin.adapt slots vars (.ofVariable name "as" (some w)) = some v.reread := by
  have lower : Text.lower "as" = "as" := by decide
  obtain ⟨owner, resolved, text⟩ : ∃ owner, TypeRegistry.builtin.resolve? v.typeName "as" =
      some (owner, ⟨"as", .special namedType, .required "text", fun c => .ok (asResult c)⟩) ∧
      owner.name = "text" := by
    cases v with
    | null => cases filled
    | _ => exact ⟨_, rfl, rfl⟩
  have given : s.paramValue Registries.builtin.adapt slots vars (.required "text") (some (.ofText w)) =
      some (some (.text w)) := by
    rw [paramValue, Argument.ofText, argumentValue_text, builtin]
    rfl
  have same : TypeRegistry.builtin.canonicalName? = TypeRegistry.builtin.conversions.canonicalName := rfl
  rw [same] at names
  have converted : asResult ⟨.text v.toText, some (.text w), TypeRegistry.builtin.conversions⟩ = v.reread :=
    asResult_of_canonicalName names
  have returned : s.returned (.special namedType) (some (.ofText w)) = some v.typeName := by
    rw [returned, builtin]
    exact toOption_namedType names
  exact argumentValue_ofVariable builtin found held type filled (lower.symm ▸ resolved) text given rfl
    (congrArg Except.ok converted) returned

end

end Sight

/-! ### Sub-tags in compiled code -/

/-- A slot holds a value of its type. -/
structure Code.Held (code : Code) (slot : Nat) (slots : Array Value) (v : Value) : Prop where
  value : slots[slot]? = some v
  type : (code.slots[slot]?).map (·.typeName) = some v.typeName
  filled : v.isNull = false

/-- Where there is no other slot, a slot holds a value of the type of this one. -/
theorem Code.Held.of_alone {code : Code} {slot : Nat} {v : Value} {n m : String}
    (alone : code.slots = #[⟨n, v.typeName⟩]) (filled : v.isNull = false)
    (named : (code.slots[slot]?).map (·.name) = some m) : code.Held slot #[v] v := by
  obtain ⟨s, hs, -⟩ := Option.map_eq_some_iff.mp named
  rw [alone] at hs
  obtain ⟨lt, -⟩ := Array.getElem?_eq_some_iff.mp hs
  obtain rfl : slot = 0 := Nat.lt_one_iff.mp lt
  exact ⟨rfl, by rw [alone]; rfl, filled⟩

section
variable {instructions : List Instruction} {predefined : List (String × String)} {code : Code}
  (h : compile .builtin instructions predefined = .ok code) {e : Entry} (he : e ∈ code.entries.toList) {k : Nat}
  {name : String}
include h he

/-- A sub-tag of a variable is compiled to an argument that reads a slot of the name of the variable. -/
theorem compile_ofVariable {key : String} {param : Option String}
    (ha : e.instruction.args[k]? = some (.ofVariable name key param)) : ∃ (s : Sight) (x : Variable) (c : _),
      s.registries = .builtin ∧ s.find? (Text.lower (Text.trim name)) = some x ∧
      code.slots[x.slot]? = some ⟨Text.lower (Text.trim name), x.typeName⟩ ∧ e.args[k]? = some c ∧
      ∀ slots vars v, s.argumentValue Registries.builtin.adapt slots vars (.ofVariable name key param) = some v →
        c.evaluate (code.environment slots vars) = .ok v := by
  obtain ⟨index, he⟩ := List.getElem?_of_mem he
  obtain ⟨s, builtin, typed, arguments⟩ := argument_at plainNames_builtin h (Array.getElem?_toList.symm.trans he)
  obtain ⟨c, hc, type, value⟩ := arguments ha
  obtain ⟨x, found⟩ := Sight.exists_of_argumentType builtin type
  exact ⟨s, x, c, builtin, found, typed found, hc, fun slots vars v hv =>
    toOption_eq_some.mp ((value slots vars).trans hv)⟩

theorem variable_type (ha : e.instruction.args[k]? = some (.ofVariable name "type" none)) : ∃ slot c,
    (code.slots[slot]?).map (·.name) = some (Text.lower (Text.trim name)) ∧ e.args[k]? = some c ∧
      ∀ slots vars v, code.Held slot slots v → c.evaluate (code.environment slots vars) = .ok (.text "text") := by
  obtain ⟨s, x, c, builtin, found, typed, hc, value⟩ := compile_ofVariable h he ha
  refine ⟨x.slot, c, by rw [typed]; rfl, hc, fun slots vars v held => value slots vars _ ?_⟩
  have type : x.typeName = v.typeName := by simpa [typed] using held.type
  exact Sight.argumentValue_type builtin found held.value type.symm held.filled

theorem variable_as {w : String} (ha : e.instruction.args[k]? = some (.ofVariable name "as" (some w))) :
    ∃ slot c, (code.slots[slot]?).map (·.name) = some (Text.lower (Text.trim name)) ∧ e.args[k]? = some c ∧
      ∀ slots vars v, code.Held slot slots v →
        TypeRegistry.builtin.canonicalName? (Text.trim w) = some v.typeName →
          c.evaluate (code.environment slots vars) = .ok v.reread := by
  obtain ⟨s, x, c, builtin, found, typed, hc, value⟩ := compile_ofVariable h he ha
  refine ⟨x.slot, c, by rw [typed]; rfl, hc, fun slots vars v held names => value slots vars _ ?_⟩
  have type : x.typeName = v.typeName := by simpa [typed] using held.type
  exact Sight.argumentValue_as builtin found held.value type.symm held.filled names

end

/-- On a variable with a value of its type, `type` and `as` see the text of the value. To `type` this is always a text.
    With the type of the value, `as` reads the text back, and gives the value itself exactly if it is kept. A number
    that is not finite is read as `null`. -/
theorem type_and_as_of_variable {instructions : List Instruction} {predefined : List (String × String)} {code : Code}
    {e : Entry} (h : compile .builtin instructions predefined = .ok code) (he : e ∈ code.entries.toList) (k : Nat)
    (name : String) :
    (e.instruction.args[k]? = some (.ofVariable name "type" none) → ∃ slot c,
      (code.slots[slot]?).map (·.name) = some (Text.lower (Text.trim name)) ∧ e.args[k]? = some c ∧
        ∀ slots vars v, code.Held slot slots v → c.evaluate (code.environment slots vars) = .ok (.text "text")) ∧
    ∀ w, e.instruction.args[k]? = some (.ofVariable name "as" (some w)) → ∃ slot c,
      (code.slots[slot]?).map (·.name) = some (Text.lower (Text.trim name)) ∧ e.args[k]? = some c ∧
        ∀ slots vars v, code.Held slot slots v →
          TypeRegistry.builtin.canonicalName? (Text.trim w) = some v.typeName →
            c.evaluate (code.environment slots vars) = .ok v.reread ∧ (v.reread = v ↔ v.Kept) ∧
              ∀ x, v = .number x → x.isFinite = false → v.reread = .null := by
  refine ⟨variable_type h he, fun w ha => ?_⟩
  obtain ⟨slot, c, named, hc, value⟩ := variable_as h he ha
  refine ⟨slot, c, named, hc, fun slots vars v held names => ⟨value slots vars v held names, ?_, ?_⟩⟩
  · exact Value.reread_eq_iff held.filled
  · rintro x rfl infinite
    exact Value.reread_number_of_not_finite infinite

/-- Code that calls both sub-tags on a variable that is given, of the type of a value. -/
structure Code.Asks (code : Code) (e : Entry) (v : Value) : Prop where
  filled : v.isNull = false
  compiled : compile .builtin [.ofArguments [.ofVariable "x" "type" none, .ofVariable "x" "as" (some v.typeName)]]
    [("x", v.typeName)] = .ok code
  here : e ∈ code.entries.toList

theorem Code.exists_asks {v : Value} (filled : v.isNull = false)
    (compiles : (compile .builtin [.ofArguments [.ofVariable "x" "type" none, .ofVariable "x" "as" (some v.typeName)]]
      [("x", v.typeName)]).toOption.map (·.slots) = some #[⟨"x", v.typeName⟩]) :
    ∃ (code : Code) (e : Entry), code.Asks e v ∧ code.slots = #[⟨"x", v.typeName⟩] ∧
      e.instruction.args[0]? = some (.ofVariable "x" "type" none) ∧
      e.instruction.args[1]? = some (.ofVariable "x" "as" (some v.typeName)) := by
  obtain ⟨code, e, h, he, args⟩ := exists_entry_given [("x", v.typeName)]
    [.ofVariable "x" "type" none, .ofVariable "x" "as" (some v.typeName)] (by
      obtain ⟨code, hcode, -⟩ := Option.map_eq_some_iff.mp compiles
      rw [hcode]
      rfl)
  rw [h] at compiles
  exact ⟨code, e, ⟨filled, h, he⟩, Option.some.inj compiles, args ▸ rfl, args ▸ rfl⟩

theorem type_and_as_of_variable_integer : ∃ (code : Code) (e : Entry) (c c' : CompiledArgument),
    code.Asks e (.integer 5) ∧ e.args[0]? = some c ∧ e.args[1]? = some c' ∧
      c.evaluate (code.environment #[.integer 5] []) = .ok (.text "text") ∧
      c'.evaluate (code.environment #[.integer 5] []) = .ok (.integer 5) := by
  obtain ⟨code, e, asks, slots, first, second⟩ := Code.exists_asks (v := .integer 5) rfl (by decide +kernel)
  obtain ⟨slot, c, named, hc, type⟩ := (type_and_as_of_variable asks.compiled asks.here 0 "x").1 first
  obtain ⟨slot', c', named', hc', as_⟩ := (type_and_as_of_variable asks.compiled asks.here 1 "x").2 _ second
  obtain ⟨value, kept, -⟩ := as_ #[.integer 5] [] _ (.of_alone slots rfl named') (by decide)
  refine ⟨code, e, c, c', asks, hc, hc', type _ [] _ (.of_alone slots rfl named), ?_⟩
  rw [value, kept.mpr trivial]

/-- The type of a variable is not what `type` gives, and `as` may give other values. -/
theorem type_and_as_miss_value :
    (¬∀ (v : Value) (code : Code) (e : Entry) (c : CompiledArgument), code.Asks e v → e.args[0]? = some c →
      c.evaluate (code.environment #[v] []) = .ok (.text v.typeName)) ∧
    ¬∀ (v : Value) (code : Code) (e : Entry) (c : CompiledArgument), code.Asks e v → e.args[1]? = some c →
      c.evaluate (code.environment #[v] []) = .ok v := by
  constructor
  · intro all
    obtain ⟨code, e, asks, slots, first, -⟩ := Code.exists_asks (v := .integer 5) rfl (by decide +kernel)
    obtain ⟨slot, c, named, hc, type⟩ := variable_type asks.compiled asks.here first
    have value := all _ code e c asks hc
    rw [type _ [] _ (.of_alone slots rfl named)] at value
    exact absurd (Value.text.inj (Except.ok.inj value)) (by decide)
  · intro all
    obtain ⟨code, e, asks, slots, -, second⟩ :=
      Code.exists_asks (v := .list [.text "5"]) rfl (by decide +kernel)
    obtain ⟨slot, c, named, hc, as_⟩ := variable_as asks.compiled asks.here second
    have value := all _ code e c asks hc
    rw [as_ _ [] _ (.of_alone slots rfl named) (by decide)] at value
    rcases (Value.reread_eq_iff rfl).mp (Except.ok.inj value) with none | ⟨-, kept⟩
    · cases none
    · have read := (kept (.text "5") List.mem_cons_self).2
      rw [Value.toText, Value.ofLiteral_eq_integer (show Value.readInteger? "5" = some 5 by decide)] at read
      cases read

end CommandScript
