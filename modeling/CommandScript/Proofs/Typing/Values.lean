import CommandScript.Proofs.Chains.Scopes

/-! Values and types. What is made a value of a type is one, or `null`; a sub-tag gives what it says beforehand; and a
    call that has what its sub-tag asks for can be read without a default. -/

namespace CommandScript

/-! ### Values of a type -/

namespace Value

/-- Whether a value can be where a type is expected: it is `null`, or the type holds it as it is. Where the type is
    not known beforehand, any value can be. -/
def HasType (v : Value) (typeName : String) : Prop :=
  v.isNull = true ∨ typeName = "dynamic" ∨ v.typeName = typeName

theorem hasType_dynamic (v : Value) : v.HasType "dynamic" :=
  Or.inr (Or.inl rfl)

theorem hasType_typeName (v : Value) : v.HasType v.typeName :=
  Or.inr (Or.inr rfl)

@[simp] theorem null_hasType (t : String) : null.HasType t :=
  Or.inl rfl

@[simp] theorem text_hasType (s : String) : (text s).HasType "text" :=
  hasType_typeName _

@[simp] theorem integer_hasType (n : Int64) : (integer n).HasType "integer" :=
  hasType_typeName _

@[simp] theorem number_hasType (x : Float) : (number x).HasType "number" :=
  hasType_typeName _

@[simp] theorem boolean_hasType (b : Bool) : (boolean b).HasType "boolean" :=
  hasType_typeName _

@[simp] theorem list_hasType (items : List Value) : (list items).HasType "list" :=
  hasType_typeName _

theorem eq_null_of_isNull {v : Value} (h : v.isNull = true) : v = null := by
  cases v with
  | null => rfl
  | text _ | integer _ | number _ | boolean _ | list _ => cases h

/-- A text is known by its type and by how it is shown. -/
theorem eq_text {v : Value} {s : String} (type : v.typeName = "text") (shown : v.toText = s) : v = text s := by
  cases v with
  | text _ => rw [← shown, toText]
  | null | integer _ | number _ | boolean _ | list _ => simp [typeName] at type

/-- A value that is there has the very type that is expected, unless that is not known. -/
theorem HasType.typeName_eq {v : Value} {t : String} (h : v.HasType t) (present : v.isNull = false)
    (known : t ≠ "dynamic") : v.typeName = t := by
  rcases h with null | unknown | h
  · rw [null] at present
    cases present
  · exact absurd unknown known
  · exact h

end Value

/-! ### Making values of a type -/

@[simp] theorem createText_hasType (v : Value) : (createText v).HasType "text" := by
  cases v with
  | null => exact Value.null_hasType _
  | text _ | integer _ | number _ | boolean _ | list _ => exact Value.text_hasType _

@[simp] theorem createNumber_hasType (v : Value) : (createNumber v).HasType "number" := by
  rw [createNumber]
  split
  · exact Value.number_hasType _
  · exact Value.null_hasType _

@[simp] theorem createInteger_hasType (v : Value) : (createInteger v).HasType "integer" := by
  rw [createInteger]
  split
  · exact Value.integer_hasType _
  · exact Value.null_hasType _

@[simp] theorem createBoolean_hasType (v : Value) : (createBoolean v).HasType "boolean" := by
  rw [createBoolean]
  split
  · exact Value.boolean_hasType _
  · exact Value.null_hasType _

@[simp] theorem createList_hasType (v : Value) : (createList v).HasType "list" := by
  cases v with
  | null => exact Value.null_hasType _
  | text _ | integer _ | number _ | boolean _ | list _ => exact Value.list_hasType _

theorem TypeRegistry.get?_mem {r : TypeRegistry} {name : String} {t : TagType} (h : r.get? name = some t) :
    t ∈ r.types ∧ t.name = name := by
  rw [TypeRegistry.get?] at h
  have found := List.find?_some h
  exact ⟨List.mem_of_find?_eq_some h, eq_of_beq found⟩

/-- The name of a type that comes with every engine. -/
def IsBuiltinType (typeName : String) : Prop :=
  ∃ t ∈ TypeRegistry.builtin.types, t.name = typeName

section
variable {t : String}

theorem builtin_convert_hasType (h : IsBuiltinType t) (v : Value) : (TypeRegistry.builtin.convert v t).HasType t := by
  have all : ∀ t ∈ TypeRegistry.builtin.types, (TypeRegistry.builtin.convert v t.name).HasType t.name := by
    simp [TypeRegistry.builtin, TypeRegistry.convert, TypeRegistry.get?, Value.hasType_dynamic]
  obtain ⟨t, ht, rfl⟩ := h
  exact all t ht

theorem builtin_convert_null (t : String) : TypeRegistry.builtin.convert .null t = .null := by
  have all : ∀ t ∈ TypeRegistry.builtin.types, t.create .null = .null := by
    simp [TypeRegistry.builtin, createText, createNumber, createInteger, createBoolean, createList, Value.asNumber?,
      Value.asInteger?, Value.asBoolean?]
  rw [TypeRegistry.convert]
  split
  · rename_i found
    exact all _ (TypeRegistry.get?_mem found).1
  · rfl

/-- A value of a type stays as it is when it is made one of the type. -/
theorem builtin_convert_eq_self {v : Value} (h : v.HasType t) : TypeRegistry.builtin.convert v t = v := by
  have all : ∀ t ∈ TypeRegistry.builtin.types, t.name = "dynamic" ∨ v.typeName = t.name → t.create v = v := by
    cases v <;> simp [TypeRegistry.builtin, Value.typeName, createText, createNumber, createInteger, createBoolean,
      createList, Value.asNumber?, Value.asInteger?, Value.asBoolean?, Value.asList, Value.toText]
  rcases h with null | h
  · rw [Value.eq_null_of_isNull null, builtin_convert_null]
  · rw [TypeRegistry.convert]
    split
    · rename_i type found
      obtain ⟨ht, rfl⟩ := TypeRegistry.get?_mem found
      exact all type ht h
    · rfl

theorem isBuiltinType_of_canonicalName? {name : String} (h : TypeRegistry.builtin.canonicalName? name = some t) :
    IsBuiltinType t := by
  obtain ⟨type, found, rfl⟩ := Option.map_eq_some_iff.mp h
  exact ⟨type, (TypeRegistry.get?_mem found).1, rfl⟩

end

/-! ### What sub-tags give -/

theorem substring_hasType {s spec : String} {v : Value} (h : substring s spec = .ok v) : v.HasType "text" := by
  unfold substring at h
  split at h
  · obtain ⟨first, -, h⟩ := bind_eq_ok.mp h
    obtain ⟨last, -, h⟩ := bind_eq_ok.mp h
    cases h
    exact Value.text_hasType _
  · cases h

theorem matchResult_hasType {source s : String} {mode : MatchMode} {v : Value}
    (h : matchResult source mode s = .ok v) : v.HasType "boolean" := by
  unfold matchResult at h
  split at h
  · cases h
    exact Value.boolean_hasType _
  · cases h

theorem splitResult_hasType {s sep : String} {v : Value} (h : splitResult s sep = .ok v) : v.HasType "list" := by
  unfold splitResult at h
  split at h
  · cases h
  · cases h
    exact Value.list_hasType _

theorem divideResult_hasType {x : Float × Float} {v : Value} (h : divideResult x = .ok v) : v.HasType "number" := by
  rw [divideResult] at h
  split at h
  · cases h
  · rw [← Except.ok.inj h]
    exact Value.number_hasType _

theorem integerResult_hasType {n : Option Int64} {v : Value} (h : integerResult n = .ok v) : v.HasType "integer" := by
  cases n with
  | none => cases h
  | some n =>
    cases h
    exact Value.integer_hasType _

theorem moduloResult_hasType {a b : Int64} {v : Value} (h : moduloResult a b = .ok v) : v.HasType "integer" := by
  unfold moduloResult at h
  split at h
  · cases h
  split at h
  · cases h
  cases h
  exact Value.integer_hasType _

namespace SubTag

/-- A sub-tag that gives what it says: values of its type, however it is called, or what `as` gives. -/
def KeepsWord (s : SubTag) : Prop :=
  match s.returns with
  | .fixed t => ∀ c v, s.run c = .ok v → v.HasType t
  | .special resolve => resolve = namedType ∧ s.param = .required "text" ∧ ∀ c, s.run c = .ok (asResult c)

/-- A sub-tag without a parameter, or with one that is always there and of a type that tells values apart. -/
def AsksPlainly (s : SubTag) : Prop :=
  s.param = .none ∨ ∃ t, s.param = .required t ∧ IsBuiltinType t ∧ t ≠ "dynamic"

end SubTag

theorem textSubTags_keepWord : ∀ s ∈ textSubTags, s.KeepsWord := by
  simp [textSubTags, SubTag.KeepsWord]
  exact ⟨fun _ _ => substring_hasType, fun _ _ => matchResult_hasType, fun _ _ => matchResult_hasType,
    fun _ _ => matchResult_hasType, fun _ _ => matchResult_hasType, fun _ _ => splitResult_hasType⟩

theorem numberSubTags_keepWord : ∀ s ∈ numberSubTags, s.KeepsWord := by
  simp [numberSubTags, SubTag.KeepsWord]
  exact fun _ _ => divideResult_hasType

theorem integerSubTags_keepWord : ∀ s ∈ integerSubTags, s.KeepsWord := by
  simp [integerSubTags, SubTag.KeepsWord]
  exact ⟨fun _ _ => integerResult_hasType, fun _ _ => integerResult_hasType, fun _ _ => integerResult_hasType,
    fun _ _ => moduloResult_hasType⟩

theorem booleanSubTags_keepWord : ∀ s ∈ booleanSubTags, s.KeepsWord := by
  simp [booleanSubTags, SubTag.KeepsWord]

theorem listSubTags_keepWord : ∀ s ∈ listSubTags, s.KeepsWord := by
  simp [listSubTags, SubTag.KeepsWord, Value.hasType_dynamic]

theorem builtin_keepWord : ∀ t ∈ TypeRegistry.builtin.types, ∀ s ∈ t.subTags, s.KeepsWord := by
  simp only [TypeRegistry.builtin, List.forall_mem_cons]
  exact ⟨textSubTags_keepWord, numberSubTags_keepWord, integerSubTags_keepWord, booleanSubTags_keepWord,
    listSubTags_keepWord, by simp⟩

theorem builtin_askPlainly : ∀ t ∈ TypeRegistry.builtin.types, ∀ s ∈ t.subTags, s.AsksPlainly := by
  simp [TypeRegistry.builtin, textSubTags, numberSubTags, integerSubTags, booleanSubTags, listSubTags,
    SubTag.AsksPlainly, IsBuiltinType]

/-- The types of values that are not known beforehand have no sub-tags of their own. -/
theorem builtin_name_ne_dynamic {t : TagType} (ht : t ∈ TypeRegistry.builtin.types) {s : SubTag}
    (hs : s ∈ t.subTags) :
    t.name ≠ "dynamic" := by
  have all : ∀ t ∈ TypeRegistry.builtin.types, t.name = "dynamic" → t.subTags = [] := by
    simp [TypeRegistry.builtin]
  intro h
  rw [all t ht h] at hs
  exact List.not_mem_nil hs

/-! ### What bases give -/

/-- A base that gives what it says. -/
def TagBase.KeepsWord (b : TagBase) : Prop :=
  match b.returns with
  | .fixed t => ∀ param cx v, cx.types = TypeRegistry.builtin.conversions → b.evaluate param cx = .ok v → v.HasType t
  | .special _ => False

theorem converting_keepsWord {name t : String} (h : IsBuiltinType t) : (TagBase.converting name t).KeepsWord := by
  intro param cx v types hv
  cases hv
  rw [types]
  exact builtin_convert_hasType h _

theorem builtin_bases_keepWord : ∀ b ∈ BaseRegistry.builtin.bases, b.KeepsWord := by
  have builtin : IsBuiltinType "text" ∧ IsBuiltinType "number" ∧ IsBuiltinType "integer" ∧ IsBuiltinType "boolean" ∧
      IsBuiltinType "list" := by
    simp [IsBuiltinType, TypeRegistry.builtin]
  obtain ⟨text, number, integer, boolean, list⟩ := builtin
  simp only [BaseRegistry.builtin, List.forall_mem_cons]
  refine ⟨converting_keepsWord text, converting_keepsWord number, converting_keepsWord integer,
    converting_keepsWord boolean, converting_keepsWord list, ?_, ?_, ?_, by simp⟩
  · intro param cx v _ hv
    cases hv
    exact Value.null_hasType _
  · exact fun _ _ v _ _ => Value.hasType_dynamic v
  · exact fun _ _ v _ _ => Value.hasType_dynamic v

/-! ### Calls -/

namespace SubTagCall

/-- A call that has what its sub-tag asks for: a value of the very type that has the sub-tag, and, where there is to be
    a parameter, one of the very type that it is to be of. -/
structure Fits (c : SubTagCall) (owner : String) (rule : ParamRule) : Prop where
  present : c.value.isNull = false
  value : c.value.typeName = owner
  noParam : rule = .none → c.param = none
  param : ∀ {t : String}, rule.typeName? = some t → ∃ p, c.param = some p ∧ p.isNull = false ∧ p.typeName = t

/-- A call that can be read without a default, by what the types ask of their values and their parameters. -/
structure NoDefaults (c : SubTagCall) (owner : String) (rule : ParamRule) : Prop where
  number : owner = "number" → c.value.asNumber?.isSome = true
  integer : owner = "integer" → c.value.asInteger?.isSome = true
  boolean : owner = "boolean" → c.value.asBoolean?.isSome = true
  param : rule ≠ .none → c.param.isSome = true
  paramNumber : rule.typeName? = some "number" → (c.param.bind Value.asNumber?).isSome = true
  paramInteger : rule.typeName? = some "integer" → (c.param.bind Value.asInteger?).isSome = true
  paramBoolean : rule.typeName? = some "boolean" → (c.param.bind Value.asBoolean?).isSome = true

end SubTagCall

namespace Value
variable {v : Value}

theorem asNumber?_isSome (h : v.typeName = "number") : v.asNumber?.isSome = true := by
  cases v with
  | number _ => rfl
  | null | text _ | integer _ | boolean _ | list _ => simp [typeName] at h

theorem asInteger?_isSome (h : v.typeName = "integer") : v.asInteger?.isSome = true := by
  cases v with
  | integer _ => rfl
  | null | text _ | number _ | boolean _ | list _ => simp [typeName] at h

theorem asBoolean?_isSome (h : v.typeName = "boolean") : v.asBoolean?.isSome = true := by
  cases v with
  | boolean _ => rfl
  | null | text _ | integer _ | number _ | list _ => simp [typeName] at h

end Value

/-- A call that fits needs no default. -/
theorem SubTagCall.Fits.noDefaults {c : SubTagCall} {owner : String} {rule : ParamRule} (h : c.Fits owner rule) :
    c.NoDefaults owner rule where
  number ho := Value.asNumber?_isSome (h.value.trans ho)
  integer ho := Value.asInteger?_isSome (h.value.trans ho)
  boolean ho := Value.asBoolean?_isSome (h.value.trans ho)
  param hr := by
    cases hrule : rule with
    | none => exact absurd hrule hr
    | optional t | required t =>
      obtain ⟨p, hp, -⟩ := h.param (t := t) (by rw [hrule]; rfl)
      rw [hp]
      rfl
  paramNumber hr := by
    obtain ⟨p, hp, -, ht⟩ := h.param hr
    rw [hp]
    exact Value.asNumber?_isSome ht
  paramInteger hr := by
    obtain ⟨p, hp, -, ht⟩ := h.param hr
    rw [hp]
    exact Value.asInteger?_isSome ht
  paramBoolean hr := by
    obtain ⟨p, hp, -, ht⟩ := h.param hr
    rw [hp]
    exact Value.asBoolean?_isSome ht

theorem namedType_eq_ok {types : Conversions} {w t : String} (h : namedType (some w) types = .ok t) :
    types.canonicalName (Text.trim w) = some t := by
  rw [namedType] at h
  split at h
  · rename_i found
    cases h
    exact found
  · cases h

/-- What `as` gives has the type that the text of its parameter names. -/
theorem asResult_hasType {types : Conversions} {w t : String} {c : SubTagCall}
    (typed : ∀ {v : Value} {name : String}, types.canonicalName name = some t → (types.convert v t).HasType t)
    (hc : c.types = types) (param : c.param = some (.text w)) (h : namedType (some w) types = .ok t) :
    (asResult c).HasType t := by
  have canonical := namedType_eq_ok h
  have text : c.paramText = w := by
    rw [SubTagCall.paramText, param]
    exact Value.toText.eq_2 w
  rw [asResult, hc, text, canonical]
  exact typed canonical

end CommandScript
