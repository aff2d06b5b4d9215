import CommandScript.Proofs.Chains.Quotation
import CommandScript.Proofs.Machine.Reachable
import CommandScript.Proofs.Machine.Setting
import CommandScript.Proofs.Names.Given
import CommandScript.Proofs.Numbers.Numerals
import CommandScript.Proofs.Text.Blank

/-! What literals are displayed as. A literal that writes a whole number, a number or a truth value is displayed in the
    standard spelling of this value, and any other as it is. From the standard spelling the value is read back. -/

namespace CommandScript

/-! ### Bars -/

namespace Text

/-- Pieces without bars are found again between the bars that join them. -/
theorem splitBars_join {pieces : List String} (filled : pieces ≠ []) (none : ∀ p ∈ pieces, '|' ∉ p.toList) :
    splitBars (join "|" pieces) = pieces := by
  rw [splitBars, splitChar_join rfl filled none, List.map_map]
  simp

theorem join_cons_append (c : Char) (cs : List Char) (rest : List String) :
    (join "|" (String.ofList (c :: cs) :: rest)).toList = c :: (join "|" (String.ofList cs :: rest)).toList := by
  cases rest <;> simp [join]

/-- The pieces between the bars of a text join to this text. -/
theorem join_splitBars (s : String) : join "|" (splitBars s) = s := by
  have all (cs : List Char) : (join "|" ((splitChar '|' cs).map String.ofList)).toList = cs := by
    induction cs with
    | nil => rfl
    | cons c rest ih =>
      by_cases bar : c = '|'
      · subst bar
        obtain ⟨piece, more, h⟩ := List.exists_cons_of_ne_nil (splitChar_ne_nil '|' rest)
        rw [splitChar_cons_sep, h, List.map_cons, List.map_cons, join]
        rw [h, List.map_cons] at ih
        simp [ih]
      · obtain ⟨piece, more, hrest, hall⟩ := splitChar_cons_ne bar rest
        rw [hall, List.map_cons, join_cons_append, ← List.map_cons, ← hrest, ih]
  exact String.toList_inj.mp (all s.toList)

theorem not_mem_of_splitBars {s p : String} (h : p ∈ splitBars s) : '|' ∉ p.toList := by
  obtain ⟨piece, hp, rfl⟩ := List.mem_map.mp h
  rw [String.toList_ofList]
  exact not_mem_of_splitChar hp

end Text

/-! ### The standard spelling -/

namespace Value

/-- The standard spelling of the value of a literal. Whole numbers and numbers are written as numerals: with a minus
    sign or none, without an exponent, and with nothing superfluous. Of the decimals that are read as a number it is the
    shortest. Truth values are written in small letters. -/
def Spelled : Value → String → Prop
  | integer n, s => ∃ m : Decimal.Numeral, m.Neat ∧ (m.negative = true ↔ n.toInt < 0) ∧ m.value = n.toInt.natAbs ∧
      s.toList = m.chars
  | number x, s => ∃ m : Decimal.Numeral, m.Neat ∧ m.negative = Decimal.signed x ∧ Decimal.ShownAs x m.value ∧
      s.toList = m.chars
  | boolean b, s => s = if b then "true" else "false"
  | text t, s => s = t
  | _, _ => False

/-- A value that a literal can have. -/
inductive Literal : Value → Prop
  | integer (n : Int64) : Literal (.integer n)
  | number {x : Float} (finite : x.isFinite = true) : Literal (.number x)
  | boolean (b : Bool) : Literal (.boolean b)
  | text (t : String) : Literal (.text t)

theorem literal_ofLiteral (t : String) : (ofLiteral t).Literal := by
  unfold ofLiteral
  split
  · exact .integer _
  · split
    · rename_i x hx
      exact .number (Option.filter_eq_some_iff.mp hx).2
    · split
      · exact .boolean _
      · exact .text t

/-- The type of a literal makes its value of the text. -/
theorem convert_ofLiteral (t : String) :
    TypeRegistry.builtin.convert (.text t) (ofLiteral t).typeName = ofLiteral t := by
  unfold ofLiteral
  split
  · rename_i n hn
    have made (w : Value) : TypeRegistry.builtin.convert w "integer" = createInteger w := rfl
    rw [typeName, made, createInteger, asInteger?, trim_of_readInteger? hn, hn]
  · split
    · rename_i x hx
      have made (w : Value) : TypeRegistry.builtin.convert w "number" = createNumber w := rfl
      rw [typeName, made, createNumber, asNumber?, trim_of_readNumber? hx, hx]
    · split
      · rename_i b hb
        have made (w : Value) : TypeRegistry.builtin.convert w "boolean" = createBoolean w := rfl
        rw [typeName, made, createBoolean, asBoolean?, trim_of_readBoolean? hb, hb]
      · rfl

theorem exists_numeral_integerText (n : Int64) : ∃ m : Decimal.Numeral, m.Neat ∧
    (m.negative = true ↔ n.toInt < 0) ∧ m.value = n.toInt.natAbs ∧ (integerText n).toList = m.chars := by
  refine ⟨⟨decide (n.toInt < 0), Decimal.digitsOf n.toInt.natAbs, []⟩, Decimal.Numeral.neat_digitsOf _ _,
    decide_eq_true_iff, ?_, ?_⟩
  · rw [Decimal.Numeral.value, Decimal.Numeral.scaled, Decimal.Scaled.value, List.append_nil,
      Decimal.digitsValue_digitsOf]
    simp
  · rw [toList_integerText, Decimal.Numeral.chars, Decimal.Numeral.unsigned, if_pos rfl, List.append_nil]
    simp only [decide_eq_true_eq]

namespace Literal
variable {v : Value} (h : v.Literal)
include h

/-- The value of a literal is displayed in its standard spelling, and there is no other. -/
theorem spelled_iff {s : String} : v.Spelled s ↔ v.toText = s := by
  cases h with
  | integer n =>
    obtain ⟨m, neat, sign, value, chars⟩ := exists_numeral_integerText n
    constructor
    · rintro ⟨m', neat', sign', value', chars'⟩
      obtain rfl := neat.ext neat' (Bool.eq_iff_iff.mpr (sign.trans sign'.symm)) (value.trans value'.symm)
      exact String.toList_inj.mp (chars.trans chars'.symm)
    · rintro rfl
      exact ⟨m, neat, sign, value, chars⟩
  | @number x finite =>
    obtain ⟨m, neat, sign, shown, chars⟩ := Decimal.exists_numeral finite
    constructor
    · rintro ⟨m', neat', sign', shown', chars'⟩
      obtain rfl := neat.ext neat' (sign.trans sign'.symm) (shown.unique shown')
      exact String.toList_inj.mp (chars.trans chars'.symm)
    · rintro rfl
      exact ⟨m, neat, sign, shown, chars⟩
  | boolean b => exact eq_comm
  | text t => exact eq_comm

/-- The value of a literal is read back from the text that it is displayed as. -/
theorem convert_toText : TypeRegistry.builtin.convert (.text v.toText) v.typeName = v := by
  cases h with
  | integer n =>
    have made (w : Value) : TypeRegistry.builtin.convert w "integer" = createInteger w := rfl
    rw [typeName, toText, made, createInteger, asInteger?, trim_integerText, readInteger?_integerText]
  | @number x finite =>
    have made (w : Value) : TypeRegistry.builtin.convert w "number" = createNumber w := rfl
    have read : readNumber? (Decimal.floatText x) = some x := by
      rw [readNumber?, Decimal.readFloat?_floatText finite, Option.filter_some_pos finite]
    rw [typeName, toText, made, createNumber, asNumber?, trim_of_readNumber? read, read]
  | boolean b =>
    have made (w : Value) : TypeRegistry.builtin.convert w "boolean" = createBoolean w := rfl
    have read : readBoolean? (Text.trim (booleanText b)) = some b := by
      revert b
      decide
    rw [typeName, toText, made, createBoolean, asBoolean?, read]
  | text t => rfl

/-- Only texts have bars in them. -/
theorem not_mem_toText (none : ∀ t, v = .text t → '|' ∉ t.toList) : '|' ∉ v.toText.toList := by
  have numeral {m : Decimal.Numeral} {s : String} (neat : m.Neat) (chars : s.toList = m.chars) : '|' ∉ s.toList := by
    intro bar
    rw [chars] at bar
    rcases neat.chars_cases _ bar with digit | other | other
    · cases digit
    · cases other
    · cases other
  cases h with
  | integer n =>
    obtain ⟨m, neat, -, -, chars⟩ := exists_numeral_integerText n
    exact numeral neat chars
  | number finite =>
    obtain ⟨m, neat, -, -, chars⟩ := Decimal.exists_numeral finite
    exact numeral neat chars
  | boolean b => cases b <;> decide
  | text t => exact none t rfl

end Literal

/-! ### Lists -/

theorem toText_list (items : List Value) : (list items).toText = Text.join "|" (items.map toText) := by
  show itemsText items = _
  induction items with
  | nil => rfl
  | cons v rest ih =>
    cases rest with
    | nil => rfl
    | cons w more =>
      rw [itemsText, ih]
      rfl

theorem ofLiteral_eq_integer {t : String} {n : Int64} (h : readInteger? t = some n) : ofLiteral t = integer n := by
  rw [ofLiteral, h]

theorem ofLiteral_eq_text {t s : String} (h : ofLiteral t = text s) : s = t := by
  unfold ofLiteral at h
  split at h
  · cases h
  · split at h
    · cases h
    · split at h
      · cases h
      · cases h
        rfl

theorem not_mem_toText_ofLiteral {t : String} (none : '|' ∉ t.toList) : '|' ∉ (ofLiteral t).toText.toList :=
  (literal_ofLiteral t).not_mem_toText fun _ hs => ofLiteral_eq_text hs ▸ none

/-- The list of a text is displayed as the text with each piece in its standard spelling. -/
theorem toText_asList (t : String) : (list (asList (.text t))).toText =
    Text.join "|" ((Text.splitBars t).map fun p => (ofLiteral p).toText) := by
  have cut : asList (.text t) = if t.isEmpty then [] else (Text.splitBars t).map ofLiteral := rfl
  rw [cut]
  split
  · rename_i empty
    rw [String.isEmpty_iff.mp empty]
    decide
  · rw [toText_list, List.map_map]
    rfl

theorem toText_asList_iff (t : String) :
    (list (asList (.text t))).toText = t ↔ ∀ p ∈ Text.splitBars t, (ofLiteral p).toText = p := by
  have whole := Text.join_splitBars t
  rw [toText_asList]
  constructor
  · intro same
    have none : ∀ p ∈ (Text.splitBars t).map fun p => (ofLiteral p).toText, '|' ∉ p.toList := by
      intro q hq
      obtain ⟨p, hp, rfl⟩ := List.mem_map.mp hq
      exact not_mem_toText_ofLiteral (Text.not_mem_of_splitBars hp)
    have filled : (Text.splitBars t).map (fun p => (ofLiteral p).toText) ≠ [] := by
      simp [Text.splitBars, Text.splitChar_ne_nil]
    have again := Text.splitBars_join filled none
    rw [same] at again
    exact List.map_inj_left.mp (again.symm.trans (List.map_id' _).symm)
  · intro same
    rw [List.map_congr_left same, List.map_id', whole]

end Value

/-! ### Literals in scripts -/

/-- An argument that makes a list of a text. -/
def Argument.listOf (text : String) : Argument :=
  ⟨[.tag ⟨[⟨"list", some (.ofText text)⟩], none⟩], false⟩

theorem Sight.argumentValue_listOf {s : Sight} (builtin : s.registries = .builtin) (adapt : Adaptation)
    (slots : Array Value) (vars : Vars) (text : String) :
    s.argumentValue adapt slots vars (.listOf text) = some (.list (Value.asList (.text text))) := by
  have base : s.registries.bases.get? (Text.lower "list") = some (.converting "list" "list") := by
    rw [builtin, show Text.lower "list" = "list" by decide]
    rfl
  have first : s.argumentValue adapt slots vars (.ofText text) = some (.text text) :=
    s.argumentValue_text adapt slots vars text false
  have made : TypeRegistry.builtin.convert (.text text) "list" = .list (Value.asList (.text text)) := rfl
  have value : s.startValue adapt slots vars ⟨"list", some (.ofText text)⟩ =
      some (.list (Value.asList (.text text))) := by
    rw [startValue, base]
    simp only [Option.bind_eq_bind, Option.bind_some, paramValue, first, builtin]
    exact congrArg some made
  have type : s.startType ⟨"list", some (.ofText text)⟩ = some "list" := by
    rw [startType, base]
    rfl
  rw [Argument.listOf, argumentValue, tagValue, partsValue, value, type]
  rfl

theorem Argument.eq_of_sole? {a : Argument} {t : String} (h : a.sole? = some t) : a = ⟨[.text t], a.quoted⟩ := by
  unfold sole? at h
  split at h
  · cases h
    rfl
  · cases h

/-- A variable that is defined from a literal gets a slot of the type that the literal has. -/
theorem Script.FromSource.defines_literal {s : Script} (h : s.FromSource) {index : Nat} {e : Entry}
    (he : s.code.entries[index]? = some e) (name : e.instruction.name = "define") {t : String}
    (written : e.instruction.args[1]?.bind Argument.sole? = some t) : ∃ slot n c, e.declares = some slot ∧
      s.code.slots[slot]? = some ⟨n, (Value.ofLiteral t).typeName⟩ ∧ e.args[1]? = some c ∧
        ∀ run, c.evaluateWith run = .ok (.text t) := by
  obtain ⟨a, ha, sole⟩ := Option.bind_eq_some_iff.mp written
  rw [Argument.eq_of_sole? sole] at ha
  obtain ⟨_, variable_, -⟩ := h.named he 0 (by rw [name]; decide)
  obtain ⟨slot, -, declares, -⟩ := h.defined he name variable_
  obtain ⟨r, row, predefined, commands, compiled⟩ := h.compiled
  obtain ⟨c, args, t₁, named, t₂, d, c₂, -, -, hargs, -, hd, hentry, hrest, hcode⟩ := entry_compiled_at compiled he
  have own : e.args = args := by rw [hentry]; rfl
  obtain ⟨c', table, table', hc', literal⟩ := compiled_of_mapM hargs ha
  obtain rfl : c' = ⟨[.text t], (Value.ofLiteral t).typeName⟩ := by
    cases literal
    rfl
  have slots : e.declares = d.map fun _ => (c.leave index).slots.size := by
    rw [hentry]
    exact Compilation.declared_slot _ _ _ _
  rw [declares] at slots
  obtain ⟨d, rfl, rfl⟩ := Option.map_eq_some_iff.mp slots.symm
  have type : d.typeName = (Value.ofLiteral t).typeName := by
    rw [commands] at hd
    rcases declaration_cases hd with ⟨-, type⟩ | ⟨other, -⟩ | ⟨other, -⟩
    · rw [type, List.getElem?_map, hc']
      rfl
    · exact absurd (name.symm.trans other) (by decide)
    · exact absurd (name.symm.trans other) (by decide)
  refine ⟨_, Text.lower d.name, _, declares, ?_, own ▸ hc', fun run => rfl⟩
  rw [hcode]
  refine slots_of_foldlM hrest ?_
  show ((c.leave index).declared e.instruction t₂ (some d)).2.slots[_]? = _
  rw [Compilation.declared_slots, ← type]
  exact Array.getElem?_push_size

/-- A variable that is defined from a literal gets the value of the literal. -/
theorem Machine.StandsAt.defines_literal {m : Machine} {f : Frame} {below : List Frame} {entry : Entry}
    (reachable : m.Reachable) (at_ : m.StandsAt f below entry) (name : entry.instruction.name = "define")
    {t : String} (written : entry.instruction.args[1]?.bind Argument.sole? = some t)
    (types : m.engine.registries.types = .builtin) (whole : m.engine.outbox.Whole) :
    ∃ slot e, entry.declares = some slot ∧ slot < f.slots.size ∧
      m.awake.perform f below entry = (.ok .proceed, e, f.next.setSlot slot (.ofLiteral t)) := by
  have sound := reachable.sound.running.sound f (by simp [at_.frames])
  have source : f.script.FromSource := sound.script
  obtain ⟨slot, n, c, declares, typed, hc, value⟩ := source.defines_literal at_.here name written
  have argument : Scene.argument ⟨m.awake.engine, f.next⟩ entry 1 = .ok (.text t) := by
    rw [Scene.argument, hc]
    exact value _
  obtain ⟨r, s, hon, performed⟩ := perform_of_name m.awake below at_.here source.ordered name (a := .define) rfl
  obtain ⟨e, define⟩ := Act.on_define
    ⟨entry, f.pc, below.length + 1, m.awake.running.delayable, m.awake.running.ownOutput⟩ declares argument whole
  have converted : m.awake.engine.registries.types.convert (.text t)
      ((f.next.script.code.slots[slot]?).getD ⟨"", "text"⟩).typeName = .ofLiteral t := by
    show m.engine.registries.types.convert _ ((f.script.code.slots[slot]?).getD _).typeName = _
    rw [types, typed, Option.getD_some, Value.convert_ofLiteral]
  refine ⟨slot, e, declares, ?_, ?_⟩
  · rw [sound.slots]
    exact (Array.getElem?_eq_some_iff.mp typed).1
  · cases define.symm.trans hon
    rw [performed]
    dsimp only
    rw [converted]
    rfl

/-- The value of a literal is displayed in its standard spelling, which is the text of the literal only if that is so
    spelled, and it is read back. The list of a text is displayed as the text with each piece in its standard spelling.
    Such are the items of a list that a tag makes and the value of a variable that is defined from a literal. -/
theorem literal_displayed (t : String) :
    (∀ s, (Value.ofLiteral t).toText = s ↔ (Value.ofLiteral t).Spelled s) ∧
    (∀ s ∈ [t, (Value.ofLiteral t).toText],
      TypeRegistry.builtin.convert (.text s) (Value.ofLiteral t).typeName = .ofLiteral t) ∧
    (Value.list (Value.asList (.text t))).toText =
      Text.join "|" ((Text.splitBars t).map fun p => (Value.ofLiteral p).toText) ∧
    ((Value.list (Value.asList (.text t))).toText = t ↔ ∀ p ∈ Text.splitBars t, (Value.ofLiteral p).Spelled p) ∧
    (∀ (instructions : List Instruction) (predefined : List (String × String)) (code : Code) (e : Entry) (k : Nat),
      compile .builtin instructions predefined = .ok code → e ∈ code.entries.toList →
        e.instruction.args[k]? = some (.listOf t) → ∃ c, e.args[k]? = some c ∧ ∀ slots vars,
          c.evaluate (code.environment slots vars) = .ok (.list (Value.asList (.text t)))) ∧
    ∀ (m : Machine) (f : Frame) (below : List Frame) (entry : Entry),
      m.Reachable → m.StandsAt f below entry → entry.instruction.name = "define" →
        entry.instruction.args[1]?.bind Argument.sole? = some t → m.engine.registries.types = .builtin →
        m.engine.outbox.Whole → ∃ slot e, entry.declares = some slot ∧ slot < f.slots.size ∧
          m.awake.perform f below entry = (.ok .proceed, e, f.next.setSlot slot (.ofLiteral t)) := by
  have literal (p : String) := Value.literal_ofLiteral p
  refine ⟨fun s => (literal t).spelled_iff.symm, ?_, Value.toText_asList t, ?_, ?_, ?_⟩
  · rintro s (- | ⟨_, - | ⟨_, ⟨⟩⟩⟩)
    · exact Value.convert_ofLiteral t
    · exact (literal t).convert_toText
  · rw [Value.toText_asList_iff]
    exact forall_congr' fun p => forall_congr' fun _ => (literal p).spelled_iff.symm
  · intro instructions predefined code e k h he ha
    obtain ⟨index, he⟩ := List.getElem?_of_mem he
    obtain ⟨s, registries, -, arguments⟩ := argument_at plainNames_builtin h (Array.getElem?_toList.symm.trans he)
    obtain ⟨c, hc, -, value⟩ := arguments ha
    exact ⟨c, hc, fun slots vars =>
      toOption_eq_some.mp ((value slots vars).trans (Sight.argumentValue_listOf registries _ slots vars t))⟩
  · intro m f below entry reachable at_ name written types whole
    exact at_.defines_literal reachable name written types whole

theorem literal_displayed_zeros :
    (∃ code e c, compile .builtin [.ofArguments [.listOf "05|-0"]] [] = .ok code ∧ e ∈ code.entries.toList ∧
      e.args[0]? = some c ∧ c.evaluate (code.environment #[] []) = .ok (.list [.integer 5, .integer 0])) ∧
    ∃ (m : Machine) (f : Frame) (below : List Frame) (entry : Entry) (slot : Nat) (e : Engine), m.Reachable ∧
      m.StandsAt f below entry ∧ entry.declares = some slot ∧ slot < f.slots.size ∧
      m.awake.perform f below entry = (.ok .proceed, e, f.next.setSlot slot (.integer 5)) := by
  constructor
  · obtain ⟨code, e, h, he, args⟩ := exists_entry_ofArguments [.listOf "05|-0"] (by decide +kernel)
    obtain ⟨-, -, -, -, list, -⟩ := literal_displayed "05|-0"
    obtain ⟨c, hc, value⟩ := list [_] [] code e 0 h he (args ▸ rfl)
    have items : Value.asList (.text "05|-0") = [.integer 5, .integer 0] := by
      show (Text.splitBars "05|-0").map Value.ofLiteral = _
      rw [show Text.splitBars "05|-0" = ["05", "-0"] by decide, List.map_cons, List.map_singleton,
        Value.ofLiteral_eq_integer (show Value.readInteger? "05" = some 5 by decide),
        Value.ofLiteral_eq_integer (show Value.readInteger? "-0" = some 0 by decide)]
    exact ⟨code, e, c, h, he, hc, items ▸ value #[] []⟩
  · have found : (Machine.afterSource? "define x 05" 0).any (fun m =>
        m.standsWhere fun _ e => e.instruction.name = "define" &&
          e.instruction.args[1]?.bind Argument.sole? = some "05") = true := by
      decide +kernel
    obtain ⟨m, hm, stands⟩ := (Option.any_eq_true _ _).mp found
    obtain ⟨f, below, entry, at_, here⟩ := Machine.exists_of_standsWhere stands
    rw [Bool.and_eq_true, decide_eq_true_iff, decide_eq_true_iff] at here
    have types : m.engine.registries.types = .builtin := by
      obtain ⟨s, -, hm⟩ := Option.bind_eq_some_iff.mp hm
      cases hm
      rfl
    obtain ⟨reachable, whole⟩ := Machine.of_afterSource hm
    obtain ⟨-, -, -, -, -, define⟩ := literal_displayed "05"
    obtain ⟨slot, e, declares, lt, performed⟩ :=
      define m f below entry reachable at_ here.1 here.2 types whole
    have five := Value.ofLiteral_eq_integer (show Value.readInteger? "05" = some 5 by decide)
    exact ⟨m, f, below, entry, slot, e, reachable, at_, declares, lt, five ▸ performed⟩

/-- A literal is not always displayed as it is written. -/
theorem literal_loses_leading_zero : ¬∀ t : String, (Value.ofLiteral t).toText = t ∧
    (Value.list (Value.asList (.text t))).toText = t := fun all => absurd (all "05").1 (by decide)

end CommandScript
