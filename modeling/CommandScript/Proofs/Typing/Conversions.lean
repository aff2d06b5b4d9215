import CommandScript.Proofs.Chains.Operations
import CommandScript.Proofs.Typing.Initial
import CommandScript.Proofs.Typing.Soundness

/-! Where conversions may be left out. The compiler converts the running value of a chain for a sub-tag only if the type
    that has the sub-tag is not the static type already. In slots that hold values of their types, this gives what
    converting for each sub-tag gives. -/

namespace CommandScript

namespace Sight

/-- Slots that hold values of the types of the variables in sight, or `null`. -/
def Typed (s : Sight) (slots : Array Value) : Prop :=
  ∀ {name : String} {x : Variable}, s.find? name = some x → (slots[x.slot]?.getD .null).HasType x.typeName

section
variable {s : Sight} {adapt : Adaptation} {slots : Array Value} {vars : Vars}

theorem argumentValue_sole {a : Argument} {w : String} (h : a.sole? = some w) :
    s.argumentValue adapt slots vars a = some (.text w) := by
  obtain ⟨segments, quoted⟩ := a
  rw [Argument.sole?.eq_def] at h
  split at h
  · rename_i found
    cases h
    cases found
    exact s.argumentValue_text adapt slots vars w quoted
  · cases h

variable (builtin : s.registries = .builtin)
include builtin

/-- The first key of a tag gives a value of its static type. -/
theorem startValue_hasType (typed : s.Typed slots) {first : Part} {t : String} {v : Value}
    (ht : s.startType first = some t) (hv : s.startValue adapt slots vars first = some v) : v.HasType t := by
  obtain ⟨key, param⟩ := first
  rw [startType] at ht
  rw [startValue] at hv
  obtain ⟨base, hb, ht⟩ := Option.bind_eq_some_iff.mp ht
  obtain ⟨base', hb', hv⟩ := Option.bind_eq_some_iff.mp hv
  cases hb.symm.trans hb'
  split at ht
  · rename_i slot
    rw [if_pos slot] at hv
    obtain ⟨x, hx, ht⟩ := Option.bind_eq_some_iff.mp ht
    obtain ⟨y, hy, hv⟩ := Option.bind_eq_some_iff.mp hv
    cases hx.symm.trans hy
    cases ht
    cases hv
    obtain ⟨name, -, found⟩ := Option.bind_eq_some_iff.mp hx
    exact typed found
  · rename_i slot
    rw [if_neg slot] at hv
    obtain ⟨p, -, hv⟩ := Option.bind_eq_some_iff.mp hv
    rw [builtin] at hb
    have word := builtin_bases_keepWord base (List.mem_of_find?_eq_some hb)
    rw [TagBase.KeepsWord] at word
    cases hret : base.returns with
    | fixed t' =>
      rw [hret] at word ht
      cases ht
      exact word p _ v (by rw [builtin]; rfl) (toOption_eq_some.mp hv)
    | special _ =>
      rw [hret] at word
      exact word.elim

/-- A sub-tag gives a value of the type that it returns. -/
theorem run_hasType {current key t : String} {owner : TagType} {subTag : SubTag} {param : Option Argument}
    {p : Option Value} {v next : Value}
    (resolved : s.registries.types.resolve? current key = some (owner, subTag))
    (given : s.paramValue adapt slots vars subTag.param param = some p)
    (returned : s.returned subTag.returns param = some t)
    (run : subTag.run ⟨v, p, s.registries.types.conversions⟩ = .ok next) : next.HasType t := by
  rw [builtin] at resolved
  obtain ⟨ho, hs, -⟩ := resolve?_name resolved
  have word := builtin_keepWord owner ho subTag hs
  rw [SubTag.KeepsWord] at word
  cases hret : subTag.returns with
  | fixed t' =>
    rw [hret] at word returned
    cases returned
    exact word _ _ run
  | special resolve =>
    rw [hret] at word returned
    obtain ⟨rfl, rule, runs⟩ := word
    rw [runs] at run
    cases run
    have named := toOption_eq_some.mp returned
    cases hsole : param.bind Argument.sole? with
    | none =>
      rw [hsole] at named
      cases named
    | some w =>
      obtain ⟨a, rfl, sole⟩ := Option.bind_eq_some_iff.mp hsole
      rw [hsole] at named
      rw [paramValue, argumentValue_sole sole, rule] at given
      cases given
      have typed : ∀ {v : Value} {name : String}, s.registries.types.conversions.canonicalName name = some t →
          (s.registries.types.conversions.convert v t).HasType t := fun {v _} canonical => by
        rw [builtin] at canonical ⊢
        exact builtin_convert_hasType (isBuiltinType_of_canonicalName? canonical) v
      have param : some (s.registries.prepare (.required "text") (.text w)) = some (Value.text w) := by
        rw [builtin]
        rfl
      exact asResult_hasType typed rfl param named

/-- A value of its static type is the same with the conversion left out as with it. -/
theorem adapt_eq_convert {owner current : String} {v : Value} (hv : v.HasType current) :
    s.registries.adapt owner current v = s.registries.convert owner current v := by
  rw [Registries.adapt, Registries.convert, builtin]
  split
  · rename_i same
    exact (builtin_convert_eq_self (same ▸ hv)).symm
  · rfl

end

section
variable {s : Sight} {slots : Array Value} (vars : Vars)

mutual

theorem argumentValue_convert (builtin : s.registries = .builtin) (typed : s.Typed slots) : ∀ a : Argument,
    s.argumentValue s.registries.adapt slots vars a = s.argumentValue s.registries.convert slots vars a
  | ⟨[], _⟩ => by
    simp [argumentValue, segmentsText]
  | ⟨[.tag t], _⟩ => by
    rw [argumentValue, argumentValue, tagValue_convert builtin typed t]
  | ⟨[.text _], _⟩ => by
    rw [argumentValue_text, argumentValue_text]
  | ⟨a :: b :: rest, _⟩ => by
    have text := segmentsText_convert builtin typed (a :: b :: rest)
    have several : ∀ t, a :: b :: rest = [.tag t] → False := by simp
    rw [argumentValue.eq_2 _ _ _ _ _ _ several, argumentValue.eq_2 _ _ _ _ _ _ several, text]

theorem segmentsText_convert (builtin : s.registries = .builtin) (typed : s.Typed slots) : ∀ segments : List Segment,
    s.segmentsText s.registries.adapt slots vars segments = s.segmentsText s.registries.convert slots vars segments
  | [] => by
    rw [segmentsText, segmentsText]
  | .text _ :: rest => by
    rw [segmentsText, segmentsText, segmentsText_convert builtin typed rest]
  | .tag t :: rest => by
    rw [segmentsText, segmentsText, tagValue_convert builtin typed t, segmentsText_convert builtin typed rest]

theorem tagValue_convert (builtin : s.registries = .builtin) (typed : s.Typed slots) : ∀ t : Tag,
    s.tagValue s.registries.adapt slots vars t = s.tagValue s.registries.convert slots vars t
  | ⟨parts, fallback⟩ => by
    rw [tagValue, tagValue, partsValue_convert builtin typed parts, fallbackValue_convert builtin typed fallback]

theorem fallbackValue_convert (builtin : s.registries = .builtin) (typed : s.Typed slots) : ∀ a : Option Argument,
    s.fallbackValue s.registries.adapt slots vars a = s.fallbackValue s.registries.convert slots vars a
  | none => by
    rw [fallbackValue, fallbackValue]
  | some a => by
    rw [fallbackValue, fallbackValue, argumentValue_convert builtin typed a]

theorem partsValue_convert (builtin : s.registries = .builtin) (typed : s.Typed slots) : ∀ parts : List Part,
    s.partsValue s.registries.adapt slots vars parts = s.partsValue s.registries.convert slots vars parts
  | [] => by
    rw [partsValue, partsValue]
  | first :: rest => by
    rw [partsValue, partsValue, startValue_convert builtin typed first]
    refine Option.bind_congr fun v hv => Option.bind_congr fun t ht => ?_
    exact stepsValue_convert builtin typed rest (startValue_hasType builtin typed ht hv)

theorem startValue_convert (builtin : s.registries = .builtin) (typed : s.Typed slots) : ∀ first : Part,
    s.startValue s.registries.adapt slots vars first = s.startValue s.registries.convert slots vars first
  | ⟨key, param⟩ => by
    rw [startValue, startValue]
    refine Option.bind_congr fun base _ => ?_
    rw [paramValue_convert builtin typed base.param param]

theorem stepsValue_convert (builtin : s.registries = .builtin) (typed : s.Typed slots) : ∀ (steps : List Part)
    {current : String} {v : Value}, v.HasType current →
      s.stepsValue s.registries.adapt slots vars current v steps =
        s.stepsValue s.registries.convert slots vars current v steps
  | [], _, _, _ => by
    rw [stepsValue, stepsValue]
  | ⟨key, param⟩ :: rest, current, v, hv => by
    rw [stepsValue, stepsValue]
    split
    · rfl
    refine Option.bind_congr fun (owner, subTag) resolved => ?_
    dsimp only
    rw [adapt_eq_convert builtin hv, paramValue_convert builtin typed subTag.param param]
    split
    · rfl
    refine Option.bind_congr fun p given => ?_
    split
    · rfl
    refine Option.bind_congr fun next run => Option.bind_congr fun t returned => ?_
    exact stepsValue_convert builtin typed rest
      (run_hasType builtin resolved given returned (toOption_eq_some.mp run))

theorem paramValue_convert (builtin : s.registries = .builtin) (typed : s.Typed slots) (rule : ParamRule) :
    ∀ param : Option Argument,
      s.paramValue s.registries.adapt slots vars rule param = s.paramValue s.registries.convert slots vars rule param
  | none => by
    rw [paramValue, paramValue]
  | some a => by
    rw [paramValue, paramValue, argumentValue_convert builtin typed a]

end

end

end Sight

/-! ### Compiled code -/

/-- What the views along a list of instructions see has its type in the slots that the compiler ends with. -/
theorem Follows.along_typed {r : Registries} (plain : r.PlainNames) {instructions : List Instruction} {v : View}
    {c c' : Compilation} (h : Follows r v c) (hfold : instructions.foldlM (fun c i => c.add r i) c = .ok c')
    {v' : View} (mem : v' ∈ v.along r c.entries.size instructions) {name : String} {x : Variable}
    (found : v'.find? name = some x) : ∃ slot, c'.slots[x.slot]? = some slot ∧ slot.typeName = x.typeName := by
  induction instructions generalizing v c with
  | nil => cases mem
  | cons i rest ih =>
    have all := hfold
    rw [List.foldlM_cons] at hfold
    obtain ⟨c₁, hadd, hfold⟩ := bind_eq_ok.mp hfold
    rcases List.mem_cons.mp mem with rfl | mem
    · obtain ⟨slot, hs, ht⟩ := ((h.view.leave c.entries.size).finds r i.line).typed found
      exact ⟨slot, slots_of_foldlM all hs, ht⟩
    · obtain ⟨follows, -, e, he, -, -⟩ := h.add plain hadd
      refine ih follows hfold ?_
      rw [he, Array.size_push]
      exact mem

theorem sourceValues_convert {instructions : List Instruction} {predefined : List (String × String)} {code : Code}
    (h : compile .builtin instructions predefined = .ok code) {slots : Array Value}
    (typed : SlotsTyped code.slots slots) (vars : Vars) :
    sourceValues .builtin Registries.builtin.adapt predefined instructions slots vars =
      sourceValues .builtin Registries.builtin.convert predefined instructions slots vars := by
  obtain ⟨c, hfold, h⟩ := bind_eq_ok.mp h
  cases h
  have sight : ∀ v ∈ (View.start predefined).along .builtin 0 instructions, (v.sight .builtin).Typed slots := by
    intro v hv name x found
    have empty : (Compilation.start predefined).entries.size = 0 := congrArg Array.size (start_empty predefined).1
    obtain ⟨slot, hs, ht⟩ := (follows_start predefined).along_typed plainNames_builtin hfold (empty ▸ hv) found
    exact ht ▸ typed x.slot slot hs
  have values (v : View) (hv : (v.sight .builtin).Typed slots) (i : Instruction) :
      i.values (v.sight .builtin) Registries.builtin.adapt slots vars =
        i.values (v.sight .builtin) Registries.builtin.convert slots vars := by
    have same (a : Argument) := Sight.argumentValue_convert vars (s := v.sight .builtin) rfl hv a
    exact congrArg₂ Prod.mk (List.map_congr_left fun a _ => same a)
      (List.map_congr_left fun a _ => congrArg (Prod.mk a.1) (same a.2))
  rw [sourceValues, sourceValues, ← List.map_uncurry_zip_eq_zipWith, ← List.map_uncurry_zip_eq_zipWith]
  exact List.map_congr_left fun r h => values r.1 (sight r.1 (List.of_mem_zip h).1) r.2

/-- Every argument of compiled code evaluates, through the chains that the code shares, to the value that it has when
    its tags are read from the source, where the running value is converted for each sub-tag of another type than its
    static type. In slots that hold values of their types, or `null`, this is the value that it has when the running
    value is converted for every sub-tag. -/
theorem compile_values {instructions : List Instruction} {predefined : List (String × String)} {code : Code}
    (h : compile .builtin instructions predefined = .ok code) (slots : Array Value) (vars : Vars) :
    code.entries.toList.map (·.values (code.environment slots vars)) =
        sourceValues .builtin Registries.builtin.adapt predefined instructions slots vars ∧
      (SlotsTyped code.slots slots →
        code.entries.toList.map (·.values (code.environment slots vars)) =
          sourceValues .builtin Registries.builtin.convert predefined instructions slots vars) :=
  ⟨entries_values h slots vars, fun typed => (entries_values h slots vars).trans (sourceValues_convert h typed vars)⟩

/-- A tag that is written twice, and once more where its variable is another. -/
def sharedTag : String :=
  "define x 5; echo <\x7bvar[x].append[1]\x7d>=<\x7bVAR[x].Append[1]\x7d>; " ++
    "if true \x7b define x b; echo <\x7bvar[x].append[1]||a\x7d>; \x7d"

theorem compile_values_sharedTag : ∃ row code, parseScript CommandRegistry.builtin sharedTag = .ok row ∧
    compile .builtin row [] = .ok code ∧ code.chains.size = 2 ∧ SlotsTyped code.slots #[.integer 5, .text "b"] ∧
    code.entries.toList.map (·.values (code.environment #[.integer 5, .text "b"] [])) =
      sourceValues .builtin Registries.builtin.convert [] row #[.integer 5, .text "b"] [] := by
  have found : (tableOfSource? sharedTag).any (fun (_, code, _) =>
      code.chains.size = 2 && code.slots.toList = [⟨"x", "integer"⟩, ⟨"x", "text"⟩]) = true := by
    decide +kernel
  obtain ⟨row, code, table, hp, hc, -, found⟩ := of_tableOfSource? found
  simp only [Bool.and_eq_true, decide_eq_true_eq] at found
  obtain ⟨size, slots⟩ := found
  have typed : SlotsTyped code.slots #[.integer 5, .text "b"] := by
    intro i s hs
    rw [← Array.getElem?_toList, slots] at hs
    match i with
    | 0 =>
      cases hs
      exact Value.integer_hasType 5
    | 1 =>
      cases hs
      exact Value.text_hasType "b"
    | i + 2 => cases hs
  exact ⟨row, code, hp, hc, size, typed, (compile_values hc _ _).2 typed⟩

/-- A sub-tag of a variable whose slot, of the type `integer`, holds a text. -/
def untypedTag : String :=
  "noop <\x7bvar[count].add[1]\x7d>"

/-- Whether a value is a certain whole number. -/
def Value.isInteger (n : Int64) : Value → Bool
  | .integer m => m == n
  | _ => false

/-- The value of the only argument, where there is one instruction with one argument. -/
def soleValue? : List (List (Option Value) × List (String × Option Value)) → Option Value
  | [([value], [])] => value
  | _ => none

theorem eq_of_soleValue? {values : List (List (Option Value) × List (String × Option Value))} {v : Value}
    (h : soleValue? values = some v) : values = [([some v], [])] := by
  unfold soleValue? at h
  split at h
  · rw [h]
  · cases h

/-- In a slot with a value of another type than its own, a conversion that is left out shows: the text is read as a
    number only by the sub-tag, which takes it for 0. -/
theorem compile_values_untypedSlot : ∃ row code, parseScript CommandRegistry.builtin untypedTag = .ok row ∧
    compile .builtin row [("count", "integer")] = .ok code ∧
    code.entries.toList.map (·.values (code.environment #[.text "abc"] [])) = [([some (.integer 1)], [])] ∧
    sourceValues .builtin Registries.builtin.convert [("count", "integer")] row #[.text "abc"] [] =
      [([some .null], [])] := by
  have found : (parseScript CommandRegistry.builtin untypedTag).toOption.any (fun row =>
      (soleValue? (sourceValues .builtin Registries.builtin.convert [("count", "integer")] row #[.text "abc"] [])).any
          (·.isNull) &&
        (compile .builtin row [("count", "integer")]).toOption.any fun code =>
          (soleValue? (code.entries.toList.map (·.values (code.environment #[.text "abc"] [])))).any
            (·.isInteger 1)) = true := by
    decide +kernel
  obtain ⟨row, hrow, found⟩ := (Option.any_eq_true _ _).mp found
  obtain ⟨source, found⟩ := Bool.and_eq_true_iff.mp found
  obtain ⟨code, hcode, compiled⟩ := (Option.any_eq_true _ _).mp found
  obtain ⟨v, hv, one⟩ := (Option.any_eq_true _ _).mp compiled
  obtain ⟨v', hv', null⟩ := (Option.any_eq_true _ _).mp source
  have same : v = .integer 1 := by
    cases v with
    | integer n => exact congrArg Value.integer (beq_iff_eq.mp one)
    | _ => cases one
  have same' : v' = .null := by
    cases v' with
    | null => rfl
    | _ => cases null
  subst same same'
  exact ⟨row, code, toOption_eq_some.mp hrow, toOption_eq_some.mp hcode, eq_of_soleValue? hv, eq_of_soleValue? hv'⟩

end CommandScript
