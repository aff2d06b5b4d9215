import CommandScript.Proofs.Typing.Soundness

/-! The values of chains with their fallbacks. A value has the static type of its chain, unless it is the plain text
    that the fallback comes down to: such a text is counted as the whole number, number or truth value that it writes,
    but its value is text. -/

namespace CommandScript

/-- What an argument comes down to if no chain in it has a value of its own: its plain text, or that of the fallback of
    its single chain. -/
inductive CompiledArgument.FallsTo (chains : Array Chain) : CompiledArgument → String → Prop
  | text {a : CompiledArgument} {w : String} : a.parts = [.text w] → FallsTo chains a w
  | chain {a b : CompiledArgument} {i : Nat} {c : Chain} {w : String} : a.parts = [.chain i] → chains[i]? = some c →
      c.fallback = some b → FallsTo chains b w → FallsTo chains a w

/-- The text of an argument that is counted as something else. -/
def CompiledArgument.Miscounts (chains : Array Chain) (a : CompiledArgument) (typeName : String) (v : Value) : Prop :=
  ∃ w, a.FallsTo chains w ∧ v = .text w ∧ (Value.ofLiteral w).typeName = typeName ∧ typeName ≠ "text"

/-- The value of a chain, which has the static type unless its fallback is counted as something else. -/
def TableEntry.Admits (chains : Array Chain) (e : TableEntry) (v : Value) : Prop :=
  v.HasType e.typeName ∨ ∃ a ∈ e.chain.fallback, a.Miscounts chains e.typeName v

section
variable {table : ChainTable} {env : Environment} {i : Nat} {v : Value}

/-- The value of an argument, by those of the chains that it names. -/
theorem argument_admits {a : CompiledArgument} (typeName : a.typeName = partsType table a.parts)
    (below : Below table.size a.parts)
    (chain : ∀ (j : Nat) (e : TableEntry) (v : Value), .chain j ∈ a.parts → table[j]? = some e → env.value j = .ok v →
      e.Admits env.chains v)
    (holds : env.Holds .builtin table) (hv : a.evaluateWith env.value = .ok v) :
    v.HasType a.typeName ∨ a.Miscounts env.chains a.typeName v := by
  obtain ⟨parts, t⟩ := a
  dsimp only at typeName below chain
  subst typeName
  have joined (parts : List CompiledPart) (h : (do return .text (← joinParts env.value parts) :
      Except Failure Value) = .ok v) : v.HasType "text" := by
    obtain ⟨s, -, h⟩ := bind_eq_ok.mp h
    cases h
    exact Value.text_hasType s
  match parts with
  | [.chain j] =>
    have lt : j < table.size := below j (List.mem_singleton.mpr rfl)
    have he : table[j]? = some table[j] := Array.getElem?_eq_getElem lt
    have type : partsType table [.chain j] = table[j].typeName := by rw [partsType, he]; rfl
    rw [type]
    refine (chain j _ v (List.mem_singleton.mpr rfl) he hv).imp id ?_
    rintro ⟨b, hb, w, falls, rfl, hw⟩
    exact ⟨w, .chain rfl (holds.chain he) hb falls, rfl, hw⟩
  | [.text w] =>
    cases hv
    by_cases text : (Value.ofLiteral w).typeName = "text"
    · left
      show (Value.text w).HasType (Value.ofLiteral w).typeName
      rw [text]
      exact Value.text_hasType w
    · exact Or.inr ⟨w, .text rfl, rfl, rfl, text⟩
  | [] => exact Or.inl (joined _ hv)
  | .text _ :: _ :: _ => exact Or.inl (joined _ hv)
  | .chain _ :: _ :: _ => exact Or.inl (joined _ hv)

/-- The value of a chain, by those of the chains before it. -/
theorem TableEntry.Typed.admits {declared : Array Slot} {e : TableEntry} {first last : String}
    (h : e.Typed declared table i first last) (he : table[i]? = some e) (slots : SlotsTyped declared env.slots)
    (holds : env.Holds .builtin table)
    (before : ∀ (j : Nat) (e : TableEntry) (v : Value), j < i → table[j]? = some e → env.value j = .ok v →
      e.Admits env.chains v)
    (hv : env.value i = .ok v) : e.Admits env.chains v := by
  have le : i ≤ table.size := Nat.le_of_lt (Array.getElem?_eq_some_iff.mp he).1
  rw [Environment.value_eq holds.ordered (holds.chain he)] at hv
  obtain ⟨start, hstart, hv⟩ := bind_eq_ok.mp hv
  obtain ⟨value, hvalue, hv⟩ := bind_eq_ok.mp hv
  have typed : value.HasType last := h.steps.value_hasType holds.types (h.startValue holds.types slots hstart) hvalue
  rw [TableEntry.Admits, h.typeName]
  cases hf : e.chain.fallback with
  | none =>
    rw [hf] at hv
    cases hv
    exact Or.inl typed
  | some a =>
    rw [hf] at hv
    obtain ⟨type, below⟩ := h.fallback a hf
    rw [Registries.typeOf]
    dsimp only at hv ⊢
    split
    · rename_i same
      rw [← same] at typed ⊢
      split at hv
      · refine (argument_admits type (below.mono le) (fun j e v mem => before j e v (below j mem)) holds hv).imp
          id fun miscounts => ⟨a, rfl, miscounts⟩
      · cases hv
        exact Or.inl typed
    · exact Or.inl (Value.hasType_dynamic v)

theorem admits_of_sound {declared : Array Slot} (sound : Sound .builtin declared table) (met : table.ParamsMet)
    (slots : SlotsTyped declared env.slots) (holds : env.Holds .builtin table) {e : TableEntry}
    (he : table[i]? = some e) (hv : env.value i = .ok v) : e.Admits env.chains v := by
  induction i using Nat.strongRecOn generalizing e v with
  | ind i ih =>
    obtain ⟨first, last, typed⟩ := typed_of_sound sound met he
    exact typed.admits he slots holds (fun j e v lt he hv => ih j lt he hv) hv

end

/-- Where a chain of compiled code has a value, in slots with values of their types, the value has the static type of
    the chain, or it is the plain text of a fallback that is counted as something else. -/
theorem compile_value_hasType {instructions : List Instruction} {predefined : List (String × String)} {code : Code}
    (h : compile .builtin instructions predefined = .ok code) : ∃ table,
    chainTable .builtin instructions predefined = .ok table ∧ code.chains = table.map (·.chain) ∧
      ∀ slots vars, SlotsTyped code.slots slots → ∀ (i : Nat) (e : TableEntry) (v : Value), table[i]? = some e →
        Environment.value ⟨slots, vars, Registries.builtin.types.conversions, code.chains⟩ i = .ok v →
          e.Admits code.chains v := by
  obtain ⟨table, htable, hchains, sound, met⟩ := table_of_compile h
  refine ⟨table, htable, hchains, fun slots vars typed i e v he hv => ?_⟩
  rw [hchains] at hv ⊢
  exact admits_of_sound sound met typed (holds_of_sound sound slots vars) he hv

/-- A variable with a whole number for its fallback, which is itself the fallback of a dynamic variable. -/
def nestedFallback : String :=
  "define n 5; echo <\x7bdvar[a].as[integer]||<\x7bvar[n].add[1]||7\x7d>\x7d>"

theorem compile_value_hasType_nestedFallback : ∃ row code table, parseScript CommandRegistry.builtin nestedFallback =
      .ok row ∧ compile .builtin row [] = .ok code ∧ chainTable .builtin row [] = .ok table ∧
    table.toList.map (·.typeName) = ["integer", "integer"] ∧
      ∀ slots vars, SlotsTyped code.slots slots → ∀ (i : Nat) (e : TableEntry) (v : Value), table[i]? = some e →
        Environment.value ⟨slots, vars, Registries.builtin.types.conversions, code.chains⟩ i = .ok v →
          e.Admits code.chains v := by
  have types : (tableOfSource? nestedFallback).any (fun (_, _, table) =>
      table.toList.map (·.typeName) = ["integer", "integer"]) = true := by
    decide +kernel
  obtain ⟨row, code, table, hp, hc, ht, types⟩ := of_tableOfSource? types
  obtain ⟨table', ht', -, admits⟩ := compile_value_hasType hc
  cases ht.symm.trans ht'
  exact ⟨row, code, table, hp, hc, ht, of_decide_eq_true types, admits⟩

/-- A text that is not a whole number, with a fallback that writes one. -/
def integerFallback : String :=
  "echo <\x7binteger[x]||5\x7d>"

/-- The fallback is counted as a whole number, and so is the chain, but its value is text. -/
theorem chain_value_not_hasType : ∃ row code table e, parseScript CommandRegistry.builtin integerFallback = .ok row ∧
    compile .builtin row [] = .ok code ∧ chainTable .builtin row [] = .ok table ∧
      code.chains = table.map (·.chain) ∧ SlotsTyped code.slots #[] ∧ table[0]? = some e ∧
        Environment.value ⟨#[], [], Registries.builtin.types.conversions, code.chains⟩ 0 = .ok (.text "5") ∧
          ¬ (Value.text "5").HasType e.typeName := by
  have found : (tableOfSource? integerFallback).any (fun (_, code, table) =>
      decide (code.slots.size = 0 ∧ table[0]?.map (·.typeName) = some "integer") &&
        (Environment.value ⟨#[], [], Registries.builtin.types.conversions, code.chains⟩ 0).toOption.any fun v =>
          v.typeName = "text" ∧ v.toText = "5") = true := by
    decide +kernel
  obtain ⟨row, code, table, hp, hc, ht, found⟩ := of_tableOfSource? found
  obtain ⟨facts, value⟩ := Bool.and_eq_true_iff.mp found
  obtain ⟨noSlots, entry⟩ := of_decide_eq_true facts
  obtain ⟨v, result, text⟩ := (Option.any_eq_true _ _).mp value
  obtain ⟨type, shown⟩ := of_decide_eq_true text
  cases Value.eq_text type shown
  obtain ⟨e, he, static⟩ := Option.map_eq_some_iff.mp entry
  obtain ⟨table', ht', hchains, -, -⟩ := table_of_compile hc
  cases ht.symm.trans ht'
  refine ⟨row, code, table, e, hp, hc, ht, hchains, fun i s hs => ?_, he, toOption_eq_some.mp result, ?_⟩
  · have lt := (Array.getElem?_eq_some_iff.mp hs).1
    omega
  · rw [static]
    rintro (null | unknown | same)
    · cases null
    · simp at unknown
    · simp [Value.typeName] at same

end CommandScript
