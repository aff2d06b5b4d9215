import CommandScript.Proofs.Numbers.Arithmetic
import CommandScript.Proofs.Numbers.Floats

/-! Comparing whole numbers. They are compared as numbers, so both are rounded to 53 bits first: numbers that are
    rounded to the same one are neither greater nor less, and all others are in their order. -/

namespace CommandScript

/-- The comparisons of numbers. -/
inductive Comparison where
  | greater
  | less

namespace Comparison

/-- The sub-tag of numbers for a comparison. -/
def key : Comparison → String
  | greater => "is_greater_than"
  | less => "is_less_than"

/-- Whether a comparison is true of two whole numbers. -/
def Holds : Comparison → Int → Int → Prop
  | greater, a, b => b < a
  | less, a, b => a < b

instance : (o : Comparison) → (a b : Int) → Decidable (o.Holds a b)
  | greater, a, b => inferInstanceAs (Decidable (b < a))
  | less, a, b => inferInstanceAs (Decidable (a < b))

/-- Rounding makes no comparison true. -/
theorem Holds.of_round {o : Comparison} {a b : Int} (h : o.Holds (Decimal.roundWhole a) (Decimal.roundWhole b)) :
    o.Holds a b := by
  cases o with
  | greater => exact Int.not_le.mp fun le => Int.not_le.mpr h (Decimal.roundWhole_le_roundWhole le)
  | less => exact Int.not_le.mp fun le => Int.not_le.mpr h (Decimal.roundWhole_le_roundWhole le)

end Comparison

theorem log2_natAbs_toInt (n : Int64) : n.toInt.natAbs.log2 < 64 := by
  have low := Int64.le_toInt n
  have high := Int64.toInt_lt n
  rcases Nat.eq_zero_or_pos n.toInt.natAbs with zero | positive
  · rw [zero]
    decide
  · exact (Nat.log2_lt positive.ne').mpr (by omega)

/-- A text that writes a whole number is read as the float nearest to it. -/
theorem convert_integerText_number (n : Int64) :
    TypeRegistry.builtin.convert (.text (Value.integerText n)) "number" = .number (Decimal.wholeFloat n.toInt) := by
  have made (v : Value) : TypeRegistry.builtin.convert v "number" = createNumber v := rfl
  rw [made, createNumber, Value.asNumber?, Value.trim_integerText, Value.readNumber?, Value.readFloat?_integerText,
    Option.filter_some_pos (Decimal.isFinite_wholeFloat (log2_natAbs_toInt n))]

/-- What a sub-tag of numbers makes of the floats nearest to two whole numbers. -/
theorem resolve_comparison (o : Comparison) :
    ∃ owner run, Text.lower o.key = o.key ∧ TypeRegistry.builtin.resolve? "integer" o.key =
      some (owner, ⟨o.key, .fixed "boolean", .required "number", run⟩) ∧ owner.name = "number" ∧
      ∀ (a b : Int64) (types : Conversions),
        run ⟨.number (Decimal.wholeFloat a.toInt), some (.number (Decimal.wholeFloat b.toInt)), types⟩ =
          .ok (.boolean (o.Holds (Decimal.roundWhole a.toInt) (Decimal.roundWhole b.toInt))) := by
  cases o with
  | greater =>
    refine ⟨_, _, by decide, rfl, rfl, fun a b _ => ?_⟩
    have order := Decimal.wholeFloat_lt_iff (log2_natAbs_toInt b) (log2_natAbs_toInt a)
    exact congrArg (Except.ok ∘ Value.boolean) (decide_eq_decide.mpr order)
  | less =>
    refine ⟨_, _, by decide, rfl, rfl, fun a b _ => ?_⟩
    have order := Decimal.wholeFloat_lt_iff (log2_natAbs_toInt a) (log2_natAbs_toInt b)
    exact congrArg (Except.ok ∘ Value.boolean) (decide_eq_decide.mpr order)

section
variable {instructions : List Instruction} {predefined : List (String × String)} {code : Code} {e : Entry} {k : Nat}
  {o : Comparison} {a b : Int64}

theorem comparison_value (h : compile .builtin instructions predefined = .ok code) (he : e ∈ code.entries.toList)
    (ha : e.instruction.args[k]? = some (.operation "integer" (Value.integerText a) o.key (Value.integerText b))) :
    ∃ c, e.args[k]? = some c ∧ ∀ slots vars, c.evaluate (code.environment slots vars) =
      .ok (.boolean (o.Holds (Decimal.roundWhole a.toInt) (Decimal.roundWhole b.toInt))) := by
  obtain ⟨owner, run, lower, resolved, named, outcome⟩ := resolve_comparison o
  obtain ⟨c, body, hc, value⟩ := compile_operation h he base_integer (lower.symm ▸ resolved) ha
  refine ⟨c, hc, fun slots vars => ?_⟩
  have integer : (Value.text (Value.integerText a)).asInteger? = some a := by
    rw [Value.asInteger?, Value.trim_integerText, Value.readInteger?_integerText]
  have adapted : Registries.builtin.adapt "number" "integer" (.integer a) =
      .number (Decimal.wholeFloat a.toInt) := rfl
  have prepared : Registries.builtin.prepare (.required "number") (.text (Value.integerText b)) =
      .number (Decimal.wholeFloat b.toInt) := convert_integerText_number b
  rw [value, named, convert_integer integer, adapted, prepared]
  show faultIn body (run _) = _
  rw [outcome]
  rfl

/-- Whole numbers are compared as they are rounded to 53 bits. So no comparison is true that is not, and numbers of 53
    bits are compared as they are. -/
theorem integer_comparison_rounded (h : compile .builtin instructions predefined = .ok code)
    (he : e ∈ code.entries.toList)
    (ha : e.instruction.args[k]? = some (.operation "integer" (Value.integerText a) o.key (Value.integerText b))) :
    ∃ c t, e.args[k]? = some c ∧
      (∀ slots vars, c.evaluate (code.environment slots vars) = .ok (.boolean t)) ∧
      (t = true ↔ o.Holds (Decimal.roundWhole a.toInt) (Decimal.roundWhole b.toInt)) ∧
      (t = true → o.Holds a.toInt b.toInt) ∧
      (Decimal.Short a.toInt.natAbs → Decimal.Short b.toInt.natAbs → (t = true ↔ o.Holds a.toInt b.toInt)) := by
  obtain ⟨c, hc, value⟩ := comparison_value h he ha
  refine ⟨c, _, hc, value, decide_eq_true_iff, fun holds => ?_, fun ha hb => ?_⟩
  · exact Comparison.Holds.of_round (decide_eq_true_iff.mp holds)
  · rw [decide_eq_true_iff, ha.roundWhole, hb.roundWhole]

end

theorem integer_comparison_rounded_greater : ∃ code e c,
    compile .builtin [.ofArguments [.operation "integer" (Value.integerText 9007199254740994) "is_greater_than"
      (Value.integerText 9007199254740992)]] [] = .ok code ∧ e ∈ code.entries.toList ∧ e.args[0]? = some c ∧
      c.evaluate (code.environment #[] []) = .ok (.boolean true) := by
  obtain ⟨code, e, h, he, args⟩ := exists_entry_ofArguments [.operation "integer"
    (Value.integerText 9007199254740994) "is_greater_than" (Value.integerText 9007199254740992)] (by decide +kernel)
  obtain ⟨c, t, hc, value, rounded, -⟩ := integer_comparison_rounded (k := 0) (o := .greater) (a := 9007199254740994)
    (b := 9007199254740992) h he (args ▸ rfl)
  refine ⟨code, e, c, h, he, hc, ?_⟩
  rw [value, rounded.mpr (by decide)]

/-- A number is not greater than another one that it is rounded to. -/
theorem greater_misses_next_number : ¬∀ (a b : Int64) (code : Code) (e : Entry) (c : CompiledArgument),
    compile .builtin [.ofArguments [.operation "integer" (Value.integerText a) "is_greater_than"
      (Value.integerText b)]] [] = .ok code → e ∈ code.entries.toList → e.args[0]? = some c →
        (c.evaluate (code.environment #[] []) = .ok (.boolean true) ↔ b.toInt < a.toInt) := by
  intro all
  obtain ⟨code, e, h, he, args⟩ := exists_entry_ofArguments [.operation "integer"
    (Value.integerText 9007199254740993) "is_greater_than" (Value.integerText 9007199254740992)] (by decide +kernel)
  obtain ⟨c, hc, value⟩ := comparison_value (k := 0) (o := .greater) (a := 9007199254740993) (b := 9007199254740992)
    h he (args ▸ rfl)
  have same : decide (Comparison.greater.Holds (Decimal.roundWhole (9007199254740993 : Int64).toInt)
      (Decimal.roundWhole (9007199254740992 : Int64).toInt)) = false := by decide
  have found := (all 9007199254740993 9007199254740992 code e c h he hc).mpr (by decide)
  rw [value, same] at found
  cases found

end CommandScript
