import CommandScript.Proofs.Chains.Operations
import CommandScript.Proofs.Machine.Reachable
import CommandScript.Proofs.Machine.Setting
import CommandScript.Proofs.Numbers.Digits

/-! Arithmetic on whole numbers of 64 bits. Sub-tags and `set` give the exact result where there is one and it fits, and
    an error of the script where not. One case stands out: the remainder of the least number by minus one is zero, but
    it breaks off. -/

namespace CommandScript

/-! ### What fits -/

theorem fit64?_eq_some {n : Int} {m : Int64} : fit64? n = some m ↔ n = m.toInt := by
  rw [fit64?]
  constructor
  · intro h
    split at h
    · rename_i fits
      cases h
      exact (Int64.toInt_ofInt_of_le fits.1 (Int.lt_of_le_sub_one fits.2)).symm
    · cases h
  · rintro rfl
    rw [if_pos ⟨Int64.minValue_le_toInt m, Int64.toInt_le m⟩, Int64.ofInt_toInt]

theorem fit64?_eq_none {n : Int} : fit64? n = none ↔ ∀ m : Int64, n ≠ m.toInt := by
  rw [Option.eq_none_iff_forall_ne_some]
  exact forall_congr' fun m => not_congr fit64?_eq_some

/-! ### Exact results -/

/-- The operations on whole numbers. -/
inductive WholeOperation where
  | add
  | subtract
  | multiply
  | modulo
  | divide

namespace WholeOperation

/-- The exact result of an operation, where it is defined. A remainder is not negative, and a quotient is cut toward
    zero. -/
def exactResult? : WholeOperation → Int → Int → Option Int
  | add, a, b => some (a + b)
  | subtract, a, b => some (a - b)
  | multiply, a, b => some (a * b)
  | modulo, a, b => if b = 0 then none else some (a % b)
  | divide, a, b => if b = 0 then none else some (a.tdiv b)

/-- The sub-tag of whole numbers for an operation. -/
def key? : WholeOperation → Option String
  | add => some "add"
  | subtract => some "subtract"
  | multiply => some "multiply"
  | modulo => some "modulo"
  | divide => none

/-- The remainder that is not computed, since the quotient does not fit. -/
def Overflows (op : WholeOperation) (a b : Int64) : Prop :=
  op = modulo ∧ a = Int64.minValue ∧ b = -1

end WholeOperation

/-- The operation that a mode of `set` asks for. -/
def SetMode.operation? : SetMode → Option WholeOperation
  | assign => none
  | add => some .add
  | subtract => some .subtract
  | multiply => some .multiply
  | divide => some .divide

/-- What gives the exact result if there is one and it fits, and fails if not. -/
structure Clean (exact : Option Int) (gives : Int64 → Prop) (fails : Prop) : Prop where
  result : ∀ n : Int64, exact = some n.toInt → gives n
  fault : (∀ n : Int64, exact ≠ some n.toInt) → fails

theorem Clean.imp {exact : Option Int} {gives gives' : Int64 → Prop} {fails fails' : Prop}
    (h : Clean exact gives fails) (hgives : ∀ n, gives n → gives' n) (hfails : fails → fails') :
    Clean exact gives' fails' :=
  ⟨fun n hn => hgives n (h.result n hn), fun none => hfails (h.fault none)⟩

theorem Clean.of_fit (n : Int) : Clean (some n) (fun m => fit64? n = some m) (fit64? n = none) :=
  ⟨fun _ h => fit64?_eq_some.mpr (Option.some.inj h),
    fun none => fit64?_eq_none.mpr fun m h => none m (congrArg some h)⟩

theorem Clean.of_undefined {gives : Int64 → Prop} {fails : Prop} (h : fails) : Clean none gives fails :=
  ⟨fun _ h => (by cases h), fun _ => h⟩

/-- The value of a tag that is a whole number, or an error of the script. -/
abbrev Clean.Value (exact : Option Int) (outcome : Except Failure Value) : Prop :=
  Clean exact (fun n => outcome = .ok (.integer n)) (∃ f, outcome = .error (.error (.runtime f)))

/-! ### Sub-tags -/

theorem clean_result (n : Int) (body : String) :
    Clean.Value (some n) (faultIn body (integerResult (fit64? n))) := by
  refine (Clean.of_fit n).imp (fun m h => ?_) fun h => ?_
  · rw [h]
    rfl
  · rw [h]
    exact ⟨_, rfl⟩

theorem clean_modulo {a b : Int64} (fits : ¬(a = Int64.minValue ∧ b = -1)) (body : String) :
    Clean.Value (WholeOperation.modulo.exactResult? a.toInt b.toInt) (faultIn body (moduloResult a b)) := by
  rw [WholeOperation.exactResult?, moduloResult]
  by_cases zero : b = 0
  · subst zero
    exact Clean.of_undefined ⟨_, rfl⟩
  have nonzero : b.toInt ≠ 0 := fun h => zero (Int64.toInt_inj.mp h)
  rw [if_neg nonzero, if_neg zero, if_neg fits]
  -- The remainder is less than the divisor, so it fits.
  have bound := Int.emod_lt a.toInt nonzero
  have natural := Int.emod_nonneg a.toInt nonzero
  have low := Int64.le_toInt b
  have high := Int64.toInt_lt b
  have same : (Int64.ofInt (a.toInt % b.toInt)).toInt = a.toInt % b.toInt :=
    Int64.toInt_ofInt_of_le (by omega) (by omega)
  constructor
  · intro n hn
    rw [← Int64.toInt_inj.mp (same.trans (Option.some.inj hn))]
    rfl
  · intro none
    exact absurd (congrArg some same.symm) (none _)

/-- What a sub-tag of whole numbers makes of two of them. -/
theorem resolve_operation {op : WholeOperation} {key : String} (h : op.key? = some key) :
    ∃ owner run, Text.lower key = key ∧ TypeRegistry.builtin.resolve? "integer" key =
      some (owner, ⟨key, .fixed "integer", .required "integer", run⟩) ∧ owner.name = "integer" ∧
      ∀ (a b : Int64) (types : Conversions) (body : String),
        (¬op.Overflows a b →
          Clean.Value (op.exactResult? a.toInt b.toInt) (faultIn body (run ⟨.integer a, some (.integer b), types⟩))) ∧
        (op.Overflows a b →
          faultIn body (run ⟨.integer a, some (.integer b), types⟩) =
            .error (.breakOff (TagFault.message .remainderOverflow))) := by
  cases op
  case modulo =>
    cases h
    refine ⟨_, _, by decide, rfl, rfl, fun a b _ body => ⟨fun fits => ?_, fun h => ?_⟩⟩
    · exact clean_modulo (fun h => fits ⟨rfl, h⟩) body
    · obtain ⟨-, rfl, rfl⟩ := h
      rfl
  case divide => cases h
  -- The others compute with more bits and look whether the result fits.
  all_goals
    cases h
    refine ⟨_, _, by decide, rfl, rfl, fun _ _ _ body => ⟨fun _ => clean_result _ body, fun h => ?_⟩⟩
    cases h.1

theorem base_integer : BaseRegistry.builtin.get? (Text.lower "integer") = some (.converting "integer" "integer") := by
  rw [show Text.lower "integer" = "integer" by decide]
  rfl

theorem convert_integer {v : Value} {n : Int64} (h : v.asInteger? = some n) :
    TypeRegistry.builtin.convert v "integer" = .integer n := by
  have made : TypeRegistry.builtin.convert v "integer" = createInteger v := rfl
  rw [made, createInteger, h]

/-- An operation on two texts that read as whole numbers comes to its exact result, if there is one that fits, and to an
    error if not. It breaks off where the quotient of a remainder does not fit. -/
theorem integer_operation_value {instructions : List Instruction} {predefined : List (String × String)} {code : Code}
    {e : Entry} {k : Nat} {a b : Int64} {first key second : String}
    (h : compile .builtin instructions predefined = .ok code) (he : e ∈ code.entries.toList) {op : WholeOperation}
    (hkey : op.key? = some key) (hfirst : (Value.text first).asInteger? = some a)
    (hsecond : (Value.text second).asInteger? = some b)
    (ha : e.instruction.args[k]? = some (.operation "integer" first key second)) :
    ∃ c, e.args[k]? = some c ∧ ∀ slots vars,
      (¬op.Overflows a b → Clean.Value (op.exactResult? a.toInt b.toInt) (c.evaluate (code.environment slots vars))) ∧
      (op.Overflows a b →
        c.evaluate (code.environment slots vars) = .error (.breakOff (TagFault.message .remainderOverflow))) := by
  obtain ⟨owner, run, lower, resolved, named, outcome⟩ := resolve_operation hkey
  obtain ⟨c, body, hc, value⟩ := compile_operation h he base_integer (lower.symm ▸ resolved) ha
  refine ⟨c, hc, fun slots vars => ?_⟩
  have prepared : Registries.builtin.prepare (.required "integer") (.text second) = .integer b :=
    convert_integer hsecond
  have called : c.evaluate (code.environment slots vars) =
      faultIn body (run ⟨.integer a, some (.integer b), TypeRegistry.builtin.conversions⟩) := by
    rw [value, named, convert_integer hfirst, Registries.adapt, if_pos rfl, prepared]
    rfl
  rw [called]
  exact outcome a b _ body

/-! ### Setting a variable -/

/-- An instruction joins a whole number to a variable of whole numbers, by the mode of its setter. -/
structure Scene.Updates (s : Scene) (entry : Entry) (mode : SetMode) (slot : Nat) (a b : Int64) : Prop where
  name : (s.argument entry 0).toOption.bind (fun v => entry.names.lookup (Text.lower v.toText)) = some slot
  mode : (s.argument entry 1).toOption.bind (fun v => SetMode.read? (Text.trim v.toText)) = some mode
  input : (s.argument entry 2).toOption.bind Value.asInteger? = some b
  typed : (s.frame.script.code.slots[slot]?).map (·.typeName) = some "integer"
  current : (s.frame.slots[slot]?).bind Value.asInteger? = some a

instance (s : Scene) (entry : Entry) (mode : SetMode) (slot : Nat) (a b : Int64) :
    Decidable (s.Updates entry mode slot a b) :=
  decidable_of_iff
    ((s.argument entry 0).toOption.bind (fun v => entry.names.lookup (Text.lower v.toText)) = some slot ∧
      (s.argument entry 1).toOption.bind (fun v => SetMode.read? (Text.trim v.toText)) = some mode ∧
      (s.argument entry 2).toOption.bind Value.asInteger? = some b ∧
      (s.frame.script.code.slots[slot]?).map (·.typeName) = some "integer" ∧
      (s.frame.slots[slot]?).bind Value.asInteger? = some a)
    ⟨fun ⟨name, mode, input, typed, current⟩ => ⟨name, mode, input, typed, current⟩,
      fun ⟨name, mode, input, typed, current⟩ => ⟨name, mode, input, typed, current⟩⟩

namespace Act

/-- A whole number that is computed exactly, or the fault that it does not fit. -/
def checked (n : Int) : Except RuntimeFault Value :=
  match fit64? n with
  | some m => .ok (.integer m)
  | none => .error .integerOverflow

theorem clean_checked (n : Int) :
    Clean (some n) (fun m => checked n = .ok (.integer m)) (∃ f, checked n = .error f) := by
  refine (Clean.of_fit n).imp (fun m h => ?_) fun h => ⟨.integerOverflow, ?_⟩
  · rw [checked, h]
  · rw [checked, h]

theorem integerUpdate_eq {mode : SetMode} {op : WholeOperation} (hop : mode.operation? = some op) {a b : Int64}
    {current input : Value} (ha : current.asInteger? = some a) (hb : input.asInteger? = some b) :
    integerUpdate mode current input =
      match op.exactResult? a.toInt b.toInt with
      | some n => checked n
      | none => .error .divisionByZero := by
  rw [integerUpdate, ha, hb]
  cases mode with
  | assign => cases hop
  | add =>
    cases hop
    simp only [addChecked, WholeOperation.exactResult?, checked]
    cases fit64? (a.toInt + b.toInt) <;> rfl
  | subtract =>
    cases hop
    simp only [subChecked, WholeOperation.exactResult?, checked]
    cases fit64? (a.toInt - b.toInt) <;> rfl
  | multiply =>
    cases hop
    simp only [mulChecked, WholeOperation.exactResult?, checked]
    cases fit64? (a.toInt * b.toInt) <;> rfl
  | divide =>
    cases hop
    have zero : b.toInt = 0 ↔ b = 0 := Int64.toInt_inj (y := 0)
    simp only [divChecked, WholeOperation.exactResult?, checked, zero]
    by_cases none : b = 0
    · simp only [if_pos none]
    · simp only [if_neg none]
      cases fit64? (a.toInt.tdiv b.toInt) <;> rfl

theorem clean_integerUpdate {mode : SetMode} {op : WholeOperation} (hop : mode.operation? = some op) {a b : Int64}
    {current input : Value} (ha : current.asInteger? = some a) (hb : input.asInteger? = some b) :
    Clean (op.exactResult? a.toInt b.toInt) (fun n => integerUpdate mode current input = .ok (.integer n))
      (∃ f, integerUpdate mode current input = .error f) := by
  rw [integerUpdate_eq hop ha hb]
  cases op.exactResult? a.toInt b.toInt with
  | none => exact Clean.of_undefined ⟨.divisionByZero, rfl⟩
  | some n => exact clean_checked n

theorem updated_integer {types : TypeRegistry} {mode : SetMode} {op : WholeOperation}
    (hop : mode.operation? = some op) (current input : Value) :
    updated types mode "integer" current input = integerUpdate mode current input := by
  have isA : types.isA "integer" "integer" = true := by
    rw [TypeRegistry.isA, TypeRegistry.isAFrom, beq_self_eq_true, Bool.true_or]
  have assigns : mode ≠ .assign := by
    rintro rfl
    cases hop
  rw [updated, if_neg assigns, if_pos isA]

/-- Where a variable of whole numbers can be updated, `set` does so, and changes nothing where not. -/
theorem on_set_integer (site : Site) {s : Scene} {mode : SetMode} {op : WholeOperation}
    (hop : mode.operation? = some op) {slot : Nat} {a b : Int64} (h : s.Updates site.entry mode slot a b) :
    Clean (op.exactResult? a.toInt b.toInt)
      (fun n => s.engine.outbox.Whole →
        ∃ e, Act.set.on site s = (.ok .proceed, ⟨e, s.frame.setSlot slot (.integer n)⟩))
      (∃ f, Act.set.on site s = (.error (.error (.runtime f)), s)) := by
  obtain ⟨hname, hsetter, hinput, typed, hcurrent⟩ := h
  obtain ⟨name, hname, found⟩ := Option.bind_eq_some_iff.mp hname
  obtain ⟨input, hinput, hb⟩ := Option.bind_eq_some_iff.mp hinput
  obtain ⟨current, hcurrent, ha⟩ := Option.bind_eq_some_iff.mp hcurrent
  have argument := toOption_eq_some.mp hname
  have setter : s.Setter site.entry mode input := ⟨hsetter, toOption_eq_some.mp hinput⟩
  have same : s.updated slot mode input = integerUpdate mode current input := by
    rw [Scene.updated, typed, hcurrent, Option.getD_some, Option.getD_some, updated_integer hop]
  refine (clean_integerUpdate hop ha hb).imp (fun n hn => on_set_value site argument found setter (same.trans hn)) ?_
  rintro ⟨f, hf⟩
  exact ⟨f, on_set_fault site argument found setter (same.trans hf)⟩

end Act

namespace Machine
variable {m : Machine} {f : Frame} {below : List Frame} {entry : Entry}

/-- What `set` makes of a variable of whole numbers: it is updated and the script goes on, or nothing changes and the
    script has an error. -/
theorem StandsAt.clean_set (at_ : m.StandsAt f below entry) (ordered : f.script.code.Ordered)
    (name : entry.instruction.name = "set") {mode : SetMode} {op : WholeOperation}
    (hop : mode.operation? = some op) {slot : Nat} {a b : Int64}
    (h : Scene.Updates ⟨m.awake.engine, f.next⟩ entry mode slot a b) :
    Clean (op.exactResult? a.toInt b.toInt)
      (fun n => m.engine.outbox.Whole →
        ∃ e, m.awake.perform f below entry = (.ok .proceed, e, f.next.setSlot slot (.integer n)))
      (∃ fault, m.awake.perform f below entry = (.error (.runtime fault), m.awake.engine, f.next)) := by
  obtain ⟨r, t, hon, performed⟩ := perform_of_name m.awake below at_.here ordered name (a := .set) rfl
  have update := Act.on_set_integer
    ⟨entry, f.pc, below.length + 1, m.awake.running.delayable, m.awake.running.ownOutput⟩ hop h
  refine update.imp (fun n set whole => ?_) fun ⟨fault, failed⟩ => ⟨fault, ?_⟩
  · obtain ⟨e, set⟩ := set whole
    cases set.symm.trans hon
    exact ⟨e, performed⟩
  · cases failed.symm.trans hon
    exact performed

end Machine

/-- The sub-tags of whole numbers and the setters of `set` give the exact result where it is defined and fits, and an
    error of the script where not, but for the remainder of the least number by minus one. -/
theorem integer_arithmetic_clean (op : WholeOperation) (a b : Int64) :
    (∀ (instructions : List Instruction) (predefined : List (String × String)) (code : Code) (e : Entry) (k : Nat)
        (first key second : String),
      compile .builtin instructions predefined = .ok code → e ∈ code.entries.toList → op.key? = some key →
        (Value.text first).asInteger? = some a → (Value.text second).asInteger? = some b → ¬op.Overflows a b →
        e.instruction.args[k]? = some (.operation "integer" first key second) →
        ∃ c, e.args[k]? = some c ∧ ∀ slots vars,
          Clean.Value (op.exactResult? a.toInt b.toInt) (c.evaluate (code.environment slots vars))) ∧
    ∀ (m : Machine) (f : Frame) (below : List Frame) (entry : Entry) (mode : SetMode) (slot : Nat),
      m.Reachable → m.StandsAt f below entry → entry.instruction.name = "set" → mode.operation? = some op →
        Scene.Updates ⟨m.awake.engine, f.next⟩ entry mode slot a b →
        Clean (op.exactResult? a.toInt b.toInt)
          (fun n => m.engine.outbox.Whole →
            ∃ e, m.awake.perform f below entry = (.ok .proceed, e, f.next.setSlot slot (.integer n)))
          (∃ fault, m.awake.perform f below entry = (.error (.runtime fault), m.awake.engine, f.next)) := by
  constructor
  · intro instructions predefined code e k first key second h he hkey hfirst hsecond fits ha
    obtain ⟨c, hc, value⟩ := integer_operation_value h he hkey hfirst hsecond ha
    exact ⟨c, hc, fun slots vars => (value slots vars).1 fits⟩
  · intro m f below entry mode slot h at_ name hop updates
    exact at_.clean_set (h.sound.running.sound f (by simp [at_.frames])).script.ordered name hop updates

theorem integer_arithmetic_clean_corners :
    (∃ code e c,
      compile .builtin [.ofArguments [.operation "integer" "-9223372036854775808" "modulo" "3"]] [] = .ok code ∧
        e ∈ code.entries.toList ∧ e.args[0]? = some c ∧ c.evaluate (code.environment #[] []) = .ok (.integer 1)) ∧
    ∃ (m : Machine) (f : Frame) (below : List Frame) (entry : Entry) (e : Engine), m.Reachable ∧
      m.StandsAt f below entry ∧ entry.instruction.name = "set" ∧
      m.awake.perform f below entry = (.ok .proceed, e, f.next.setSlot 0 (.integer Int64.minValue)) := by
  constructor
  · obtain ⟨code, e, h, he, args⟩ := exists_entry_ofArguments
      [.operation "integer" "-9223372036854775808" "modulo" "3"] (by decide +kernel)
    obtain ⟨c, hc, value⟩ := (integer_arithmetic_clean .modulo Int64.minValue 3).1 [_] [] code e 0
      "-9223372036854775808" "modulo" "3" h he rfl (by decide) (by decide)
      (fun h => absurd h.2.2 (by decide)) (args ▸ rfl)
    exact ⟨code, e, c, h, he, hc, (value #[] []).result 1 (by decide)⟩
  · have found : (Machine.afterSource? "define n <{integer[-9223372036854775807]}>; set n -= 1" 1).any (fun m =>
        m.standsWhere fun f e => e.instruction.name = "set" &&
          decide (Scene.Updates ⟨m.awake.engine, f.next⟩ e .subtract 0 (-9223372036854775807) 1)) = true := by
      decide +kernel
    obtain ⟨m, hm, stands⟩ := (Option.any_eq_true _ _).mp found
    obtain ⟨f, below, entry, at_, here⟩ := Machine.exists_of_standsWhere stands
    rw [Bool.and_eq_true, decide_eq_true_iff, decide_eq_true_iff] at here
    obtain ⟨reachable, whole⟩ := Machine.of_afterSource hm
    have clean := (integer_arithmetic_clean .subtract (-9223372036854775807) 1).2 m f below entry .subtract 0
      reachable at_ here.1 rfl here.2
    obtain ⟨e, performed⟩ := clean.result Int64.minValue (by decide) whole
    exact ⟨m, f, below, entry, e, reachable, at_, here.1, performed⟩

/-- The remainder of the least number by minus one is zero, but it breaks off. -/
theorem remainder_of_least_breaks_off : ¬∀ (a b : Int64) (code : Code) (e : Entry) (c : CompiledArgument),
    compile .builtin [.ofArguments [.operation "integer" (Value.integerText a) "modulo" (Value.integerText b)]] [] =
      .ok code → e ∈ code.entries.toList → e.args[0]? = some c →
        Clean.Value (WholeOperation.modulo.exactResult? a.toInt b.toInt) (c.evaluate (code.environment #[] [])) := by
  intro all
  obtain ⟨code, e, h, he, args⟩ := exists_entry_ofArguments
    [.operation "integer" (Value.integerText Int64.minValue) "modulo" (Value.integerText (-1))] (by decide +kernel)
  have first : (Value.text (Value.integerText Int64.minValue)).asInteger? = some Int64.minValue := by decide
  have second : (Value.text (Value.integerText (-1))).asInteger? = some (-1) := by decide
  have here : e.instruction.args[0]? =
      some (.operation "integer" (Value.integerText Int64.minValue) "modulo" (Value.integerText (-1))) := args ▸ rfl
  have key : WholeOperation.modulo.key? = some "modulo" := rfl
  obtain ⟨c, hc, value⟩ := integer_operation_value h he key first second here
  have exact_ := (all Int64.minValue (-1) code e c h he hc).result 0 (by decide)
  rw [(value #[] []).2 ⟨rfl, rfl, rfl⟩] at exact_
  cases exact_

end CommandScript
