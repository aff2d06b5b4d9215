import CommandScript.Proofs.Numbers.Digits
import CommandScript.Proofs.Numbers.Shortest

/-! Numerals in positional notation with nothing superfluous. No two of them have the same sign and the same value, and
    the text of a float is one of them, from which the float is read back. -/

namespace CommandScript.Decimal

/-! ### Digits -/

section
variable {cs : List Char} (digits : ∀ c ∈ cs, c.isDigit = true)

theorem exists_digitChar {c : Char} (h : c.isDigit = true) : ∃ d < 10, d.digitChar = c := by
  have bounds : 48 ≤ c.toNat ∧ c.toNat ≤ 57 := Char.isDigit_iff_toNat.mp h
  refine ⟨c.toNat - 48, by omega, Char.toNat_inj.mp ?_⟩
  rw [Nat.toNat_digitChar_of_lt_ten (by omega)]
  omega

theorem digitsValue_append (high : Nat) (cs ds : List Char) :
    digitsValue high (cs ++ ds) = digitsValue (digitsValue high cs) ds :=
  List.foldl_append

theorem digitsValue_high (high : Nat) (cs : List Char) :
    digitsValue high cs = 10 ^ cs.length * high + digitsValue 0 cs :=
  Nat.ofDigitChars_eq_ofDigitChars_zero

theorem digitsValue_zeros (high n : Nat) : digitsValue high (List.replicate n '0') = 10 ^ n * high :=
  Nat.ofDigitChars_replicate_zero

theorem digitsValue_concat (high : Nat) (cs : List Char) {d : Nat} (h : d < 10) :
    digitsValue high (cs ++ [d.digitChar]) = 10 * digitsValue high cs + d := by
  rw [digitsValue_append]
  exact Nat.ofDigitChars_cons_digitChar_of_lt_ten h

include digits

theorem digitsValue_lt : digitsValue 0 cs < 10 ^ cs.length := by
  induction cs using List.reverseRecOn with
  | nil => exact Nat.one_pos
  | append_singleton cs c ih =>
    obtain ⟨d, lt, rfl⟩ := exists_digitChar (digits c (by simp))
    have := ih fun c hc => digits c (List.mem_append_left _ hc)
    rw [digitsValue_concat 0 cs lt, List.length_append, List.length_singleton, Nat.pow_succ]
    omega

/-- Digits without a zero before others are those of the number that they write. -/
theorem digitsOf_digitsValue (filled : cs ≠ []) (first : cs.head? = some '0' → cs = ['0']) :
    digitsOf (digitsValue 0 cs) = cs := by
  induction cs using List.reverseRecOn with
  | nil => exact absurd rfl filled
  | append_singleton cs c ih =>
    obtain ⟨d, lt, rfl⟩ := exists_digitChar (digits c (by simp))
    rw [digitsValue_concat 0 cs lt]
    rcases List.eq_nil_or_concat cs with rfl | ⟨_, _, more⟩
    · show digitsOf (10 * 0 + d) = _
      rw [Nat.mul_zero, Nat.zero_add]
      exact Nat.toDigits_of_lt_base lt
    · have filled : cs ≠ [] := by simp [more]
      have head : cs.head? ≠ some '0' := by
        intro zero
        rw [List.head?_append_of_ne_nil _ filled] at first
        have := congrArg List.length (first zero)
        simp [filled] at this
      have own := ih (fun c hc => digits c (List.mem_append_left _ hc)) filled fun zero => absurd zero head
      have positive : 0 < digitsValue 0 cs := by
        refine Nat.pos_of_ne_zero fun zero => head ?_
        rw [← own, zero]
        rfl
      rw [digitsOf, ← Nat.toDigits_append_toDigits (by decide) positive lt, Nat.toDigits_of_lt_base lt]
      exact congrArg (· ++ _) own

end

/-- Of a given length, no two lists of digits write the same number. -/
theorem digits_ext {cs ds : List Char} (hc : ∀ c ∈ cs, c.isDigit = true) (hd : ∀ c ∈ ds, c.isDigit = true)
    (length : cs.length = ds.length) (h : digitsValue 0 cs = digitsValue 0 ds) : cs = ds := by
  have own {cs : List Char} (hc : ∀ c ∈ cs, c.isDigit = true) : digitsOf (digitsValue 1 cs) = '1' :: cs := by
    have one : digitsValue 1 cs = digitsValue 0 ('1' :: cs) := rfl
    rw [one]
    exact digitsOf_digitsValue (List.forall_mem_cons.mpr ⟨by decide, hc⟩) (List.cons_ne_nil _ _) (by simp)
  have same : digitsValue 1 cs = digitsValue 1 ds := by
    rw [digitsValue_high, digitsValue_high 1 ds, length, h]
  exact (List.cons.inj ((own hc).symm.trans ((congrArg digitsOf same).trans (own hd)))).2

theorem digitsOf_head? {n : Nat} (h : 0 < n) : (digitsOf n).head? ≠ some '0' := by
  induction n using Nat.strongRecOn with
  | ind n ih =>
    rw [digitsOf, Nat.toDigits_eq_if (by decide)]
    split
    · rename_i lt
      have : ∀ n < 10, 0 < n → n.digitChar ≠ '0' := by decide
      simpa using this n lt h
    · rw [List.head?_append_of_ne_nil _ Nat.toDigits_ne_nil]
      exact ih (n / 10) (by omega) (by omega)

theorem digitsOf_getLast? {n : Nat} (h : n % 10 ≠ 0) : (digitsOf n).getLast? ≠ some '0' := by
  have last : ∀ n < 10, n ≠ 0 → n.digitChar ≠ '0' := by decide
  rw [digitsOf, Nat.toDigits_eq_if (by decide)]
  split
  · rename_i lt
    rw [Nat.mod_eq_of_lt lt] at h
    simpa using last n lt h
  · rw [List.getLast?_concat]
    simpa using last (n % 10) (Nat.mod_lt _ (by decide)) h

/-! ### Numerals -/

/-- A sign, digits, and behind a point more digits if there are any. -/
structure Numeral where
  negative : Bool
  whole : List Char
  fraction : List Char

namespace Numeral

/-- The characters of a numeral without its sign. -/
def unsigned (m : Numeral) : List Char :=
  m.whole ++ if m.fraction = [] then [] else '.' :: m.fraction

/-- The characters of a numeral. -/
def chars (m : Numeral) : List Char :=
  if m.negative then '-' :: m.unsigned else m.unsigned

/-- The absolute value of a numeral as a decimal. -/
def scaled (m : Numeral) : Scaled :=
  ⟨digitsValue 0 (m.whole ++ m.fraction), -m.fraction.length⟩

/-- The absolute value of a numeral. -/
def value (m : Numeral) : ℚ :=
  m.scaled.value

/-- A numeral with nothing superfluous: it has a digit before the point, no zero before other digits there, and no zero
    at its end behind the point. -/
structure Neat (m : Numeral) : Prop where
  digits : ∀ c ∈ m.whole ++ m.fraction, c.isDigit = true
  filled : m.whole ≠ []
  first : m.whole.head? = some '0' → m.whole = ['0']
  last : m.fraction.getLast? ≠ some '0'

theorem scaled_digits {m m' : Numeral} (value : m.value = m'.value) (le : m.fraction.length ≤ m'.fraction.length) :
    m'.scaled.digits = m.scaled.digits * 10 ^ (m'.fraction.length - m.fraction.length) := by
  have power : (10 : ℚ) ^ (-(m.fraction.length : Int)) =
      10 ^ (m'.fraction.length - m.fraction.length) * 10 ^ (-(m'.fraction.length : Int)) := by
    rw [← zpow_natCast, ← zpow_add₀ (by norm_num)]
    congr 1
    omega
  have same : (m.scaled.digits : ℚ) * 10 ^ (-(m.fraction.length : Int)) =
      m'.scaled.digits * 10 ^ (-(m'.fraction.length : Int)) := value
  rw [power, ← mul_assoc] at same
  have same := mul_right_cancel₀ (ten_zpow_pos _).ne' same
  exact_mod_cast same.symm

namespace Neat
variable {m m' : Numeral} (h : m.Neat)
include h

theorem whole_digits : ∀ c ∈ m.whole, c.isDigit = true :=
  fun c hc => h.digits c (List.mem_append_left _ hc)

theorem fraction_digits : ∀ c ∈ m.fraction, c.isDigit = true :=
  fun c hc => h.digits c (List.mem_append_right _ hc)

/-- The last digit of a fraction is not a zero. -/
theorem digits_mod (filled : m.fraction ≠ []) : m.scaled.digits % 10 ≠ 0 := by
  obtain ⟨cs, c, concat⟩ := (List.eq_nil_or_concat m.fraction).resolve_left filled
  obtain ⟨d, lt, rfl⟩ := exists_digitChar (h.fraction_digits c (concat ▸ by simp))
  have last := h.last
  have digits : m.scaled.digits = digitsValue 0 (m.whole ++ m.fraction) := rfl
  rw [List.concat_eq_append] at concat
  rw [digits, concat, ← List.append_assoc, digitsValue_concat _ _ lt]
  rw [concat, List.getLast?_concat] at last
  intro zero
  obtain rfl : d = 0 := by omega
  exact last rfl

/-- A numeral with a shorter fraction has another value. -/
theorem fraction_le (value : m.value = m'.value) : m.fraction.length ≤ m'.fraction.length := by
  by_contra longer
  have digits := scaled_digits value.symm (by omega)
  refine h.digits_mod (List.ne_nil_of_length_pos (by omega)) ?_
  obtain ⟨k, hk⟩ := Nat.exists_eq_add_of_lt (not_le.mp longer)
  rw [digits, hk, Nat.add_assoc, Nat.add_sub_cancel_left, Nat.pow_succ, ← Nat.mul_assoc, Nat.mul_mod_left]

/-- A numeral is known by its sign and its value. -/
theorem ext (h' : m'.Neat) (sign : m.negative = m'.negative) (value : m.value = m'.value) : m = m' := by
  have length := Nat.le_antisymm (h.fraction_le value) (h'.fraction_le value.symm)
  have digits := scaled_digits value length.le
  have split (m : Numeral) : m.scaled.digits =
      10 ^ m.fraction.length * digitsValue 0 m.whole + digitsValue 0 m.fraction := by
    rw [← digitsValue_high, ← digitsValue_append]
    rfl
  have lt := digitsValue_lt h.fraction_digits
  have lt' := digitsValue_lt h'.fraction_digits
  rw [length, Nat.sub_self, Nat.pow_zero, Nat.mul_one, split, split, length] at digits
  rw [length] at lt
  have whole : digitsValue 0 m'.whole = digitsValue 0 m.whole := by
    have := congrArg (· / 10 ^ m'.fraction.length) digits
    simpa [Nat.mul_add_div (Nat.pow_pos (by decide : 0 < 10)), Nat.div_eq_of_lt, lt, lt'] using this
  rw [whole, Nat.add_left_cancel_iff] at digits
  have fraction := digits_ext h.fraction_digits h'.fraction_digits length digits.symm
  have whole := (digitsOf_digitsValue h.whole_digits h.filled h.first).symm.trans
    ((congrArg digitsOf whole.symm).trans (digitsOf_digitsValue h'.whole_digits h'.filled h'.first))
  cases m
  cases m'
  simp_all

/-- What a numeral is read as. -/
theorem readUnsigned?_eq (negative : Bool) :
    readUnsigned? negative m.unsigned = some (nearestFloat negative m.scaled.digits m.scaled.exponent) := by
  have filled : m.whole.isEmpty = false := List.isEmpty_eq_false_iff.mpr h.filled
  unfold readUnsigned? unsigned scaled
  by_cases none : m.fraction = []
  · have whole : m.whole.takeWhile Char.isDigit = m.whole := List.takeWhile_eq_self_iff.mpr h.whole_digits
    have rest : m.whole.dropWhile Char.isDigit = [] := List.dropWhile_eq_nil_iff.mpr h.whole_digits
    simp only [none, if_true, List.append_nil, whole, rest, filled, Bool.false_and, Bool.false_eq_true, if_false,
      readExponent?, Option.map_some, List.length_nil]
    rfl
  · have whole (tail : List Char) : (m.whole ++ tail).takeWhile Char.isDigit =
        m.whole ++ tail.takeWhile Char.isDigit := List.takeWhile_append_of_pos h.whole_digits
    have rest (tail : List Char) : (m.whole ++ tail).dropWhile Char.isDigit = tail.dropWhile Char.isDigit :=
      List.dropWhile_append_of_pos h.whole_digits
    have fraction : m.fraction.takeWhile Char.isDigit = m.fraction :=
      List.takeWhile_eq_self_iff.mpr h.fraction_digits
    have after : m.fraction.dropWhile Char.isDigit = [] := List.dropWhile_eq_nil_iff.mpr h.fraction_digits
    have point : Char.isDigit '.' = false := rfl
    simp only [whole, rest, none, if_false, List.takeWhile_cons, List.dropWhile_cons, point, Bool.false_eq_true,
      List.append_nil, fraction, after, filled, Bool.false_and, readExponent?, Option.map_some, Int.zero_sub]

theorem chars_cases : ∀ c ∈ m.chars, c.isDigit = true ∨ c = '-' ∨ c = '.' := by
  have unsigned : ∀ c ∈ m.unsigned, c.isDigit = true ∨ c = '.' := by
    intro c hc
    rcases List.mem_append.mp hc with hc | hc
    · exact Or.inl (h.whole_digits c hc)
    · split at hc
      · cases hc
      · rcases List.mem_cons.mp hc with rfl | hc
        · exact Or.inr rfl
        · exact Or.inl (h.fraction_digits c hc)
  intro c hc
  unfold chars at hc
  split at hc
  · rcases List.mem_cons.mp hc with rfl | hc
    · exact Or.inr (Or.inl rfl)
    · exact (unsigned c hc).imp_right Or.inr
  · exact (unsigned c hc).imp_right Or.inr

theorem unsigned_eq_cons : ∃ c rest, m.unsigned = c :: rest ∧ c ≠ '-' ∧ c ≠ '+' := by
  obtain ⟨c, rest, hw⟩ := List.exists_cons_of_ne_nil h.filled
  have digit := h.whole_digits c (hw ▸ List.mem_cons_self)
  refine ⟨c, rest ++ if m.fraction = [] then [] else '.' :: m.fraction, by rw [unsigned, hw]; rfl, ?_, ?_⟩ <;>
    rintro rfl <;> exact absurd digit (by decide)

theorem readFloat?_eq {s : String} (hs : s.toList = m.chars) :
    readFloat? s = some (nearestFloat m.negative m.scaled.digits m.scaled.exponent) := by
  have read := h.readUnsigned?_eq m.negative
  unfold readFloat?
  rw [hs, chars]
  by_cases negative : m.negative = true
  · rw [if_pos negative]
    rw [negative] at read ⊢
    exact read
  · rw [if_neg negative]
    rw [Bool.not_eq_true] at negative
    obtain ⟨c, rest, hc, minus, plus⟩ := h.unsigned_eq_cons
    rw [negative, hc] at read
    rw [hc, negative]
    split
    · rename_i same
      exact absurd (List.cons.inj same).1 minus
    · rename_i same
      exact absurd (List.cons.inj same).1 plus
    · exact read

end Neat

/-! ### Numerals of decimals -/

theorem neat_digitsOf (negative : Bool) (n : Nat) : Neat ⟨negative, digitsOf n, []⟩ where
  digits := by
    intro c hc
    rw [List.append_nil] at hc
    exact isDigit_of_mem_digitsOf hc
  filled := Nat.toDigits_ne_nil
  first := by
    intro zero
    rcases Nat.eq_zero_or_pos n with rfl | positive
    · rfl
    · exact absurd zero (digitsOf_head? positive)
  last := by simp

/-- Digits with a point between them are a numeral, if there is a zero at the beginning only right before the point and
    none at the end. -/
theorem neat_split (negative : Bool) {cs : List Char} {before behind : Nat} (digits : ∀ c ∈ cs, c.isDigit = true)
    (length : cs.length = before + 1 + (behind + 1)) (first : cs.head? = some '0' → before = 0)
    (last : cs.getLast? ≠ some '0') : Neat ⟨negative, cs.take (before + 1), cs.drop (before + 1)⟩ where
  digits := by
    rw [List.take_append_drop]
    exact digits
  filled := List.ne_nil_of_length_pos (by rw [List.length_take]; omega)
  first := by
    intro zero
    rw [List.head?_take, if_neg (Nat.succ_ne_zero _)] at zero
    obtain ⟨rest, hcs⟩ := List.head?_eq_some_iff.mp zero
    rw [first zero, hcs]
    rfl
  last := by
    rw [List.getLast?_drop, if_neg (by omega)]
    exact last

theorem isDigit_of_mem_zeros {n : Nat} : ∀ c ∈ List.replicate n '0', c.isDigit = true := by
  intro c hc
  rw [List.eq_of_mem_replicate hc]
  rfl

/-- A whole decimal without zeros at its end is written as a numeral without a point. -/
theorem exists_positional_of_whole (negative : Bool) {d : Scaled} (reduced : d.digits % 10 ≠ 0)
    (whole : 0 ≤ d.exponent) :
    ∃ m : Numeral, m.Neat ∧ m.negative = negative ∧ m.unsigned = d.positional ∧ m.value = d.value := by
  have head := digitsOf_head? (n := d.digits) (by omega)
  have filled : digitsOf d.digits ≠ [] := Nat.toDigits_ne_nil
  obtain ⟨zeros, exponent⟩ := Int.eq_ofNat_of_zero_le whole
  refine ⟨⟨negative, digitsOf d.digits ++ List.replicate zeros '0', []⟩, ⟨?_, by simp [filled], ?_, by simp⟩, rfl,
    ?_, ?_⟩
  · intro c hc
    rw [List.append_nil] at hc
    exact (List.mem_append.mp hc).elim isDigit_of_mem_digitsOf (isDigit_of_mem_zeros c)
  · rw [List.head?_append_of_ne_nil _ filled]
    exact fun zero => absurd zero head
  · unfold Scaled.positional
    rw [if_pos whole, exponent, Int.toNat_natCast, unsigned, if_pos rfl, List.append_nil]
  · rw [value, scaled, Scaled.value, Scaled.value, List.append_nil, digitsValue_append, digitsValue_digitsOf,
      digitsValue_zeros, exponent]
    push_cast
    rw [mul_comm (10 ^ zeros : ℚ)]
    simp

/-- A decimal with a fraction and without zeros at its end is written as a numeral: the zeros that fill its digits up
    leave exactly one of them before the point. -/
theorem exists_positional_of_part (negative : Bool) {d : Scaled} (reduced : d.digits % 10 ≠ 0)
    (part : ¬ d.exponent ≥ 0) :
    ∃ m : Numeral, m.Neat ∧ m.negative = negative ∧ m.unsigned = d.positional ∧ m.value = d.value := by
  obtain ⟨behind, exponent⟩ : ∃ behind : Nat, d.exponent = -(behind + 1 : Nat) :=
    ⟨(-d.exponent).toNat - 1, by omega⟩
  unfold Scaled.positional
  dsimp only
  rw [if_neg part, show (-d.exponent).toNat = behind + 1 by omega]
  have head := digitsOf_head? (n := d.digits) (by omega)
  have filled : digitsOf d.digits ≠ [] := Nat.toDigits_ne_nil
  set zeros := behind + 1 + 1 - (digitsOf d.digits).length with hzeros
  -- What the numeral needs of the filled-up digits; from here on they are any list with these properties.
  have size : (List.replicate zeros '0' ++ digitsOf d.digits).length =
      max (behind + 2) (digitsOf d.digits).length := by
    rw [List.length_append, List.length_replicate]
    omega
  have worth : digitsValue 0 (List.replicate zeros '0' ++ digitsOf d.digits) = d.digits := by
    rw [digitsValue_append, digitsValue_zeros, Nat.mul_zero, digitsValue_digitsOf]
  have final : (List.replicate zeros '0' ++ digitsOf d.digits).getLast? ≠ some '0' := by
    rw [List.getLast?_append_of_ne_nil _ filled]
    exact digitsOf_getLast? reduced
  have first : (List.replicate zeros '0' ++ digitsOf d.digits).head? = some '0' →
      (digitsOf d.digits).length < behind + 2 := by
    intro zero
    by_contra long
    rw [show zeros = 0 by omega] at zero
    exact head zero
  have digits : ∀ c ∈ List.replicate zeros '0' ++ digitsOf d.digits, c.isDigit = true :=
    fun c hc => (List.mem_append.mp hc).elim (isDigit_of_mem_zeros c) isDigit_of_mem_digitsOf
  generalize List.replicate zeros '0' ++ digitsOf d.digits = cs at size worth final first digits ⊢
  obtain ⟨before, hbefore⟩ : ∃ before, cs.length = before + 1 + (behind + 1) :=
    ⟨cs.length - (behind + 1) - 1, by omega⟩
  have fraction : (cs.drop (before + 1)).length = behind + 1 := by
    rw [List.length_drop, hbefore, Nat.add_sub_cancel_left]
  have some : cs.drop (before + 1) ≠ [] := List.ne_nil_of_length_pos (by omega)
  rw [hbefore, Nat.add_sub_cancel]
  refine ⟨⟨negative, cs.take (before + 1), cs.drop (before + 1)⟩,
    neat_split negative digits hbefore (fun zero => ?_) final, rfl, ?_, ?_⟩
  · have := first zero
    omega
  · rw [unsigned, if_neg some]
  · rw [value, scaled, Scaled.value, Scaled.value, List.take_append_drop, worth, fraction, exponent]

/-- A decimal without zeros at its end is written as a numeral. -/
theorem exists_positional (negative : Bool) {d : Scaled} (reduced : d.digits % 10 ≠ 0) :
    ∃ m : Numeral, m.Neat ∧ m.negative = negative ∧ m.unsigned = d.positional ∧ m.value = d.value :=
  (em (d.exponent ≥ 0)).elim (exists_positional_of_whole negative reduced)
    (exists_positional_of_part negative reduced)

end Numeral

/-! ### Numerals of floats -/

/-- What a finite float is shown as: zero, or the shortest decimal of the interval around it. -/
def ShownAs (x : Float) (v : ℚ) : Prop :=
  if magnitude x = 0 then v = 0 else ∃ d, (Binary.ofBits (magnitude x)).Shortest d ∧ d.value = v

theorem ShownAs.unique {x : Float} {v v' : ℚ} (h : ShownAs x v) (h' : ShownAs x v') : v = v' := by
  unfold ShownAs at h h'
  split at h
  · rename_i zero
    rw [if_pos zero] at h'
    exact h.trans h'.symm
  · rename_i filled
    rw [if_neg filled] at h'
    obtain ⟨d, shortest, rfl⟩ := h
    obtain ⟨d', shortest', rfl⟩ := h'
    exact shortest.unique shortest'

section
variable {x : Float} (finite : x.isFinite = true)
include finite

theorem ofFloat_magnitude (filled : magnitude x ≠ 0) : (Binary.ofBits (magnitude x)).OfFloat :=
  (ofFloat_ofBits (Nat.pos_of_ne_zero filled) (magnitude_lt finite)).1

/-- A numeral that a float is shown as is read as this float. -/
theorem Numeral.Neat.reads {m : Numeral} (h : m.Neat) (sign : m.negative = signed x) (shown : ShownAs x m.value)
    {s : String} (hs : s.toList = m.chars) : readFloat? s = some x := by
  rw [h.readFloat?_eq hs, sign]
  refine congrArg some (nearestFloat_eq_of_readBits finite ?_)
  unfold ShownAs at shown
  split at shown
  · rename_i zero
    have digits : m.scaled.digits = 0 := by
      have nonzero := (ten_zpow_pos m.scaled.exponent).ne'
      have worthless := (mul_eq_zero.mp shown).resolve_right nonzero
      exact_mod_cast worthless
    rw [zero, digits]
    rfl
  · rename_i filled
    obtain ⟨d, shortest, value⟩ := shown
    have positive : 0 < m.scaled.digits := by
      refine Nat.pos_of_ne_zero fun zero => shortest.value_pos.ne' ?_
      rw [value, Numeral.value, Scaled.value, zero, Nat.cast_zero, zero_mul]
    refine (readBits_eq_iff positive (Nat.pos_of_ne_zero filled) (magnitude_lt finite)).mpr ?_
    show (Binary.ofBits (magnitude x)).Has m.value
    rw [← value]
    exact shortest.has

/-- The text of a finite float is a numeral that the float is shown as. -/
theorem exists_numeral : ∃ m : Numeral, m.Neat ∧ m.negative = signed x ∧ ShownAs x m.value ∧
    (floatText x).toList = m.chars := by
  have power : twoTo 63 = 2 ^ 63 := rfl
  have huge : magnitude x ≠ 2047 * twoTo 52 := (magnitude_lt finite).ne
  unfold floatText
  dsimp only
  rw [isNaN_of_isFinite finite, if_neg Bool.false_ne_true, String.toList_ofList]
  show ∃ m : Numeral, m.Neat ∧ m.negative = signed x ∧ ShownAs x m.value ∧
    (if x.toBits.toNat ≥ twoTo 63 then
      '-' :: (if magnitude x = 2047 * twoTo 52 then ['i', 'n', 'f'] else if magnitude x = 0 then ['0']
        else (Binary.ofBits (magnitude x)).shortest.positional)
    else (if magnitude x = 2047 * twoTo 52 then ['i', 'n', 'f'] else if magnitude x = 0 then ['0']
        else (Binary.ofBits (magnitude x)).shortest.positional)) = m.chars
  rw [if_neg huge]
  suffices found : ∃ m : Numeral, m.Neat ∧ m.negative = signed x ∧ ShownAs x m.value ∧ m.unsigned =
      if magnitude x = 0 then ['0'] else (Binary.ofBits (magnitude x)).shortest.positional by
    obtain ⟨m, neat, sign, shown, unsigned⟩ := found
    refine ⟨m, neat, sign, shown, ?_⟩
    rw [Numeral.chars, unsigned, sign, signed]
    simp only [decide_eq_true_eq]
  unfold ShownAs
  split
  · refine ⟨⟨signed x, digitsOf 0, []⟩, Numeral.neat_digitsOf _ 0, rfl, ?_, rfl⟩
    exact mul_eq_zero_of_left Nat.cast_zero _
  · rename_i filled
    have shortest := Binary.shortest_spec (ofFloat_magnitude finite filled)
    obtain ⟨m, neat, sign, unsigned, value⟩ := Numeral.exists_positional (signed x) shortest.reduced
    exact ⟨m, neat, sign, ⟨_, shortest, value.symm⟩, unsigned⟩

/-- A finite float is read back from its text. -/
theorem readFloat?_floatText : readFloat? (floatText x) = some x := by
  obtain ⟨m, neat, sign, shown, chars⟩ := exists_numeral finite
  exact neat.reads finite sign shown chars

end

end CommandScript.Decimal
