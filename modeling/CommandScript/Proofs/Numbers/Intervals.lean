import Mathlib.Algebra.Order.Field.Power
import Mathlib.Tactic.FieldSimp
import Mathlib.Tactic.Positivity
import Mathlib.Tactic.Ring
import Mathlib.Tactic.Linarith
import CommandScript.Decimal.Shortest
import CommandScript.Proofs.Numbers.Floats

/-! What a decimal is read as. Every positive float has an interval around it, with its ends if the mantissa is even,
    and a decimal is read as the float in whose interval it is. -/

namespace CommandScript.Decimal

/-- What a decimal is worth. -/
def Scaled.value (d : Scaled) : ℚ :=
  d.digits * 10 ^ d.exponent

/-- What a binary fraction is worth. -/
def Binary.value (b : Binary) : ℚ :=
  b.mantissa * 2 ^ b.exponent

/-- The end of the interval of a binary fraction below it. -/
def Binary.low (b : Binary) : ℚ :=
  (4 * b.mantissa - b.gaps.1) * 2 ^ (b.exponent - 2)

/-- The end of the interval of a binary fraction above it. -/
def Binary.high (b : Binary) : ℚ :=
  (4 * b.mantissa + b.gaps.2) * 2 ^ (b.exponent - 2)

/-- Whether a rational number is in the interval of a binary fraction. -/
def Binary.Has (b : Binary) (v : ℚ) : Prop :=
  b.low ≤ v ∧ v ≤ b.high ∧ (b.mantissa % 2 = 1 → b.low < v ∧ v < b.high)

/-- A binary fraction that is the absolute value of a finite float and not zero. -/
structure Binary.OfFloat (b : Binary) : Prop where
  positive : 0 < b.mantissa
  short : b.mantissa < 2 ^ 53
  floor : -1074 ≤ b.exponent
  full : 2 ^ 52 ≤ b.mantissa ∨ b.exponent = -1074
  ceiling : b.exponent ≤ 971

/-- The exponent and the mantissa of a float as its bits, one behind the other. -/
def packed (exponent : Int) (mantissa : Nat) : Nat :=
  if mantissa < 2 ^ 52 then mantissa else (exponent + 1075).toNat * 2 ^ 52 + (mantissa - 2 ^ 52)

theorem packed_of_le {e : Int} {m : Nat} (h : 2 ^ 52 ≤ m) :
    packed e m = (e + 1075).toNat * 2 ^ 52 + (m - 2 ^ 52) :=
  if_neg (Nat.not_lt.mpr h)

/-- A mantissa that has carried counts the exponent up. -/
theorem packed_carry {e : Int} (h : -1075 ≤ e) : packed e (2 ^ 53) = packed (e + 1) (2 ^ 52) := by
  rw [packed_of_le (by decide), packed_of_le (Nat.le_refl _)]
  omega

theorem ofFloat_ofBits {bits : Nat} (positive : 0 < bits) (finite : bits < 2047 * 2 ^ 52) :
    (Binary.ofBits bits).OfFloat ∧ packed (Binary.ofBits bits).exponent (Binary.ofBits bits).mantissa = bits := by
  have power : twoTo 52 = 2 ^ 52 := rfl
  unfold Binary.ofBits
  rw [power]
  dsimp only
  split
  · have small : bits % 2 ^ 52 = bits := by omega
    exact ⟨⟨by dsimp only; omega, by dsimp only; omega, le_refl _, Or.inr rfl, by dsimp only; omega⟩,
      by rw [packed]; dsimp only; rw [if_pos (by omega), small]⟩
  · refine ⟨⟨by dsimp only; omega, by dsimp only; omega, by dsimp only; omega, Or.inl (by dsimp only; omega), by
      dsimp only; omega⟩, ?_⟩
    rw [packed]
    dsimp only
    rw [if_neg (by omega), show ((bits / 2 ^ 52 : Nat) - 1075 + 1075 : Int).toNat = bits / 2 ^ 52 by omega]
    omega

/-! ### Rounding -/

section
variable {n d : Nat} (hd : 0 < d)
include hd

theorem halfEven_bounds : 2 * (halfEven n d * d) ≤ 2 * n + d ∧ 2 * n ≤ 2 * (halfEven n d * d) + d ∧
    (halfEven n d % 2 = 1 → 2 * (halfEven n d * d) < 2 * n + d ∧ 2 * n < 2 * (halfEven n d * d) + d) := by
  have split : n = n / d * d + n % d := (Nat.div_add_mod' n d).symm
  have rest := Nat.mod_lt n hd
  rcases halfEven_cases n d with ⟨down, side⟩ | ⟨up, side⟩
  · rw [down]
    omega
  · have next : (n / d + 1) * d = n / d * d + d := Nat.add_one_mul _ _
    rw [up]
    omega

/-- Not both of two numbers are as near as half a step and, where they are equally near, even. -/
theorem not_both_near {m m' : Nat} (lt : m < m') (high : 2 * n ≤ 2 * (m * d) + d)
    (low : 2 * (m' * d) ≤ 2 * n + d) (strict : m % 2 = 1 → 2 * n < 2 * (m * d) + d)
    (strict' : m' % 2 = 1 → 2 * (m' * d) < 2 * n + d) : False := by
  rcases Nat.eq_or_lt_of_le lt with next | more
  · have apart : (m + 1) * d = m * d + d := Nat.add_one_mul _ _
    obtain rfl : m' = m + 1 := next.symm
    omega
  · have apart := Nat.mul_le_mul_right d more
    rw [Nat.succ_mul, Nat.succ_mul] at apart
    omega

theorem halfEven_eq_iff {m : Nat} : halfEven n d = m ↔
    2 * (m * d) ≤ 2 * n + d ∧ 2 * n ≤ 2 * (m * d) + d ∧
      (m % 2 = 1 → 2 * (m * d) < 2 * n + d ∧ 2 * n < 2 * (m * d) + d) := by
  obtain ⟨low, high, strict⟩ := halfEven_bounds (n := n) hd
  constructor
  · rintro rfl
    exact ⟨low, high, strict⟩
  · rintro ⟨low', high', strict'⟩
    rcases Nat.lt_trichotomy (halfEven n d) m with lt | same | gt
    · exact (not_both_near hd lt high low' (fun odd => (strict odd).2) fun odd => (strict' odd).1).elim
    · exact same
    · exact (not_both_near hd gt high' low (fun odd => (strict' odd).2) fun odd => (strict odd).1).elim

end

/-! ### Powers of two -/

theorem two_zpow_pos (e : Int) : (0 : ℚ) < 2 ^ e :=
  zpow_pos two_pos e

theorem four_mul (e : Int) : (2 : ℚ) ^ e = 4 * 2 ^ (e - 2) := by
  rw [zpow_sub₀ two_ne_zero]
  norm_num
  ring

theorem double (e : Int) : (2 : ℚ) ^ e = 2 * 2 ^ (e - 1) := by
  rw [zpow_sub₀ two_ne_zero]
  norm_num
  ring

theorem zpow_53 (e : Int) : (2 : ℚ) ^ (53 + e) = 2 ^ 55 * 2 ^ (e - 2) := by
  rw [zpow_add₀ two_ne_zero, four_mul e]
  norm_num
  ring

theorem zpow_52 (e : Int) : (2 : ℚ) ^ (52 + e) = 2 ^ 54 * 2 ^ (e - 2) := by
  rw [zpow_add₀ two_ne_zero, four_mul e]
  norm_num
  ring

/-- A number is rounded to `r` by steps of a power of two: to the nearest multiple, or to the even one of two. -/
def RoundsTo (v : ℚ) (e : Int) (r : Nat) : Prop :=
  (4 * r - 2) * 2 ^ (e - 2) ≤ v ∧ v ≤ (4 * r + 2) * 2 ^ (e - 2) ∧
    (r % 2 = 1 → (4 * r - 2) * 2 ^ (e - 2) < v ∧ v < (4 * r + 2) * 2 ^ (e - 2))

/-! ### Scaling -/

section
variable {num den : Nat} (hden : 0 < den) (e : Int)
include hden

/-- The quotient of numbers scaled by a power of two is their quotient divided by it. -/
theorem scaled_div : ((num * 2 ^ (-e).toNat : Nat) : ℚ) / ((den * 2 ^ e.toNat : Nat) : ℚ) = num / den / 2 ^ e := by
  have hd : (den : ℚ) ≠ 0 := Nat.cast_ne_zero.mpr hden.ne'
  have power : (2 : ℚ) ^ e * 2 ^ (-e).toNat = 2 ^ e.toNat := by
    rw [← zpow_natCast, ← zpow_natCast, ← zpow_add₀ two_ne_zero]
    congr 1
    omega
  have two : (2 : ℚ) ^ e ≠ 0 := zpow_ne_zero _ two_ne_zero
  rw [div_div, div_eq_div_iff (by positivity) (by positivity)]
  push_cast
  rw [← power]
  ring

theorem le_scaled_div {k : Nat} :
    k ≤ num * 2 ^ (-e).toNat / (den * 2 ^ e.toNat) ↔ (k : ℚ) * 2 ^ e ≤ num / den := by
  have positive : 0 < den * 2 ^ e.toNat := Nat.mul_pos hden (Nat.two_pow_pos _)
  have positive' : (0 : ℚ) < ((den * 2 ^ e.toNat : Nat) : ℚ) := Nat.cast_pos.mpr positive
  rw [Nat.le_div_iff_mul_le positive, ← le_div_iff₀ (by positivity), ← scaled_div hden, le_div_iff₀ positive']
  exact_mod_cast Iff.rfl

/-- What a scaled quotient is rounded to. -/
theorem halfEven_scaled_iff {m : Nat} :
    halfEven (num * 2 ^ (-e).toNat) (den * 2 ^ e.toNat) = m ↔ RoundsTo (num / den) e m := by
  have scale (k : ℚ) : (4 * k - 2) * 2 ^ (e - 2) = (k - 1 / 2) * 2 ^ e ∧
      (4 * k + 2) * 2 ^ (e - 2) = (k + 1 / 2) * 2 ^ e := by
    rw [four_mul e]
    constructor <;> ring
  rw [RoundsTo, (scale m).1, (scale m).2]
  have positive : 0 < den * 2 ^ e.toNat := Nat.mul_pos hden (Nat.two_pow_pos _)
  have two : (0 : ℚ) < 2 ^ e := by positivity
  have scaled := @scaled_div num den hden e
  rw [halfEven_eq_iff positive, ← le_div_iff₀ two, ← div_le_iff₀ two, ← lt_div_iff₀ two, ← div_lt_iff₀ two, ← scaled]
  generalize num * 2 ^ (-e).toNat = n at *
  generalize den * 2 ^ e.toNat = d at *
  have hd : (0 : ℚ) < d := Nat.cast_pos.mpr positive
  have cast (a b : Nat) : a ≤ b ↔ (a : ℚ) ≤ b := Nat.cast_le.symm
  have cast' (a b : Nat) : a < b ↔ (a : ℚ) < b := Nat.cast_lt.symm
  have low : 2 * (m * d) ≤ 2 * n + d ↔ (m : ℚ) - 1 / 2 ≤ n / d := by
    rw [le_div_iff₀ hd, cast]
    push_cast
    constructor <;> intro h <;> linarith
  have high : 2 * n ≤ 2 * (m * d) + d ↔ (n / d : ℚ) ≤ m + 1 / 2 := by
    rw [div_le_iff₀ hd, cast]
    push_cast
    constructor <;> intro h <;> linarith
  have low' : 2 * (m * d) < 2 * n + d ↔ (m : ℚ) - 1 / 2 < n / d := by
    rw [lt_div_iff₀ hd, cast']
    push_cast
    constructor <;> intro h <;> linarith
  have high' : 2 * n < 2 * (m * d) + d ↔ (n / d : ℚ) < m + 1 / 2 := by
    rw [div_lt_iff₀ hd, cast']
    push_cast
    constructor <;> intro h <;> linarith
  rw [low, high, low', high']

end

/-! ### The exponent of the nearest float -/

/-- An exponent with which a number has 53 bits, or fewer if there is no smaller exponent. -/
structure Exponent (v : ℚ) (e : Int) : Prop where
  floor : -1074 ≤ e
  below : v < 2 ^ (53 + e)
  full : 2 ^ (52 + e) ≤ v ∨ e = -1074

theorem zpow_lt {a b : Int} {v : ℚ} (h : 2 ^ a ≤ v) (h' : v < 2 ^ b) : a < b :=
  (zpow_lt_zpow_iff_right₀ one_lt_two).mp (h.trans_lt h')

theorem Exponent.le {v : ℚ} {e e' : Int} (h : Exponent v e) (h' : Exponent v e') : e ≤ e' := by
  rcases h.full with full | rfl
  · have := zpow_lt full h'.below
    omega
  · exact h'.floor

theorem Exponent.unique {v : ℚ} {e e' : Int} (h : Exponent v e) (h' : Exponent v e') : e = e' :=
  Int.le_antisymm (h.le h') (h'.le h)

/-- The exponent that `nearestBits` takes. -/
def exponentOf (num den : Nat) : Int :=
  let low : Int := max ((num.log2 : Int) - den.log2 - 53) (-1074)
  if 2 ^ 53 ≤ num * 2 ^ (-low).toNat / (den * 2 ^ low.toNat) then low + 1 else low

theorem nearestBits_eq {num : Nat} (h : 0 < num) (den : Nat) : nearestBits num den =
    min (packed (exponentOf num den) (halfEven (num * 2 ^ (-exponentOf num den).toNat)
      (den * 2 ^ (exponentOf num den).toNat))) (2047 * 2 ^ 52) := by
  have power (k : Nat) : twoTo k = 2 ^ k := rfl
  unfold nearestBits
  simp only [if_neg h.ne', power, halfEven_eq]
  rfl

theorem quotient_bounds_log2 {num den : Nat} (h : 0 < num) (hden : 0 < den) :
    (2 : ℚ) ^ ((num.log2 : Int) - den.log2 - 1) ≤ num / den ∧
      (num / den : ℚ) < 2 ^ ((num.log2 : Int) - den.log2 + 1) := by
  have cast {a b : Nat} (h : a ≤ b) : (a : ℚ) ≤ b := Nat.cast_le.mpr h
  have cast' {a b : Nat} (h : a < b) : (a : ℚ) < b := Nat.cast_lt.mpr h
  have low := cast (Nat.log2_self_le h.ne')
  have high := cast' (Nat.lt_log2_self (n := num))
  have low' := cast (Nat.log2_self_le hden.ne')
  have high' := cast' (Nat.lt_log2_self (n := den))
  push_cast at low high low' high'
  have positive : (0 : ℚ) < den := Nat.cast_pos.mpr hden
  rw [le_div_iff₀ positive, div_lt_iff₀ positive]
  constructor
  · calc (2 : ℚ) ^ ((num.log2 : Int) - den.log2 - 1) * den
        ≤ 2 ^ ((num.log2 : Int) - den.log2 - 1) * 2 ^ (den.log2 + 1) := by gcongr
      _ = 2 ^ num.log2 := by
        rw [← zpow_natCast, ← zpow_natCast, ← zpow_add₀ two_ne_zero]
        congr 1
        push_cast
        omega
      _ ≤ num := low
  · calc (num : ℚ) < 2 ^ (num.log2 + 1) := high
      _ = 2 ^ ((num.log2 : Int) - den.log2 + 1) * 2 ^ den.log2 := by
        rw [← zpow_natCast, ← zpow_natCast, ← zpow_add₀ two_ne_zero]
        congr 1
        push_cast
        omega
      _ ≤ 2 ^ ((num.log2 : Int) - den.log2 + 1) * den := by gcongr

theorem exponent_exponentOf {num den : Nat} (h : 0 < num) (hden : 0 < den) :
    Exponent (num / den) (exponentOf num den) := by
  obtain ⟨low, high⟩ := quotient_bounds_log2 h hden
  unfold exponentOf
  dsimp only
  generalize hl : max ((num.log2 : Int) - den.log2 - 53) (-1074) = l
  have mono {a b : Int} (h : a ≤ b) : (2 : ℚ) ^ a ≤ 2 ^ b := zpow_le_zpow_right₀ one_le_two h
  have full_iff : 2 ^ 53 ≤ num * 2 ^ (-l).toNat / (den * 2 ^ l.toNat) ↔ (2 : ℚ) ^ (53 + l) ≤ num / den := by
    rw [le_scaled_div hden, zpow_add₀ two_ne_zero]
    norm_num
  split
  · rename_i full
    rw [full_iff] at full
    have := zpow_lt full high
    exact ⟨by omega, high.trans_le (mono (by omega)), Or.inl ((mono (by omega)).trans full)⟩
  · rename_i below
    rw [full_iff] at below
    refine ⟨by omega, not_le.mp below, ?_⟩
    by_cases floor : l = -1074
    · exact Or.inr floor
    · exact Or.inl ((mono (by omega)).trans low)

/-! ### The nearest float -/

/-- Below a power of two floats are twice as dense. -/
theorem Binary.gaps_cases (b : Binary) :
    (b.mantissa = 2 ^ 52 ∧ -1074 < b.exponent ∧ b.gaps = (1, 2)) ∨
      ((b.mantissa ≠ 2 ^ 52 ∨ b.exponent ≤ -1074) ∧ b.gaps = (2, 2)) := by
  have power : twoTo 52 = 2 ^ 52 := rfl
  unfold Binary.gaps
  rw [power]
  split
  · rename_i narrow
    rw [Bool.and_eq_true, decide_eq_true_eq, decide_eq_true_eq] at narrow
    exact Or.inl ⟨narrow.1, narrow.2, rfl⟩
  · rename_i wide
    rw [Bool.and_eq_true, decide_eq_true_eq, decide_eq_true_eq] at wide
    exact Or.inr ⟨by omega, rfl⟩

section
variable {b : Binary} {v : ℚ}

/-- Between floats that are equally dense, the interval of a float has the numbers that are rounded to it. -/
theorem Binary.has_iff_roundsTo (gaps : b.gaps = (2, 2)) : b.Has v ↔ RoundsTo v b.exponent b.mantissa := by
  rw [Has, low, high, gaps, RoundsTo]
  push_cast
  rfl

/-- The interval of a power of two is shorter below than above. -/
theorem Binary.has_iff_of_power (power : b.mantissa = 2 ^ 52) (gaps : b.gaps = (1, 2)) : b.Has v ↔
    (2 ^ 54 - 1) * 2 ^ (b.exponent - 2) ≤ v ∧ v ≤ (2 ^ 54 + 2) * 2 ^ (b.exponent - 2) := by
  have cast : (b.mantissa : ℚ) = 2 ^ 52 := by exact_mod_cast power
  rw [Has, low, high, gaps, cast, power]
  norm_num

end

/-! ### From the interval to the bits -/

section
variable {b : Binary} {v : ℚ} (hb : b.OfFloat) (has : b.Has v)
include hb has

theorem exists_rounded_of_power (power : b.mantissa = 2 ^ 52) (least : -1074 < b.exponent) (gaps : b.gaps = (1, 2)) :
    ∃ e r, Exponent v e ∧ RoundsTo v e r ∧ packed e r = packed b.exponent b.mantissa := by
  obtain ⟨low, high⟩ := (Binary.has_iff_of_power power gaps).mp has
  have cast : (b.mantissa : ℚ) = 2 ^ 52 := by exact_mod_cast power
  have half : (2 : ℚ) ^ (b.exponent - 1 - 2) * 2 = 2 ^ (b.exponent - 2) := by
    rw [double (b.exponent - 2), mul_comm]
    congr 2
    omega
  have unit := two_zpow_pos (b.exponent - 1 - 2)
  by_cases under : v < 2 ^ 54 * 2 ^ (b.exponent - 2)
  · -- Below the power of two the exponent is one less, and the number is rounded up to the power.
    refine ⟨b.exponent - 1, 2 ^ 53, ⟨by omega, ?_, Or.inl ?_⟩, ⟨?_, ?_, by simp⟩, ?_⟩
    · rw [show 53 + (b.exponent - 1) = 52 + b.exponent by omega, zpow_52]
      exact under
    · rw [zpow_52]
      rw [← half] at low
      linarith
    · rw [← half] at low
      push_cast
      linarith
    · rw [← half] at under
      push_cast
      linarith
    · rw [packed_carry (by omega), Int.sub_add_cancel, power]
  · refine ⟨b.exponent, b.mantissa, ⟨hb.floor, ?_, Or.inl ?_⟩, ⟨?_, ?_, by omega⟩, rfl⟩
    · rw [zpow_53]
      rw [← half] at high ⊢
      linarith
    · rw [zpow_52]
      exact not_lt.mp under
    · rw [cast]
      rw [← half] at low ⊢
      linarith
    · rw [cast]
      rw [← half] at high ⊢
      linarith

theorem rounded_of_wide (wide : b.mantissa ≠ 2 ^ 52 ∨ b.exponent ≤ -1074) (gaps : b.gaps = (2, 2)) :
    Exponent v b.exponent ∧ RoundsTo v b.exponent b.mantissa := by
  have rounded := (Binary.has_iff_roundsTo gaps).mp has
  obtain ⟨low, high, -⟩ := rounded
  have unit := two_zpow_pos (b.exponent - 2)
  have short : (b.mantissa : ℚ) + 1 ≤ 2 ^ 53 := by exact_mod_cast hb.short
  refine ⟨⟨hb.floor, ?_, ?_⟩, (Binary.has_iff_roundsTo gaps).mp has⟩
  · rw [zpow_53]
    nlinarith
  · rcases hb.full with many | floor
    · rcases wide with other | floor
      · have more : (2 : ℚ) ^ 52 + 1 ≤ b.mantissa := by exact_mod_cast (show 2 ^ 52 + 1 ≤ b.mantissa by omega)
        rw [zpow_52]
        exact Or.inl (by nlinarith)
      · exact Or.inr (le_antisymm floor hb.floor)
    · exact Or.inr floor

end

/-- The float nearest to a number in the interval of a float is that float. -/
theorem nearestBits_of_has {num den bits : Nat} (h : 0 < num) (hden : 0 < den) (positive : 0 < bits)
    (finite : bits < 2047 * 2 ^ 52) (has : (Binary.ofBits bits).Has (num / den)) : nearestBits num den = bits := by
  obtain ⟨hb, own⟩ := ofFloat_ofBits positive finite
  obtain ⟨e, r, exponent, rounded, same⟩ : ∃ e r, Exponent (num / den) e ∧ RoundsTo (num / den) e r ∧
      packed e r = packed (Binary.ofBits bits).exponent (Binary.ofBits bits).mantissa := by
    rcases (Binary.ofBits bits).gaps_cases with ⟨power, least, gaps⟩ | ⟨wide, gaps⟩
    · exact exists_rounded_of_power hb has power least gaps
    · obtain ⟨exponent, rounded⟩ := rounded_of_wide hb has wide gaps
      exact ⟨_, _, exponent, rounded, rfl⟩
  rw [nearestBits_eq h, (exponent_exponentOf h hden).unique exponent, (halfEven_scaled_iff hden e).mpr rounded, same,
    own]
  omega

/-! ### From the bits to the interval -/

theorem ofBits_of_lt {r : Nat} (h : r < 2 ^ 52) : Binary.ofBits r = ⟨r, -1074⟩ := by
  have power : twoTo 52 = 2 ^ 52 := rfl
  unfold Binary.ofBits
  dsimp only
  rw [power, if_pos (Nat.div_eq_of_lt h), Nat.mod_eq_of_lt h]

theorem ofBits_packed {e : Int} {r : Nat} (floor : -1074 ≤ e) (many : 2 ^ 52 ≤ r) (short : r < 2 ^ 53) :
    Binary.ofBits (packed e r) = ⟨r, e⟩ := by
  have power : twoTo 52 = 2 ^ 52 := rfl
  rw [packed_of_le many]
  have field : ((e + 1075).toNat * 2 ^ 52 + (r - 2 ^ 52)) / 2 ^ 52 = (e + 1075).toNat := by omega
  have fraction : ((e + 1075).toNat * 2 ^ 52 + (r - 2 ^ 52)) % 2 ^ 52 = r - 2 ^ 52 := by omega
  unfold Binary.ofBits
  dsimp only
  rw [power, field, fraction, if_neg (by omega), Nat.add_sub_cancel' many,
    show (((e + 1075).toNat : Nat) : Int) - 1075 = e by omega]

section
variable {v : ℚ} {e : Int} {r : Nat} (exponent : Exponent v e) (rounded : RoundsTo v e r)
include exponent rounded

/-- A number is not rounded to more than 53 bits, but it may carry. -/
theorem RoundsTo.le_carry : r ≤ 2 ^ 53 := by
  have below := exponent.below
  rw [zpow_53] at below
  have unit := two_zpow_pos (e - 2)
  by_contra more
  have more : (2 : ℚ) ^ 53 + 1 ≤ r := by exact_mod_cast (show 2 ^ 53 + 1 ≤ r by omega)
  nlinarith [rounded.1]

/-- Fewer bits than 53 have the least exponent. -/
theorem RoundsTo.least (few : r < 2 ^ 52) : e = -1074 := by
  have unit := two_zpow_pos (e - 2)
  rcases exponent.full with full | least
  · rw [zpow_52] at full
    have few : (r : ℚ) + 1 ≤ 2 ^ 52 := by exact_mod_cast few
    nlinarith [rounded.2.1]
  · exact least

theorem RoundsTo.has_few (few : r < 2 ^ 52) : (Binary.ofBits (packed e r)).Has v := by
  obtain rfl := RoundsTo.least exponent rounded few
  rw [packed, if_pos few, ofBits_of_lt few]
  rcases (Binary.mk r (-1074)).gaps_cases with ⟨same, -, -⟩ | ⟨-, gaps⟩
  · exact absurd same (Nat.ne_of_lt few)
  · exact (Binary.has_iff_roundsTo gaps).mpr rounded

theorem RoundsTo.has_carried (carried : r = 2 ^ 53) : (Binary.ofBits (packed e r)).Has v := by
  obtain ⟨low, high, -⟩ := rounded
  have floor := exponent.floor
  have below := exponent.below
  have unit := two_zpow_pos (e - 2)
  have cast : (r : ℚ) = 2 ^ 53 := by exact_mod_cast carried
  have twice : (2 : ℚ) ^ (e + 1 - 2) = 2 * 2 ^ (e - 2) := by
    rw [double]
    congr 2
    omega
  rw [zpow_53] at below
  rw [cast] at low
  rw [carried, packed_carry (by omega), ofBits_packed (by omega) (le_refl _) (by decide)]
  rcases (Binary.mk (2 ^ 52) (e + 1)).gaps_cases with ⟨power, -, gaps⟩ | ⟨wide, -⟩
  · refine (Binary.has_iff_of_power power gaps).mpr ⟨?_, ?_⟩
    · rw [twice]
      linarith
    · rw [twice]
      linarith
  · dsimp only at wide
    omega

theorem RoundsTo.has_full (many : 2 ^ 52 ≤ r) (short : r < 2 ^ 53) : (Binary.ofBits (packed e r)).Has v := by
  rw [ofBits_packed exponent.floor many short]
  rcases (Binary.mk r e).gaps_cases with ⟨power, above, gaps⟩ | ⟨-, gaps⟩
  · -- The number is not below the power of two, since it has 53 bits.
    have full := exponent.full.resolve_right (by dsimp only at above; omega)
    have cast : (r : ℚ) = 2 ^ 52 := by exact_mod_cast power
    have unit := two_zpow_pos (e - 2)
    have high := rounded.2.1
    rw [zpow_52] at full
    rw [cast] at high
    refine (Binary.has_iff_of_power power gaps).mpr ⟨?_, ?_⟩
    · dsimp only
      linarith
    · dsimp only
      linarith
  · exact (Binary.has_iff_roundsTo gaps).mpr rounded

theorem RoundsTo.has : (Binary.ofBits (packed e r)).Has v := by
  rcases Nat.lt_or_ge r (2 ^ 52) with few | many
  · exact RoundsTo.has_few exponent rounded few
  · rcases Nat.eq_or_lt_of_le (RoundsTo.le_carry exponent rounded) with carried | short
    · exact RoundsTo.has_carried exponent rounded carried
    · exact RoundsTo.has_full exponent rounded many short

end

/-- A number is in the interval of the float nearest to it. -/
theorem has_of_nearestBits {num den : Nat} (h : 0 < num) (hden : 0 < den)
    (finite : nearestBits num den < 2047 * 2 ^ 52) : (Binary.ofBits (nearestBits num den)).Has (num / den) := by
  have exponent := exponent_exponentOf h hden
  have rounded : RoundsTo (num / den) (exponentOf num den) (halfEven (num * 2 ^ (-exponentOf num den).toNat)
      (den * 2 ^ (exponentOf num den).toNat)) := (halfEven_scaled_iff hden _).mp rfl
  have eq := nearestBits_eq h den
  have pack : nearestBits num den = packed (exponentOf num den) (halfEven (num * 2 ^ (-exponentOf num den).toNat)
      (den * 2 ^ (exponentOf num den).toNat)) := by omega
  rw [pack]
  exact RoundsTo.has exponent rounded

/-! ### Reading decimals -/

/-- The bits, without the sign, of the float that a decimal is read as. -/
def readBits (mantissa : Nat) (exponent : Int) : Nat :=
  if mantissa = 0 || exponent + ((mantissa.log2 : Int) / 3 + 1) < -330 then 0
  else if exponent > 310 then 2047 * twoTo 52
  else nearestBits (mantissa * tenTo exponent.toNat) (tenTo (-exponent).toNat)

theorem nearestFloat_eq (negative : Bool) (mantissa : Nat) (exponent : Int) :
    nearestFloat negative mantissa exponent = Float.ofBits (UInt64.ofNat
      (if negative then readBits mantissa exponent + twoTo 63 else readBits mantissa exponent)) :=
  rfl

theorem Binary.OfFloat.bounds {b : Binary} (h : b.OfFloat) :
    (2 : ℚ) ^ (-1075 : Int) ≤ b.low ∧ b.high ≤ 2 ^ (1024 : Int) := by
  have positive : (1 : ℚ) ≤ b.mantissa := by exact_mod_cast h.positive
  have short : (b.mantissa : ℚ) + 1 ≤ 2 ^ 53 := by exact_mod_cast h.short
  have least : (2 : ℚ) ^ (-1076 : Int) ≤ 2 ^ (b.exponent - 2) :=
    zpow_le_zpow_right₀ one_le_two (by have := h.floor; omega)
  have most : (2 : ℚ) ^ (b.exponent - 2) ≤ 2 ^ (969 : Int) :=
    zpow_le_zpow_right₀ one_le_two (by have := h.ceiling; omega)
  have low : (2 : ℚ) ^ (-1075 : Int) = 2 * 2 ^ (-1076 : Int) := double _
  have high : (2 : ℚ) ^ (1024 : Int) = 2 ^ 55 * 2 ^ (969 : Int) := by
    rw [← zpow_natCast, ← zpow_add₀ two_ne_zero]
    rfl
  have down : (b.gaps.1 : ℚ) ≤ 2 := by
    rcases b.gaps_cases with ⟨-, -, gaps⟩ | ⟨-, gaps⟩ <;> rw [gaps] <;> norm_num
  have up : b.gaps.2 = 2 := by
    rcases b.gaps_cases with ⟨-, -, gaps⟩ | ⟨-, gaps⟩ <;> rw [gaps]
  rw [Binary.low, Binary.high, low, high, up]
  exact ⟨mul_le_mul (by linarith) least (two_zpow_pos _).le (by linarith),
    mul_le_mul (by push_cast; linarith) most (two_zpow_pos _).le (by norm_num)⟩

theorem lt_ten_pow (m : Nat) : m < 10 ^ (m.log2 / 3 + 1) := by
  calc m < 2 ^ (m.log2 + 1) := Nat.lt_log2_self
    _ ≤ 2 ^ (3 * (m.log2 / 3 + 1)) := Nat.pow_le_pow_right (by decide) (by omega)
    _ = 8 ^ (m.log2 / 3 + 1) := Nat.pow_mul ..
    _ ≤ 10 ^ (m.log2 / 3 + 1) := Nat.pow_le_pow_left (by decide) _

theorem decimal_div (m : Nat) (e : Int) :
    ((m * tenTo e.toNat : Nat) : ℚ) / ((tenTo (-e).toNat : Nat) : ℚ) = m * 10 ^ e := by
  have power : (10 : ℚ) ^ e * 10 ^ (-e).toNat = 10 ^ e.toNat := by
    rw [← zpow_natCast, ← zpow_natCast, ← zpow_add₀ (by norm_num)]
    congr 1
    omega
  have ten (k : Nat) : ((tenTo k : Nat) : ℚ) = 10 ^ k := by
    show ((10 ^ k : Nat) : ℚ) = _
    push_cast
    rfl
  push_cast
  rw [ten, ten, ← power]
  field_simp

/-- A decimal is read as the float in whose interval it is. -/
theorem readBits_eq_iff {m bits : Nat} {e : Int} (hm : 0 < m) (positive : 0 < bits) (finite : bits < 2047 * 2 ^ 52) :
    readBits m e = bits ↔ (Binary.ofBits bits).Has (m * 10 ^ e) := by
  have power : twoTo 52 = 2 ^ 52 := rfl
  obtain ⟨low, high⟩ := (ofFloat_ofBits positive finite).1.bounds
  have digits : 0 < m * tenTo e.toNat := Nat.mul_pos hm (Nat.pow_pos (by decide))
  have places : 0 < tenTo (-e).toNat := Nat.pow_pos (by decide)
  unfold readBits
  split
  · rename_i small
    have small : e + ((m.log2 : Int) / 3 + 1) < -330 := by simpa [hm.ne'] using small
    refine iff_of_false (by omega) fun has => ?_
    have digits : (m : ℚ) < 10 ^ (m.log2 / 3 + 1) := by exact_mod_cast lt_ten_pow m
    have tiny : (10 : ℚ) ^ (-330 : Int) < 2 ^ (-1075 : Int) := by
      have powers : (2 : Nat) ^ 1075 < 10 ^ 330 := by decide +kernel
      rw [zpow_neg, zpow_neg]
      exact inv_strictAnti₀ (by positivity) (by exact_mod_cast powers)
    have := calc (m : ℚ) * 10 ^ e ≤ 10 ^ (m.log2 / 3 + 1) * 10 ^ e := by gcongr
      _ = 10 ^ (((m.log2 / 3 + 1 : Nat) : Int) + e) := by rw [zpow_add₀ (by norm_num), zpow_natCast]
      _ ≤ 10 ^ (-330 : Int) := zpow_le_zpow_right₀ (by norm_num) (by push_cast; omega)
    exact absurd (low.trans (has.1.trans this)) (not_le.mpr tiny)
  · split
    · rename_i large
      refine iff_of_false (by omega) fun has => ?_
      have powers : (2 : Nat) ^ 1024 < 10 ^ 311 := by decide +kernel
      have huge : (2 : ℚ) ^ (1024 : Int) < 10 ^ (311 : Int) := by exact_mod_cast powers
      have one : (1 : ℚ) ≤ m := by exact_mod_cast hm
      have := calc (10 : ℚ) ^ (311 : Int) ≤ 10 ^ e := zpow_le_zpow_right₀ (by norm_num) (by omega)
        _ ≤ m * 10 ^ e := le_mul_of_one_le_left (by positivity) one
      exact absurd (this.trans (has.2.1.trans high)) (not_le.mpr huge)
    · rw [← decimal_div]
      constructor
      · rintro rfl
        exact has_of_nearestBits digits places finite
      · exact nearestBits_of_has digits places positive finite

/-- What a decimal is read as, from its bits without the sign. -/
theorem nearestFloat_eq_of_readBits {x : Float} (finite : x.isFinite = true) {m : Nat} {e : Int}
    (h : readBits m e = magnitude x) : nearestFloat (signed x) m e = x := by
  have power : twoTo 63 = 2 ^ 63 := rfl
  have lt := x.toBits.toBitVec.isLt
  have bits : (if signed x = true then readBits m e + twoTo 63 else readBits m e) = x.toBits.toNat := by
    rw [h, magnitude, signed, power]
    show _ = x.toBits.toBitVec.toNat
    change x.toBits.toBitVec.toNat < 2 ^ 64 at lt
    split
    · rename_i negative
      rw [decide_eq_true_eq] at negative
      change x.toBits.toBitVec.toNat ≥ 2 ^ 63 at negative
      show x.toBits.toBitVec.toNat % 2 ^ 63 + 2 ^ 63 = _
      omega
    · rename_i positive
      rw [decide_eq_true_eq] at positive
      change ¬x.toBits.toBitVec.toNat ≥ 2 ^ 63 at positive
      show x.toBits.toBitVec.toNat % 2 ^ 63 = _
      omega
  rw [nearestFloat_eq, bits, UInt64.ofNat_toNat, ofBits_toBits finite]

end CommandScript.Decimal
