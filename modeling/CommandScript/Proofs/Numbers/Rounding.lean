import Mathlib.Data.Nat.Dist
import CommandScript.Decimal.Nearest

/-! Rounding whole numbers to 53 significant bits. The nearest number that has so few is taken, and of two equally near
    the one whose last bit is zero. -/

namespace CommandScript.Decimal

/-- The distance between the numbers of 53 bits that are as large as `m`. -/
def spacing (m : Nat) : Nat :=
  2 ^ (m.log2 - 52)

/-- The quotient of two numbers, rounded, and to an even number if it is in the middle. -/
def halfEven (n d : Nat) : Nat :=
  if 2 * (n % d) > d ∨ (2 * (n % d) = d ∧ n / d % 2 = 1) then n / d + 1 else n / d

/-- How many spacings are in `m`, rounded. -/
def roundedQuotient (m : Nat) : Nat :=
  halfEven m (spacing m)

/-- A natural number rounded to 53 bits. -/
def roundNat (m : Nat) : Nat :=
  roundedQuotient m * spacing m

/-- A whole number rounded to 53 bits. -/
def roundWhole (n : Int) : Int :=
  n.sign * roundNat n.natAbs

/-- Whether a natural number has at most 53 significant bits. -/
def Short (r : Nat) : Prop :=
  ∃ q e, q ≤ 2 ^ 53 ∧ r = q * 2 ^ e

theorem spacing_pos (m : Nat) : 0 < spacing m :=
  Nat.two_pow_pos _

theorem halfEven_cases (n d : Nat) :
    halfEven n d = n / d ∧ (2 * (n % d) < d ∨ 2 * (n % d) = d ∧ n / d % 2 = 0) ∨
      halfEven n d = n / d + 1 ∧ (d < 2 * (n % d) ∨ 2 * (n % d) = d ∧ n / d % 2 = 1) := by
  rw [halfEven]
  split
  · rename_i up
    exact Or.inr ⟨rfl, up⟩
  · exact Or.inl ⟨rfl, by omega⟩

theorem spacing_of_lt {m : Nat} (h : m < 2 ^ 53) : spacing m = 1 := by
  have small : m.log2 ≤ 52 := by
    rcases Nat.eq_zero_or_pos m with rfl | positive
    · decide
    · exact Nat.le_of_lt_succ ((Nat.log2_lt positive.ne').mpr h)
  rw [spacing, Nat.sub_eq_zero_of_le small, Nat.pow_zero]

theorem roundNat_of_lt {m : Nat} (h : m < 2 ^ 53) : roundNat m = m := by
  rw [roundNat, roundedQuotient, halfEven, spacing_of_lt h, Nat.mod_one, Nat.div_one, Nat.mul_one, if_neg]
  omega

/-- The greatest power of two in `m` has at least 53 bits, and is some number of spacings. -/
theorem two_pow_log2 {m : Nat} (h : 2 ^ 52 ≤ m) : 2 ^ m.log2 = 2 ^ 52 * spacing m := by
  have large : 52 ≤ m.log2 := (Nat.le_log2 (by omega)).mpr h
  rw [spacing, ← Nat.pow_add, Nat.add_sub_cancel' large]

theorem quotient_bounds {m : Nat} (h : 2 ^ 52 ≤ m) : 2 ^ 52 ≤ m / spacing m ∧ m / spacing m < 2 ^ 53 := by
  have low := Nat.log2_self_le (n := m) (by omega)
  have high := Nat.lt_log2_self (n := m)
  rw [Nat.pow_succ, two_pow_log2 h] at high
  rw [two_pow_log2 h] at low
  exact ⟨(Nat.le_div_iff_mul_le (spacing_pos m)).mpr low, (Nat.div_lt_iff_lt_mul (spacing_pos m)).mpr (by omega)⟩

theorem roundedQuotient_bounds {m : Nat} (h : 2 ^ 52 ≤ m) :
    2 ^ 52 ≤ roundedQuotient m ∧ roundedQuotient m ≤ 2 ^ 53 := by
  rw [roundedQuotient]
  have bounds := quotient_bounds h
  rcases halfEven_cases m (spacing m) with ⟨same, -⟩ | ⟨same, -⟩ <;> omega

/-! ### The nearest number -/

/-- Of the numbers of 53 bits, those that are at least as large as the greatest power of two in `m` are some number of
    spacings. -/
theorem Short.cases {r : Nat} (h : Short r) (m : Nat) : (∃ k, r = k * spacing m) ∨ r ≤ 2 ^ 52 * spacing m := by
  obtain ⟨q, e, hq, rfl⟩ := h
  by_cases coarse : m.log2 - 52 ≤ e
  · refine Or.inl ⟨q * 2 ^ (e - (m.log2 - 52)), ?_⟩
    rw [spacing, Nat.mul_assoc, ← Nat.pow_add, Nat.sub_add_cancel coarse]
  · refine Or.inr ?_
    have finer : 2 * 2 ^ e ≤ spacing m := by
      rw [← Nat.pow_succ']
      exact Nat.pow_le_pow_right (by decide) (by omega)
    have := Nat.mul_le_mul_right (2 ^ e) hq
    omega

theorem roundNat_short (m : Nat) : Short (roundNat m) := by
  by_cases h : 2 ^ 52 ≤ m
  · exact ⟨_, _, (roundedQuotient_bounds h).2, rfl⟩
  · exact ⟨m, 0, by omega, by rw [roundNat_of_lt (by omega), Nat.pow_zero, Nat.mul_one]⟩

/-- No number of 53 bits is nearer to a number than what it is rounded to, and if another one is as near, it is rounded
    to an even number of spacings. -/
theorem roundNat_nearest {m r : Nat} (h : Short r) :
    m.dist (roundNat m) ≤ m.dist r ∧
      (m.dist (roundNat m) = m.dist r → r ≠ roundNat m → roundedQuotient m % 2 = 0) := by
  unfold Nat.dist
  by_cases small : m < 2 ^ 52
  · rw [roundNat_of_lt (by omega)]
    omega
  have split := Nat.div_add_mod' m (spacing m)
  have rest := Nat.mod_lt m (spacing_pos m)
  have low := Nat.mul_le_mul_right (spacing m) (quotient_bounds (m := m) (by omega)).1
  rw [roundNat, roundedQuotient]
  have above := Nat.add_one_mul (m / spacing m) (spacing m)
  rcases h.cases m with ⟨k, rfl⟩ | below
  · -- A number of spacings is one of the two around `m`, or farther than both.
    have place : k = m / spacing m ∨ k = m / spacing m + 1 ∨
        k * spacing m + spacing m ≤ m / spacing m * spacing m ∨
        m / spacing m * spacing m + 2 * spacing m ≤ k * spacing m := by
      rcases Nat.lt_trichotomy k (m / spacing m) with lt | same | gt
      · exact Or.inr (Or.inr (Or.inl (Nat.succ_mul k _ ▸ Nat.mul_le_mul_right _ lt)))
      · exact Or.inl same
      · rcases Nat.eq_or_lt_of_le gt with same | gt
        · exact Or.inr (Or.inl same.symm)
        · refine Or.inr (Or.inr (Or.inr ?_))
          rw [← Nat.add_mul]
          exact Nat.mul_le_mul_right _ gt
    rcases halfEven_cases m (spacing m) with ⟨same, side⟩ | ⟨same, side⟩
    all_goals
      rw [same]
      rcases place with rfl | rfl | far | far <;> omega
  · rcases halfEven_cases m (spacing m) with ⟨same, side⟩ | ⟨same, side⟩
    all_goals
      rw [same]
      omega

/-! ### Order -/

theorem roundNat_le_roundNat {m m' : Nat} (h : m ≤ m') : roundNat m ≤ roundNat m' := by
  -- Otherwise both numbers are in the middle of what they are rounded to.
  by_contra less
  have here := (roundNat_nearest (m := m) (roundNat_short m')).1
  have there := (roundNat_nearest (m := m') (roundNat_short m)).1
  unfold Nat.dist at here there
  obtain rfl : m = m' := by omega
  exact less (Nat.le_refl _)

/-- A number of 53 bits is not changed. -/
theorem Short.roundNat {m : Nat} (h : Short m) : roundNat m = m := by
  have := (roundNat_nearest (m := m) h).1
  rw [Nat.dist_self] at this
  exact (Nat.eq_of_dist_eq_zero (Nat.le_zero.mp this)).symm

theorem roundNat_pos {m : Nat} (h : 0 < m) : 0 < roundNat m :=
  Nat.lt_of_lt_of_le (by rw [roundNat_of_lt (m := 1) (by omega)]; exact Nat.one_pos) (roundNat_le_roundNat h)

theorem roundWhole_natCast (m : Nat) : roundWhole m = roundNat m := by
  rw [roundWhole, Int.natAbs_natCast]
  rcases Nat.eq_zero_or_pos m with rfl | positive
  · rfl
  · rw [Int.sign_natCast_of_ne_zero positive.ne', Int.one_mul]

theorem roundWhole_neg (n : Int) : roundWhole (-n) = -roundWhole n := by
  rw [roundWhole, roundWhole, Int.sign_neg, Int.natAbs_neg, Int.neg_mul]

theorem Short.roundWhole {n : Int} (h : Short n.natAbs) : roundWhole n = n := by
  rw [Decimal.roundWhole, h.roundNat, Int.sign_mul_natAbs]

theorem roundWhole_le_roundWhole {n n' : Int} (h : n ≤ n') : roundWhole n ≤ roundWhole n' := by
  obtain ⟨m, rfl | rfl⟩ := n.eq_nat_or_neg <;> obtain ⟨m', rfl | rfl⟩ := n'.eq_nat_or_neg
  all_goals simp only [roundWhole_neg, roundWhole_natCast]
  · exact Int.ofNat_le.mpr (roundNat_le_roundNat (Int.ofNat_le.mp h))
  · obtain rfl : m = 0 := by omega
    obtain rfl : m' = 0 := by omega
    decide
  · omega
  · have := roundNat_le_roundNat (show m' ≤ m by omega)
    omega

end CommandScript.Decimal
