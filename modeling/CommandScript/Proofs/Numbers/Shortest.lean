import CommandScript.Proofs.Numbers.Intervals

/-! The shortest decimal of a float. The grids of one, two, three, … digits are searched in turn, so that what is found
    first has the fewest digits, and on its grid it is the nearest. The first grid is that of the first digit, where a
    point may have carried; on the finer ones no point has a zero at its end. -/

namespace CommandScript.Decimal

/-! ### Grids of decimals -/

theorem ten_zpow_pos (k : Int) : (0 : ℚ) < 10 ^ k :=
  zpow_pos (by norm_num) k

namespace Binary
variable (b : Binary) (k : Int)

/-- The step of a grid and a quarter of the unit of a binary fraction, as whole numbers. -/
def step : Nat :=
  tenTo k.toNat * twoTo (-(b.exponent - 2)).toNat

@[inherit_doc step]
def unit : Nat :=
  tenTo (-k).toNat * twoTo (b.exponent - 2).toNat

/-- Whether a point of a grid is in the interval of a binary fraction. -/
def inside (x : Nat) : Bool :=
  if b.mantissa % 2 == 0 then
    (4 * b.mantissa - b.gaps.1) * b.unit k ≤ x * b.step k && x * b.step k ≤ (4 * b.mantissa + b.gaps.2) * b.unit k
  else (4 * b.mantissa - b.gaps.1) * b.unit k < x * b.step k && x * b.step k < (4 * b.mantissa + b.gaps.2) * b.unit k

/-- The last point of a grid that is not above a binary fraction. -/
def below : Nat :=
  4 * b.mantissa * b.unit k / b.step k

theorem onGrid?_eq : b.onGrid? k =
    if (b.below k ≠ 0 && b.inside k (b.below k)) && b.inside k (b.below k + 1) then
      if 4 * b.mantissa * b.unit k - b.below k * b.step k <
          (b.below k + 1) * b.step k - 4 * b.mantissa * b.unit k then
        some ⟨b.below k, k⟩
      else some ⟨b.below k + 1, k⟩
    else if b.below k ≠ 0 && b.inside k (b.below k) then some ⟨b.below k, k⟩
    else if b.inside k (b.below k + 1) then some ⟨b.below k + 1, k⟩
    else none :=
  rfl

theorem step_pos : 0 < b.step k :=
  Nat.mul_pos (Nat.pow_pos (by decide)) (Nat.two_pow_pos _)

theorem unit_pos : 0 < b.unit k :=
  Nat.mul_pos (Nat.pow_pos (by decide)) (Nat.two_pow_pos _)

theorem step_mul : (b.step k : ℚ) * 2 ^ (b.exponent - 2) = 10 ^ k * b.unit k := by
  have ten (k : Nat) : ((tenTo k : Nat) : ℚ) = 10 ^ k := Nat.cast_pow 10 k
  have two (k : Nat) : ((twoTo k : Nat) : ℚ) = 2 ^ k := Nat.cast_pow 2 k
  have tens : (10 : ℚ) ^ k * 10 ^ (-k).toNat = 10 ^ k.toNat := by
    rw [← zpow_natCast, ← zpow_natCast, ← zpow_add₀ (by norm_num)]
    congr 1
    omega
  have twos : (2 : ℚ) ^ (b.exponent - 2) * 2 ^ (-(b.exponent - 2)).toNat = 2 ^ (b.exponent - 2).toNat := by
    rw [← zpow_natCast, ← zpow_natCast, ← zpow_add₀ two_ne_zero]
    congr 1
    omega
  rw [step, unit]
  push_cast
  rw [ten, ten, two, two, ← tens, ← twos]
  ring

/-- Points of a grid and multiples of the unit compare as whole numbers. -/
theorem grid_lt_iff {x n : Nat} : x * b.step k < n * b.unit k ↔ (x : ℚ) * 10 ^ k < n * 2 ^ (b.exponent - 2) := by
  have scaled : (x : ℚ) * b.step k * 2 ^ (b.exponent - 2) = x * 10 ^ k * b.unit k := by
    rw [mul_assoc, step_mul, mul_assoc]
  rw [← Nat.cast_lt (α := ℚ), Nat.cast_mul, Nat.cast_mul, ← mul_lt_mul_iff_left₀ (two_zpow_pos (b.exponent - 2)),
    scaled, mul_right_comm (n : ℚ),
    mul_lt_mul_iff_left₀ (Nat.cast_pos.mpr (b.unit_pos k))]

theorem lt_grid_iff {x n : Nat} : n * b.unit k < x * b.step k ↔ (n : ℚ) * 2 ^ (b.exponent - 2) < x * 10 ^ k := by
  have scaled : (x : ℚ) * b.step k * 2 ^ (b.exponent - 2) = x * 10 ^ k * b.unit k := by
    rw [mul_assoc, step_mul, mul_assoc]
  rw [← Nat.cast_lt (α := ℚ), Nat.cast_mul, Nat.cast_mul, ← mul_lt_mul_iff_left₀ (two_zpow_pos (b.exponent - 2)),
    scaled, mul_right_comm,
    mul_lt_mul_iff_left₀ (Nat.cast_pos.mpr (b.unit_pos k))]

theorem value_eq : b.value = (4 * b.mantissa : Nat) * 2 ^ (b.exponent - 2) := by
  rw [Binary.value, four_mul]
  push_cast
  ring

theorem below_le : b.below k * 10 ^ k ≤ b.value := by
  rw [value_eq, ← not_lt, ← lt_grid_iff, not_lt]
  exact Nat.div_mul_le_self _ _

theorem lt_above : b.value < (b.below k + 1) * 10 ^ k := by
  rw [value_eq]
  have : 4 * b.mantissa * b.unit k < (b.below k + 1) * b.step k := by
    rw [← Nat.div_lt_iff_lt_mul (b.step_pos k)]
    exact Nat.lt_succ_self _
  exact_mod_cast (b.lt_grid_iff k).mp this

variable {b}

theorem inside_iff (h : 0 < b.mantissa) (x : Nat) : b.inside k x = true ↔ b.Has (x * 10 ^ k) := by
  have down : b.gaps.1 ≤ 4 * b.mantissa := by
    rcases b.gaps_cases with ⟨-, -, gaps⟩ | ⟨-, gaps⟩ <;> rw [gaps] <;> dsimp only <;> omega
  have low : ((4 * b.mantissa - b.gaps.1 : Nat) : ℚ) = 4 * b.mantissa - b.gaps.1 := by
    push_cast [down]
    rfl
  have high : ((4 * b.mantissa + b.gaps.2 : Nat) : ℚ) = 4 * b.mantissa + b.gaps.2 := by
    push_cast
    rfl
  rw [Binary.Has, Binary.low, Binary.high, ← low, ← high, inside]
  split
  · rename_i even
    have even : b.mantissa % 2 = 0 := by simpa using even
    rw [Bool.and_eq_true, decide_eq_true_eq, decide_eq_true_eq, ← not_lt, grid_lt_iff, ← not_lt, lt_grid_iff, not_lt,
      not_lt]
    constructor
    · rintro ⟨least, most⟩
      exact ⟨least, most, fun odd => by omega⟩
    · rintro ⟨least, most, -⟩
      exact ⟨least, most⟩
  · rename_i odd
    have odd : b.mantissa % 2 = 1 := by
      have : b.mantissa % 2 ≠ 0 := by simpa using odd
      omega
    rw [Bool.and_eq_true, decide_eq_true_eq, decide_eq_true_eq, grid_lt_iff, lt_grid_iff]
    constructor
    · rintro ⟨least, most⟩
      exact ⟨least.le, most.le, fun _ => ⟨least, most⟩⟩
    · rintro ⟨-, -, strict⟩
      exact strict odd

/-- Which of the two points of a grid next to a binary fraction is nearer. -/
theorem nearer_iff : 4 * b.mantissa * b.unit k - b.below k * b.step k <
      (b.below k + 1) * b.step k - 4 * b.mantissa * b.unit k ↔
    b.value - b.below k * 10 ^ k < (b.below k + 1) * 10 ^ k - b.value := by
  have under : b.below k * b.step k ≤ 4 * b.mantissa * b.unit k := Nat.div_mul_le_self _ _
  have beyond : 4 * b.mantissa * b.unit k < (b.below k + 1) * b.step k := by
    rw [← Nat.div_lt_iff_lt_mul (b.step_pos k)]
    exact Nat.lt_succ_self _
  have both : 4 * b.mantissa * b.unit k - b.below k * b.step k <
      (b.below k + 1) * b.step k - 4 * b.mantissa * b.unit k ↔
        2 * (4 * b.mantissa) * b.unit k < (2 * b.below k + 1) * b.step k := by
    have twice : 2 * (4 * b.mantissa) * b.unit k = 2 * (4 * b.mantissa * b.unit k) := Nat.mul_assoc _ _ _
    have sum : (2 * b.below k + 1) * b.step k = b.below k * b.step k + (b.below k + 1) * b.step k := by ring
    omega
  rw [both, lt_grid_iff, value_eq]
  push_cast
  constructor <;> intro h <;> linarith

/-! The points of a grid that are in the interval. -/

theorem Has.between {v w x : ℚ} (hv : b.Has v) (hw : b.Has w) (le : v ≤ x) (le' : x ≤ w) : b.Has x :=
  ⟨hv.1.trans le, le'.trans hw.2.1, fun odd => ⟨(hv.2.2 odd).1.trans_le le, le'.trans_lt (hw.2.2 odd).2⟩⟩

theorem has_of_lt {v : ℚ} (low : b.low < v) (high : v < b.high) : b.Has v :=
  ⟨low.le, high.le, fun _ => ⟨low, high⟩⟩

theorem value_between : b.low < b.value ∧ b.value < b.high := by
  have unit := two_zpow_pos (b.exponent - 2)
  rw [Binary.low, Binary.high, value_eq]
  rcases b.gaps_cases with ⟨-, -, gaps⟩ | ⟨-, gaps⟩ <;> rw [gaps] <;> push_cast <;> constructor <;> nlinarith

theorem has_value : b.Has b.value :=
  has_of_lt value_between.1 value_between.2

section
variable {k} {n : Nat} (has : b.Has (n * 10 ^ k))
include has

theorem below_of_has (positive : 0 < n) (le : n * 10 ^ k ≤ b.value) :
    n ≤ b.below k ∧ b.below k ≠ 0 ∧ b.Has (b.below k * 10 ^ k) := by
  have lt : (n : ℚ) < b.below k + 1 :=
    lt_of_mul_lt_mul_right (le.trans_lt (b.lt_above k)) (ten_zpow_pos k).le
  have le' : n ≤ b.below k := Nat.le_of_lt_succ (by exact_mod_cast lt)
  have cast : (n : ℚ) ≤ b.below k := by exact_mod_cast le'
  exact ⟨le', by omega, has.between has_value (by gcongr) (b.below_le k)⟩

theorem above_of_has (lt : b.value < n * 10 ^ k) : b.below k + 1 ≤ n ∧ b.Has ((b.below k + 1) * 10 ^ k) := by
  have lt' : (b.below k : ℚ) < n := lt_of_mul_lt_mul_right ((b.below_le k).trans_lt lt) (ten_zpow_pos k).le
  have le : b.below k + 1 ≤ n := by exact_mod_cast lt'
  have cast : (b.below k + 1 : ℚ) ≤ n := by exact_mod_cast le
  exact ⟨le, has_value.between has (b.lt_above k).le (by gcongr)⟩

end

/-- A decimal in the interval of a binary fraction, such that none of its grid is nearer to the fraction. Of two that
    are equally near it is the greater one. -/
structure Closest (b : Binary) (d : Scaled) : Prop where
  positive : 0 < d.digits
  has : b.Has d.value
  next : ((d.digits : ℚ) - 1) * 10 ^ d.exponent ≤ b.value
  nearest : ∀ n : Nat, 0 < n → b.Has (n * 10 ^ d.exponent) →
    |d.value - b.value| ≤ |n * 10 ^ d.exponent - b.value| ∧
      (|d.value - b.value| = |n * 10 ^ d.exponent - b.value| → n ≤ d.digits)

theorem closest_below (filled : b.below k ≠ 0) (has : b.Has (b.below k * 10 ^ k))
    (nearer : b.Has ((b.below k + 1) * 10 ^ k) →
      b.value - b.below k * 10 ^ k < (b.below k + 1) * 10 ^ k - b.value) : b.Closest ⟨b.below k, k⟩ := by
  have le := b.below_le k
  have own : |b.below k * 10 ^ k - b.value| = b.value - b.below k * 10 ^ k := by
    rw [abs_sub_comm, abs_of_nonneg (sub_nonneg.mpr le)]
  have step := ten_zpow_pos k
  refine ⟨Nat.pos_of_ne_zero filled, has, by dsimp only; linarith, fun n positive other => ?_⟩
  dsimp only [Scaled.value] at other ⊢
  rw [own]
  rcases le_or_gt ((n : ℚ) * 10 ^ k) b.value with under | beyond
  · have most := (below_of_has other positive under).1
    have cast : (n : ℚ) ≤ b.below k := by exact_mod_cast most
    have : (n : ℚ) * 10 ^ k ≤ b.below k * 10 ^ k := by gcongr
    rw [abs_sub_comm, abs_of_nonneg (sub_nonneg.mpr under)]
    exact ⟨by linarith, fun _ => most⟩
  · obtain ⟨least, has'⟩ := above_of_has other beyond
    have cast : (b.below k + 1 : ℚ) ≤ n := by exact_mod_cast least
    have : (b.below k + 1 : ℚ) * 10 ^ k ≤ n * 10 ^ k := by gcongr
    have := nearer has'
    rw [abs_of_nonneg (sub_nonneg.mpr beyond.le)]
    exact ⟨by linarith, fun same => by linarith⟩

theorem closest_above (has : b.Has ((b.below k + 1) * 10 ^ k))
    (nearer : b.below k ≠ 0 → b.Has (b.below k * 10 ^ k) →
      (b.below k + 1) * 10 ^ k - b.value ≤ b.value - b.below k * 10 ^ k) : b.Closest ⟨b.below k + 1, k⟩ := by
  have lt := b.lt_above k
  have own : |(b.below k + 1) * 10 ^ k - b.value| = (b.below k + 1) * 10 ^ k - b.value :=
    abs_of_nonneg (sub_nonneg.mpr lt.le)
  refine ⟨Nat.succ_pos _, by simpa [Scaled.value] using has, by simpa using b.below_le k, fun n positive other => ?_⟩
  dsimp only [Scaled.value] at other ⊢
  push_cast
  rw [own]
  rcases le_or_gt ((n : ℚ) * 10 ^ k) b.value with under | beyond
  · obtain ⟨most, filled, has'⟩ := below_of_has other positive under
    have cast : (n : ℚ) ≤ b.below k := by exact_mod_cast most
    have step := ten_zpow_pos k
    have : (n : ℚ) * 10 ^ k ≤ b.below k * 10 ^ k := by gcongr
    have := nearer filled has'
    rw [abs_sub_comm, abs_of_nonneg (sub_nonneg.mpr under)]
    exact ⟨by linarith, fun _ => by omega⟩
  · obtain ⟨least, has'⟩ := above_of_has other beyond
    have cast : (b.below k + 1 : ℚ) ≤ n := by exact_mod_cast least
    have step := ten_zpow_pos k
    have : (b.below k + 1 : ℚ) * 10 ^ k ≤ n * 10 ^ k := by gcongr
    rw [abs_of_nonneg (sub_nonneg.mpr beyond.le)]
    refine ⟨by linarith, fun same => ?_⟩
    have same : (n : ℚ) * 10 ^ k = (b.below k + 1) * 10 ^ k := by linarith
    have same := mul_right_cancel₀ step.ne' same
    exact (by exact_mod_cast same.le : n ≤ b.below k + 1)

section
variable (h : 0 < b.mantissa)
include h

theorem below_inside_iff : (decide (b.below k ≠ 0) && b.inside k (b.below k)) = true ↔
    b.below k ≠ 0 ∧ b.Has (b.below k * 10 ^ k) := by
  rw [Bool.and_eq_true, decide_eq_true_eq, inside_iff k h]

theorem above_inside_iff : b.inside k (b.below k + 1) = true ↔ b.Has ((b.below k + 1) * 10 ^ k) := by
  rw [inside_iff k h, Nat.cast_succ]

theorem onGrid?_some {d : Scaled} (hd : b.onGrid? k = some d) : d.exponent = k ∧ b.Closest d := by
  rw [onGrid?_eq] at hd
  split at hd
  · rename_i both
    rw [Bool.and_eq_true, below_inside_iff k h, above_inside_iff k h] at both
    obtain ⟨⟨filled, below⟩, above⟩ := both
    split at hd
    · rename_i nearer
      cases hd
      exact ⟨rfl, closest_below k filled below fun _ => (nearer_iff k).mp nearer⟩
    · rename_i nearer
      cases hd
      exact ⟨rfl, closest_above k above fun _ _ => not_lt.mp fun lt => nearer ((nearer_iff k).mpr lt)⟩
  · rename_i notBoth
    rw [Bool.and_eq_true, below_inside_iff k h, above_inside_iff k h] at notBoth
    split at hd
    · rename_i only
      rw [below_inside_iff k h] at only
      cases hd
      exact ⟨rfl, closest_below k only.1 only.2 fun above => absurd ⟨only, above⟩ notBoth⟩
    · rename_i notBelow
      rw [below_inside_iff k h] at notBelow
      split at hd
      · rename_i above
        rw [above_inside_iff k h] at above
        cases hd
        exact ⟨rfl, closest_above k above fun filled below => absurd ⟨filled, below⟩ notBelow⟩
      · cases hd

theorem onGrid?_none (hd : b.onGrid? k = none) {n : Nat} (positive : 0 < n) : ¬b.Has (n * 10 ^ k) := by
  intro has
  rw [onGrid?_eq] at hd
  split at hd
  · split at hd <;> cases hd
  split at hd
  · cases hd
  rename_i notBelow
  rw [below_inside_iff k h] at notBelow
  split at hd
  · cases hd
  rename_i notAbove
  rw [above_inside_iff k h] at notAbove
  rcases le_or_gt ((n : ℚ) * 10 ^ k) b.value with under | beyond
  · exact notBelow (below_of_has has positive under).2
  · exact notAbove (above_of_has has beyond).2

end

/-! ### The first digit -/

theorem tenTo_succ (n : Nat) : tenTo (n + 1) = 10 * tenTo n :=
  Nat.pow_succ'

theorem cast_tenTo (n : Nat) : ((tenTo n : Nat) : ℚ) = 10 ^ (n : Int) := by
  rw [zpow_natCast]
  exact Nat.cast_pow 10 n

theorem decimalLength_bounds {fuel n : Nat} (fits : n < tenTo (fuel + 1)) :
    n < tenTo (decimalLength (fuel + 1) n) ∧ (0 < n → tenTo (decimalLength (fuel + 1) n) ≤ 10 * n) := by
  induction fuel generalizing n with
  | zero =>
    have one : tenTo 1 = 10 := rfl
    rw [one] at fits
    rw [decimalLength, if_pos fits, one]
    omega
  | succ fuel ih =>
    rw [decimalLength]
    split
    · have one : tenTo 1 = 10 := rfl
      rw [one]
      omega
    · rw [tenTo_succ] at fits ⊢
      have := ih (n := n / 10) (by omega)
      omega

/-- A binary fraction scaled by a power of ten, as a whole number. -/
theorem le_scaled_iff (b : Binary) (p k : Nat) :
    k ≤ b.mantissa * tenTo p * twoTo b.exponent.toNat / twoTo (-b.exponent).toNat ↔
      (k : ℚ) ≤ b.value * 10 ^ (p : Int) := by
  have := @le_scaled_div (b.mantissa * tenTo p) 1 Nat.one_pos (-b.exponent) k
  rw [neg_neg, Nat.one_mul] at this
  refine this.trans ?_
  rw [zpow_neg, ← div_eq_mul_inv, div_le_iff₀ (two_zpow_pos _), Binary.value, Nat.cast_one, div_one, Nat.cast_mul,
    cast_tenTo, mul_right_comm]

section
variable (hb : b.OfFloat)
include hb

theorem value_bounds : (10 : ℚ) ^ (-330 : Int) ≤ b.value ∧ b.value < 10 ^ (311 : Int) := by
  obtain ⟨low, high⟩ := hb.bounds
  obtain ⟨under, beyond⟩ := value_between (b := b)
  have tiny : (2 : Nat) ^ 1075 ≤ 10 ^ 330 := by decide +kernel
  have huge : (2 : Nat) ^ 1024 ≤ 10 ^ 311 := by decide +kernel
  constructor
  · refine le_trans ?_ (low.trans under.le)
    rw [zpow_neg, zpow_neg]
    exact inv_anti₀ (by positivity) (by exact_mod_cast tiny)
  · exact (beyond.trans_le high).trans_le (by exact_mod_cast huge)

/-- The first digit of a binary fraction stands for the power of ten that `leading` says. -/
theorem leading_bounds : 10 ^ b.leading ≤ b.value ∧ b.value < 10 ^ (b.leading + 1) := by
  obtain ⟨least, most⟩ := value_bounds hb
  have scaled := le_scaled_iff b 400
  have merge (m n : Int) : (10 : ℚ) ^ m * 10 ^ n = 10 ^ (m + n) := (zpow_add₀ (by norm_num) m n).symm
  have mono {m n : Int} (h : m ≤ n) : (10 : ℚ) ^ m ≤ 10 ^ n := zpow_le_zpow_right₀ (by norm_num) h
  unfold leading
  dsimp only
  generalize b.mantissa * tenTo 400 * twoTo b.exponent.toNat / twoTo (-b.exponent).toNat = s at *
  -- Scaled by `10 ^ 400` every float is at least one and has fewer digits than are counted.
  have fits : s < tenTo 800 := by
    rw [← not_le, scaled, cast_tenTo, not_le]
    calc b.value * 10 ^ ((400 : Nat) : Int) < 10 ^ (311 : Int) * 10 ^ ((400 : Nat) : Int) := by
          exact mul_lt_mul_of_pos_right most (ten_zpow_pos _)
      _ = 10 ^ (311 + ((400 : Nat) : Int)) := merge _ _
      _ ≤ 10 ^ ((800 : Nat) : Int) := mono (by norm_num)
  have filled : 0 < s := by
    rw [Nat.lt_iff_add_one_le, scaled]
    calc (((0 + 1 : Nat) : Nat) : ℚ) = 10 ^ (0 : Int) := by norm_num
      _ ≤ 10 ^ (-330 + ((400 : Nat) : Int)) := mono (by norm_num)
      _ = 10 ^ (-330 : Int) * 10 ^ ((400 : Nat) : Int) := (merge _ _).symm
      _ ≤ b.value * 10 ^ ((400 : Nat) : Int) := mul_le_mul_of_nonneg_right least (ten_zpow_pos _).le
  obtain ⟨lt, le⟩ := @decimalLength_bounds 799 s fits
  generalize decimalLength 800 s = len at *
  have scale := ten_zpow_pos ((400 : Nat) : Int)
  constructor
  · have le : (tenTo len : ℚ) ≤ 10 * s := by exact_mod_cast le filled
    have most := (scaled s).mp (le_refl s)
    rw [cast_tenTo] at le
    refine le_of_mul_le_mul_right ?_ scale
    rw [merge]
    have step : (10 : ℚ) ^ (len : Int) = 10 * 10 ^ ((len : Int) - 401 + ((400 : Nat) : Int)) := by
      rw [show (len : Int) = 1 + ((len : Int) - 401 + ((400 : Nat) : Int)) by push_cast; omega, ← merge, zpow_one]
      congr 2
      push_cast
      omega
    rw [step] at le
    linarith
  · rw [← not_le, scaled, not_le, cast_tenTo] at lt
    refine lt_of_mul_lt_mul_right ?_ scale.le
    rw [merge, show (len : Int) - 401 + 1 + ((400 : Nat) : Int) = len by push_cast; omega]
    exact lt

/-- The eighteenth grid has a point in the interval. -/
theorem onGrid?_fine : b.onGrid? (b.leading - 17) ≠ none := by
  intro none
  refine onGrid?_none _ hb.positive none (Nat.succ_pos (b.below (b.leading - 17))) ?_
  rw [Nat.cast_succ]
  refine has_of_lt (value_between.1.trans (b.lt_above _)) ?_
  have unit := two_zpow_pos (b.exponent - 2)
  have short : (b.mantissa : ℚ) + 1 ≤ 2 ^ 53 := by exact_mod_cast hb.short
  have leading := (leading_bounds hb).1
  have fine : (10 : ℚ) ^ b.leading = 10 ^ 17 * 10 ^ (b.leading - 17) := by
    rw [← zpow_natCast, ← zpow_add₀ (by norm_num)]
    congr 1
    push_cast
    omega
  have step : (10 : ℚ) ^ (b.leading - 17) < 2 * 2 ^ (b.exponent - 2) := by
    rw [fine, value_eq] at leading
    push_cast at leading
    nlinarith
  have high : b.high = b.value + 2 * 2 ^ (b.exponent - 2) := by
    rw [Binary.high, value_eq]
    rcases b.gaps_cases with ⟨-, -, gaps⟩ | ⟨-, gaps⟩ <;> rw [gaps] <;> push_cast <;> ring
  have le := b.below_le (b.leading - 17)
  rw [high]
  linarith

end

/-! ### The search -/

theorem search_spec {n : Nat} {k : Int} (found : ∃ i, k - n < i ∧ i ≤ k ∧ b.onGrid? i ≠ none) :
    ∃ i ≤ k, k - n < i ∧ b.onGrid? i = some (b.search n k) ∧ ∀ j, i < j → j ≤ k → b.onGrid? j = none := by
  induction n generalizing k with
  | zero =>
    obtain ⟨i, lt, le, -⟩ := found
    omega
  | succ n ih =>
    rw [search]
    cases hk : b.onGrid? k with
    | some d => exact ⟨k, le_refl _, by push_cast; omega, hk, fun j lt le => by omega⟩
    | none =>
      have found : ∃ i, k - 1 - n < i ∧ i ≤ k - 1 ∧ b.onGrid? i ≠ none := by
        obtain ⟨i, lt, le, hi⟩ := found
        have ne : i ≠ k := fun same => hi (same ▸ hk)
        exact ⟨i, by push_cast at lt; omega, by omega, hi⟩
      obtain ⟨i, le, lt, hi, later⟩ := ih found
      refine ⟨i, by omega, by push_cast; omega, hi, fun j lt le' => ?_⟩
      rcases eq_or_ne j k with rfl | ne
      · exact hk
      · exact later j lt (by omega)

end Binary

/-- Without the zeros at its end, a decimal has the same value. -/
theorem Scaled.reduce_spec (d : Scaled) (fuel : Nat) (positive : 0 < d.digits) (fits : d.digits < 10 ^ fuel) :
    (d.reduce fuel).digits % 10 ≠ 0 ∧ (d.reduce fuel).value = d.value ∧ (d.reduce fuel).digits ≤ d.digits ∧
      (d.digits % 10 ≠ 0 → d.reduce fuel = d) := by
  induction fuel generalizing d with
  | zero =>
    rw [Nat.pow_zero] at fits
    omega
  | succ fuel ih =>
    rw [reduce]
    split
    · rename_i zero
      rw [Bool.and_eq_true, decide_eq_true_eq, beq_iff_eq] at zero
      obtain ⟨reduced, value, le, -⟩ := ih ⟨d.digits / 10, d.exponent + 1⟩ (by dsimp only; omega)
        (by rw [Nat.pow_succ] at fits; dsimp only; omega)
      refine ⟨reduced, value.trans ?_, by dsimp only at le; omega, fun h => absurd zero.2 h⟩
      have ten : (d.digits : ℚ) = 10 * (d.digits / 10 : Nat) := by
        exact_mod_cast (show d.digits = 10 * (d.digits / 10) by omega)
      rw [Scaled.value, Scaled.value, ten, zpow_add_one₀ (by norm_num)]
      ring
    · rename_i other
      rw [Bool.and_eq_true, decide_eq_true_eq, beq_iff_eq] at other
      exact ⟨by omega, rfl, le_refl _, fun _ => rfl⟩

/-! ### The shortest decimal -/

namespace Binary
variable {b : Binary}

/-- A decimal without zeros at its end in the interval of a binary fraction. No decimal in the interval has fewer
    digits, and none that has as few is nearer to the fraction; of two that are equally near it is the greater one. -/
structure Shortest (b : Binary) (d : Scaled) : Prop where
  reduced : d.digits % 10 ≠ 0
  has : b.Has d.value
  fewest : ∀ (n : Nat) (e : Int) (places : Nat), 0 < n → b.Has (n * 10 ^ e) → n < 10 ^ places → d.digits < 10 ^ places
  nearest : ∀ (n : Nat) (e : Int) (places : Nat), 0 < n → b.Has (n * 10 ^ e) → n < 10 ^ places →
    10 ^ places ≤ 10 * d.digits → |d.value - b.value| ≤ |n * 10 ^ e - b.value| ∧
      (|d.value - b.value| = |n * 10 ^ e - b.value| → n * 10 ^ e ≤ d.value)

/-- What the search has found, on the first grid or on a finer one. -/
structure Found (b : Binary) (d : Scaled) : Prop extends b.Closest d where
  grid : d.exponent ≤ b.leading
  fine : b.leading - 18 < d.exponent
  coarser : ∀ j, d.exponent < j → j ≤ b.leading → ∀ n : Nat, 0 < n → ¬b.Has (n * 10 ^ j)

theorem found_search (hb : b.OfFloat) : b.Found (b.search 18 b.leading) := by
  obtain ⟨i, le, lt, hi, later⟩ := search_spec (n := 18) (k := b.leading)
    ⟨b.leading - 17, by push_cast; omega, by omega, onGrid?_fine hb⟩
  obtain ⟨rfl, closest⟩ := onGrid?_some i hb.positive hi
  exact ⟨closest, le, lt, fun j lt le n positive => onGrid?_none j hb.positive (later j lt le) positive⟩

theorem ten_zpow_lt {i j : Int} {v : ℚ} (h : 10 ^ i ≤ v) (h' : v < 10 ^ j) : i < j :=
  (zpow_lt_zpow_iff_right₀ (by norm_num : (1 : ℚ) < 10)).mp (h.trans_lt h')

/-- A decimal with its exponent as a power of ten of at most so many places. -/
theorem decimal_lt {n places : Nat} (h : n < 10 ^ places) (e : Int) : (n : ℚ) * 10 ^ e < 10 ^ (places + e) := by
  have cast : (n : ℚ) < 10 ^ places := by exact_mod_cast h
  rw [zpow_add₀ (by norm_num), zpow_natCast]
  exact mul_lt_mul_of_pos_right cast (ten_zpow_pos e)

theorem le_decimal {n : Nat} (positive : 0 < n) (e : Int) : (10 : ℚ) ^ e ≤ n * 10 ^ e :=
  le_mul_of_one_le_left (ten_zpow_pos e).le (by exact_mod_cast positive)

theorem next_power (e : Int) : ((10 : Nat) : ℚ) * 10 ^ e = 10 ^ (e + 1) := by
  rw [zpow_add_one₀ (by norm_num)]
  push_cast
  ring

namespace Found
variable {d : Scaled} (h : b.Found d) (hb : b.OfFloat)
include h hb

/-- There are few points up to the next power of ten. -/
theorem digits_le {p : Nat} (hp : d.exponent + p = b.leading + 1) : d.digits ≤ 10 ^ p := by
  have next := h.next
  have lt := (leading_bounds hb).2
  rw [← hp, zpow_add₀ (by norm_num), zpow_natCast, mul_comm] at lt
  have : (d.digits : ℚ) - 1 < 10 ^ p := lt_of_mul_lt_mul_right (next.trans_lt lt) (ten_zpow_pos _).le
  have : (d.digits : ℚ) < 10 ^ p + 1 := by linarith
  exact Nat.le_of_lt_succ (by exact_mod_cast this)

/-- Where the first grid has no point in the interval, every decimal in the interval lies between the powers of ten
    around the binary fraction, on the grid that was found or on a finer one. -/
theorem between (fine : d.exponent < b.leading) {n : Nat} {e : Int} (positive : 0 < n) (has : b.Has (n * 10 ^ e)) :
    (10 : ℚ) ^ b.leading ≤ n * 10 ^ e ∧ (n : ℚ) * 10 ^ e < 10 ^ (b.leading + 1) ∧ e ≤ d.exponent := by
  obtain ⟨low, high⟩ := leading_bounds hb
  have under : (10 : ℚ) ^ b.leading ≤ n * 10 ^ e := by
    by_contra lt
    refine h.coarser b.leading fine (le_refl _) 1 Nat.one_pos ?_
    rw [Nat.cast_one, one_mul]
    exact has.between has_value (not_le.mp lt).le low
  have beyond : (n : ℚ) * 10 ^ e < 10 ^ (b.leading + 1) := by
    by_contra le
    refine h.coarser b.leading fine (le_refl _) 10 (by decide) ?_
    rw [next_power]
    exact has_value.between has high.le (not_lt.mp le)
  refine ⟨under, beyond, not_lt.mp fun lt => ?_⟩
  have := ten_zpow_lt (le_decimal positive e) beyond
  exact h.coarser e lt (by omega) n positive has

/-- On a grid finer than the first the point has no zero at its end and fewer digits than there are to the next power
    of ten. -/
theorem fine_digits (fine : d.exponent < b.leading) {p : Nat} (hp : d.exponent + p = b.leading + 1) :
    d.digits < 10 ^ p ∧ d.digits % 10 ≠ 0 := by
  have has := h.has
  rw [Scaled.value] at has
  constructor
  · refine Nat.lt_of_le_of_ne (h.digits_le hb hp) fun same => ?_
    have beyond := (h.between hb fine h.positive has).2.1
    rw [same, ← hp, zpow_add₀ (by norm_num), zpow_natCast, mul_comm] at beyond
    push_cast at beyond
    exact lt_irrefl _ beyond
  · intro zero
    have positive := h.positive
    refine h.coarser (d.exponent + 1) (by omega) (by omega) (d.digits / 10) (by omega) ?_
    have ten : (d.digits : ℚ) = (10 : Nat) * (d.digits / 10 : Nat) := by
      exact_mod_cast (show d.digits = 10 * (d.digits / 10) by omega)
    rw [ten] at has
    rw [← next_power]
    convert has using 1
    ring

end Found

theorem Found.nearest_le {d : Scaled} (h : b.Found d) {n : Nat} {e : Int} (grid : d.exponent = e) (positive : 0 < n)
    (has : b.Has (n * 10 ^ e)) : |d.value - b.value| ≤ |n * 10 ^ e - b.value| ∧
      (|d.value - b.value| = |n * 10 ^ e - b.value| → n * 10 ^ e ≤ d.value) := by
  subst grid
  obtain ⟨le, tie⟩ := h.nearest n positive has
  refine ⟨le, fun same => ?_⟩
  have cast : (n : ℚ) ≤ d.digits := by exact_mod_cast tie same
  exact mul_le_mul_of_nonneg_right cast (ten_zpow_pos _).le

/-- Where the first grid has a point in the interval, it has the nearest of the decimals of one digit. -/
theorem Found.nearest_digit {d : Scaled} (h : b.Found d) (hb : b.OfFloat) (first : d.exponent = b.leading) {n : Nat}
    {e : Int} (positive : 0 < n) (has : b.Has (n * 10 ^ e)) (digit : n < 10) :
    |d.value - b.value| ≤ |n * 10 ^ e - b.value| ∧
      (|d.value - b.value| = |n * 10 ^ e - b.value| → n * 10 ^ e ≤ d.value) := by
  obtain ⟨low, high⟩ := leading_bounds hb
  have lt : (n : ℚ) * 10 ^ e < 10 ^ ((1 : Nat) + e) := decimal_lt (by omega) e
  rcases lt_or_ge ((n : ℚ) * 10 ^ e) (10 ^ b.leading) with under | under
  · -- A decimal below the first digit is farther than the power of ten at that digit.
    obtain ⟨le, -⟩ := h.nearest_le first Nat.one_pos (by
      rw [Nat.cast_one, one_mul]
      exact has.between has_value under.le low)
    rw [Nat.cast_one, one_mul, abs_of_nonpos (sub_nonpos.mpr low)] at le
    rw [abs_of_nonpos (sub_nonpos.mpr (under.le.trans low))]
    exact ⟨by linarith, fun same => by linarith⟩
  rcases lt_or_ge ((n : ℚ) * 10 ^ e) (10 ^ (b.leading + 1)) with beyond | beyond
  · have := ten_zpow_lt under lt
    have := ten_zpow_lt (le_decimal positive e) beyond
    exact h.nearest_le (by push_cast at *; omega) positive has
  · -- A decimal with the first digit carried is not nearer than the next power of ten.
    obtain ⟨le, tie⟩ := h.nearest_le first (by decide : 0 < 10) (by
      rw [next_power]
      exact has_value.between has high.le beyond)
    rw [next_power, abs_of_nonneg (sub_nonneg.mpr high.le)] at le tie
    rw [abs_of_nonneg (sub_nonneg.mpr (high.le.trans beyond))]
    refine ⟨by linarith, fun same => ?_⟩
    have := tie (by linarith)
    linarith

/-- The decimal that is found, without the zeros at its end, is the shortest. -/
theorem shortest_spec (hb : b.OfFloat) : b.Shortest b.shortest := by
  have h := found_search hb
  rw [Binary.shortest]
  generalize b.search 18 b.leading = d at *
  obtain ⟨p, hp⟩ : ∃ p : Nat, d.exponent + p = b.leading + 1 :=
    ⟨(b.leading + 1 - d.exponent).toNat, by have := h.grid; omega⟩
  have few : p ≤ 18 := by have := h.fine; omega
  have digits := h.digits_le hb hp
  have fits : d.digits < 10 ^ 400 :=
    (digits.trans (Nat.pow_le_pow_right (by decide) few)).trans_lt (by decide +kernel)
  obtain ⟨reduced, value, le, same⟩ := d.reduce_spec 400 h.positive fits
  generalize d.reduce 400 = r at *
  have has : b.Has r.value := value ▸ h.has
  -- On the first grid the point may be ten, so that a zero goes; on a finer one nothing goes.
  rcases eq_or_lt_of_le h.grid with first | fine
  · obtain rfl : p = 1 := by omega
    have digit : r.digits < 10 := by omega
    refine ⟨reduced, has, fun n e places positive other short => ?_, fun n e places positive other short long => ?_⟩
    · have one : places ≠ 0 := by
        rintro rfl
        omega
      exact digit.trans_le (Nat.le_self_pow one 10)
    · have one : places ≤ 1 := by
        by_contra more
        have := Nat.pow_le_pow_right (show 0 < 10 by decide) (show 2 ≤ places by omega)
        omega
      rw [value]
      exact h.nearest_digit hb first positive other (short.trans_le (Nat.pow_le_pow_right (by decide) one))
  · obtain ⟨lt, filled⟩ := h.fine_digits hb fine hp
    obtain rfl := same filled
    -- By its size, a decimal with fewer digits would be on a coarser grid, and one with as few is on this grid.
    refine ⟨reduced, has, fun n e places positive other short => ?_, fun n e places positive other short long => ?_⟩
    · obtain ⟨under, -, grid⟩ := h.between hb fine positive other
      have := ten_zpow_lt under (decimal_lt short e)
      exact lt.trans_le (Nat.pow_le_pow_right (by decide) (by omega))
    · obtain ⟨under, -, grid⟩ := h.between hb fine positive other
      have := ten_zpow_lt under (decimal_lt short e)
      have : places < p + 1 := by
        rw [← Nat.pow_lt_pow_iff_right (show 1 < 10 by decide), Nat.pow_succ]
        omega
      exact h.nearest_le (by omega) positive other

end Binary

namespace Binary.Shortest
variable {b : Binary} {d d' : Scaled} (h : b.Shortest d)
include h

theorem positive : 0 < d.digits := by
  have := h.reduced
  omega

theorem exists_places : ∃ places, d.digits < 10 ^ places ∧ 10 ^ places ≤ 10 * d.digits := by
  have fits : d.digits < tenTo (d.digits + 1) :=
    (Nat.lt_pow_self (by decide)).trans (Nat.pow_lt_pow_right (by decide) (Nat.lt_succ_self _))
  exact ⟨_, (decimalLength_bounds fits).1, (decimalLength_bounds fits).2 h.positive⟩

theorem value_pos : 0 < d.value :=
  mul_pos (Nat.cast_pos.mpr h.positive) (ten_zpow_pos _)

/-- There is only one shortest decimal. -/
theorem unique (h' : b.Shortest d') : d.value = d'.value := by
  obtain ⟨places, lt, le⟩ := h.exists_places
  obtain ⟨places', lt', le'⟩ := h'.exists_places
  have fewer := h.fewest d'.digits d'.exponent places' h'.positive h'.has lt'
  have fewer' := h'.fewest d.digits d.exponent places h.positive h.has lt
  have nearest := h.nearest d'.digits d'.exponent places h'.positive h'.has fewer' le
  have nearest' := h'.nearest d.digits d.exponent places' h.positive h.has fewer le'
  exact le_antisymm (nearest'.2 (le_antisymm nearest'.1 nearest.1)) (nearest.2 (le_antisymm nearest.1 nearest'.1))

end Binary.Shortest

end CommandScript.Decimal
