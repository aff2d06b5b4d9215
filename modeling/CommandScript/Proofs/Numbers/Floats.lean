import CommandScript.Proofs.Numbers.Rounding

/-! The floats nearest to whole numbers. Their bits are the exponent and the significand of the number rounded to 53
    bits, so they are in the order of the rounded numbers. -/

open Float.Model Float.Model.UnpackedFloat

namespace CommandScript.Decimal

/-- The 53 bits of the float nearest to a natural number, with the first one, and one more if rounding carries. -/
def significand (m : Nat) : Nat :=
  if m < 2 ^ 52 then m * 2 ^ (52 - m.log2) else roundedQuotient m

theorem halfEven_eq (n d : Nat) :
    (if (decide (2 * (n % d) > d) || 2 * (n % d) == d && n / d % 2 == 1) = true then n / d + 1 else n / d) =
      halfEven n d := by
  simp only [halfEven, Bool.or_eq_true, decide_eq_true_eq, Bool.and_eq_true, beq_iff_eq]

theorem halfEven_one (n : Nat) : halfEven n 1 = n := by
  rw [halfEven, Nat.mod_one, Nat.div_one, if_neg]
  omega

theorem significand_bounds {m : Nat} (h : 0 < m) : 2 ^ 52 ≤ significand m ∧ significand m ≤ 2 ^ 53 := by
  rw [significand]
  split
  · rename_i small
    have low := Nat.log2_self_le h.ne'
    have high := Nat.lt_log2_self (n := m)
    have few : m.log2 < 52 := (Nat.log2_lt h.ne').mpr small
    have scaled (k : Nat) : 2 ^ k * 2 ^ (52 - m.log2) = 2 ^ (k + (52 - m.log2)) := (Nat.pow_add ..).symm
    have low := Nat.mul_le_mul_right (2 ^ (52 - m.log2)) low
    have high := Nat.mul_le_mul_right (2 ^ (52 - m.log2)) high.le
    rw [scaled, Nat.add_sub_cancel' few.le] at low
    rw [scaled, Nat.add_right_comm, Nat.add_sub_cancel' few.le] at high
    exact ⟨low, high⟩
  · exact roundedQuotient_bounds (by omega)

/-- The significand is what the number is rounded to, scaled to 53 bits. -/
theorem significand_mul {m : Nat} (h : 0 < m) : significand m * 2 ^ m.log2 = roundNat m * 2 ^ 52 := by
  rw [significand]
  split
  · rename_i small
    have few : m.log2 < 52 := (Nat.log2_lt h.ne').mpr small
    rw [roundNat_of_lt (by omega), Nat.mul_assoc, ← Nat.pow_add, Nat.sub_add_cancel few.le]
  · rw [two_pow_log2 (by omega), roundNat, Nat.mul_assoc, Nat.mul_comm (2 ^ 52)]

theorem two_pow_log2_mul_le {m : Nat} (h : 0 < m) (k : Nat) : 2 ^ (m.log2 + k) ≤ m * 2 ^ k := by
  rw [Nat.pow_add]
  exact Nat.mul_le_mul_right _ (Nat.log2_self_le h.ne')

/-- The bits of the float nearest to a natural number: the exponent, and behind it the significand without its first
    bit. A significand that has carried counts the exponent up. -/
theorem nearestBits_one {m : Nat} (h : 0 < m) :
    nearestBits m 1 = min ((m.log2 + 1022) * 2 ^ 52 + significand m) (2047 * 2 ^ 52) := by
  have bounds := significand_bounds h
  have power (k : Nat) : twoTo k = 2 ^ k := rfl
  have one : (1 : Nat).log2 = 0 := by decide
  have floor : max ((m.log2 : Int) - ((0 : Nat) : Int) - 53) (-1074) = (m.log2 : Int) - 53 := by omega
  have full : m * 2 ^ (-((m.log2 : Int) - 53)).toNat / (1 * 2 ^ ((m.log2 : Int) - 53).toNat) ≥ 2 ^ 53 := by
    rw [Nat.one_mul, ge_iff_le, Nat.le_div_iff_mul_le (Nat.two_pow_pos _), ← Nat.pow_add]
    refine (Nat.pow_le_pow_right (by decide) ?_).trans (two_pow_log2_mul_le h _)
    omega
  have rounded : halfEven (m * 2 ^ (-((m.log2 : Int) - 53 + 1)).toNat) (1 * 2 ^ ((m.log2 : Int) - 53 + 1).toNat) =
      significand m := by
    rw [significand, Nat.one_mul]
    split
    · rename_i small
      have few : m.log2 < 52 := (Nat.log2_lt h.ne').mpr small
      rw [show ((m.log2 : Int) - 53 + 1).toNat = 0 by omega, Nat.pow_zero, halfEven_one]
      rw [show (-((m.log2 : Int) - 53 + 1)).toNat = 52 - m.log2 by omega]
    · have many : 52 ≤ m.log2 := (Nat.le_log2 h.ne').mpr (by omega)
      rw [show (-((m.log2 : Int) - 53 + 1)).toNat = 0 by omega, Nat.pow_zero, Nat.mul_one]
      rw [show ((m.log2 : Int) - 53 + 1).toNat = m.log2 - 52 by omega]
      rfl
  unfold nearestBits
  simp only [if_neg h.ne', one, floor, power, if_pos full, halfEven_eq, rounded]
  rw [if_neg (by omega), show ((m.log2 : Int) - 53 + 1 + 1075).toNat = m.log2 + 1023 by omega]
  exact congrArg (min · (2047 * 2 ^ 52)) (by omega)

/-! ### Order -/

section
variable {l l' s s' : Nat} (hs : 2 ^ 52 ≤ s ∧ s ≤ 2 ^ 53) (hs' : 2 ^ 52 ≤ s' ∧ s' ≤ 2 ^ 53)
include hs hs'

/-- A greater exponent goes with a greater number, or an equal one if rounding has carried. -/
theorem packed_of_lt (h : l < l') :
    (l + 1022) * 2 ^ 52 + s ≤ (l' + 1022) * 2 ^ 52 + s' ∧ s * 2 ^ l ≤ s' * 2 ^ l' ∧
      ((l + 1022) * 2 ^ 52 + s < (l' + 1022) * 2 ^ 52 + s' ↔ s * 2 ^ l < s' * 2 ^ l') := by
  obtain ⟨k, rfl⟩ := Nat.exists_eq_add_of_lt h
  have scaled : s' * 2 ^ (l + k + 1) = s' * 2 ^ (k + 1) * 2 ^ l := by
    rw [Nat.mul_assoc, ← Nat.pow_add]
    congr 2
    omega
  have positive := Nat.two_pow_pos l
  rw [scaled, Nat.mul_lt_mul_right positive, Nat.mul_le_mul_right_iff positive]
  cases k with
  | zero => omega
  | succ k =>
    have more : 2 ^ 2 ≤ 2 ^ (k + 1 + 1) := Nat.pow_le_pow_right (by decide) (by omega)
    have := Nat.mul_le_mul hs'.1 more
    omega

/-- Numbers are in the same order as their exponents and significands, one written behind the other. -/
theorem packed_lt_iff : (l + 1022) * 2 ^ 52 + s < (l' + 1022) * 2 ^ 52 + s' ↔ s * 2 ^ l < s' * 2 ^ l' := by
  rcases Nat.lt_trichotomy l l' with lt | rfl | gt
  · exact (packed_of_lt hs hs' lt).2.2
  · rw [Nat.mul_lt_mul_right (Nat.two_pow_pos l)]
    omega
  · obtain ⟨packed, scaled, -⟩ := packed_of_lt hs' hs gt
    exact iff_of_false (Nat.not_lt.mpr packed) (Nat.not_lt.mpr scaled)

end

/-- The floats nearest to natural numbers are in the order of the numbers rounded to 53 bits. -/
theorem nearestBits_lt_iff {m m' : Nat} (h : 0 < m) (h' : 0 < m') (hl : m.log2 < 64) (hl' : m'.log2 < 64) :
    nearestBits m 1 < nearestBits m' 1 ↔ roundNat m < roundNat m' := by
  have bounds := significand_bounds h
  have bounds' := significand_bounds h'
  rw [nearestBits_one h, nearestBits_one h', Nat.min_eq_left (by omega), Nat.min_eq_left (by omega),
    packed_lt_iff bounds bounds', significand_mul h, significand_mul h', Nat.mul_lt_mul_right (by decide)]

/-! ### The bits of floats -/

theorem toNat_append_eq {w v : Nat} (x : BitVec w) (y : BitVec v) : (x ++ y).toNat = x.toNat * 2 ^ v + y.toNat := by
  rw [BitVec.toNat_append, ← Nat.shiftLeft_add_eq_or_of_lt y.isLt, Nat.shiftLeft_eq]

theorem ofBitVec_unpackSign (sign : Sign) (e : BitVec 11) (f : BitVec 52) :
    Sign.ofBitVec (unpackSign (packComponents Format.binary64 sign e f)) = sign := by
  show Sign.ofBitVec ((sign.toBitVec ++ e ++ f).extractLsb' 63 1) = sign
  rw [BitVec.extractLsb'_append_eq_of_le (by decide), BitVec.extractLsb'_append_eq_of_le (by decide)]
  cases sign <;> rfl

theorem finite_eq {s s' : Sign} {m m' : Nat} {e e' : Int} (hs : s = s') (hm : m = m') (he : e = e') (h : 0 < m) :
    UnpackedFloat.finite s m e h = .finite s' m' e' (hm ▸ h) := by
  subst hs hm he
  rfl

section
variable (sign : Sign) {e : BitVec 11} {f : BitVec 52} (he' : e ≠ -1#11)
include he'

theorem unpack_packComponents (he : e ≠ 0#11) :
    UnpackedFloat.unpack Format.binary64 (packComponents Format.binary64 sign e f) =
      .finite sign (2 ^ 52 + f.toNat) (e.toNat - 1075) (by omega) := by
  have whole : (1#1 ++ unpackMantissa (packComponents Format.binary64 sign e f)).toNat = 2 ^ 52 + f.toNat := by
    rw [unpackMantissa_packComponents, toNat_append_eq]
    rfl
  unfold UnpackedFloat.unpack
  dsimp only
  rw [unpackExponent_packComponents, ofBitVec_unpackSign, if_neg he', if_neg he]
  exact finite_eq rfl whole rfl _

theorem pack_finite :
    UnpackedFloat.pack Format.binary64 (.finite sign (2 ^ 52 + f.toNat) (e.toNat - 1075) (by omega)) =
      packComponents Format.binary64 sign e f := by
  have few : e.toNat < 2047 := by
    have := e.isLt
    have : e.toNat ≠ (-1#11).toNat := fun h => he' (BitVec.eq_of_toNat_eq h)
    have : (-1#11).toNat = 2047 := rfl
    omega
  have bits : (2 ^ 52 + f.toNat).log2 = 52 := (Nat.log2_eq_iff (by omega)).mpr (by omega)
  have exponent : ((e.toNat : Int) - 1075 + (Format.binary64.exponentBias : Nat) + (52 : Nat)).toNat = e.toNat := by
    have : Format.binary64.exponentBias = 1023 := rfl
    omega
  have mantissa : BitVec.ofNat 52 (2 ^ 52 + f.toNat) = f := by
    refine BitVec.eq_of_toNat_eq ?_
    rw [BitVec.toNat_ofNat, Nat.add_mod_left, Nat.mod_eq_of_lt f.isLt]
  unfold UnpackedFloat.pack
  dsimp only
  simp only [bits, exponent, mantissa, BitVec.ofNat_toNat, BitVec.setWidth_eq]
  rw [if_neg (by omega)]
  exact if_pos rfl

end

/-- What floats are with a sign, an exponent in the middle of its range, and a mantissa. -/
theorem unpack_ofBits (negative : Bool) {bits : Nat} (low : 2 ^ 52 ≤ bits) (high : bits < 2047 * 2 ^ 52) :
    (Float.Model.ofBits (UInt64.ofNat (if negative then bits + twoTo 63 else bits))).unpack =
      .finite (if negative then .negative else .positive) (2 ^ 52 + bits % 2 ^ 52) ((bits / 2 ^ 52 : Nat) - 1075)
        (by omega) := by
  have power : twoTo 63 = 2 ^ 63 := rfl
  have exponent : (BitVec.ofNat 11 (bits / 2 ^ 52)).toNat = bits / 2 ^ 52 := by
    rw [BitVec.toNat_ofNat, Nat.mod_eq_of_lt (by omega)]
  have mantissa : (BitVec.ofNat 52 (bits % 2 ^ 52)).toNat = bits % 2 ^ 52 := by
    rw [BitVec.toNat_ofNat, Nat.mod_mod]
  have he : BitVec.ofNat 11 (bits / 2 ^ 52) ≠ 0#11 := fun h => by
    have := congrArg BitVec.toNat h
    rw [exponent, BitVec.toNat_ofNat] at this
    omega
  have he' : BitVec.ofNat 11 (bits / 2 ^ 52) ≠ -1#11 := fun h => by
    have := congrArg BitVec.toNat h
    rw [exponent, show (-1#11).toNat = 2047 from rfl] at this
    omega
  have packed : (UInt64.ofNat (if negative then bits + twoTo 63 else bits)).toBitVec =
      packComponents Format.binary64 (if negative then .negative else .positive) (BitVec.ofNat 11 (bits / 2 ^ 52))
        (BitVec.ofNat 52 (bits % 2 ^ 52)) := by
    refine BitVec.eq_of_toNat_eq ?_
    rw [packComponents, toNat_append_eq, toNat_append_eq, exponent, mantissa]
    show (BitVec.ofNat 64 _).toNat = _
    rw [BitVec.toNat_ofNat]
    cases negative with
    | false =>
      show bits % 2 ^ 64 = (0 * 2 ^ 11 + bits / 2 ^ 52) * 2 ^ 52 + bits % 2 ^ 52
      omega
    | true =>
      show (bits + twoTo 63) % 2 ^ 64 = (1 * 2 ^ 11 + bits / 2 ^ 52) * 2 ^ 52 + bits % 2 ^ 52
      omega
  have again := pack_finite (f := BitVec.ofNat 52 (bits % 2 ^ 52)) (if negative then .negative else .positive) he'
  have finite := unpack_packComponents (f := BitVec.ofNat 52 (bits % 2 ^ 52))
    (if negative then .negative else .positive) he' he
  show UnpackedFloat.unpack Format.binary64
    (UnpackedFloat.pack Format.binary64 (UnpackedFloat.unpack Format.binary64 (UInt64.ofNat _).toBitVec)) = _
  rw [packed, finite, again, finite]
  exact finite_eq rfl (by rw [mantissa]) (by rw [exponent]) _

/-! ### Floats of whole numbers -/

theorem nearestFloat_of_pos (negative : Bool) {m : Nat} (h : 0 < m) : nearestFloat negative m 0 =
    Float.ofBits (UInt64.ofNat (if negative then nearestBits m 1 + twoTo 63 else nearestBits m 1)) := by
  have inside : (decide (m = 0) || decide ((0 : Int) + ((m.log2 : Int) / 3 + 1) < -330)) = false := by
    rw [decide_eq_false h.ne', decide_eq_false (by omega), Bool.false_or]
  have scaled : m * tenTo (0 : Int).toNat = m := Nat.mul_one m
  have one : tenTo (-(0 : Int)).toNat = 1 := rfl
  unfold nearestFloat
  simp only [inside, scaled, one, Bool.false_eq_true, if_false]
  rfl

/-- The bits of the float nearest to a natural number that is not too large. -/
theorem nearestBits_bounds {m : Nat} (h : 0 < m) (hl : m.log2 < 64) :
    2 ^ 52 ≤ nearestBits m 1 ∧ nearestBits m 1 < 2047 * 2 ^ 52 := by
  have bounds := significand_bounds h
  rw [nearestBits_one h]
  omega

theorem unpack_wholeFloat {n : Int} (h : n ≠ 0) (hl : n.natAbs.log2 < 64) : (wholeFloat n).toModel.unpack =
    .finite (if n < 0 then .negative else .positive) (2 ^ 52 + nearestBits n.natAbs 1 % 2 ^ 52)
      ((nearestBits n.natAbs 1 / 2 ^ 52 : Nat) - 1075) (by omega) := by
  have positive : 0 < n.natAbs := Int.natAbs_pos.mpr h
  have bounds := nearestBits_bounds positive hl
  rw [wholeFloat, nearestFloat_of_pos _ positive]
  show (Float.Model.ofBits _).unpack = _
  rw [unpack_ofBits _ bounds.1 bounds.2]
  exact finite_eq (by simp only [decide_eq_true_eq]) rfl rfl _

theorem unpack_wholeFloat_zero : (wholeFloat 0).toModel.unpack = .zero .positive := by
  rfl

theorem float_lt_iff {x y : Float} : x < y ↔ x.toModel.unpack.lt y.toModel.unpack = true := by
  show decide (x.toModel < y.toModel) = true ↔ _
  rw [decide_eq_true_iff]
  rfl

theorem finite_positive_lt {m m' : Nat} {e e' : Int} (h : 0 < m) (h' : 0 < m') :
    UnpackedFloat.lt (.finite .positive m e h) (.finite .positive m' e' h') = true ↔ e < e' ∨ e = e' ∧ m < m' := by
  show (some ((compare e e').then (compare m m')) == some Ordering.lt) = true ↔ _
  rw [beq_iff_eq, Option.some.injEq, Ordering.then_eq_lt, Int.compare_eq_lt, Int.compare_eq_eq, Nat.compare_eq_lt]

theorem finite_negative_lt {m m' : Nat} {e e' : Int} (h : 0 < m) (h' : 0 < m') :
    UnpackedFloat.lt (.finite .negative m e h) (.finite .negative m' e' h') = true ↔ e' < e ∨ e' = e ∧ m' < m := by
  show (some ((compare e e').then (compare m m')).swap == some Ordering.lt) = true ↔ _
  rw [beq_iff_eq, Option.some.injEq, Ordering.swap_eq_lt, Ordering.then_eq_gt, Int.compare_eq_gt, Int.compare_eq_eq,
    Nat.compare_eq_gt, eq_comm]

theorem roundWhole_of_pos {n : Int} (h : 0 < n) : roundWhole n = roundNat n.natAbs := by
  rw [roundWhole, Int.sign_eq_one_of_pos h, Int.one_mul]

theorem roundWhole_of_neg {n : Int} (h : n < 0) : roundWhole n = -(roundNat n.natAbs : Int) := by
  rw [roundWhole, Int.sign_eq_neg_one_of_neg h, Int.neg_one_mul]

/-- The floats nearest to whole numbers are in the order of the numbers rounded to 53 bits. -/
theorem wholeFloat_lt_iff {a b : Int} (ha : a.natAbs.log2 < 64) (hb : b.natAbs.log2 < 64) :
    wholeFloat a < wholeFloat b ↔ roundWhole a < roundWhole b := by
  have rounded {n : Int} (h : n ≠ 0) : 0 < roundNat n.natAbs := roundNat_pos (Int.natAbs_pos.mpr h)
  have zero : roundWhole 0 = 0 := rfl
  rw [float_lt_iff]
  rcases Int.lt_trichotomy a 0 with ha0 | rfl | ha0 <;> rcases Int.lt_trichotomy b 0 with hb0 | rfl | hb0
  · -- Both are negative: the order of their bits turns around.
    have bits := nearestBits_lt_iff (Int.natAbs_pos.mpr hb0.ne) (Int.natAbs_pos.mpr ha0.ne) hb ha
    rw [unpack_wholeFloat ha0.ne ha, unpack_wholeFloat hb0.ne hb, if_pos ha0, if_pos hb0]
    rw [finite_negative_lt, roundWhole_of_neg ha0, roundWhole_of_neg hb0, Int.neg_lt_neg_iff, Int.ofNat_lt, ← bits]
    omega
  · have := rounded ha0.ne
    rw [unpack_wholeFloat ha0.ne ha, unpack_wholeFloat_zero, if_pos ha0, roundWhole_of_neg ha0, zero]
    exact iff_of_true rfl (by omega)
  · have := rounded ha0.ne
    rw [unpack_wholeFloat ha0.ne ha, unpack_wholeFloat hb0.ne' hb, if_pos ha0, if_neg hb0.not_gt,
      roundWhole_of_neg ha0, roundWhole_of_pos hb0]
    exact iff_of_true rfl (by omega)
  · rw [unpack_wholeFloat hb0.ne hb, unpack_wholeFloat_zero, if_pos hb0, roundWhole_of_neg hb0, zero]
    exact iff_of_false Bool.false_ne_true (by omega)
  · exact iff_of_false (by rw [unpack_wholeFloat_zero]; exact Bool.false_ne_true) (Int.lt_irrefl _)
  · have := rounded hb0.ne'
    rw [unpack_wholeFloat hb0.ne' hb, unpack_wholeFloat_zero, if_neg hb0.not_gt, roundWhole_of_pos hb0, zero]
    exact iff_of_true rfl (by omega)
  · rw [unpack_wholeFloat ha0.ne' ha, unpack_wholeFloat hb0.ne hb, if_neg ha0.not_gt, if_pos hb0,
      roundWhole_of_pos ha0, roundWhole_of_neg hb0]
    exact iff_of_false Bool.false_ne_true (by omega)
  · rw [unpack_wholeFloat ha0.ne' ha, unpack_wholeFloat_zero, if_neg ha0.not_gt, roundWhole_of_pos ha0, zero]
    exact iff_of_false Bool.false_ne_true (by omega)
  · have bits := nearestBits_lt_iff (Int.natAbs_pos.mpr ha0.ne') (Int.natAbs_pos.mpr hb0.ne') ha hb
    rw [unpack_wholeFloat ha0.ne' ha, unpack_wholeFloat hb0.ne' hb, if_neg ha0.not_gt, if_neg hb0.not_gt]
    rw [finite_positive_lt, roundWhole_of_pos ha0, roundWhole_of_pos hb0, Int.ofNat_lt, ← bits]
    omega

/-- The float nearest to a whole number that is not too large is finite. -/
theorem isFinite_wholeFloat {n : Int} (hl : n.natAbs.log2 < 64) : (wholeFloat n).isFinite = true := by
  show (wholeFloat n).toModel.unpack.isFinite = true
  by_cases h : n = 0
  · rw [h, unpack_wholeFloat_zero]
    rfl
  · rw [unpack_wholeFloat h hl]
    rfl

/-! ### Floats from their bits -/

/-- The bits of a float without the sign. -/
def magnitude (x : Float) : Nat :=
  x.toBits.toNat % twoTo 63

/-- Whether a float has a sign. -/
def signed (x : Float) : Bool :=
  decide (x.toBits.toNat ≥ twoTo 63)

section
variable (x : BitVec 64)

theorem toNat_unpackExponent : (@unpackExponent Format.binary64 x).toNat = x.toNat / 2 ^ 52 % 2 ^ 11 := by
  show (BitVec.cast _ (BitVec.extractLsb 62 52 x)).toNat = _
  rw [BitVec.toNat_cast, BitVec.extractLsb_toNat, Nat.shiftRight_eq_div_pow]

theorem toNat_unpackMantissa : (@unpackMantissa Format.binary64 x).toNat = x.toNat % 2 ^ 52 := by
  show (BitVec.cast _ (BitVec.extractLsb 51 0 x)).toNat = _
  rw [BitVec.toNat_cast, BitVec.extractLsb_toNat, Nat.shiftRight_zero]

theorem toBitVec_ofBitVec (s : BitVec 1) : (Sign.ofBitVec s).toBitVec = s := by
  revert s
  decide

theorem toNat_unpackSign : (@unpackSign Format.binary64 x).toNat = x.toNat / 2 ^ 63 := by
  show (x.extractLsb' 63 1).toNat = _
  rw [BitVec.extractLsb'_toNat, Nat.shiftRight_eq_div_pow]
  have := x.isLt
  omega

theorem packComponents_unpack : packComponents Format.binary64 (Sign.ofBitVec (@unpackSign Format.binary64 x))
    (@unpackExponent Format.binary64 x) (@unpackMantissa Format.binary64 x) = x := by
  refine BitVec.eq_of_toNat_eq ?_
  rw [packComponents, toNat_append_eq, toNat_append_eq, toBitVec_ofBitVec, toNat_unpackSign, toNat_unpackExponent,
    toNat_unpackMantissa]
  show (x.toNat / 2 ^ 63 * 2 ^ 11 + x.toNat / 2 ^ 52 % 2 ^ 11) * 2 ^ 52 + x.toNat % 2 ^ 52 = x.toNat
  omega

end

/-- Zero and the floats below all those of 53 bits are packed as they were. -/
theorem pack_unpack_subnormal {x : BitVec 64} (least : @unpackExponent Format.binary64 x = 0#11) :
    UnpackedFloat.pack Format.binary64 (UnpackedFloat.unpack Format.binary64 x) = x := by
  have whole := packComponents_unpack x
  rw [least] at whole
  unfold UnpackedFloat.unpack
  dsimp only
  rw [if_neg (by rw [least]; decide), if_pos least]
  by_cases zero : @unpackMantissa Format.binary64 x = 0#52
  · rw [dif_pos zero]
    rw [zero] at whole
    exact whole
  · have positive : (@unpackMantissa Format.binary64 x).toNat ≠ 0 :=
      fun same => zero (BitVec.eq_of_toNat_eq same)
    have few : (@unpackMantissa Format.binary64 x).toNat.log2 < 52 :=
      (Nat.log2_lt positive).mpr (@unpackMantissa Format.binary64 x).isLt
    have bits : Format.binary64.mantissaBits = 53 := rfl
    rw [dif_neg zero]
    unfold UnpackedFloat.pack
    dsimp only
    rw [least, if_neg (by decide), if_neg (by omega), BitVec.ofNat_toNat, BitVec.setWidth_eq]
    exact whole

/-- A float that is not out of range is packed as it was. -/
theorem pack_unpack {x : BitVec 64} (finite : @unpackExponent Format.binary64 x ≠ -1#11) :
    UnpackedFloat.pack Format.binary64 (UnpackedFloat.unpack Format.binary64 x) = x := by
  by_cases least : @unpackExponent Format.binary64 x = 0#11
  · exact pack_unpack_subnormal least
  · have whole := packComponents_unpack x
    generalize Sign.ofBitVec (@unpackSign Format.binary64 x) = s at *
    generalize @unpackExponent Format.binary64 x = e at *
    generalize @unpackMantissa Format.binary64 x = f at *
    rw [← whole, unpack_packComponents s finite least, pack_finite s finite]

theorem exponent_of_finite {x : Float} (finite : x.isFinite = true) :
    @unpackExponent Format.binary64 x.toBits.toBitVec ≠ -1#11 := by
  intro full
  have shown : (UnpackedFloat.unpack Format.binary64 x.toBits.toBitVec).isFinite = true := finite
  unfold UnpackedFloat.unpack at shown
  dsimp only at shown
  rw [if_pos full] at shown
  split at shown <;> cases shown

theorem magnitude_lt {x : Float} (finite : x.isFinite = true) : magnitude x < 2047 * 2 ^ 52 := by
  have power : twoTo 63 = 2 ^ 63 := rfl
  have exponent := exponent_of_finite finite
  have field := toNat_unpackExponent x.toBits.toBitVec
  have : (@unpackExponent Format.binary64 x.toBits.toBitVec).toNat ≠ 2047 :=
    fun same => exponent (BitVec.eq_of_toNat_eq same)
  have lt := x.toBits.toBitVec.isLt
  rw [magnitude, power]
  show x.toBits.toBitVec.toNat % 2 ^ 63 < _
  omega

/-- A finite float is made of its bits. -/
theorem ofBits_toBits {x : Float} (finite : x.isFinite = true) : Float.ofBits x.toBits = x := by
  have bits : (Float.Model.ofBits x.toBits).toBits = x.toModel.toBits :=
    congrArg UInt64.ofBitVec (pack_unpack (exponent_of_finite finite))
  have model : Float.Model.ofBits x.toBits = x.toModel := by
    cases h : x.toModel
    rw [h] at bits
    cases h' : Float.Model.ofBits x.toBits
    rw [h'] at bits
    exact Float.Model.mk.injEq .. ▸ bits
  exact congrArg Float.ofModel model

theorem isNaN_of_isFinite {x : Float} (finite : x.isFinite = true) : x.isNaN = false := by
  have shown : x.toModel.unpack.isFinite = true := finite
  show x.toModel.unpack.isNaN = false
  cases h : x.toModel.unpack <;> rw [h] at shown <;> first | rfl | cases shown

theorem isFinite_of_exponent {x : BitVec 64} (exponent : @unpackExponent Format.binary64 x ≠ -1#11) :
    (UnpackedFloat.unpack Format.binary64 x).isFinite = true := by
  unfold UnpackedFloat.unpack
  dsimp only
  rw [if_neg exponent]
  by_cases least : @unpackExponent Format.binary64 x = 0#11
  · rw [if_pos least]
    by_cases zero : @unpackMantissa Format.binary64 x = 0#52
    · rw [dif_pos zero]
      rfl
    · rw [dif_neg zero]
      rfl
  · rw [if_neg least]
    rfl

theorem magnitude_of_not_finite {x : Float} (infinite : x.isFinite = false) (number : x.isNaN = false) :
    magnitude x = 2047 * 2 ^ 52 := by
  have power : twoTo 63 = 2 ^ 63 := rfl
  have full : @unpackExponent Format.binary64 x.toBits.toBitVec = -1#11 := by
    by_contra exponent
    cases (isFinite_of_exponent exponent).symm.trans infinite
  have zero : @unpackMantissa Format.binary64 x.toBits.toBitVec = 0#52 := by
    by_contra filled
    have shown : (UnpackedFloat.unpack Format.binary64 x.toBits.toBitVec).isNaN = false := number
    unfold UnpackedFloat.unpack at shown
    dsimp only at shown
    rw [if_pos full, if_neg filled] at shown
    cases shown
  have exponent := toNat_unpackExponent x.toBits.toBitVec
  have mantissa := toNat_unpackMantissa x.toBits.toBitVec
  rw [full] at exponent
  rw [zero] at mantissa
  replace exponent : 2047 = x.toBits.toBitVec.toNat / 2 ^ 52 % 2 ^ 11 := exponent
  replace mantissa : 0 = x.toBits.toBitVec.toNat % 2 ^ 52 := mantissa
  have lt := x.toBits.toBitVec.isLt
  rw [magnitude, power]
  show x.toBits.toBitVec.toNat % 2 ^ 63 = _
  omega

end CommandScript.Decimal
