import Mathlib.Algebra.Group.Nat.Defs
import CommandScript.Text.Case

/-! A text in lower case is left as it is by lower case. What the runs of the case table lead to is not led on by any
    run, and a capital sigma does not come up. The lower case of ASCII letters alone goes into it unseen. -/

namespace CommandScript.Text

/-! ### ASCII letters -/

theorem toNat_toLower (c : Char) :
    c.toLower.toNat = if 65 ≤ c.toNat ∧ c.toNat ≤ 90 then c.toNat + 32 else c.toNat := by
  unfold Char.toLower
  split
  · rename_i capital
    have low : 65 ≤ c.toNat := UInt32.le_iff_toNat_le.mp capital.1
    have high : c.toNat ≤ 90 := UInt32.le_iff_toNat_le.mp capital.2
    rw [if_pos ⟨low, high⟩]
    exact (UInt32.toNat_add ..).trans (Nat.mod_eq_of_lt (by change c.toNat + 32 < 2 ^ 32; omega))
  · rename_i other
    refine (if_neg fun capital => other ?_).symm
    exact ⟨UInt32.le_iff_toNat_le.mpr capital.1, UInt32.le_iff_toNat_le.mpr capital.2⟩

theorem toLower_of_not_capital {c : Char} (h : ¬(65 ≤ c.toNat ∧ c.toNat ≤ 90)) : c.toLower = c :=
  Char.toNat_inj.mp (by rw [toNat_toLower, if_neg h])

theorem toLower_of_not_ascii {c : Char} (h : ¬c.toNat < 128) : c.toLower = c :=
  toLower_of_not_capital (by omega)

theorem toLower_toLower (c : Char) : c.toLower.toLower = c.toLower :=
  toLower_of_not_capital (by rw [toNat_toLower]; split <;> omega)

/-- No letter of ASCII becomes, in lower case, a character before the small letters. -/
theorem eq_of_toLower {c d : Char} (h : d.toLower = c) (small : c.toNat < 97) : d = c := by
  rw [← h, toNat_toLower] at small
  rw [← h, toLower_of_not_capital]
  split at small <;> omega

/-! ### Runs -/

/-- The characters that a run maps. -/
def CaseRun.sources (r : CaseRun) : List Nat :=
  List.range' r.first ((r.last - r.first) / r.stride + 1) r.stride

/-- The characters that a run leads to. -/
def CaseRun.targets (r : CaseRun) : List Nat :=
  List.range' r.target ((r.last - r.first) / r.stride + 1) r.stride

/-- What a run leads to are characters, and those of ASCII are small letters. -/
def CaseRun.small (r : CaseRun) : Bool :=
  (97 ≤ r.target && r.target + (r.last - r.first) ≤ 122) ||
    (128 ≤ r.target && (r.target + (r.last - r.first) < 0xD800 ||
      (0xE000 ≤ r.target && r.target + (r.last - r.first) < 0x110000)))

/-- The dotted capital I and the capital sigma, which have lower cases of their own. -/
def specialRuns : List CaseRun :=
  [⟨0x130, 0x130, 1, 0⟩, ⟨0x3A3, 0x3A3, 1, 0⟩]

/-- The number whose binary digits are set at the places of a list. -/
def digitsAt (places : List Nat) : Nat :=
  places.foldr (fun n digits => 2 ^ n ||| digits) 0

theorem testBit_digitsAt (places : List Nat) (n : Nat) : (digitsAt places).testBit n = decide (n ∈ places) := by
  induction places with
  | nil => simp [digitsAt]
  | cons m places ih =>
    rw [digitsAt, List.foldr_cons, Nat.testBit_or, Nat.testBit_two_pow, ← digitsAt, ih]
    simp [eq_comm]

theorem lowerRuns_small : CaseTable.lowerRuns.all CaseRun.small = true := by
  decide

/-- No character that a run leads to is one that a run maps. All of them are compared at once, as binary digits. -/
theorem lowerRuns_apart : digitsAt ((specialRuns ++ CaseTable.lowerRuns).flatMap (·.sources)) &&&
    digitsAt (CaseTable.lowerRuns.flatMap (·.targets)) = 0 := by
  decide +kernel

theorem CaseRun.image?_eq_some {r : CaseRun} {n image : Nat} (h : r.image? n = some image) :
    r.first ≤ n ∧ n ≤ r.last ∧ (n - r.first) % r.stride = 0 ∧ image = r.target + (n - r.first) := by
  unfold image? at h
  split at h
  · rename_i inside
    simp only [Bool.and_eq_true, decide_eq_true_eq, beq_iff_eq] at inside
    exact ⟨inside.1.1, inside.1.2, inside.2, (Option.some.inj h).symm⟩
  · cases h

theorem CaseRun.mem_of_image? {r : CaseRun} {n image : Nat} (h : r.image? n = some image) :
    n ∈ r.sources ∧ image ∈ r.targets := by
  obtain ⟨le, ge, stride, rfl⟩ := image?_eq_some h
  have before : (n - r.first) / r.stride < (r.last - r.first) / r.stride + 1 :=
    Nat.lt_succ_of_le (Nat.div_le_div_right (Nat.sub_le_sub_right ge _))
  have even : r.stride * ((n - r.first) / r.stride) = n - r.first := Nat.mul_div_cancel' (Nat.dvd_of_mod_eq_zero stride)
  exact ⟨List.mem_range'.mpr ⟨_, before, by omega⟩, List.mem_range'.mpr ⟨_, before, by omega⟩⟩

theorem image?_of_image? {r other : CaseRun} (hr : r ∈ CaseTable.lowerRuns)
    (hother : other ∈ specialRuns ++ CaseTable.lowerRuns) {n image : Nat} (h : r.image? n = some image) :
    other.image? image = none := by
  cases himage : other.image? image with
  | none => rfl
  | some _ =>
    have apart := congrArg (Nat.testBit · image) lowerRuns_apart
    simp only [Nat.testBit_and, testBit_digitsAt, Nat.zero_testBit, Bool.and_eq_false_iff, decide_eq_false_iff_not]
      at apart
    rcases apart with unmapped | unreached
    · exact absurd (List.mem_flatMap_of_mem hother (CaseRun.mem_of_image? himage).1) unmapped
    · exact absurd (List.mem_flatMap_of_mem hr (CaseRun.mem_of_image? h).2) unreached

theorem CaseRun.isValidChar_image {r : CaseRun} (small : r.small = true) {n image : Nat}
    (h : r.image? n = some image) : image.isValidChar := by
  obtain ⟨le, ge, -, rfl⟩ := image?_eq_some h
  simp only [CaseRun.small, Bool.or_eq_true, Bool.and_eq_true, decide_eq_true_eq] at small
  unfold Nat.isValidChar
  omega

/-! ### Characters -/

theorem lowerChar_ne_nil (c : Char) : lowerChar c ≠ [] := by
  unfold lowerChar
  split
  · exact List.cons_ne_nil _ _
  · split
    · exact List.cons_ne_nil _ _
    · exact List.cons_ne_nil _ _

/-- Lower case leaves a character as it is, wherever it stands. -/
structure Settled (c : Char) : Prop where
  notSigma : c.toNat ≠ 0x3A3
  same : lowerChar c = [c]

theorem toNat_ofNat {n : Nat} (h : n.isValidChar) : (Char.ofNat n).toNat = n := by
  unfold Char.ofNat
  rw [dif_pos h]
  rfl

theorem settled_ascii {c : Char} (h : c.toNat < 128) : Settled c.toLower := by
  have small : c.toLower.toNat < 128 := by rw [toNat_toLower]; split <;> omega
  refine ⟨by omega, ?_⟩
  rw [lowerChar, if_pos small, toLower_toLower]

/-- What a run leads to is settled. -/
theorem settled_image {r : CaseRun} (hr : r ∈ CaseTable.lowerRuns) {n image : Nat} (h : r.image? n = some image) :
    Settled (Char.ofNat image) := by
  have small := List.all_eq_true.mp lowerRuns_small r hr
  have none : ∀ o ∈ specialRuns ++ CaseTable.lowerRuns, o.image? image = none := fun o ho => image?_of_image? hr ho h
  have valid := CaseRun.isValidChar_image small h
  obtain ⟨le, ge, -, rfl⟩ := CaseRun.image?_eq_some h
  simp only [CaseRun.small, Bool.or_eq_true, Bool.and_eq_true, decide_eq_true_eq] at small
  have value := toNat_ofNat valid
  have special : r.target + (n - r.first) ≠ 0x130 ∧ r.target + (n - r.first) ≠ 0x3A3 := by
    constructor
    · intro same
      have no := none ⟨0x130, 0x130, 1, 0⟩ (by simp [specialRuns])
      rw [same] at no
      exact absurd no (by decide)
    · intro same
      have no := none ⟨0x3A3, 0x3A3, 1, 0⟩ (by simp [specialRuns])
      rw [same] at no
      exact absurd no (by decide)
  refine ⟨by rw [value]; exact special.2, ?_⟩
  unfold lowerChar
  rw [value]
  split
  · rw [toLower_of_not_capital (by rw [value]; omega)]
  · rw [if_neg special.1, mapByRuns, value]
    have unmoved : CaseTable.lowerRuns.findSome? (·.image? (r.target + (n - r.first))) = Option.none :=
      List.findSome?_eq_none_iff.mpr fun o ho => none o (List.mem_append_right _ ho)
    rw [unmoved]

/-- The lower case of a character, which is no capital sigma, is settled. -/
theorem settled_of_mem_lowerChar {c d : Char} (notSigma : c.toNat ≠ 0x3A3) (hd : d ∈ lowerChar c) : Settled d := by
  unfold lowerChar at hd
  split at hd
  · rename_i ascii
    obtain rfl := List.mem_singleton.mp hd
    exact settled_ascii ascii
  · rename_i notAscii
    split at hd
    · have both : Settled 'i' ∧ Settled '\u0307' := ⟨⟨by decide, by decide⟩, by decide, by decide⟩
      rcases List.mem_cons.mp hd with rfl | hd
      · exact both.1
      · obtain rfl := List.mem_singleton.mp hd
        exact both.2
    · rename_i notDotted
      obtain rfl := List.mem_singleton.mp hd
      rw [mapByRuns]
      split
      · rename_i image found
        obtain ⟨r, hr, himage⟩ := List.exists_of_findSome?_eq_some found
        exact settled_image hr himage
      · rename_i unmoved
        refine ⟨notSigma, ?_⟩
        rw [lowerChar, if_neg notAscii, if_neg notDotted, mapByRuns, unmoved]

/-! ### Texts -/

theorem settled_of_mem_lowerFrom {before cs : List Char} {d : Char} (hd : d ∈ lowerFrom before cs) : Settled d := by
  induction cs generalizing before with
  | nil => exact absurd hd List.not_mem_nil
  | cons c rest ih =>
    rw [lowerFrom] at hd
    rcases List.mem_append.mp hd with hd | hd
    · split at hd
      · have both : Settled 'ς' ∧ Settled 'σ' := ⟨⟨by decide, by decide⟩, by decide, by decide⟩
        obtain rfl := List.mem_singleton.mp hd
        split
        · exact both.1
        · exact both.2
      · rename_i notSigma
        exact settled_of_mem_lowerChar notSigma hd
    · exact ih hd

theorem lowerFrom_of_settled {cs : List Char} (settled : ∀ c ∈ cs, Settled c) (before : List Char) :
    lowerFrom before cs = cs := by
  induction cs generalizing before with
  | nil => rfl
  | cons c rest ih =>
    have first := settled c List.mem_cons_self
    rw [lowerFrom, if_neg first.notSigma, first.same, ih fun d hd => settled d (List.mem_cons_of_mem _ hd)]
    rfl

/-- A text in lower case is in lower case already. -/
@[simp] theorem lower_lower (s : String) : lower (lower s) = lower s := by
  unfold lower
  rw [String.toList_ofList, lowerFrom_of_settled fun c hc => settled_of_mem_lowerFrom hc]

/-! ### ASCII letters in lower case -/

/-- The lower case of ASCII letters changes nothing that full lower case looks at. -/
theorem ascii_alike (c : Char) : lowerChar c.toLower = lowerChar c ∧ (c.toLower.toNat = 0x3A3 ↔ c.toNat = 0x3A3) ∧
    isCaseIgnorable c.toLower = isCaseIgnorable c ∧ isCased c.toLower = isCased c := by
  by_cases capital : 65 ≤ c.toNat ∧ c.toNat ≤ 90
  · have ascii : c.toNat < 128 := by omega
    have all : ∀ n < 91, 65 ≤ n → isCaseIgnorable (Char.ofNat n).toLower = isCaseIgnorable (Char.ofNat n) ∧
        isCased (Char.ofNat n).toLower = isCased (Char.ofNat n) := by
      decide
    have here := all c.toNat (Nat.lt_succ_of_le capital.2) capital.1
    rw [Char.ofNat_toNat] at here
    refine ⟨(settled_ascii ascii).same.trans ?_, ?_, here⟩
    · rw [lowerChar, if_pos ascii]
    · rw [toNat_toLower, if_pos capital]
      omega
  · rw [toLower_of_not_capital capital]
    exact ⟨rfl, Iff.rfl, rfl, rfl⟩

theorem casedNext_toLower (cs : List Char) : casedNext (cs.map Char.toLower) = casedNext cs := by
  unfold casedNext
  induction cs with
  | nil => rfl
  | cons c cs ih =>
    obtain ⟨-, -, ignorable, cased⟩ := ascii_alike c
    rw [List.map_cons, List.dropWhile_cons, List.dropWhile_cons, ignorable]
    cases isCaseIgnorable c with
    | true => exact ih
    | false => exact cased

theorem lowerFrom_toLower (before cs : List Char) :
    lowerFrom (before.map Char.toLower) (cs.map Char.toLower) = lowerFrom before cs := by
  induction cs generalizing before with
  | nil => rfl
  | cons c cs ih =>
    obtain ⟨same, sigma, -, -⟩ := ascii_alike c
    have later := ih (c :: before)
    rw [List.map_cons] at later ⊢
    rw [lowerFrom, lowerFrom, same, casedNext_toLower, casedNext_toLower, later]
    simp only [sigma]

/-- Full lower case is the same for texts that are equal up to the case of ASCII letters. -/
theorem lower_asciiLower (s : String) : lower (asciiLower s) = lower s := by
  unfold lower asciiLower
  rw [String.toList_ofList]
  exact congrArg String.ofList (lowerFrom_toLower [] s.toList)

theorem Settled.toLower {c : Char} (h : Settled c) : c.toLower = c := by
  by_cases ascii : c.toNat < 128
  · have same := h.same
    rw [lowerChar, if_pos ascii] at same
    exact (List.cons.inj same).1
  · exact toLower_of_not_ascii ascii

theorem mem_of_mem_asciiLower {c : Char} {s : String} (h : c ∈ (asciiLower s).toList) (small : c.toNat < 97) :
    c ∈ s.toList := by
  rw [asciiLower, String.toList_ofList] at h
  obtain ⟨d, hd, same⟩ := List.mem_map.mp h
  rwa [← eq_of_toLower same small]

theorem asciiLower_asciiLower (s : String) : asciiLower (asciiLower s) = asciiLower s := by
  rw [asciiLower, asciiLower, String.toList_ofList, List.map_map]
  exact congrArg String.ofList (List.map_congr_left fun c _ => toLower_toLower c)

/-- A text in lower case has no capital of ASCII. -/
theorem asciiLower_lower (s : String) : asciiLower (lower s) = lower s := by
  unfold asciiLower lower
  rw [String.toList_ofList]
  refine congrArg String.ofList ?_
  rw [List.map_congr_left fun c hc => (settled_of_mem_lowerFrom hc).toLower]
  exact List.map_id' _

theorem eqIgnoreAsciiCase_iff {s t : String} : eqIgnoreAsciiCase s t = true ↔ asciiLower s = asciiLower t := by
  rw [eqIgnoreAsciiCase, beq_iff_eq, asciiLower, asciiLower, String.ofList_inj]

end CommandScript.Text
