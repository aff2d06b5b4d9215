import Mathlib.Data.List.TakeWhile
import CommandScript.Proofs.Text.Blank
import CommandScript.Proofs.Text.Plain
import CommandScript.Proofs.Text.Quoted
import CommandScript.Value.Reading

/-! Whole numbers read back from their text: as whole numbers they are the same, and as numbers they are the nearest
    floats. Texts that can be read have no blanks in them. -/

namespace CommandScript

namespace Text

theorem trimChars_of_no_blank {cs : List Char} (h : ∀ c ∈ cs, isBlank c = false) : trimChars cs = cs := by
  obtain ⟨left, right, left_blank, right_blank, heq⟩ := exists_blanks cs
  have none (bs : List Char) (blank : ∀ c ∈ bs, isBlank c = true) (sub : ∀ c ∈ bs, c ∈ cs) : bs = [] := by
    cases bs with
    | nil => rfl
    | cons b rest =>
      have no := h b (sub b List.mem_cons_self)
      rw [blank b List.mem_cons_self] at no
      cases no
  obtain rfl : left = [] := none left left_blank fun c hc => heq ▸ List.mem_append_left _ hc
  obtain rfl : right = [] := none right right_blank fun c hc => heq ▸ by simp [hc]
  rw [List.nil_append, List.append_nil] at heq
  exact heq.symm

theorem isBlank_of_isDigit {c : Char} (h : c.isDigit = true) : isBlank c = false := by
  have bounds : 48 ≤ c.toNat ∧ c.toNat ≤ 57 := Char.isDigit_iff_toNat.mp h
  refine Bool.eq_false_iff.mpr fun blank => ?_
  simp only [isBlank, Bool.or_eq_true, Bool.and_eq_true, decide_eq_true_eq, beq_iff_eq] at blank
  omega

end Text

namespace Decimal

theorem isDigit_of_mem_digitsOf {n : Nat} {c : Char} (h : c ∈ digitsOf n) : c.isDigit = true :=
  Nat.isDigit_of_mem_toDigits (by decide) (by decide) h

theorem digitsValue_digitsOf (n : Nat) : digitsValue 0 (digitsOf n) = n :=
  Nat.ofDigitChars_toDigits (by decide) (by decide)

theorem readDigits?_digitsOf (n : Nat) : readDigits? (digitsOf n) = some n := by
  have digits : (digitsOf n).all Char.isDigit = true :=
    List.all_eq_true.mpr fun _ => isDigit_of_mem_digitsOf
  have filled : (digitsOf n).isEmpty = false := List.isEmpty_eq_false_iff.mpr Nat.toDigits_ne_nil
  rw [readDigits?, digits, filled, digitsValue_digitsOf]
  rfl

theorem readUnsigned?_digitsOf (negative : Bool) (n : Nat) :
    readUnsigned? negative (digitsOf n) = some (nearestFloat negative n 0) := by
  have whole : (digitsOf n).takeWhile Char.isDigit = digitsOf n :=
    List.takeWhile_eq_self_iff.mpr fun _ => isDigit_of_mem_digitsOf
  have rest : (digitsOf n).dropWhile Char.isDigit = [] :=
    List.dropWhile_eq_nil_iff.mpr fun _ => isDigit_of_mem_digitsOf
  have filled : (digitsOf n).isEmpty = false := List.isEmpty_eq_false_iff.mpr Nat.toDigits_ne_nil
  unfold readUnsigned?
  simp only [whole, rest, filled, Bool.false_and, Bool.false_eq_true, if_false, readExponent?, Option.map_some,
    List.append_nil, digitsValue_digitsOf, List.length_nil]
  rfl

/-- Digits begin with no sign. -/
theorem digitsOf_eq_cons (n : Nat) : ∃ c rest, digitsOf n = c :: rest ∧ c ≠ '-' ∧ c ≠ '+' := by
  cases h : digitsOf n with
  | nil => exact absurd h Nat.toDigits_ne_nil
  | cons c rest =>
    have digit : c.isDigit = true := isDigit_of_mem_digitsOf (h ▸ List.mem_cons_self)
    refine ⟨c, rest, rfl, ?_, ?_⟩ <;> rintro rfl <;> exact absurd digit (by decide)

end Decimal

namespace Value

theorem toList_integerText (n : Int64) : (integerText n).toList =
    if n.toInt < 0 then '-' :: Decimal.digitsOf n.toInt.natAbs else Decimal.digitsOf n.toInt.natAbs := by
  rw [integerText, String.toList_ofList]
  by_cases h : n < 0
  · have negative : n.toInt < 0 := Int64.lt_iff_toInt_lt.mp h
    rw [if_pos h, if_pos negative]
  · have natural : ¬n.toInt < 0 := fun negative => h (Int64.lt_iff_toInt_lt.mpr negative)
    rw [if_neg h, if_neg natural]

/-- A whole number is read back from its text. -/
@[simp] theorem readInteger?_integerText (n : Int64) : readInteger? (integerText n) = some n := by
  have fits :
      (some n.toInt).filter (fun n => Int64.minValue.toInt ≤ n && n ≤ Int64.maxValue.toInt) = some n.toInt := by
    rw [Option.filter_some_pos]
    rw [Bool.and_eq_true, decide_eq_true_iff, decide_eq_true_iff]
    exact ⟨Int64.minValue_le_toInt n, Int64.toInt_le n⟩
  have whole : Decimal.readWhole? Int64.minValue.toInt Int64.maxValue.toInt (integerText n) = some n.toInt := by
    unfold Decimal.readWhole?
    rw [toList_integerText]
    by_cases h : n.toInt < 0
    · rw [if_pos h]
      simp only [Decimal.readDigits?_digitsOf]
      show (some (-(n.toInt.natAbs : Int))).filter _ = _
      rw [show -(n.toInt.natAbs : Int) = n.toInt by omega, fits]
    · rw [if_neg h]
      obtain ⟨c, rest, hd, minus, plus⟩ := Decimal.digitsOf_eq_cons n.toInt.natAbs
      have read := Decimal.readDigits?_digitsOf n.toInt.natAbs
      rw [hd] at read ⊢
      split
      · rename_i same
        exact absurd (List.cons.inj same).1 minus
      · rename_i same
        exact absurd (List.cons.inj same).1 plus
      · rw [read]
        show (some (n.toInt.natAbs : Int)).filter _ = _
        rw [show (n.toInt.natAbs : Int) = n.toInt by omega, fits]
  rw [readInteger?, whole, Option.map_some, Int64.ofInt_toInt]

/-- The text of a whole number reads as the float nearest to it. -/
theorem readFloat?_integerText (n : Int64) :
    Decimal.readFloat? (integerText n) = some (Decimal.wholeFloat n.toInt) := by
  unfold Decimal.readFloat? Decimal.wholeFloat
  rw [toList_integerText]
  by_cases h : n.toInt < 0
  · rw [if_pos h, decide_eq_true h]
    exact Decimal.readUnsigned?_digitsOf true _
  · rw [if_neg h, decide_eq_false h]
    obtain ⟨c, rest, hd, minus, plus⟩ := Decimal.digitsOf_eq_cons n.toInt.natAbs
    have read := Decimal.readUnsigned?_digitsOf false n.toInt.natAbs
    rw [hd] at read ⊢
    split
    · rename_i same
      exact absurd (List.cons.inj same).1 minus
    · rename_i same
      exact absurd (List.cons.inj same).1 plus
    · exact read

end Value

/-! ### Texts that can be read -/

namespace Decimal

open Text (isBlank)

theorem not_blank_of_readDigits? {cs : List Char} {n : Nat} (h : readDigits? cs = some n) :
    ∀ c ∈ cs, isBlank c = false := by
  unfold readDigits? at h
  split at h
  · rename_i digits
    exact fun c hc => Text.isBlank_of_isDigit (List.all_eq_true.mp (Bool.and_eq_true_iff.mp digits).2 c hc)
  · cases h

theorem not_blank_of_readDigits?_cast {cs : List Char} {f : Int → Int} {n : Int}
    (h : (do return (↑(← readDigits? cs) : Int)).map f = some n) : ∀ c ∈ cs, isBlank c = false := by
  obtain ⟨_, h, -⟩ := Option.map_eq_some_iff.mp h
  obtain ⟨_, h, -⟩ := Option.bind_eq_some_iff.mp h
  exact not_blank_of_readDigits? h

theorem not_blank_of_readWhole? {low high : Int} {s : String} {n : Int} (h : readWhole? low high s = some n) :
    ∀ c ∈ s.toList, isBlank c = false := by
  obtain ⟨h, -⟩ := Option.filter_eq_some_iff.mp h
  generalize s.toList = cs at h
  split at h
  · exact List.forall_mem_cons.mpr ⟨by decide, not_blank_of_readDigits?_cast h⟩
  · exact List.forall_mem_cons.mpr ⟨by decide, not_blank_of_readDigits?_cast h⟩
  · exact not_blank_of_readDigits?_cast h

theorem not_blank_of_readExponent? {cs : List Char} {n : Int} (h : readExponent? cs = some n) :
    ∀ c ∈ cs, isBlank c = false := by
  unfold readExponent? at h
  split at h
  · exact List.forall_mem_nil _
  · split at h
    · rename_i c rest letter
      have plain : isBlank c = false := by
        rcases letter with rfl | rfl <;> decide
      refine List.forall_mem_cons.mpr ⟨plain, ?_⟩
      split at h
      · exact List.forall_mem_cons.mpr ⟨by decide, not_blank_of_readDigits?_cast h⟩
      · exact List.forall_mem_cons.mpr ⟨by decide, not_blank_of_readDigits?_cast h⟩
      · exact not_blank_of_readDigits?_cast h
    · cases h

theorem not_blank_of_readUnsigned? {negative : Bool} {cs : List Char} {x : Float}
    (h : readUnsigned? negative cs = some x) : ∀ c ∈ cs, isBlank c = false := by
  have digits (cs : List Char) : ∀ c ∈ cs.takeWhile Char.isDigit, isBlank c = false := fun c hc =>
    Text.isBlank_of_isDigit (List.mem_takeWhile_imp hc)
  have tail : ∀ {whole fraction tail : List Char}, (if (whole.isEmpty && fraction.isEmpty) = true then none
      else (readExponent? tail).map fun exponent =>
        nearestFloat negative (digitsValue 0 (whole ++ fraction)) (exponent - fraction.length)) = some x →
      ∀ c ∈ tail, isBlank c = false := fun h => by
    split at h
    · cases h
    · obtain ⟨_, h, -⟩ := Option.map_eq_some_iff.mp h
      exact not_blank_of_readExponent? h
  rw [← List.takeWhile_append_dropWhile (p := Char.isDigit) (l := cs)]
  unfold readUnsigned? at h
  dsimp only at h
  refine List.forall_mem_append.mpr ⟨digits cs, ?_⟩
  generalize cs.dropWhile Char.isDigit = rest at h
  split at h
  · rename_i behind
    rw [← List.takeWhile_append_dropWhile (p := Char.isDigit) (l := behind)]
    exact List.forall_mem_cons.mpr ⟨by decide, List.forall_mem_append.mpr ⟨digits behind, tail h⟩⟩
  · exact tail h

theorem not_blank_of_readFloat? {s : String} {x : Float} (h : readFloat? s = some x) :
    ∀ c ∈ s.toList, isBlank c = false := by
  unfold readFloat? at h
  generalize s.toList = cs at h
  split at h
  · exact List.forall_mem_cons.mpr ⟨by decide, not_blank_of_readUnsigned? h⟩
  · exact List.forall_mem_cons.mpr ⟨by decide, not_blank_of_readUnsigned? h⟩
  · exact not_blank_of_readUnsigned? h

end Decimal

namespace Text

theorem not_blank_of_eqIgnoreAsciiCase {s t : String} (same : eqIgnoreAsciiCase s t = true)
    (solid : t.toList.any isBlank = false) : ∀ c ∈ s.toList, isBlank c = false := by
  intro c hc
  have lowered : c.toLower ∈ t.toList.map Char.toLower := beq_iff_eq.mp same ▸ List.mem_map_of_mem hc
  obtain ⟨d, hd, alike⟩ := List.mem_map.mp lowered
  rw [← isBlank_toLower c, ← alike, isBlank_toLower]
  exact Bool.eq_false_iff.mpr (List.any_eq_false.mp solid d hd)

theorem trim_of_not_blank {s : String} (h : ∀ c ∈ s.toList, isBlank c = false) : trim s = s := by
  rw [trim, trimChars_of_no_blank h, String.ofList_toList]

end Text

namespace Value

theorem trim_of_readInteger? {s : String} {n : Int64} (h : readInteger? s = some n) : Text.trim s = s := by
  obtain ⟨_, h, -⟩ := Option.map_eq_some_iff.mp h
  exact Text.trim_of_not_blank (Decimal.not_blank_of_readWhole? h)

@[simp] theorem trim_integerText (n : Int64) : Text.trim (integerText n) = integerText n :=
  trim_of_readInteger? (readInteger?_integerText n)

theorem trim_of_readNumber? {s : String} {x : Float} (h : readNumber? s = some x) : Text.trim s = s :=
  Text.trim_of_not_blank (Decimal.not_blank_of_readFloat? (Option.filter_eq_some_iff.mp h).1)

theorem trim_of_readBoolean? {s : String} {b : Bool} (h : readBoolean? s = some b) : Text.trim s = s := by
  refine Text.trim_of_not_blank ?_
  unfold readBoolean? at h
  split at h
  · rename_i same
    exact Text.not_blank_of_eqIgnoreAsciiCase same (by decide)
  · split at h
    · rename_i same
      exact Text.not_blank_of_eqIgnoreAsciiCase same (by decide)
    · cases h

end Value

end CommandScript
