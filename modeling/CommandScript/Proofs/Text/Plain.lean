import CommandScript.Proofs.Text.Blank
import CommandScript.Proofs.Text.Case

/-! The plain form of names: without the blanks around them and in lower case. A plain name is its own plain form, since
    lower case makes no blanks. -/

namespace CommandScript.Text

/-- A name without the blanks around it, in lower case. -/
def plain (t : String) : String :=
  lower (trim t)

/-! ### Trimmed texts -/

theorem plain_of_trim {name : String} (trimmed : trim name = name) : plain name = lower name := by
  rw [plain, trimmed]

theorem trimChars_eq_self {cs : List Char} (first : ∀ c ∈ cs.head?, isBlank c = false)
    (last : ∀ c ∈ cs.getLast?, isBlank c = false) : trimChars cs = cs := by
  have same : cs.dropWhile isBlank = cs := by
    cases cs with
    | nil => rfl
    | cons c rest => exact List.dropWhile_cons_of_neg (by simp [first c rfl])
  have same' : cs.reverse.dropWhile isBlank = cs.reverse := by
    cases h : cs.reverse with
    | nil => rfl
    | cons c rest =>
      refine List.dropWhile_cons_of_neg ?_
      rw [last c (by rw [← List.head?_reverse, h]; rfl)]
      exact Bool.false_ne_true
  rw [trimChars, dropBlankEnd, same, same', List.reverse_reverse]

theorem not_blank_of_head? {cs : List Char} {c : Char} (h : (trimChars cs).head? = some c) : isBlank c = false := by
  rw [head?_trimChars] at h
  exact Bool.eq_false_iff.mpr fun blank => by simpa [blank] using List.find?_some h

theorem not_blank_of_getLast? {cs : List Char} {c : Char} (h : (trimChars cs).getLast? = some c) :
    isBlank c = false := by
  have first := List.head?_dropWhile_not isBlank (cs.dropWhile isBlank).reverse
  rw [trimChars, dropBlankEnd, List.getLast?_reverse] at h
  rwa [h] at first

/-! ### Lower case -/

/-- The blank characters, as stretches of them. -/
def blankSpans : List (Nat × Nat) :=
  [(9, 13), (32, 32), (0x85, 0x85), (0xA0, 0xA0), (0x1680, 0x1680), (0x2000, 0x200A), (0x2028, 0x2029),
    (0x202F, 0x202F), (0x205F, 0x205F), (0x3000, 0x3000)]

theorem exists_blankSpan {c : Char} (h : isBlank c = true) : ∃ s ∈ blankSpans, s.1 ≤ c.toNat ∧ c.toNat ≤ s.2 := by
  simp only [isBlank, Bool.or_eq_true, Bool.and_eq_true, decide_eq_true_eq, beq_iff_eq] at h
  simp only [blankSpans, List.mem_cons, List.not_mem_nil, or_false, exists_eq_or_imp, exists_eq_left]
  omega

theorem isBlank_toLower (c : Char) : isBlank c.toLower = isBlank c := by
  by_cases capital : 65 ≤ c.toNat ∧ c.toNat ≤ 90
  · rw [Bool.eq_iff_iff]
    simp only [isBlank, toNat_toLower, if_pos capital, Bool.or_eq_true, Bool.and_eq_true, decide_eq_true_eq, beq_iff_eq]
    omega
  · rw [toLower_of_not_capital capital]

/-- No run of the case table leads to a blank character. -/
theorem lowerRuns_not_blank : (CaseTable.lowerRuns.all fun r =>
    blankSpans.all fun s => Nat.blt (r.target + (r.last - r.first)) s.1 || Nat.blt s.2 r.target) = true := by
  decide

theorem not_blank_of_mem_lowerChar {c d : Char} (h : isBlank c = false) (hd : d ∈ lowerChar c) :
    isBlank d = false := by
  unfold lowerChar at hd
  split at hd
  · obtain rfl := List.mem_singleton.mp hd
    exact (isBlank_toLower c).trans h
  · split at hd
    · rcases List.mem_cons.mp hd with rfl | hd
      · decide
      · obtain rfl := List.mem_singleton.mp hd
        decide
    · obtain rfl := List.mem_singleton.mp hd
      rw [mapByRuns]
      split
      · rename_i image found
        obtain ⟨r, hr, himage⟩ := List.exists_of_findSome?_eq_some found
        have small := List.all_eq_true.mp lowerRuns_small r hr
        have value := toNat_ofNat (CaseRun.isValidChar_image small himage)
        obtain ⟨-, le, -, rfl⟩ := CaseRun.image?_eq_some himage
        refine Bool.eq_false_iff.mpr fun blank => ?_
        obtain ⟨s, hs, low, high⟩ := exists_blankSpan blank
        have apart := List.all_eq_true.mp (List.all_eq_true.mp lowerRuns_not_blank r hr) s hs
        rw [value] at low high
        rw [Bool.or_eq_true, Nat.blt_eq, Nat.blt_eq] at apart
        omega
      · exact h

/-- What a character becomes in lower case, wherever it stands. If it is not blank, no part of that is. -/
theorem exists_mapped (before : List Char) (c : Char) (rest : List Char) :
    ∃ mapped, lowerFrom before (c :: rest) = mapped ++ lowerFrom (c :: before) rest ∧ mapped ≠ [] ∧
      (isBlank c = false → ∀ d ∈ mapped, isBlank d = false) := by
  rw [lowerFrom]
  refine ⟨_, rfl, ?_, fun h d hd => ?_⟩
  · split
    · exact List.cons_ne_nil _ _
    · exact lowerChar_ne_nil c
  · split at hd
    · obtain rfl := List.mem_singleton.mp hd
      split <;> decide
    · exact not_blank_of_mem_lowerChar h hd

theorem not_blank_of_head?_lowerFrom {before cs : List Char} (first : ∀ c ∈ cs.head?, isBlank c = false) :
    ∀ d ∈ (lowerFrom before cs).head?, isBlank d = false := by
  cases cs with
  | nil => exact fun _ hd => (by cases hd)
  | cons c rest =>
    intro d hd
    obtain ⟨mapped, same, filled, solid⟩ := exists_mapped before c rest
    obtain ⟨d', mapped, rfl⟩ := List.exists_cons_of_ne_nil filled
    rw [same] at hd
    cases hd
    exact solid (first c rfl) d List.mem_cons_self

theorem not_blank_of_getLast?_lowerFrom {before cs : List Char} (last : ∀ c ∈ cs.getLast?, isBlank c = false) :
    ∀ d ∈ (lowerFrom before cs).getLast?, isBlank d = false := by
  induction cs generalizing before with
  | nil => exact fun _ hd => (by cases hd)
  | cons c rest ih =>
    intro d hd
    cases rest with
    | nil =>
      obtain ⟨mapped, same, -, solid⟩ := exists_mapped before c []
      rw [same, lowerFrom, List.append_nil] at hd
      exact solid (last c rfl) d (List.mem_of_mem_getLast? hd)
    | cons c' rest =>
      have last' : ∀ d ∈ (lowerFrom (c :: before) (c' :: rest)).getLast?, isBlank d = false :=
        ih fun e he => last e (by rw [List.getLast?_cons_cons]; exact he)
      obtain ⟨mapped, same, filled, -⟩ := exists_mapped (c :: before) c' rest
      have later : lowerFrom (c :: before) (c' :: rest) ≠ [] := same ▸ List.append_ne_nil_of_left_ne_nil filled _
      obtain ⟨e, he⟩ := Option.ne_none_iff_exists'.mp (mt List.getLast?_eq_none_iff.mp later)
      rw [lowerFrom, List.getLast?_append, he] at hd
      cases hd
      exact last' d he

/-- A plain name is its own plain form. -/
@[simp] theorem plain_plain (t : String) : plain (plain t) = plain t := by
  have trimmed : trim (plain t) = plain t := by
    rw [plain, lower, trim, trim, String.toList_ofList, String.toList_ofList, trimChars_eq_self]
    · exact not_blank_of_head?_lowerFrom fun c => not_blank_of_head?
    · exact not_blank_of_getLast?_lowerFrom fun c => not_blank_of_getLast?
  rw [plain, trimmed, plain, lower_lower]

end CommandScript.Text
