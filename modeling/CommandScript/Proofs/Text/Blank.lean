import CommandScript.Text.Blank
import CommandScript.Text.Split

/-! Text without its blank characters. Trimming takes nothing else away, and does not see blanks at either end. Text cut
    into pieces is found again when these are joined. -/

namespace CommandScript.Text

/-- Characters without the blank ones. -/
def solid (cs : List Char) : List Char :=
  cs.filter fun c => !isBlank c

@[simp] theorem solid_nil : solid [] = [] := rfl

@[simp] theorem solid_append (a b : List Char) : solid (a ++ b) = solid a ++ solid b :=
  List.filter_append a b

theorem solid_cons_blank {c : Char} (h : isBlank c = true) (cs : List Char) : solid (c :: cs) = solid cs := by
  simp [solid, h]

theorem solid_reverse (cs : List Char) : solid cs.reverse = (solid cs).reverse :=
  List.filter_reverse ..

theorem solid_eq_nil {cs : List Char} : solid cs = [] ↔ ∀ c ∈ cs, isBlank c = true := by
  simp [solid]

theorem solid_dropWhile (cs : List Char) : solid (cs.dropWhile isBlank) = solid cs := by
  induction cs with
  | nil => rfl
  | cons c rest ih =>
    cases h : isBlank c with
    | true => rw [List.dropWhile_cons_of_pos h, ih, solid_cons_blank h]
    | false => rw [List.dropWhile_cons_of_neg (by simp [h])]

theorem solid_trimChars (cs : List Char) : solid (trimChars cs) = solid cs := by
  rw [trimChars, dropBlankEnd, solid_reverse, solid_dropWhile, solid_reverse, List.reverse_reverse, solid_dropWhile]

theorem count_solid {c : Char} (h : isBlank c = false) (cs : List Char) : (solid cs).count c = cs.count c :=
  List.count_filter (by simp [h])

/-! ### Blanks at the ends -/

section
variable {bs : List Char} (h : ∀ c ∈ bs, isBlank c = true)
include h

theorem trimChars_blank_append (cs : List Char) : trimChars (bs ++ cs) = trimChars cs := by
  rw [trimChars, List.dropWhile_append_of_pos h, trimChars]

theorem trimChars_append_blank (cs : List Char) : trimChars (cs ++ bs) = trimChars cs := by
  have reversed : ∀ c ∈ bs.reverse, isBlank c = true := fun c hc => h c (List.mem_reverse.mp hc)
  induction cs with
  | nil =>
    have none_left : bs.dropWhile isBlank = [] := by
      rw [← List.append_nil bs, List.dropWhile_append_of_pos h, List.dropWhile_nil]
    rw [trimChars, List.nil_append, none_left, trimChars, List.dropWhile_nil]
  | cons c cs ih =>
    cases hc : isBlank c with
    | true =>
      rw [trimChars, List.cons_append, List.dropWhile_cons_of_pos hc, trimChars,
        List.dropWhile_cons_of_pos hc]
      exact ih
    | false =>
      rw [trimChars, List.cons_append, List.dropWhile_cons_of_neg (by simp [hc]), trimChars,
        List.dropWhile_cons_of_neg (by simp [hc]), dropBlankEnd, dropBlankEnd, ← List.cons_append,
        List.reverse_append, List.dropWhile_append_of_pos reversed]

end

theorem head?_trimChars (cs : List Char) : (trimChars cs).head? = cs.find? fun c => !isBlank c := by
  induction cs with
  | nil => rfl
  | cons c rest ih =>
    cases hc : isBlank c with
    | true =>
      rw [List.find?_cons_of_neg (by simp [hc]), ← ih, trimChars, List.dropWhile_cons_of_pos hc, trimChars]
    | false =>
      have solid : [c].dropWhile isBlank = [c] := List.dropWhile_cons_of_neg (by simp [hc])
      -- What is dropped at the end stops before the first character.
      have kept : (rest.reverse ++ [c]).dropWhile isBlank = rest.reverse.dropWhile isBlank ++ [c] := by
        rw [List.dropWhile_append]
        split
        · rename_i none_left
          rw [List.isEmpty_iff.mp none_left, solid, List.nil_append]
        · rfl
      rw [List.find?_cons_of_pos (by simp [hc]), trimChars, List.dropWhile_cons_of_neg (by simp [hc]), dropBlankEnd,
        List.reverse_cons, kept, List.reverse_append]
      rfl

theorem trimChars_eq_nil {cs : List Char} : trimChars cs = [] ↔ ∀ c ∈ cs, isBlank c = true := by
  constructor
  · intro h
    rw [← solid_eq_nil, ← solid_trimChars, h, solid_nil]
  · intro h
    rw [← List.append_nil cs, trimChars_blank_append h]
    rfl

/-- Trimming takes blanks away at either end. -/
theorem exists_blanks (cs : List Char) : ∃ left right, (∀ c ∈ left, isBlank c = true) ∧
    (∀ c ∈ right, isBlank c = true) ∧ cs = left ++ (trimChars cs ++ right) := by
  refine ⟨cs.takeWhile isBlank, ((cs.dropWhile isBlank).reverse.takeWhile isBlank).reverse,
    List.all_eq_true.mp List.all_takeWhile,
    fun c hc => List.all_eq_true.mp List.all_takeWhile c (List.mem_reverse.mp hc), ?_⟩
  rw [trimChars, dropBlankEnd, ← List.reverse_append, List.takeWhile_append_dropWhile, List.reverse_reverse,
    List.takeWhile_append_dropWhile]

theorem trimChars_trimChars (cs : List Char) : trimChars (trimChars cs) = trimChars cs := by
  obtain ⟨left, right, left_blank, right_blank, heq⟩ := exists_blanks cs
  have trimmed := congrArg trimChars heq
  rw [trimChars_blank_append left_blank, trimChars_append_blank right_blank] at trimmed
  exact trimmed.symm

/-! ### Pieces -/

theorem splitChar_ne_nil (sep : Char) (cs : List Char) : splitChar sep cs ≠ [] := by
  cases cs with
  | nil => exact List.cons_ne_nil _ _
  | cons c rest =>
    rw [splitChar]
    split
    · split <;> exact List.cons_ne_nil _ _
    · exact List.cons_ne_nil _ _

theorem splitChar_cons {sep : Char} {cs piece : List Char} {more : List (List Char)}
    (h : splitChar sep cs = piece :: more) (c : Char) :
    splitChar sep (c :: cs) = if c = sep then [] :: piece :: more else (c :: piece) :: more := by
  rw [splitChar, h]

theorem splitChar_cons_sep (sep : Char) (cs : List Char) : splitChar sep (sep :: cs) = [] :: splitChar sep cs := by
  obtain ⟨piece, more, h⟩ := List.exists_cons_of_ne_nil (splitChar_ne_nil sep cs)
  rw [splitChar_cons h, if_pos rfl, h]

theorem splitChar_cons_ne {sep c : Char} (ne : c ≠ sep) (cs : List Char) :
    ∃ piece more, splitChar sep cs = piece :: more ∧ splitChar sep (c :: cs) = (c :: piece) :: more := by
  obtain ⟨piece, more, h⟩ := List.exists_cons_of_ne_nil (splitChar_ne_nil sep cs)
  exact ⟨piece, more, h, by rw [splitChar_cons h, if_neg ne]⟩

theorem not_mem_of_splitChar {sep : Char} {cs piece : List Char} (h : piece ∈ splitChar sep cs) : sep ∉ piece := by
  induction cs generalizing piece with
  | nil =>
    obtain rfl := List.mem_singleton.mp h
    exact List.not_mem_nil
  | cons c rest ih =>
    by_cases hc : c = sep
    · subst hc
      rw [splitChar_cons_sep] at h
      rcases List.mem_cons.mp h with rfl | h
      · exact List.not_mem_nil
      · exact ih h
    · obtain ⟨first, more, hrest, hall⟩ := splitChar_cons_ne hc rest
      rw [hall] at h
      rw [hrest] at ih
      rcases List.mem_cons.mp h with rfl | h
      · rw [List.mem_cons]
        exact not_or.mpr ⟨Ne.symm hc, ih List.mem_cons_self⟩
      · exact ih (List.mem_cons_of_mem _ h)

theorem mem_of_splitChar {sep c : Char} {cs piece : List Char} (h : piece ∈ splitChar sep cs) (hc : c ∈ piece) :
    c ∈ cs := by
  induction cs generalizing piece with
  | nil =>
    obtain rfl := List.mem_singleton.mp h
    exact hc
  | cons a rest ih =>
    by_cases ha : a = sep
    · subst ha
      rw [splitChar_cons_sep] at h
      rcases List.mem_cons.mp h with rfl | h
      · exact absurd hc List.not_mem_nil
      · exact List.mem_cons_of_mem _ (ih h hc)
    · obtain ⟨first, more, hrest, hall⟩ := splitChar_cons_ne ha rest
      rw [hall] at h
      rw [hrest] at ih
      rcases List.mem_cons.mp h with rfl | h
      · rcases List.mem_cons.mp hc with rfl | hc
        · exact List.mem_cons_self
        · exact List.mem_cons_of_mem _ (ih List.mem_cons_self hc)
      · exact List.mem_cons_of_mem _ (ih (List.mem_cons_of_mem _ h) hc)

theorem splitChar_append {sep : Char} {piece : List Char} (none : sep ∉ piece) :
    splitChar sep piece = [piece] ∧ ∀ rest, splitChar sep (piece ++ sep :: rest) = piece :: splitChar sep rest := by
  induction piece with
  | nil => exact ⟨rfl, fun rest => splitChar_cons_sep sep rest⟩
  | cons c cs ih =>
    obtain ⟨ne, none⟩ := not_or.mp (mt List.mem_cons.mpr none)
    obtain ⟨alone, followed⟩ := ih none
    refine ⟨by rw [splitChar_cons alone, if_neg (Ne.symm ne)], fun rest => ?_⟩
    rw [List.cons_append, splitChar_cons (followed rest), if_neg (Ne.symm ne)]

/-- Pieces without the separator are found again between the separators that join them. -/
theorem splitChar_join {sep : Char} {between : String} (hb : between.toList = [sep]) {pieces : List String}
    (filled : pieces ≠ []) (none : ∀ p ∈ pieces, sep ∉ p.toList) :
    splitChar sep (join between pieces).toList = pieces.map String.toList := by
  induction pieces with
  | nil => exact absurd rfl filled
  | cons p rest ih =>
    obtain ⟨alone, followed⟩ := splitChar_append (none p List.mem_cons_self)
    cases rest with
    | nil => exact alone
    | cons q more =>
      have own := ih (List.cons_ne_nil _ _) fun p hp => none p (List.mem_cons_of_mem _ hp)
      have cut : (p ++ between ++ join between (q :: more)).toList =
          p.toList ++ sep :: (join between (q :: more)).toList := by
        simp [hb]
      rw [join, cut, followed, own]
      rfl

theorem splitFirst_eq_none {sep : Char} {cs : List Char} : splitFirst sep cs = none ↔ sep ∉ cs := by
  induction cs with
  | nil => simp [splitFirst]
  | cons c rest ih =>
    by_cases hc : c = sep
    · simp [splitFirst, hc]
    · simp [splitFirst, hc, ih, Ne.symm hc]

theorem splitFirst_eq_some {sep : Char} {cs before after : List Char} :
    splitFirst sep cs = some (before, after) ↔ sep ∉ before ∧ cs = before ++ sep :: after := by
  induction cs generalizing before with
  | nil => simp [splitFirst]
  | cons c rest ih =>
    by_cases hc : c = sep
    · cases before with
      | nil => simp [splitFirst, hc]
      | cons b before =>
        simp only [splitFirst, hc, if_true, Option.some.injEq, Prod.mk.injEq, List.mem_cons, not_or, List.cons_append,
          List.cons.injEq]
        exact ⟨fun h => (List.cons_ne_nil b before h.1.symm).elim, fun h => absurd h.2.1 h.1.1⟩
    · cases before with
      | nil => simp [splitFirst, hc]
      | cons b before =>
        rw [splitFirst, if_neg hc]
        simp only [Option.map_eq_some_iff, Prod.mk.injEq, List.cons.injEq, Prod.exists, List.mem_cons, not_or,
          List.cons_append]
        constructor
        · rintro ⟨_, _, split, ⟨rfl, rfl⟩, rfl⟩
          obtain ⟨absent, rfl⟩ := ih.mp split
          exact ⟨⟨Ne.symm hc, absent⟩, rfl, rfl⟩
        · rintro ⟨⟨-, absent⟩, rfl, heq⟩
          exact ⟨before, after, ih.mpr ⟨absent, heq⟩, ⟨rfl, rfl⟩, rfl⟩

theorem eq_of_dropStart? {α : Type} [DecidableEq α] {start cs rest : List α} (h : dropStart? start cs = some rest) :
    cs = start ++ rest := by
  induction start generalizing cs with
  | nil =>
    cases h
    rfl
  | cons s start ih =>
    cases cs with
    | nil => cases h
    | cons c cs =>
      rw [dropStart?] at h
      split at h
      · rename_i hs
        rw [hs, ih h, List.cons_append]
      · cases h

theorem trimChars_dropReturn (line : List Char) : trimChars (dropReturn line) = trimChars line := by
  unfold dropReturn
  split
  · rename_i last
    obtain ⟨kept, rfl⟩ := List.getLast?_eq_some_iff.mp last
    rw [List.dropLast_concat, trimChars_append_blank (by simp; decide)]
  · rfl

end CommandScript.Text
