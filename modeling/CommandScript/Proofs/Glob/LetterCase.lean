import CommandScript.Proofs.Glob.Matching
import Mathlib.Data.List.Forall2

/-! Globs and letter case. Every element of a glob compares characters in lower case but for the ranges of classes,
    which see the case of letters beyond ASCII. So a glob does not tell texts apart that are equal up to case, unless a
    range does. -/

namespace CommandScript.Pattern.Glob

theorem eqIgnoreCase_iff {a b : Char} : Text.eqIgnoreCase a b = true ↔ Text.lowerChar a = Text.lowerChar b := by
  rw [Text.eqIgnoreCase, Bool.or_eq_true, beq_iff_eq, beq_iff_eq]
  exact ⟨fun h => h.elim (congrArg Text.lowerChar) id, Or.inr⟩

theorem eqIgnoreCase_congr {c d : Char} (same : Text.lowerChar c = Text.lowerChar d) (m : Char) :
    Text.eqIgnoreCase m c = Text.eqIgnoreCase m d := by
  rw [Bool.eq_iff_iff, eqIgnoreCase_iff, eqIgnoreCase_iff, same]

/-- A range of a class in a glob. -/
def HoldsRange (p : List Char) (low high : Char) : Prop :=
  ∃ es cls negated ms, Writes es p ∧ .sign (.oneOf cls) ∈ es ∧ WritesClass negated ms cls [] ∧ .range low high ∈ ms

section
variable {es : List Element} {p cls : List Char} {c d : Char} {negated : Bool} {ms : List Member}

theorem WritesClass.accepts_congr (w : WritesClass negated ms cls []) (same : Text.lowerChar c = Text.lowerChar d)
    (ranges : ∀ low high, .range low high ∈ ms → inRange low high c = inRange low high d) :
    classAccepts? c cls = classAccepts? d cls := by
  have members : ms.any (·.takes c) = ms.any (·.takes d) := by
    rw [Bool.eq_iff_iff, List.any_eq_true, List.any_eq_true]
    refine exists_congr fun m => and_congr_right fun hm => ?_
    cases m with
    | single m => exact Bool.eq_iff_iff.mp (eqIgnoreCase_congr same m)
    | range low high => exact Bool.eq_iff_iff.mp (ranges low high hm)
  rw [w.classAccepts?_eq, w.classAccepts?_eq, members]

/-- A sign of a glob takes both of two characters that are equal up to case, or neither, if no range of the glob tells
    them apart. -/
theorem Writes.takes_congr (w : Writes es p) {s : Sign} (hs : .sign s ∈ es)
    (same : Text.lowerChar c = Text.lowerChar d)
    (ranges : ∀ low high, HoldsRange p low high → inRange low high c = inRange low high d) :
    s.takes c = s.takes d := by
  cases s with
  | any => rfl
  | escaped m | letter m => exact eqIgnoreCase_congr same m
  | oneOf cls =>
    obtain ⟨_, _, isClass⟩ : IsClass cls := w.plain _ hs
    obtain ⟨negated, ms, wc⟩ := exists_of_classAccepts? isClass
    rw [Sign.takes, Sign.takes, wc.accepts_congr same fun low high hm =>
      ranges low high ⟨es, cls, negated, ms, w, hs, wc, hm⟩]

/-- Texts whose characters no element tells apart are cut alike. -/
theorem Cut.of_forall₂ {R : Char → Char → Prop} (hR : ∀ s, .sign s ∈ es → ∀ c d, R c d → s.takes c = s.takes d)
    {t u : List Char} (alike : List.Forall₂ R t u) (cut : Cut es t) : Cut es u := by
  induction es generalizing t u with
  | nil =>
    cases cut
    cases alike
    exact .nil
  | cons e es ih =>
    have ih := @ih fun s hs => hR s (List.mem_cons_of_mem _ hs)
    cases e with
    | star =>
      obtain ⟨v, ⟨piece, rfl⟩, later⟩ := cut_star.mp cut
      have left := List.forall₂_drop piece.length alike
      rw [List.drop_left] at left
      exact cut_star.mpr ⟨_, List.drop_suffix _ u, ih left later⟩
    | sign s =>
      obtain ⟨c, v, rfl, takes, cut⟩ := cut_sign.mp cut
      cases alike with
      | cons first rest =>
        exact cut_sign.mpr ⟨_, _, rfl, (hR s List.mem_cons_self _ _ first).symm.trans takes, ih rest cut⟩

end

/-! ### Ranges in the text of a glob -/

theorem Lists.range_infix {ms : List Member} {cs after : List Char} (l : Lists ms cs after) {low high : Char}
    (h : .range low high ∈ ms) : [low, '-', high] <:+: cs := by
  induction l with
  | close => cases h
  | next _ _ _ ih =>
    rcases List.mem_cons.mp h with rfl | h
    · exact (List.prefix_append _ _).isInfix
    · exact (ih h).trans (List.suffix_append _ _).isInfix

/-- A range of a glob stands in its text. -/
theorem HoldsRange.isInfix {p : List Char} {low high : Char} (h : HoldsRange p low high) :
    [low, '-', high] <:+: p := by
  obtain ⟨es, cls, negated, ms, w, hs, wc, hm⟩ := h
  have inClass : [low, '-', high] <:+: cls := by
    cases wc with
    | plain _ _ later =>
      rcases List.mem_cons.mp hm with rfl | hm
      · exact (List.prefix_append _ _).isInfix
      · exact (later.range_infix hm).trans (List.suffix_append _ _).isInfix
    | negated _ later =>
      refine List.IsInfix.trans ?_ (List.suffix_cons _ _).isInfix
      rcases List.mem_cons.mp hm with rfl | hm
      · exact (List.prefix_append _ _).isInfix
      · exact (later.range_infix hm).trans (List.suffix_append _ _).isInfix
  obtain ⟨before, after, rfl⟩ := List.append_of_mem hs
  rw [← w.chars, List.flatMap_append, List.flatMap_cons]
  exact (inClass.trans (List.suffix_cons '[' cls).isInfix).trans ⟨_, _, List.append_assoc ..⟩

/-- A glob gives the same answer on two texts that agree up to case, character by character, if no range of its classes
    tells characters at the same place apart. -/
theorem accepts_caseless {p t u : List Char} (valid : fault? p = none)
    (same : List.Forall₂ (fun c d => Text.lowerChar c = Text.lowerChar d) t u)
    (ranges : ∀ low high, HoldsRange p low high →
      List.Forall₂ (fun c d => inRange low high c = inRange low high d) t u) : accepts p t = accepts p u := by
  obtain ⟨es, w⟩ := exists_writes valid
  have alike : List.Forall₂ (fun c d => ∀ s, .sign s ∈ es → s.takes c = s.takes d) t u := by
    refine List.forall₂_iff_zip.mpr ⟨same.length_eq, fun {c d} hcd s hs => ?_⟩
    exact w.takes_congr hs (List.forall₂_zip same hcd) fun low high h => List.forall₂_zip (ranges low high h) hcd
  have back : List.Forall₂ (fun c d => ∀ s, .sign s ∈ es → s.takes c = s.takes d) u t :=
    alike.flip.imp fun c d h s hs => (h s hs).symm
  rw [Bool.eq_iff_iff, accepts_iff w, accepts_iff w]
  exact ⟨Cut.of_forall₂ (fun s hs c d h => h s hs) alike, Cut.of_forall₂ (fun s hs c d h => h s hs) back⟩

/-- Capital and small letters on either side, beside ranges with letters of other kinds. -/
theorem accepts_caseless_accents : fault? "[^α-ω]*[a-cé]".toList = none ∧
    List.Forall₂ (fun c d => Text.lowerChar c = Text.lowerChar d) "XßBÉ".toList "xßbé".toList ∧
    accepts "[^α-ω]*[a-cé]".toList "XßBÉ".toList = accepts "[^α-ω]*[a-cé]".toList "xßbé".toList := by
  have valid : fault? "[^α-ω]*[a-cé]".toList = none := by decide +kernel
  have same : List.Forall₂ (fun c d => Text.lowerChar c = Text.lowerChar d) "XßBÉ".toList "xßbé".toList := by
    decide
  refine ⟨valid, same, accepts_caseless valid same fun low high h => ?_⟩
  have stands : [low, '-', high] <:+: ['[', '^', 'α', '-', 'ω', ']', '*', '[', 'a', '-', 'c', 'é', ']'] := h.isInfix
  have ranges : low = 'α' ∧ high = 'ω' ∨ low = 'a' ∧ high = 'c' := by
    simpa [List.infix_cons_iff] using stands
  rcases ranges with ⟨rfl, rfl⟩ | ⟨rfl, rfl⟩ <;> decide

/-- A range beyond ASCII tells a capital from its small letter. -/
theorem range_tells_case : fault? "[à-ý]".toList = none ∧
    List.Forall₂ (fun c d => Text.lowerChar c = Text.lowerChar d) "é".toList "É".toList ∧
    accepts "[à-ý]".toList "é".toList ≠ accepts "[à-ý]".toList "É".toList := by
  decide +kernel

end CommandScript.Pattern.Glob
