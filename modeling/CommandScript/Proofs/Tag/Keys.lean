import CommandScript.Proofs.Tag.Pieces

/-! How the body of a tag is cut into its keys and its fallback, and a key from its parameter. A balanced body is cut
    into texts of single keys and a balanced text; which texts it is cut into is decided by how they are put together.
    A key is cut from the blanks around it, which open and close nothing. -/

namespace CommandScript
open Text

/-! ### Bodies cut into keys -/

/-- Texts of keys and of a fallback that no other cut of their body gives. -/
structure ChainText.Cut (t : ChainText) : Prop where
  keyed : t.parts ≠ []
  single : ∀ p ∈ t.parts, SingleKey p
  /-- A bar at the end of the last key would be taken for one of those before the fallback. -/
  unbarred : t.fallback.isSome → ∀ p ∈ t.parts.getLast?, p.getLast? ≠ some '|'

/-- What holds of a body `cs` that is cut inside `n` into the rest `u` of a key, more keys and a fallback. -/
structure CutFrom (n : Depths) (cs u : List Char) (more : List (List Char))
    (fallback : Option (List Char)) : Prop where
  chars : ChainText.chars ⟨u :: more, fallback⟩ = cs
  ends : n.behindText u = some .top
  single : ∀ p ∈ more, SingleKey p
  unbarred : fallback.isSome → ∀ p ∈ (u :: more).getLast?, p.getLast? ≠ some '|'

theorem dotted_cons_append (a u : List Char) (more : List (List Char)) :
    dotted ((a ++ u) :: more) = a ++ dotted (u :: more) := by
  cases more <;> simp [dotted]

theorem head?_dotted {u : List Char} {more : List (List Char)} {d : Char} (h : d ∈ u.head?) (after : List Char) :
    d ∈ (dotted (u :: more) ++ after).head? := by
  cases u with
  | nil => cases h
  | cons c u =>
    cases h
    cases more <;> rfl

/-- A glyph before the rest of a key belongs to the key, unless a key ends there. -/
theorem CutFrom.cons {n n' : Depths} {cs u : List Char} {more : List (List Char)} {fallback : Option (List Char)}
    {k : Glyph} (h : CutFrom n' cs u more fallback) (behind : n.behind k = some n') (before : k.Before cs) :
    CutFrom n (k.chars ++ cs) (k.chars ++ u) more fallback where
  chars := by
    rw [← h.chars, ChainText.chars, ChainText.chars, dotted_cons_append, List.append_assoc]
  ends := by
    have own : k.Before u := by
      intro c hc d hd
      refine before c hc d ?_
      rw [← h.chars]
      exact head?_dotted hd _
    rw [Depths.behindText_glyph own, behind]
    exact h.ends
  single := h.single
  unbarred := by
    intro some_fallback p hp
    cases more with
    | cons q more => exact h.unbarred some_fallback p (by simpa using hp)
    | nil =>
      rw [List.getLast?_singleton, Option.mem_some_iff] at hp
      subst hp
      cases u with
      | cons c u =>
        rw [List.getLast?_append_cons]
        exact h.unbarred some_fallback _ rfl
      | nil =>
        rw [List.append_nil]
        cases k with
        | opens | closes => simp [Glyph.chars]
        | bars =>
          -- Two bars inside no bracket and no tag would begin the fallback.
          have top : n' = .top := Option.some.inj h.ends
          rw [Depths.behind] at behind
          split at behind <;> cases behind
          rename_i inside
          exact absurd ⟨congrArg Depths.brackets top, congrArg Depths.tags top⟩ inside
        | char c =>
          obtain ⟨f, rfl⟩ := Option.isSome_iff_exists.mp some_fallback
          rintro hc
          cases hc
          exact before '|' rfl '|' (by rw [← h.chars]; rfl) .bars

/-- A glyph behind which the key goes on is read into it. -/
theorem chainText_glyph {whole key rest : List Char} {before : List (List Char)} {n n' : Depths} {k : Glyph}
    (behind : n.behind k = some n') (own : k.Before rest) :
    chainText whole n.brackets n.tags key before (k.chars ++ rest) =
      chainText whole n'.brackets n'.tags (k.chars.reverse ++ key) before rest := by
  cases k with
  | opens =>
    cases behind
    rfl
  | closes =>
    obtain ⟨brackets, tags⟩ := n
    cases tags with
    | zero => cases behind
    | succ tags =>
      cases behind
      show chainText whole brackets (((tags + 1 : Nat) : Int) - 1) _ _ _ = _
      rw [show ((tags + 1 : Nat) : Int) - 1 = tags by omega]
      rfl
  | bars =>
    rw [Depths.behind] at behind
    split at behind <;> cases behind
    rename_i inside
    show chainText _ _ _ _ _ ('|' :: '|' :: rest) = _
    rw [chainText, if_neg (by simpa using inside)]
    rfl
  | char c =>
    have own := own c rfl
    rw [Depths.behind] at behind
    refine (chainText.eq_def whole n.brackets n.tags key before (c :: rest)).trans ?_
    split
    · cases ‹_ :: _ = []›
    · rename_i heq
      cases heq
      exact absurd .opens (own _ rfl)
    · rename_i heq
      cases heq
      exact absurd .closes (own _ rfl)
    · rename_i heq
      cases heq
      split at behind <;> cases behind
      · rename_i inside
        rw [if_neg (by simpa using inside)]
        rfl
      · rename_i outside
        rw [if_pos (by simpa using outside)]
        rfl
    · rename_i heq
      cases heq
      split at behind
      · rename_i inside
        cases behind
        rw [if_pos (by simpa using inside)]
        rfl
      · rename_i outside
        obtain ⟨brackets, tags⟩ := n
        rw [if_neg (by decide), if_pos rfl] at behind
        rw [if_neg (by simpa using outside)]
        cases brackets with
        | zero => cases behind
        | succ brackets =>
          cases behind
          rfl
    · rename_i heq
      cases heq
      split at behind
      · rename_i inside
        cases behind
        rw [if_neg (by simpa using fun _ => inside)]
        rfl
      · rw [if_neg (by decide), if_neg (by decide)] at behind
        split at behind <;> cases behind
        rename_i inside
        rw [if_neg fun top => inside ⟨rfl, top.1⟩]
        rfl
    · rename_i heq
      cases heq
      exact absurd .bars (own _ rfl)
    · rename_i opening closing point _ heq
      cases heq
      have opening : c ≠ '[' := opening
      have closing : c ≠ ']' := closing
      have point : c ≠ '.' := point
      simp only [opening, closing, point, if_false, false_and, ite_self, Option.some.injEq] at behind
      rw [← behind]
      rfl

/-- A body that is cut is cut where no bracket and no tag is open. -/
theorem cutFrom_of_chainText {whole key : List Char} {before : List (List Char)} {cs : List Char} {t : ChainText}
    {n : Depths} (h : chainText whole n.brackets n.tags key before cs = .ok t)
    (balanced : openBehind n.tags cs = some 0) :
    ∃ u more, t.parts = before.reverse ++ (key.reverse ++ u) :: more ∧ CutFrom n cs u more t.fallback := by
  induction cs using glyph_induction generalizing n key before with
  | nil =>
    obtain ⟨brackets, tags⟩ := n
    cases balanced
    rw [chainText] at h
    split at h <;> cases h
    rename_i closed
    refine ⟨[], [], by simp, rfl, ?_, fun p hp => absurd hp List.not_mem_nil, fun some_fallback => ?_⟩
    · rw [show brackets = 0 from closed]
      rfl
    · cases some_fallback
  | glyph k rest own ih =>
    rw [openBehind_glyph own] at balanced
    cases behind : n.behind k with
    | some n' =>
      rw [chainText_glyph behind own] at h
      rw [tagsBehind_of_behind behind] at balanced
      obtain ⟨u, more, parts, cut⟩ := ih h balanced
      exact ⟨k.chars ++ u, more, by rw [parts]; simp, cut.cons behind own⟩
    | none =>
      -- The tag that closes is open in a balanced body, so the key ends: at the fallback, at a point or with a fault.
      rcases Depths.of_behind_eq_none behind with ⟨rfl, outside⟩ | ⟨rfl, rfl | rfl | rfl⟩
      · rw [outside] at balanced
        cases balanced
      · cases h
        exact ⟨[], [], by simp, rfl, rfl, fun p hp => absurd hp List.not_mem_nil, by simp⟩
      · obtain ⟨u, more, parts, cut⟩ := ih (n := .top) h balanced
        refine ⟨[], u :: more, by rw [parts]; simp, ?_, rfl, List.forall_mem_cons.mpr ⟨cut.ends, cut.single⟩, ?_⟩
        · rw [← cut.chars]
          rfl
        · intro some_fallback p hp
          exact cut.unbarred some_fallback p (by simpa using hp)
      · cases h

/-- What is read of a key does not cut the body. -/
theorem chainText_append {whole key : List Char} {before : List (List Char)} {n : Depths} {u after : List Char}
    (ends : n.behindText u = some .top) (apart : Apart u after) :
    chainText whole n.brackets n.tags key before (u ++ after) =
      chainText whole 0 0 (u.reverse ++ key) before after := by
  induction u using glyph_induction generalizing n key with
  | nil =>
    cases ends
    rfl
  | glyph k rest own ih =>
    rw [Depths.behindText_glyph own] at ends
    obtain ⟨n', behind, ends⟩ := Option.bind_eq_some_iff.mp ends
    rw [List.append_assoc, chainText_glyph behind (apart.before own), ih ends apart.of_append]
    simp

theorem chainText_single {whole u after : List Char} {before : List (List Char)} (single : SingleKey u)
    (apart : Apart u after) :
    chainText whole 0 0 [] before (u ++ after) = chainText whole 0 0 u.reverse before after := by
  have read : chainText whole 0 0 [] before (u ++ after) = chainText whole 0 0 (u.reverse ++ []) before after :=
    chainText_append single apart
  rwa [List.append_nil] at read

theorem chainText_dotted {whole u : List Char} {more before : List (List Char)} {fallback : Option (List Char)}
    (cut : ChainText.Cut ⟨u :: more, fallback⟩) :
    chainText whole 0 0 [] before (ChainText.chars ⟨u :: more, fallback⟩) =
      .ok ⟨before.reverse ++ u :: more, fallback⟩ := by
  induction more generalizing u before with
  | nil =>
    rw [ChainText.chars, dotted, chainText_single (cut.single u List.mem_cons_self)]
    · cases fallback <;> simp [chainText]
    · intro c hc d hd
      cases fallback with
      | none => cases hd
      | some f =>
        cases hd
        rintro ⟨⟩
        exact cut.unbarred rfl u rfl hc
  | cons v more ih =>
    have tail : ChainText.Cut ⟨v :: more, fallback⟩ :=
      ⟨List.cons_ne_nil v more, fun p hp => cut.single p (List.mem_cons_of_mem u hp),
        fun h p hp => cut.unbarred h p (by simpa using hp)⟩
    rw [ChainText.chars, dotted, List.append_assoc, List.cons_append,
      chainText_single (cut.single u List.mem_cons_self) (apart_cons (by decide)), chainText, if_pos ⟨rfl, rfl⟩]
    refine (ih tail).trans ?_
    simp

/-- A balanced body is cut into the texts of its keys and its fallback. -/
theorem chainText_eq_ok {cs whole : List Char} {t : ChainText} (balanced : Balanced cs) :
    chainText whole 0 0 [] [] cs = .ok t ↔ t.Cut ∧ t.chars = cs := by
  constructor
  · intro h
    obtain ⟨u, more, parts, cut⟩ := cutFrom_of_chainText (n := .top) h balanced
    obtain ⟨_, fallback⟩ := t
    obtain rfl : _ = u :: more := parts
    exact ⟨⟨List.cons_ne_nil u more, List.forall_mem_cons.mpr ⟨cut.ends, cut.single⟩, cut.unbarred⟩, cut.chars⟩
  · rintro ⟨cut, rfl⟩
    obtain ⟨parts, fallback⟩ := t
    cases parts with
    | nil => exact absurd rfl cut.keyed
    | cons u more => exact chainText_dotted cut

theorem balanced_dotted {parts : List (List Char)} (single : ∀ p ∈ parts, SingleKey p) : Balanced (dotted parts) := by
  match parts, single with
  | [], _ => rfl
  | [p], single => exact (single p List.mem_cons_self).balanced
  | p :: q :: rest, single =>
    obtain ⟨first, later⟩ := List.forall_mem_cons.mp single
    have balanced : openBehind 0 p = some 0 := first.balanced
    rw [Balanced, dotted, openBehind_append (apart_cons (by decide)), balanced, Option.bind_some]
    have point : Glyph.Before (.char '.') (dotted (q :: rest)) := by
      rintro _ ⟨⟩ d _ ⟨⟩
    exact (openBehind_glyph point).trans (balanced_dotted later)

/-- A body of single keys is balanced if its fallback is. -/
theorem balanced_chars {t : ChainText} (single : ∀ p ∈ t.parts, SingleKey p) :
    Balanced t.chars ↔ ∀ f ∈ t.fallback, Balanced f := by
  have balanced : openBehind 0 (dotted t.parts) = some 0 := balanced_dotted single
  rw [Balanced, ChainText.chars]
  cases t.fallback with
  | none => simp [balanced]
  | some f =>
    rw [Option.map_some, Option.getD_some, openBehind_append_bar, balanced, Option.bind_some, openBehind_bar]
    simp [Balanced]

/-! ### Keys and their parameters -/

/-- A key without blanks at its ends, before the first bracket. -/
structure PartText.Bare (t : PartText) : Prop where
  trimmed : trimChars t.key = t.key
  unopened : '[' ∉ t.key

/-- The text of a parameter in its brackets. -/
def bracketed (param : Option (List Char)) : List Char :=
  (param.map fun p => '[' :: (p ++ [']'])).getD []

/-- A key is cut from its parameter and from the blanks around it. -/
theorem partText_eq_ok {whole cs : List Char} {t : PartText} : partText whole cs = .ok t ↔
    t.Bare ∧ ∃ left right, (∀ c ∈ left, isBlank c = true) ∧ (∀ c ∈ right, isBlank c = true) ∧
      cs = left ++ (t.key ++ (right ++ bracketed t.param)) := by
  have bracket : ∀ {bs : List Char}, (∀ c ∈ bs, isBlank c = true) → '[' ∉ bs := fun h hm => by cases h _ hm
  have trim : ∀ {key}, '[' ∉ key → '[' ∉ trimChars key := by
    intro key absent hm
    obtain ⟨left, right, -, -, heq⟩ := exists_blanks key
    exact absent (by rw [heq]; simp [hm])
  obtain ⟨key, param⟩ := t
  constructor
  · intro h
    rw [partText] at h
    split at h
    · rename_i absent
      cases h
      obtain ⟨left, right, left_blank, right_blank, heq⟩ := exists_blanks cs
      refine ⟨⟨trimChars_trimChars cs, trim (splitFirst_eq_none.mp absent)⟩, left, right, left_blank, right_blank, ?_⟩
      simpa [bracketed] using heq
    · rename_i before after split
      obtain ⟨absent, rfl⟩ := splitFirst_eq_some.mp split
      split at h <;> cases h
      rename_i last
      obtain ⟨left, right, left_blank, right_blank, heq⟩ := exists_blanks before
      refine ⟨⟨trimChars_trimChars before, trim absent⟩, left, right, left_blank, right_blank, ?_⟩
      have closed : after.dropLast ++ [']'] = after := List.dropLast_append_getLast? _ last
      calc before ++ '[' :: after
        _ = (left ++ (trimChars before ++ right)) ++ '[' :: (after.dropLast ++ [']']) := by rw [← heq, closed]
        _ = left ++ (trimChars before ++ (right ++ '[' :: (after.dropLast ++ [']']))) := by
          rw [List.append_assoc, List.append_assoc]
  · rintro ⟨⟨trimmed, unopened⟩, left, right, left_blank, right_blank, rfl⟩
    have absent : '[' ∉ left ++ (key ++ right) := by
      simp [bracket left_blank, bracket right_blank, unopened]
    have cut : trimChars (left ++ (key ++ right)) = key := by
      rw [trimChars_blank_append left_blank, trimChars_append_blank right_blank, trimmed]
    rw [partText]
    cases param with
    | none =>
      have whole_key : left ++ (key ++ (right ++ bracketed none)) = left ++ (key ++ right) := by simp [bracketed]
      rw [whole_key, splitFirst_eq_none.mpr absent, cut]
    | some p =>
      have split : splitFirst '[' (left ++ (key ++ (right ++ bracketed (some p)))) =
          some (left ++ (key ++ right), p ++ [']']) :=
        splitFirst_eq_some.mpr ⟨absent, by simp [bracketed]⟩
      rw [split]
      simp [cut]

/-- Blanks around a key open and close nothing. -/
theorem behindText_part {left key right : List Char} (left_blank : ∀ c ∈ left, isBlank c = true)
    (right_blank : ∀ c ∈ right, isBlank c = true) (param : Option (List Char)) (n : Depths) :
    n.behindText (left ++ (key ++ (right ++ bracketed param))) =
      (n.behindText key).bind fun n => n.behindText (bracketed param) := by
  have edge : Apart key (bracketed param) := by
    cases param with
    | none => exact apart_nil
    | some p => exact apart_cons (by decide)
  rw [Depths.behindText_append (blanks_apart left_blank), Depths.behindText_blanks left_blank, Option.bind_some,
    Depths.behindText_append (apart_blanks right_blank edge)]
  refine Option.bind_congr fun n _ => ?_
  rw [Depths.behindText_append (blanks_apart right_blank), Depths.behindText_blanks right_blank, Option.bind_some]

theorem behindText_bracketed {param other : Option (List Char)} (h : Option.Rel Alike param other) (n : Depths) :
    n.behindText (bracketed other) = n.behindText (bracketed param) := by
  have inside : ∀ (p : List Char) (n : Depths), n.behindText (bracketed (some p)) =
      (n.behind (.char '[')).bind fun n => (n.behindText p).bind fun n => n.behindText [']'] := by
    intro p n
    have opening : Glyph.Before (.char '[') (p ++ [']']) := by
      rintro _ ⟨⟩ d _ ⟨⟩
    refine (Depths.behindText_glyph opening).trans (Option.bind_congr fun n _ => ?_)
    exact Depths.behindText_append (apart_cons (by decide))
  cases h with
  | none => rfl
  | some same => simp only [inside, same.behindText]

/-- The text of a single key is that of a single key without the blanks around the key. -/
theorem singleKey_of_partText {whole cs : List Char} {t : PartText} {other : Option (List Char)}
    (single : SingleKey cs) (cut : partText whole cs = .ok t) (same : Option.Rel Alike t.param other) :
    SingleKey (PartText.chars ⟨t.key, other⟩) := by
  obtain ⟨-, left, right, left_blank, right_blank, rfl⟩ := partText_eq_ok.mp cut
  have bare : Depths.top.behindText ([] ++ (t.key ++ ([] ++ bracketed other))) = _ :=
    behindText_part (by simp) (by simp) other .top
  rw [SingleKey, behindText_part left_blank right_blank] at single
  rw [SingleKey, ← single]
  refine bare.trans (Option.bind_congr fun n _ => behindText_bracketed same n)

/-- A key without blanks around it is cut from any parameter as from its own. -/
theorem partText_of_partText {whole whole' cs : List Char} {t : PartText} (cut : partText whole cs = .ok t)
    (other : Option (List Char)) : partText whole' (PartText.chars ⟨t.key, other⟩) = .ok ⟨t.key, other⟩ := by
  obtain ⟨bare, -⟩ := partText_eq_ok.mp cut
  exact partText_eq_ok.mpr ⟨⟨bare.trimmed, bare.unopened⟩, [], [], nofun, nofun, rfl⟩

end CommandScript
