import CommandScript.Proofs.Tag.Delimiters

/-! How an argument is cut into literal text and the bodies of its tags. A body is balanced, and what it holds decides
    nothing outside the tag: a text with other tags in the same places is cut in the same places, and no scan that is
    blind for tags tells the two apart. -/

namespace CommandScript
open Text

/-! ### Bodies of tags -/

section
variable {depth depth' : Nat} {k : Glyph} {before body rest : List Char}

theorem piecesInside_glyph (h : k.Before rest) (behind : tagsBehind depth k = some depth') :
    piecesInside depth before (k.chars ++ rest) = piecesInside depth' (k.chars.reverse ++ before) rest := by
  cases k with
  | opens =>
    cases behind
    show piecesInside depth before ('<' :: '\x7b' :: rest) = _
    rw [piecesInside]
    rfl
  | closes =>
    cases depth with
    | zero => cases behind
    | succ depth =>
      cases behind
      show piecesInside (depth' + 1) before ('\x7d' :: '>' :: rest) = _
      rw [piecesInside]
      rfl
  | bars =>
    cases behind
    show piecesInside depth before ('|' :: '|' :: rest) = _
    rw [piecesInside, piecesInside]
    · rfl
    all_goals simp
  | char c =>
    cases behind
    rw [Glyph.chars, List.singleton_append, piecesInside]
    · rfl
    · rintro rest rfl rfl
      exact h _ rfl _ rfl .opens
    · rintro rest rfl rfl
      exact h _ rfl _ rfl .closes

/-- A tag ends where the tags inside it are closed. -/
theorem piecesInside_append (h : openBehind depth body = some 0) :
    piecesInside depth before (body ++ '\x7d' :: '>' :: rest) =
      .body (before.reverse ++ body) :: piecesOutside [] rest := by
  induction body using glyph_induction generalizing depth before with
  | nil =>
    cases h
    rw [List.nil_append, piecesInside, List.append_nil]
  | glyph k more own ih =>
    rw [openBehind_glyph own] at h
    obtain ⟨depth', behind, h⟩ := Option.bind_eq_some_iff.mp h
    have edge : k.Before (more ++ '\x7d' :: '>' :: rest) := (apart_cons (by decide)).before own
    rw [List.append_assoc, piecesInside_glyph edge behind, ih h]
    simp

/-- The text of a tag that ends is cut in two there. -/
theorem piecesInside_cases (depth : Nat) (before cs : List Char) : piecesInside depth before cs = [.broken] ∨
    ∃ body rest, cs = body ++ '\x7d' :: '>' :: rest ∧ openBehind depth body = some 0 ∧
      piecesInside depth before cs = .body (before.reverse ++ body) :: piecesOutside [] rest := by
  induction cs using glyph_induction generalizing depth before with
  | nil => exact Or.inl (by rw [piecesInside])
  | glyph k more own ih =>
    cases behind : tagsBehind depth k with
    | some depth' =>
      rw [piecesInside_glyph own behind]
      refine (ih depth' (k.chars.reverse ++ before)).imp id ?_
      rintro ⟨body, rest, rfl, balanced, pieces⟩
      refine ⟨k.chars ++ body, rest, by simp, ?_, by rw [pieces]; simp⟩
      rw [openBehind_glyph own.of_append, behind]
      exact balanced
    | none =>
      obtain ⟨rfl, rfl⟩ := tagsBehind_eq_none.mp behind
      refine Or.inr ⟨[], more, rfl, rfl, ?_⟩
      show piecesInside 0 before ('\x7d' :: '>' :: more) = _
      rw [piecesInside, List.append_nil]

end

/-- The body of a tag is balanced. -/
theorem balanced_of_body_mem {before cs body : List Char} (h : .body body ∈ piecesOutside before cs) :
    Balanced body := by
  have literal : .body body ∉ Piece.ofLiteral before := by cases before <;> simp [Piece.ofLiteral]
  unfold piecesOutside at h
  split at h
  · rename_i rest
    have inside := (List.mem_append.mp h).resolve_left literal
    rcases piecesInside_cases 0 [] rest with broken | ⟨own, rest, rfl, balanced, pieces⟩
    · rw [broken] at inside
      cases List.mem_singleton.mp inside
    · rw [pieces] at inside
      rcases List.mem_cons.mp inside with same | inside
      · cases same
        exact balanced
      · exact balanced_of_body_mem inside
  · exact balanced_of_body_mem h
  · exact absurd h literal
termination_by cs.length

/-! ### Pieces with other tags -/

/-- Pieces that differ only in what a tag holds. -/
inductive Piece.Alike : Piece → Piece → Prop
  | literal (cs : List Char) : Alike (.literal cs) (.literal cs)
  | body {own other : List Char} (balanced : Balanced own) (other_balanced : Balanced other) :
    Alike (.body own) (.body other)

theorem Piece.Alike.of_body {own : List Char} {q : Piece} (h : Alike (.body own) q) :
    ∃ other, q = .body other ∧ Balanced other := by
  cases h with
  | body _ balanced => exact ⟨_, rfl, balanced⟩

theorem forall₂_ofLiteral_append {before : List Char} {ps qs : List Piece}
    (h : List.Forall₂ Piece.Alike (Piece.ofLiteral before ++ ps) qs) :
    ∃ qs', qs = Piece.ofLiteral before ++ qs' ∧ List.Forall₂ Piece.Alike ps qs' := by
  cases before with
  | nil => exact ⟨qs, rfl, h⟩
  | cons c before =>
    cases h with
    | cons same later =>
      cases same
      exact ⟨_, rfl, later⟩

/-- A text with other tags in the places of its tags is cut in the same places. -/
theorem piecesOutside_of_alike {before cs : List Char} {qs : List Piece}
    (h : List.Forall₂ Piece.Alike (piecesOutside before cs) qs) :
    ∃ other, qs.flatMap Piece.chars = before.reverse ++ other ∧ other.head? = cs.head? ∧
      piecesOutside before other = qs := by
  unfold piecesOutside at h
  split at h
  · rename_i rest
    obtain ⟨qs, rfl, alike⟩ := forall₂_ofLiteral_append h
    rcases piecesInside_cases 0 [] rest with broken | ⟨own, rest, rfl, -, pieces⟩
    · rw [broken] at alike
      cases alike with
      | cons same _ => cases same
    · rw [pieces] at alike
      cases alike with
      | cons same later =>
        obtain ⟨body, rfl, balanced⟩ := same.of_body
        obtain ⟨other, chars, -, again⟩ := piecesOutside_of_alike later
        refine ⟨'<' :: '\x7b' :: (body ++ '\x7d' :: '>' :: other), ?_, rfl, ?_⟩
        · rw [List.flatMap_append, Piece.chars_ofLiteral, List.flatMap_cons, chars]
          simp [Piece.chars]
        · rw [piecesOutside, piecesInside_append balanced, again]
          rfl
  · rename_i c rest opens
    obtain ⟨other, chars, head, again⟩ := piecesOutside_of_alike h
    refine ⟨c :: other, by rw [chars]; simp, rfl, ?_⟩
    rw [piecesOutside]
    · exact again
    -- No tag begins here in the other text: its next character is that of this text.
    · rintro rest' rfl rfl
      cases rest with
      | nil => cases head
      | cons d rest =>
        cases head
        exact opens _ rfl rfl
  · rw [← List.append_nil (Piece.ofLiteral before)] at h
    obtain ⟨qs, rfl, alike⟩ := forall₂_ofLiteral_append h
    cases alike
    refine ⟨[], ?_, rfl, ?_⟩
    · rw [List.append_nil, Piece.chars_ofLiteral, List.append_nil]
    · rw [piecesOutside, List.append_nil]
termination_by cs.length

/-- The glyphs of a piece. -/
def Piece.glyphs (p : Piece) : List Glyph :=
  CommandScript.glyphs p.chars

theorem Piece.glyphs_body (body : List Char) :
    (Piece.body body).glyphs = .opens :: (CommandScript.glyphs body ++ [.closes]) := by
  rw [Piece.glyphs, Piece.chars, CommandScript.glyphs, glyphs_append (apart_cons (by decide))]
  rfl

theorem glyphs_tag_append (body rest : List Char) : glyphs ('<' :: '\x7b' :: (body ++ '\x7d' :: '>' :: rest)) =
    (Piece.body body).glyphs ++ glyphs rest := by
  rw [Piece.glyphs_body, glyphs, glyphs_append (apart_cons (by decide)), List.cons_append, List.append_assoc]
  rfl

/-- Pieces make no delimiters together that they do not make alone. -/
theorem glyphs_piecesOutside {before cs : List Char} (h : .broken ∉ piecesOutside before cs) :
    (piecesOutside before cs).flatMap Piece.glyphs = glyphs (before.reverse ++ cs) := by
  have literal : (Piece.ofLiteral before).flatMap Piece.glyphs = glyphs before.reverse := by
    cases before with
    | nil => rfl
    | cons => simp [Piece.ofLiteral, Piece.glyphs, Piece.chars]
  unfold piecesOutside at h ⊢
  split at h
  · rename_i rest
    rcases piecesInside_cases 0 [] rest with broken | ⟨own, rest, rfl, -, pieces⟩
    · rw [broken] at h
      simp at h
    · rw [pieces] at h ⊢
      rw [List.flatMap_append, literal, List.flatMap_cons, glyphs_piecesOutside fun hb => h (by simp [hb]),
        glyphs_append (apart_cons (by decide)), glyphs_tag_append]
      rfl
  · rw [glyphs_piecesOutside h]
    simp
  · rw [literal, List.append_nil]
termination_by cs.length

/-- A scan that stands behind a tag as before it. -/
def Blind {σ : Type} (scan : σ → Glyph → Option σ) : Prop :=
  ∀ n body, Balanced body → (Piece.body body).glyphs.foldlM scan n = some n

/-- A scan that is blind for tags does not see which tags there are. -/
theorem foldlM_of_alike {σ : Type} {scan : σ → Glyph → Option σ} {ps qs : List Piece} (blind : Blind scan)
    (h : List.Forall₂ Piece.Alike ps qs) (n : σ) :
    (qs.flatMap Piece.glyphs).foldlM scan n = (ps.flatMap Piece.glyphs).foldlM scan n := by
  induction h generalizing n with
  | nil => rfl
  | cons same _ ih =>
    rw [List.flatMap_cons, List.flatMap_cons, List.foldlM_append, List.foldlM_append]
    cases same with
    | literal cs => exact bind_congr fun n => ih n
    | body balanced other_balanced =>
      rw [blind n _ balanced, blind n _ other_balanced]
      exact ih n

theorem blind_behind : Blind Depths.behind := by
  intro n body h
  have inside : (glyphs body).foldlM Depths.behind ⟨n.brackets, 0 + n.tags + 1⟩ = some ⟨n.brackets, 0 + n.tags + 1⟩ :=
    behindText_of_openBehind h n.tags
  rw [Nat.zero_add] at inside
  rw [Piece.glyphs_body]
  show (glyphs body ++ [Glyph.closes]).foldlM Depths.behind ⟨n.brackets, n.tags + 1⟩ = _
  rw [List.foldlM_append, inside]
  rfl

theorem blind_tagsBehind : Blind tagsBehind := by
  intro tags body h
  have inside : openBehind (0 + tags + 1) body = some (0 + tags + 1) :=
    openBehind_of_behindText (behindText_of_openBehind h tags : Depths.behindText ⟨0, _⟩ body = _)
  rw [Nat.zero_add] at inside
  rw [Piece.glyphs_body]
  show (glyphs body ++ [Glyph.closes]).foldlM tagsBehind (tags + 1) = _
  rw [List.foldlM_append, ← openBehind, inside]
  rfl

theorem not_broken_of_alike {ps qs : List Piece} (h : List.Forall₂ Piece.Alike ps qs) :
    .broken ∉ ps ∧ .broken ∉ qs := by
  induction h with
  | nil => exact ⟨List.not_mem_nil, List.not_mem_nil⟩
  | cons same _ ih => cases same <;> simp [ih]

/-- A text with other tags is cut into its own pieces. -/
theorem argumentPieces_of_alike {cs : List Char} {qs : List Piece}
    (h : List.Forall₂ Piece.Alike (argumentPieces cs) qs) : argumentPieces (qs.flatMap Piece.chars) = qs := by
  obtain ⟨other, chars, -, again⟩ := piecesOutside_of_alike h
  rw [chars]
  exact again

/-- Arguments that differ only in what their tags hold. -/
def Alike (cs other : List Char) : Prop :=
  List.Forall₂ Piece.Alike (argumentPieces cs) (argumentPieces other)

section
variable {cs other : List Char} (h : Alike cs other)
include h

theorem Alike.scan {σ : Type} {scan : σ → Glyph → Option σ} (blind : Blind scan) (n : σ) :
    (glyphs other).foldlM scan n = (glyphs cs).foldlM scan n := by
  have own : _ = glyphs cs := glyphs_piecesOutside (not_broken_of_alike h).1
  have others : _ = glyphs other := glyphs_piecesOutside (not_broken_of_alike h).2
  rw [← own, ← others]
  exact foldlM_of_alike blind h n

theorem Alike.behindText (n : Depths) : n.behindText other = n.behindText cs :=
  h.scan blind_behind n

theorem Alike.balanced (balanced : Balanced cs) : Balanced other :=
  (h.scan blind_tagsBehind 0).trans balanced

end

/-! ### Text outside tags -/

/-- The text of a piece outside tags, with a gap for a tag. -/
def Piece.outside : Piece → List (Option Char)
  | .literal cs => cs.map some
  | .body _ => [none]
  | .broken => []

theorem outside_piecesOutside {before cs : List Char} (h : .broken ∉ piecesOutside before cs) :
    (piecesOutside before cs).flatMap Piece.outside = before.reverse.map some ++ outsideTags 0 cs := by
  have literal : (Piece.ofLiteral before).flatMap Piece.outside = before.reverse.map some := by
    cases before <;> simp [Piece.ofLiteral, Piece.outside]
  unfold piecesOutside at h ⊢
  split at h
  · rename_i rest
    rcases piecesInside_cases 0 [] rest with broken | ⟨own, rest, rfl, balanced, pieces⟩
    · rw [broken] at h
      simp at h
    · rw [pieces] at h ⊢
      rw [List.flatMap_append, literal, List.flatMap_cons, outside_piecesOutside fun hb => h (by simp [hb]),
        outsideTags, if_pos rfl, outsideTags_body balanced]
      rfl
  · rename_i c rest opens
    rw [outside_piecesOutside h, outsideTags_cons opens]
    simp
  · rw [literal]
    simp [outsideTags]
termination_by cs.length

theorem flatMap_outside_of_alike {ps qs : List Piece} (h : List.Forall₂ Piece.Alike ps qs) :
    qs.flatMap Piece.outside = ps.flatMap Piece.outside := by
  induction h with
  | nil => rfl
  | cons same _ ih =>
    rw [List.flatMap_cons, List.flatMap_cons, ih]
    cases same <;> rfl

/-- A text with other tags is the same outside them. -/
theorem Alike.outside {cs other : List Char} (h : Alike cs other) : outsideTags 0 other = outsideTags 0 cs := by
  have own : _ = outsideTags 0 cs := outside_piecesOutside (not_broken_of_alike h).1
  have others : _ = outsideTags 0 other := outside_piecesOutside (not_broken_of_alike h).2
  rw [← own, ← others]
  exact flatMap_outside_of_alike h

end CommandScript
