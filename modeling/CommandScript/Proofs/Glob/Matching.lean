import CommandScript.Proofs.Glob.Classes

/-! What a glob matches. A glob without fault is a row of elements, and it matches the texts that can be cut into
    pieces, one for each element in order. A match tries what follows a star at every place, but never goes back to an
    earlier star: the elements between two stars take one character each, so where they fit first leaves the most of the
    text to what follows them. -/

namespace CommandScript.Pattern.Glob

/-! ### Elements -/

/-- An element of a glob that stands for one character. -/
inductive Sign where
  | any
  /-- One of a class, with the text behind the opening bracket. -/
  | oneOf (cls : List Char)
  | escaped (c : Char)
  | letter (c : Char)
  deriving DecidableEq

namespace Sign

/-- The text of a sign. -/
def chars : Sign → List Char
  | any => ['?']
  | oneOf cls => '[' :: cls
  | escaped c => ['\\', c]
  | letter c => [c]

/-- Whether a sign stands for a character. -/
def takes : Sign → Char → Bool
  | any, _ => true
  | oneOf cls, c => classAccepts? c cls == some (true, [])
  | escaped m, c => Text.eqIgnoreCase m c
  | letter m, c => Text.eqIgnoreCase m c

/-- The text of the sign writes the sign: a class is one, and a letter means nothing else. -/
def Plain : Sign → Prop
  | any => True
  | oneOf cls => IsClass cls
  | escaped _ => True
  | letter c => c ∉ ['*', '?', '[', '\\']

end Sign

/-- An element of a glob. -/
inductive Element where
  | star
  | sign (s : Sign)
  deriving DecidableEq

namespace Element

/-- The text of an element. -/
def chars : Element → List Char
  | star => ['*']
  | sign s => s.chars

/-- A piece of text that an element matches: any for a star, and one character for a sign. -/
def Matches : Element → List Char → Prop
  | star, _ => True
  | sign s, piece => ∃ c, piece = [c] ∧ s.takes c = true

end Element

/-- A text that can be cut into pieces that match elements in order. -/
inductive Cut : List Element → List Char → Prop
  | nil : Cut [] []
  | cons {e : Element} {es : List Element} {piece rest : List Char} (first : e.Matches piece) (later : Cut es rest) :
    Cut (e :: es) (piece ++ rest)

/-- The elements that a glob writes. -/
structure Writes (es : List Element) (p : List Char) : Prop where
  plain : ∀ s, .sign s ∈ es → s.Plain
  chars : es.flatMap Element.chars = p

section
variable {es : List Element} {s : Sign} {p : List Char} {c : Char}

theorem Writes.nil : Writes [] [] :=
  ⟨fun _ h => absurd h List.not_mem_nil, rfl⟩

theorem Writes.star (w : Writes es p) : Writes (.star :: es) ('*' :: p) :=
  ⟨fun s h => w.plain s ((List.mem_cons.mp h).resolve_left nofun), congrArg ('*' :: ·) w.chars⟩

theorem Writes.sign (plain : s.Plain) (w : Writes es p) : Writes (.sign s :: es) (s.chars ++ p) := by
  refine ⟨fun s' h => ?_, congrArg (s.chars ++ ·) w.chars⟩
  rcases List.mem_cons.mp h with heq | h
  · cases heq
    exact plain
  · exact w.plain s' h

theorem Writes.uncons {e : Element} (w : Writes (e :: es) p) : ∃ rest, p = e.chars ++ rest ∧ Writes es rest :=
  ⟨_, w.chars.symm, fun s h => w.plain s (List.mem_cons_of_mem _ h), rfl⟩

theorem cut_star {t : List Char} : Cut (.star :: es) t ↔ ∃ u, u <:+ t ∧ Cut es u := by
  constructor
  · intro cut
    cases cut with
    | @cons _ _ piece u _ later => exact ⟨u, List.suffix_append piece u, later⟩
  · rintro ⟨u, ⟨piece, rfl⟩, later⟩
    exact .cons trivial later

theorem cut_sign {t : List Char} : Cut (.sign s :: es) t ↔ ∃ c u, t = c :: u ∧ s.takes c = true ∧ Cut es u := by
  constructor
  · intro cut
    cases cut with
    | cons first later =>
      obtain ⟨c, rfl, takes⟩ := first
      exact ⟨c, _, rfl, takes, later⟩
  · rintro ⟨c, u, rfl, takes, later⟩
    have first : (Element.sign s).Matches [c] := ⟨c, rfl, takes⟩
    exact .cons first later

/-- With no text left, stars alone match. -/
theorem cut_nil (w : Writes es p) : Cut es [] ↔ onlyStars p = true := by
  induction es generalizing p with
  | nil =>
    rw [← w.chars]
    exact ⟨fun _ => rfl, fun _ => .nil⟩
  | cons e es ih =>
    obtain ⟨rest, rfl, later⟩ := w.uncons
    cases e with
    | star =>
      rw [cut_star]
      refine ⟨fun ⟨u, suffix, cut⟩ => ?_, fun only => ⟨[], List.suffix_refl _, (ih later).mpr only⟩⟩
      rw [List.suffix_nil.mp suffix] at cut
      exact (ih later).mp cut
    | sign s =>
      refine ⟨fun cut => ?_, fun only => ?_⟩
      · obtain ⟨c, u, none_, -⟩ := cut_sign.mp cut
        cases none_
      · have plain : s.Plain := w.plain s List.mem_cons_self
        have first := List.all_eq_true.mp only
        cases s with
        | any => cases first '?' (by simp [Element.chars, Sign.chars])
        | oneOf cls => cases first '[' (by simp [Element.chars, Sign.chars])
        | escaped c => cases first '\\' (by simp [Element.chars, Sign.chars])
        | letter c =>
          have star : c = '*' := by simpa using first c (by simp [Element.chars, Sign.chars])
          exact absurd (by simp [star]) plain

/-! ### One character -/

theorem element?_sign (plain : s.Plain) (c : Char) (p : List Char) :
    element? c (s.chars ++ p) = if s.takes c then some p else none := by
  cases s with
  | any => rfl
  | escaped m => rfl
  | oneOf cls =>
    have plain : IsClass cls := plain
    show element? c ('[' :: (cls ++ p)) = _
    rw [element?, plain.classAccepts?_append, Sign.takes]
    cases classAccepts? c cls == some (true, []) <;> rfl
  | letter m =>
    have plain : m ∉ ['*', '?', '[', '\\'] := plain
    show element? c (m :: p) = _
    rw [element?]
    · rfl
    · rintro rfl
      simp at plain
    · rintro rfl
      simp at plain
    · rintro _ _ rfl
      simp at plain

/-- A sign takes one character, or the match fails there. -/
theorem stage_sign (plain : s.Plain) (p t : List Char) :
    stage (s.chars ++ p) (c :: t) = if s.takes c then stage p t else .failed := by
  rw [stage]
  · rw [element?_sign plain]
    cases s.takes c <;> rfl
  · intro rest heq
    cases s with
    | letter m =>
      cases heq
      exact absurd List.mem_cons_self plain
    | any | oneOf _ | escaped _ => cases heq

end

/-! ### Faults -/

theorem fault?_of_writes {es : List Element} {p : List Char} (w : Writes es p) : fault? p = none := by
  induction es generalizing p with
  | nil => rw [← w.chars, List.flatMap_nil, fault?]
  | cons e es ih =>
    obtain ⟨rest, rfl, later⟩ := w.uncons
    have none_later := ih later
    cases e with
    | star =>
      rw [Element.chars, List.singleton_append, fault?]
      · exact none_later
      · simp
      · simp
    | sign s =>
      have plain : s.Plain := w.plain s List.mem_cons_self
      cases s with
      | any =>
        rw [Element.chars, Sign.chars, List.singleton_append, fault?]
        · exact none_later
        · simp
        · simp
      | escaped c =>
        show fault? ('\\' :: c :: rest) = none
        rw [fault?]
        exact none_later
      | oneOf cls =>
        have plain : IsClass cls := plain
        have class_ := plain.classAccepts?_append '\x00' rest
        show fault? ('[' :: (cls ++ rest)) = none
        rw [fault?]
        split
        · rename_i none_
          cases none_.symm.trans class_
        · rename_i h
          cases h.symm.trans class_
          exact none_later
      | letter c =>
        have plain : c ∉ ['*', '?', '[', '\\'] := plain
        rw [Element.chars, Sign.chars, List.singleton_append, fault?]
        · exact none_later
        · rintro rfl
          simp at plain
        · rintro rfl
          simp at plain

theorem exists_writes {p : List Char} (h : fault? p = none) : ∃ es, Writes es p := by
  fun_induction fault? p with
  | case1 => exact ⟨[], .nil⟩
  | case2 => cases h
  | case3 c rest ih =>
    obtain ⟨es, w⟩ := ih h
    exact ⟨.sign (.escaped c) :: es, w.sign (s := .escaped c) trivial⟩
  | case4 => cases h
  | case5 rest b after hc _ ih =>
    obtain ⟨es, w⟩ := ih h
    obtain ⟨cls, plain, rfl⟩ := exists_isClass hc
    exact ⟨.sign (.oneOf cls) :: es, w.sign (s := .oneOf cls) plain⟩
  | case6 c rest escape bracket ih =>
    obtain ⟨es, w⟩ := ih h
    by_cases star : c = '*'
    · subst star
      exact ⟨.star :: es, w.star⟩
    · by_cases any : c = '?'
      · subst any
        exact ⟨.sign .any :: es, w.sign (s := .any) trivial⟩
      · have plain : c ∉ ['*', '?', '[', '\\'] := by
          simpa [star, any] using And.intro bracket escape
        exact ⟨.sign (.letter c) :: es, w.sign (s := .letter c) plain⟩

/-! ### From star to star -/

/-- Signs that take one character each, up to elements and a text that are left. -/
inductive Passes : List Element → List Char → List Element → List Char → Prop
  | refl {es : List Element} {t : List Char} : Passes es t es t
  | step {s : Sign} {c : Char} {es more : List Element} {t left : List Char} (takes : s.takes c = true)
    (later : Passes es t more left) : Passes (.sign s :: es) (c :: t) more left

section
variable {es more : List Element} {p t left : List Char}

theorem Passes.suffix (h : Passes es t more left) : left <:+ t := by
  induction h with
  | refl => exact List.suffix_refl _
  | step _ _ ih => exact ih.trans (List.suffix_cons _ _)

theorem Passes.cut (h : Passes es t more left) (cut : Cut more left) : Cut es t := by
  induction h with
  | refl => exact cut
  | step takes _ ih => exact cut_sign.mpr ⟨_, _, rfl, takes, ih cut⟩

/-- Another text for the same elements loses as many characters to the signs. -/
theorem Passes.cut_left (h : Passes es t more left) {u : List Char} (cut : Cut es u) :
    ∃ v, v <:+ u ∧ u.length + left.length = t.length + v.length ∧ Cut more v := by
  induction h generalizing u with
  | refl => exact ⟨u, List.suffix_refl u, Nat.add_comm .., cut⟩
  | step _ _ ih =>
    obtain ⟨c, u, rfl, -, cut⟩ := cut_sign.mp cut
    obtain ⟨v, suffix, length, cut⟩ := ih cut
    refine ⟨v, suffix.trans (List.suffix_cons _ _), ?_, cut⟩
    simp only [List.length_cons]
    omega

/-- The signs on the way take what they have to, so all depends on what is left. -/
theorem Passes.cut_iff (h : Passes es t more left) : Cut es t ↔ Cut more left := by
  refine ⟨fun cut => ?_, h.cut⟩
  obtain ⟨v, suffix, length, cut⟩ := h.cut_left cut
  have same : v = left := (List.suffix_of_suffix_length_le suffix h.suffix (by omega)).eq_of_length (by omega)
  exact same ▸ cut

/-- What a stage ends with: the elements and the text that are left when the text ends or a star comes up, or
    elements that do not match. -/
def Stage.Leaves (more : List Element) (left : List Char) : Stage → Prop
  | .ended p => left = [] ∧ Writes more p
  | .star p t => t = left ∧ ∃ later, more = .star :: later ∧ Writes later p
  | .failed => ¬Cut more left

theorem stage_leaves (w : Writes es p) (t : List Char) :
    ∃ more left, Passes es t more left ∧ (stage p t).Leaves more left := by
  induction t generalizing es p with
  | nil =>
    refine ⟨es, [], .refl, ?_⟩
    rw [stage]
    exact ⟨rfl, w⟩
  | cons c t ih =>
    cases es with
    | nil =>
      rw [← w.chars]
      exact ⟨[], c :: t, .refl, nofun⟩
    | cons e es =>
      obtain ⟨rest, rfl, later⟩ := w.uncons
      cases e with
      | star => exact ⟨.star :: es, c :: t, .refl, rfl, es, rfl, later⟩
      | sign s =>
        rw [Element.chars, stage_sign (w.plain s List.mem_cons_self)]
        cases takes : s.takes c with
        | true =>
          obtain ⟨more, left, passes, leaves⟩ := ih later
          exact ⟨more, left, .step takes passes, leaves⟩
        | false =>
          refine ⟨.sign s :: es, c :: t, .refl, fun cut => ?_⟩
          obtain ⟨d, u, heq, takes', -⟩ := cut_sign.mp cut
          cases heq
          cases takes.symm.trans takes'

/-- What follows a star is looked for at every place. Where the signs in front of the next star fit first, they leave
    as much of the text as they leave anywhere. -/
theorem afterStar_iff (w : Writes es p) (t : List Char) : afterStar p t = true ↔ ∃ u, u <:+ t ∧ Cut es u := by
  fun_induction afterStar p t generalizing es with
  | case1 p t rest h =>
    obtain ⟨more, left, passes, leaves⟩ := stage_leaves w t
    rw [h] at leaves
    obtain ⟨rfl, ended⟩ := leaves
    rw [← cut_nil ended]
    constructor
    · exact fun cut => ⟨t, List.suffix_refl t, passes.cut cut⟩
    · rintro ⟨u, suffix, cut⟩
      obtain ⟨v, -, length, cut⟩ := passes.cut_left cut
      have := suffix.length_le
      have empty : v = [] := List.eq_nil_of_length_eq_zero (by rw [List.length_nil] at length; omega)
      exact empty ▸ cut
  | case2 p t p' t' h _ ih =>
    obtain ⟨more, left, passes, leaves⟩ := stage_leaves w t
    rw [h] at leaves
    obtain ⟨rfl, later, rfl, after⟩ := leaves
    rw [ih after]
    constructor
    · exact fun found => ⟨t, List.suffix_refl t, passes.cut (cut_star.mpr found)⟩
    · rintro ⟨u, suffix, cut⟩
      -- What the signs leave of an end of the text is an end of what they leave here.
      obtain ⟨v, suffix', length, cut⟩ := passes.cut_left cut
      obtain ⟨x, inside, cut⟩ := cut_star.mp cut
      have := suffix.length_le
      have within : v <:+ t' := List.suffix_of_suffix_length_le (suffix'.trans suffix) passes.suffix (by omega)
      exact ⟨x, inside.trans within, cut⟩
  | case3 p h =>
    rw [stage] at h
    cases h
  | case4 p c t h ih =>
    obtain ⟨more, left, passes, leaves⟩ := stage_leaves w (c :: t)
    rw [h] at leaves
    rw [ih w]
    constructor
    · exact fun ⟨u, suffix, cut⟩ => ⟨u, suffix.trans (List.suffix_cons c t), cut⟩
    · rintro ⟨u, suffix, cut⟩
      rcases List.suffix_cons_iff.mp suffix with rfl | suffix
      · exact absurd (passes.cut_iff.mp cut) leaves
      · exact ⟨u, suffix, cut⟩

/-- A glob matches the texts that can be cut for its elements. -/
theorem accepts_iff (w : Writes es p) (t : List Char) : accepts p t = true ↔ Cut es t := by
  obtain ⟨more, left, passes, leaves⟩ := stage_leaves w t
  rw [passes.cut_iff]
  unfold accepts
  split
  · rename_i h
    rw [h] at leaves
    obtain ⟨rfl, ended⟩ := leaves
    exact (cut_nil ended).symm
  · rename_i h
    rw [h] at leaves
    obtain ⟨rfl, later, rfl, after⟩ := leaves
    rw [afterStar_iff after, cut_star]
  · rename_i h
    rw [h] at leaves
    exact ⟨nofun, fun cut => absurd cut leaves⟩

end

/-! ### The loop over pattern and text -/

/-- Where a loop over pattern and text is: what is left of both, and what followed the last star in both. -/
structure Cursors where
  pattern : List Char
  text : List Char
  star : Option (List Char × List Char) := none

/-- One turn of the loop, or its answer. After a mismatch the last star takes one more character. -/
def Cursors.turn (s : Cursors) : Cursors ⊕ Bool :=
  match s.text with
  | [] => .inr (onlyStars s.pattern)
  | c :: t =>
    match s.pattern with
    | '*' :: p => .inl ⟨p, c :: t, some (p, c :: t)⟩
    | p =>
      match element? c p, s.star with
      | some p, star => .inl ⟨p, t, star⟩
      | none, some (p, t) => .inl ⟨p, t.tail, some (p, t.tail)⟩
      | none, none => .inr false

/-- The loop ends with an answer. -/
inductive Cursors.Ends : Cursors → Bool → Prop
  | answer {s : Cursors} {b : Bool} (h : s.turn = .inr b) : Ends s b
  | turn {s s' : Cursors} {b : Bool} (h : s.turn = .inl s') (later : Ends s' b) : Ends s b

section
variable {p t : List Char} {star : Option (List Char × List Char)}

theorem Cursors.turn_of_ne_star {c : Char} (h : ∀ rest, p = '*' :: rest → False) : turn ⟨p, c :: t, star⟩ =
    match element? c p, star with
    | some p, star => .inl ⟨p, t, star⟩
    | none, some (p, t) => .inl ⟨p, t.tail, some (p, t.tail)⟩
    | none, none => .inr false := by
  unfold turn
  dsimp only
  split
  · rename_i rest
    exact (h rest rfl).elim
  · rfl

/-- The loop goes through a stage as the stage does: to the end of the text, to the next star, or to a mismatch. -/
theorem Cursors.ends_of_stage {b : Bool} (ended : ∀ rest, stage p t = .ended rest → b = onlyStars rest)
    (next : ∀ p' t', stage p t = .star p' t' → Ends ⟨p', t', some (p', t')⟩ b)
    (failed : stage p t = .failed → match star with
      | some (p', t') => Ends ⟨p', t'.tail, some (p', t'.tail)⟩ b
      | none => b = false) : Ends ⟨p, t, star⟩ b := by
  fun_induction stage p t with
  | case1 p =>
    rw [ended p rfl]
    exact .answer rfl
  | case2 p c t => exact .turn rfl (next p (c :: t) rfl)
  | case3 p c t notStar q hq ih =>
    refine .turn ?_ (ih ended next failed)
    rw [turn_of_ne_star notStar, hq]
  | case4 p c t notStar hq =>
    have mismatch : turn ⟨p, c :: t, star⟩ = _ := turn_of_ne_star notStar
    rw [hq] at mismatch
    cases star with
    | none =>
      rw [failed rfl]
      exact .answer mismatch
    | some last => exact .turn mismatch (failed rfl)

theorem Cursors.ends_afterStar (p t : List Char) : Ends ⟨p, t, some (p, t)⟩ (afterStar p t) := by
  fun_induction afterStar p t with
  | case1 p t rest h =>
    refine ends_of_stage (fun rest' h' => ?_) (fun p' t' h' => ?_) fun h' => ?_ <;> cases h.symm.trans h'
    rfl
  | case2 p t p' t' h _ ih =>
    refine ends_of_stage (fun rest' h' => ?_) (fun p'' t'' h' => ?_) fun h' => ?_ <;> cases h.symm.trans h'
    exact ih
  | case3 p h =>
    rw [stage] at h
    cases h
  | case4 p c t h ih =>
    refine ends_of_stage (fun rest' h' => ?_) (fun p'' t'' h' => ?_) fun _ => ih <;> cases h.symm.trans h'

/-- The loop ends for every pattern and text, and its answer is whether the glob matches. -/
theorem Cursors.ends_accepts (p t : List Char) : Ends ⟨p, t, none⟩ (accepts p t) := by
  unfold accepts
  refine ends_of_stage (fun rest h => ?_) (fun p' t' h => ?_) fun h => ?_ <;> rw [h]
  exact ends_afterStar p' t'

end

/-! ### Globs and texts -/

/-- Matching is exact. Whatever the pattern and the text, the loop that goes back to the last star alone comes to an
    end, with the answer of the match. The patterns without fault are those that elements write, and such a pattern
    matches a text exactly if the text can be cut into pieces that match its elements in order. -/
theorem accepts_exact (p t : List Char) :
    Cursors.Ends ⟨p, t, none⟩ (accepts p t) ∧ (fault? p = none ↔ ∃ es, Writes es p) ∧
      ∀ es, Writes es p → (accepts p t = true ↔ Cut es t) :=
  ⟨Cursors.ends_accepts p t, ⟨exists_writes, fun ⟨_, w⟩ => fault?_of_writes w⟩, fun _ w => accepts_iff w t⟩

/-- A glob with all kinds of elements and a text on which the loop goes back twice. -/
theorem accepts_exact_goingBack : ∃ es, Writes es "*a[^b-d]?*\\*é".toList ∧ Cut es "aAbaex**É".toList ∧
    Cursors.Ends ⟨"*a[^b-d]?*\\*é".toList, "aAbaex**É".toList, none⟩ true := by
  obtain ⟨ends, valid, exact_⟩ := accepts_exact "*a[^b-d]?*\\*é".toList "aAbaex**É".toList
  have matches_ : accepts "*a[^b-d]?*\\*é".toList "aAbaex**É".toList = true := by decide +kernel
  obtain ⟨es, w⟩ := valid.mp (by decide +kernel)
  exact ⟨es, w, (exact_ es w).mp matches_, matches_ ▸ ends⟩

end CommandScript.Pattern.Glob
