import CommandScript.Proofs.Indices.Arguments

/-! The delimiters in a text. Tags open and close with two characters each, two bars introduce a fallback, and between
    them stand other characters. A balanced text closes the tags that it opens; the text of a single key also closes its
    brackets, and no point and no bars end the key in it. -/

namespace CommandScript
open Text

/-! ### Glyphs -/

/-- A delimiter of two characters, or another character. -/
inductive Glyph where
  | opens
  | closes
  | bars
  | char (c : Char)

/-- The characters of a glyph. -/
def Glyph.chars : Glyph → List Char
  | opens => ['<', '\x7b']
  | closes => ['\x7d', '>']
  | bars => ['|', '|']
  | char c => [c]

/-- A text as glyphs. -/
def glyphs : List Char → List Glyph
  | '<' :: '\x7b' :: rest => .opens :: glyphs rest
  | '\x7d' :: '>' :: rest => .closes :: glyphs rest
  | '|' :: '|' :: rest => .bars :: glyphs rest
  | c :: rest => .char c :: glyphs rest
  | [] => []

/-- Two characters that are a delimiter together. -/
inductive Joins : Char → Char → Prop
  | opens : Joins '<' '\x7b'
  | closes : Joins '\x7d' '>'
  | bars : Joins '|' '|'

/-- A glyph that begins no other delimiter with what follows it. -/
def Glyph.Before (k : Glyph) (rest : List Char) : Prop :=
  ∀ c, k = .char c → ∀ d ∈ rest.head?, ¬Joins c d

/-- Texts that make no delimiter where the second follows the first. -/
def Apart (u v : List Char) : Prop :=
  ∀ c ∈ u.getLast?, ∀ d ∈ v.head?, ¬Joins c d

section
variable {k : Glyph} {c d : Char} {a u v rest : List Char}

theorem glyphs_glyph (h : k.Before rest) : glyphs (k.chars ++ rest) = k :: glyphs rest := by
  cases k with
  | opens | closes | bars => rfl
  | char c =>
    rw [Glyph.chars, List.singleton_append, glyphs]
    · rintro rest rfl rfl
      exact h _ rfl _ rfl .opens
    · rintro rest rfl rfl
      exact h _ rfl _ rfl .closes
    · rintro rest rfl rfl
      exact h _ rfl _ rfl .bars

/-- A text is read glyph by glyph. -/
@[elab_as_elim]
theorem glyph_induction {motive : List Char → Prop} (nil : motive [])
    (glyph : ∀ k rest, Glyph.Before k rest → motive rest → motive (k.chars ++ rest)) (cs : List Char) :
    motive cs := by
  fun_induction glyphs cs with
  | case1 rest ih => exact glyph .opens rest nofun ih
  | case2 rest ih => exact glyph .closes rest nofun ih
  | case3 rest ih => exact glyph .bars rest nofun ih
  | case4 c rest opens closes bars ih =>
    refine glyph (.char c) rest ?_ ih
    rintro _ ⟨⟩ d hd joined
    cases rest with
    | nil => cases hd
    | cons e rest =>
      cases hd
      cases joined with
      | opens => exact opens _ rfl rfl
      | closes => exact closes _ rfl rfl
      | bars => exact bars _ rfl rfl
  | case5 => exact nil

theorem apart_nil : Apart u [] :=
  fun _ _ _ hd => nomatch hd

theorem apart_cons (h : d ≠ '\x7b' ∧ d ≠ '>' ∧ d ≠ '|') : Apart u (d :: v) := by
  intro c _ d hd joined
  cases hd
  cases joined with
  | opens => exact h.1 rfl
  | closes => exact h.2.1 rfl
  | bars => exact h.2.2 rfl

theorem Apart.of_append (h : Apart (a ++ u) v) : Apart u v := by
  intro c hc
  refine h c ?_
  cases u with
  | nil => cases hc
  | cons d u =>
    rw [List.getLast?_append_cons]
    exact hc

theorem Apart.before (h : Apart (k.chars ++ u) v) (before : k.Before u) : k.Before (u ++ v) := by
  rintro c rfl d hd
  cases u with
  | nil => exact h c rfl d hd
  | cons e u => exact before c rfl d hd

theorem Glyph.Before.of_append (h : k.Before (u ++ v)) : k.Before u := by
  rintro c rfl d hd
  cases u with
  | nil => cases hd
  | cons e u => exact h c rfl d hd

theorem glyphs_append (h : Apart u v) : glyphs (u ++ v) = glyphs u ++ glyphs v := by
  induction u using glyph_induction with
  | nil => rfl
  | glyph k rest before ih =>
    rw [List.append_assoc, glyphs_glyph (h.before before), glyphs_glyph before, ih h.of_append]
    rfl

end

/-! ### Tags that are open -/

/-- How many tags are open behind a glyph, if it closes none that is not open. -/
def tagsBehind (tags : Nat) : Glyph → Option Nat
  | .opens => some (tags + 1)
  | .closes =>
    match tags with
    | 0 => none
    | tags + 1 => some tags
  | .bars | .char _ => some tags

/-- How many tags are open behind a text, if it closes none that is not open. -/
def openBehind (tags : Nat) (cs : List Char) : Option Nat :=
  (glyphs cs).foldlM tagsBehind tags

/-- A text that closes the tags that it opens, and no others. -/
def Balanced (cs : List Char) : Prop :=
  openBehind 0 cs = some 0

section
variable {tags : Nat} {k : Glyph} {u v cs rest : List Char}

theorem tagsBehind_eq_none : tagsBehind tags k = none ↔ k = .closes ∧ tags = 0 := by
  cases k <;> cases tags <;> simp [tagsBehind]

theorem openBehind_glyph (h : k.Before rest) :
    openBehind tags (k.chars ++ rest) = (tagsBehind tags k).bind fun tags => openBehind tags rest := by
  rw [openBehind, glyphs_glyph h]
  rfl

theorem openBehind_append (h : Apart u v) :
    openBehind tags (u ++ v) = (openBehind tags u).bind fun tags => openBehind tags v := by
  rw [openBehind, glyphs_append h, List.foldlM_append]
  rfl

theorem openBehind_bar : openBehind tags ('|' :: cs) = openBehind tags cs := by
  induction cs with
  | nil => rfl
  | cons c cs ih =>
    by_cases bar : c = '|'
    · rw [bar, ih]
      rfl
    · refine openBehind_glyph (k := .char '|') ?_
      rintro _ ⟨⟩ d hd joined
      cases hd
      cases joined
      exact bar rfl

/-- A bar may be joined to the bars at the end of a text, but that opens and closes nothing. -/
theorem openBehind_append_bar :
    openBehind tags (u ++ '|' :: v) = (openBehind tags u).bind fun tags => openBehind tags v := by
  induction u using glyph_induction generalizing tags with
  | nil => exact openBehind_bar
  | glyph k rest before ih =>
    by_cases apart : k.Before (rest ++ '|' :: v)
    · rw [List.append_assoc, openBehind_glyph apart, openBehind_glyph before, Option.bind_assoc]
      exact Option.bind_congr fun tags _ => ih
    · simp only [Glyph.Before, not_forall, not_not] at apart
      obtain ⟨c, rfl, d, hd, joined⟩ := apart
      cases rest with
      | cons e rest => exact absurd joined (before c rfl d hd)
      | nil =>
        cases hd
        -- Only another bar is joined to a bar.
        cases joined
        show openBehind tags ('|' :: '|' :: v) = openBehind tags v
        rw [openBehind_bar, openBehind_bar]

end

/-! ### Text outside tags -/

/-- The text outside tags, with a gap in the place of each tag, behind the beginnings of `tags` tags. -/
def outsideTags (tags : Nat) : List Char → List (Option Char)
  | '<' :: '\x7b' :: rest => if tags = 0 then none :: outsideTags 1 rest else outsideTags (tags + 1) rest
  | '\x7d' :: '>' :: rest =>
    match tags with
    | 0 => some '\x7d' :: some '>' :: outsideTags 0 rest
    | tags + 1 => outsideTags tags rest
  | c :: rest => if tags = 0 then some c :: outsideTags 0 rest else outsideTags tags rest
  | [] => []

section
variable {tags tags' : Nat} {k : Glyph} {c : Char} {body rest : List Char}

theorem outsideTags_cons (opens : ∀ rest', c = '<' → rest = '\x7b' :: rest' → False) :
    outsideTags 0 (c :: rest) = some c :: outsideTags 0 rest := by
  by_cases closes : ∃ rest', c = '\x7d' ∧ rest = '>' :: rest'
  · obtain ⟨rest, rfl, rfl⟩ := closes
    rw [outsideTags]
    simp [outsideTags]
  · rw [outsideTags, if_pos rfl]
    · exact opens
    · exact fun rest' hc heq => closes ⟨rest', hc, heq⟩

theorem outsideTags_glyph (h : k.Before rest) (behind : tagsBehind tags k = some tags') :
    outsideTags (tags + 1) (k.chars ++ rest) = outsideTags (tags' + 1) rest := by
  cases k with
  | opens =>
    cases behind
    rfl
  | closes =>
    cases tags <;> cases behind
    rfl
  | bars =>
    cases behind
    simp [Glyph.chars, outsideTags]
  | char c =>
    cases behind
    rw [Glyph.chars, List.singleton_append, outsideTags, if_neg (Nat.succ_ne_zero tags)]
    · rintro rest rfl rfl
      exact h _ rfl _ rfl .opens
    · rintro rest rfl rfl
      exact h _ rfl _ rfl .closes

/-- Nothing of what a tag holds is outside it. -/
theorem outsideTags_body (h : openBehind tags body = some 0) :
    outsideTags (tags + 1) (body ++ '\x7d' :: '>' :: rest) = outsideTags 0 rest := by
  induction body using glyph_induction generalizing tags with
  | nil =>
    cases h
    rfl
  | glyph k more before ih =>
    rw [openBehind_glyph before] at h
    obtain ⟨tags', behind, h⟩ := Option.bind_eq_some_iff.mp h
    have edge : k.Before (more ++ '\x7d' :: '>' :: rest) := (apart_cons (by decide)).before before
    rw [List.append_assoc, outsideTags_glyph edge behind, ih h]

end

/-! ### Keys -/

/-- How many brackets and tags are open. -/
structure Depths where
  brackets : Nat
  tags : Nat

/-- Outside brackets and tags. -/
def Depths.top : Depths :=
  ⟨0, 0⟩

/-- What is open behind a glyph, unless a key ends there. Points and bars inside brackets or tags end no key, and
    brackets inside tags do not count. -/
def Depths.behind (n : Depths) : Glyph → Option Depths
  | .opens => some ⟨n.brackets, n.tags + 1⟩
  | .closes =>
    match n.tags with
    | 0 => none
    | tags + 1 => some ⟨n.brackets, tags⟩
  | .bars => if n.brackets = 0 ∧ n.tags = 0 then none else some n
  | .char c =>
    if n.tags ≠ 0 then some n
    else if c = '[' then some ⟨n.brackets + 1, n.tags⟩
    else if c = ']' then
      match n.brackets with
      | 0 => none
      | brackets + 1 => some ⟨brackets, n.tags⟩
    else if c = '.' ∧ n.brackets = 0 then none
    else some n

/-- What is open behind a text, unless a key ends in it. -/
def Depths.behindText (n : Depths) (cs : List Char) : Option Depths :=
  (glyphs cs).foldlM Depths.behind n

/-- A text that closes the brackets and tags that it opens, and in which no key ends. -/
def SingleKey (cs : List Char) : Prop :=
  Depths.top.behindText cs = some .top

section
variable {n n' : Depths} {k : Glyph} {tags tags' brackets : Nat} {cs u v rest : List Char}

theorem Depths.behindText_glyph (h : k.Before rest) :
    n.behindText (k.chars ++ rest) = (n.behind k).bind fun n => n.behindText rest := by
  rw [Depths.behindText, glyphs_glyph h]
  rfl

theorem Depths.behindText_append (h : Apart u v) :
    n.behindText (u ++ v) = (n.behindText u).bind fun n => n.behindText v := by
  rw [Depths.behindText, glyphs_append h, List.foldlM_append]
  rfl

/-- Where nothing is behind a glyph, a tag closes that is not open, or a key ends. -/
theorem Depths.of_behind_eq_none (h : n.behind k = none) :
    k = .closes ∧ n.tags = 0 ∨ n = .top ∧ (k = .bars ∨ k = .char '.' ∨ k = .char ']') := by
  obtain ⟨brackets, tags⟩ := n
  cases k with
  | opens => cases h
  | closes => cases tags <;> simp_all [Depths.behind]
  | bars => simp_all [Depths.behind, Depths.top]
  | char c =>
    rw [Depths.behind] at h
    split at h
    · cases h
    split at h
    · cases h
    split at h
    · cases brackets <;> simp_all [Depths.top]
    · split at h <;> simp_all [Depths.top]

theorem tagsBehind_of_behind (h : n.behind k = some n') : tagsBehind n.tags k = some n'.tags := by
  cases k with
  | opens =>
    cases h
    rfl
  | closes =>
    rw [Depths.behind] at h
    split at h <;> cases h
    rename_i tags htags
    simp only [tagsBehind, htags]
  | bars =>
    rw [Depths.behind] at h
    split at h <;> cases h
    rfl
  | char c =>
    rw [Depths.behind] at h
    repeat' split at h
    all_goals cases h <;> rfl

theorem openBehind_of_behindText (h : n.behindText cs = some n') : openBehind n.tags cs = some n'.tags := by
  induction cs using glyph_induction generalizing n with
  | nil =>
    cases h
    rfl
  | glyph k rest before ih =>
    rw [Depths.behindText_glyph before] at h
    obtain ⟨n₁, behind, h⟩ := Option.bind_eq_some_iff.mp h
    rw [openBehind_glyph before, tagsBehind_of_behind behind]
    exact ih h

theorem SingleKey.balanced (h : SingleKey cs) : Balanced cs :=
  openBehind_of_behindText h

theorem behind_of_tagsBehind (h : tagsBehind tags k = some tags') (outer : Nat) :
    Depths.behind ⟨brackets, tags + outer + 1⟩ k = some ⟨brackets, tags' + outer + 1⟩ := by
  cases k with
  | opens =>
    cases h
    simp [Depths.behind, Nat.add_right_comm]
  | bars | char =>
    cases h
    simp [Depths.behind]
  | closes =>
    cases tags <;> cases h
    simp [Depths.behind, Nat.add_right_comm]

/-- No key ends in a tag. -/
theorem behindText_of_openBehind (h : openBehind tags cs = some tags') (outer : Nat) :
    Depths.behindText ⟨brackets, tags + outer + 1⟩ cs = some ⟨brackets, tags' + outer + 1⟩ := by
  induction cs using glyph_induction generalizing tags with
  | nil =>
    cases h
    rfl
  | glyph k rest before ih =>
    rw [openBehind_glyph before] at h
    obtain ⟨tags₁, behind, h⟩ := Option.bind_eq_some_iff.mp h
    rw [Depths.behindText_glyph before, behind_of_tagsBehind behind]
    exact ih h

end

/-! ### Blanks -/

theorem not_blank_of_joins {c d : Char} (h : Joins c d) : isBlank c = false ∧ isBlank d = false := by
  cases h <;> decide

section
variable {bs cs rest : List Char} (blank : ∀ c ∈ bs, isBlank c = true)
include blank

theorem blanks_apart : Apart bs cs := by
  intro c hc d _ joined
  cases (blank c (List.mem_of_getLast? hc)).symm.trans (not_blank_of_joins joined).1

theorem apart_blanks (edge : Apart cs rest) : Apart cs (bs ++ rest) := by
  cases bs with
  | nil => exact edge
  | cons b bs =>
    intro c _ d hd joined
    cases hd
    cases (blank b List.mem_cons_self).symm.trans (not_blank_of_joins joined).2

theorem Depths.behindText_blanks (n : Depths) : n.behindText bs = some n := by
  induction bs with
  | nil => rfl
  | cons b bs ih =>
    obtain ⟨first, later⟩ := List.forall_mem_cons.mp blank
    have behind : n.behind (.char b) = some n := by
      have other : ∀ c, isBlank c = false → b ≠ c := by
        rintro c hc rfl
        cases hc.symm.trans first
      simp [Depths.behind, other '[' rfl, other ']' rfl, other '.' rfl]
    have before : Glyph.Before (.char b) bs := by
      rintro _ ⟨⟩ d _ joined
      cases first.symm.trans (not_blank_of_joins joined).1
    rw [← List.singleton_append, ← Glyph.chars, Depths.behindText_glyph before, behind]
    exact ih later

end

end CommandScript
