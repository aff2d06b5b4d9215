import CommandScript.Proofs.Layout.Tree
import CommandScript.Proofs.Rendering.Scanning
import CommandScript.Proofs.Tag.Rereading
import CommandScript.Proofs.Tag.Spacing
import CommandScript.Proofs.Text.Plain

/-! The words of a command as they are written. A word that needs no quotes is read as it stands, and one between quotes
    as what stands between them, if this has no quote of that kind and closes its tags. Such words in a row, with blanks
    between them, stay within one command: nothing in them ends it, begins a comment or leaves a quote open. -/

namespace CommandScript
open Text

/-! ### Tags in a word -/

/-- How many tags are open behind a text, if the end of a tag that is not open is text. -/
def openTags (tags : Nat) : List Char → Nat
  | '<' :: '\x7b' :: rest => openTags (tags + 1) rest
  | '\x7d' :: '>' :: rest => openTags (tags - 1) rest
  | _ :: rest => openTags tags rest
  | [] => tags

section
variable {tags tags' : Nat} {k : Glyph} {c : Char} {body rest : List Char}

theorem openTags_glyph (h : k.Before rest) :
    openTags tags (k.chars ++ rest) = openTags (openTags tags k.chars) rest := by
  cases k with
  | opens | closes => rfl
  | bars => simp [Glyph.chars, openTags]
  | char c =>
    rw [Glyph.chars, List.singleton_append, openTags]
    · simp [openTags]
    · rintro rest rfl rfl
      exact h _ rfl _ rfl .opens
    · rintro rest rfl rfl
      exact h _ rfl _ rfl .closes

theorem openTags_chars (behind : tagsBehind tags k = some tags') : openTags (tags + 1) k.chars = tags' + 1 := by
  cases k with
  | opens =>
    cases behind
    rfl
  | closes =>
    cases tags <;> cases behind
    rfl
  | bars | char c =>
    cases behind
    simp [Glyph.chars, openTags]

theorem openTags_cons (opens : ∀ rest', c = '<' → rest = '\x7b' :: rest' → False) :
    openTags 0 (c :: rest) = openTags 0 rest := by
  by_cases closes : ∃ rest', c = '\x7d' ∧ rest = '>' :: rest'
  · obtain ⟨rest, rfl, rfl⟩ := closes
    simp [openTags]
  · rw [openTags]
    · exact opens
    · exact fun rest' hc heq => closes ⟨rest', hc, heq⟩

theorem openTags_body (h : openBehind tags body = some 0) :
    openTags (tags + 1) (body ++ '\x7d' :: '>' :: rest) = openTags 0 rest := by
  induction body using glyph_induction generalizing tags with
  | nil =>
    cases h
    rfl
  | glyph k more before ih =>
    rw [openBehind_glyph before] at h
    obtain ⟨tags', behind, h⟩ := Option.bind_eq_some_iff.mp h
    have edge : k.Before (more ++ '\x7d' :: '>' :: rest) := (apart_cons (by decide)).before before
    rw [List.append_assoc, openTags_glyph edge, openTags_chars behind, ih h]

end

/-- A text that is cut into whole pieces closes its tags. -/
theorem openTags_of_pieces {before cs : List Char} (h : .broken ∉ piecesOutside before cs) : openTags 0 cs = 0 := by
  unfold piecesOutside at h
  split at h
  · rename_i rest
    rcases piecesInside_cases 0 [] rest with broken | ⟨own, rest, rfl, balanced, pieces⟩
    · simp [broken] at h
    · have later : .broken ∉ piecesOutside [] rest := fun hb => h (by simp [pieces, hb])
      rw [openTags, openTags_body balanced]
      exact openTags_of_pieces later
  · rename_i c rest opens
    rw [openTags_cons opens]
    exact openTags_of_pieces h
  · rfl
termination_by cs.length

/-! ### Words that are read as they stand -/

section
variable {tags : Nat} {k : Glyph} {cs rest : List Char}

theorem needsQuotes_glyph (before : k.Before rest) (h : needsQuotes tags (k.chars ++ rest) = false) :
    needsQuotes (openTags tags k.chars) rest = false ∧ ∀ c, k = .char c →
      (c ≠ ';' ∧ c ≠ '\x7b' ∧ c ≠ '\x7d' ∧ c ≠ '"' ∧ c ≠ '\'') ∧ (tags = 0 → isBlank c = false) := by
  cases k with
  | opens => exact ⟨h, nofun⟩
  | closes =>
    cases tags with
    | zero => cases h
    | succ tags => exact ⟨h, nofun⟩
  | bars =>
    refine ⟨?_, nofun⟩
    simpa [Glyph.chars, needsQuotes, openTags, isBlank] using h
  | char c =>
    rw [Glyph.chars, List.singleton_append, needsQuotes] at h
    · simp only [Bool.or_eq_false_iff, Bool.and_eq_false_iff, decide_eq_false_iff_not, beq_eq_false_iff_ne] at h
      obtain ⟨⟨⟨⟨⟨⟨semicolon, opening⟩, closing⟩, double⟩, single⟩, blank⟩, later⟩ := h
      refine ⟨by simpa [Glyph.chars, openTags] using later, ?_⟩
      rintro _ ⟨⟩
      exact ⟨⟨semicolon, opening, closing, double, single⟩, fun top => blank.resolve_left fun ne => ne top⟩
    · rintro rest rfl rfl
      exact before _ rfl _ rfl .opens
    · rintro rest rfl rfl
      exact before _ rfl _ rfl .closes

/-- A text that needs no quotes does not end the command, wherever it stands. -/
theorem unbroken_of_needsQuotes (h : needsQuotes tags cs = false) (previous next : Option Char) :
    unbroken none previous next cs = true := by
  induction cs using glyph_induction generalizing tags previous with
  | nil => rfl
  | glyph k more before ih =>
    obtain ⟨later, here⟩ := needsQuotes_glyph before h
    have behind := ih later
    cases k with
    | opens | closes | bars => simp [Glyph.chars, unbroken, separates, quoteAfter, behind]
    | char c =>
      obtain ⟨⟨semicolon, opening, closing, double, single⟩, -⟩ := here c rfl
      simp [Glyph.chars, unbroken, separates, quoteAfter, behind, semicolon, opening, closing, double, single]

/-- A text that needs no quotes opens none. -/
theorem quoteAfter_of_needsQuotes (h : needsQuotes tags cs = false) : ∀ c ∈ cs, quoteAfter none c = none := by
  induction cs using glyph_induction generalizing tags with
  | nil => nofun
  | glyph k more before ih =>
    obtain ⟨later, here⟩ := needsQuotes_glyph before h
    refine List.forall_mem_append.mpr ⟨?_, ih later⟩
    cases k with
    | opens | closes | bars => simp [Glyph.chars, quoteAfter]
    | char c =>
      obtain ⟨⟨-, -, -, double, single⟩, -⟩ := here c rfl
      simp [Glyph.chars, quoteAfter, double, single]

theorem head?_of_needsQuotes (h : needsQuotes 0 cs = false) : ∀ c ∈ cs.head?, isBlank c = false := by
  induction cs using glyph_induction with
  | nil => nofun
  | glyph k more before _ =>
    rintro c hc
    cases k with
    | opens | closes | bars =>
      cases hc
      rfl
    | char d =>
      cases hc
      exact ((needsQuotes_glyph before h).2 _ rfl).2 rfl

theorem getLast?_of_needsQuotes (h : needsQuotes tags cs = false) (closed : openTags tags cs = 0) :
    ∀ c ∈ cs.getLast?, isBlank c = false := by
  induction cs using glyph_induction generalizing tags with
  | nil => nofun
  | glyph k more before ih =>
    obtain ⟨later, here⟩ := needsQuotes_glyph before h
    rw [openTags_glyph before] at closed
    rintro c hc
    cases more with
    | cons d more =>
      rw [List.getLast?_append_cons] at hc
      exact ih later closed c hc
    | nil =>
      rw [List.append_nil] at hc
      cases k with
      | opens | closes | bars =>
        cases hc
        rfl
      | char d =>
        cases hc
        exact (here _ rfl).2 (by simpa [Glyph.chars, openTags] using closed)

end

/-! ### Reading words -/

namespace WordScan
variable {s : WordScan} {k : Glyph} {q : Char} {cs rest : List Char}

theorem step_eq_push {c : Char} (mark : (c ≠ '"' ∧ c ≠ '\'') ∨ s.tags ≠ 0)
    (solid : isBlank c = false ∨ s.quote ≠ none ∨ s.tags ≠ 0) : s.step c = s.push c := by
  have other : ¬((c = '"' ∨ c = '\'') ∧ s.tags = 0) := by
    rintro ⟨rfl | rfl, top⟩ <;> simp [top] at mark
  have inside : (isBlank c && s.quote.isNone && s.tags == 0) = false := by
    rcases solid with h | h | h <;> simp [h]
  rw [step, if_neg other, inside]
  rfl

/-- Adds a text to the word so far. -/
def hold (s : WordScan) (cs : List Char) : WordScan :=
  { s with current := cs.reverse ++ s.current, tags := openTags s.tags cs }

theorem hold_append_glyph (before : k.Before cs) : s.hold (k.chars ++ cs) = (s.hold k.chars).hold cs := by
  rw [hold, hold, hold, openTags_glyph before, List.reverse_append, List.append_assoc]

/-- A glyph is added to the word, if a character by itself is. -/
theorem run_glyph (h : k.Before rest) (single : ∀ c, k = .char c → s.step c = s.push c) :
    s.run (k.chars ++ rest) = (s.hold k.chars).run rest := by
  have pushed : ∀ (s : WordScan) (c : Char), c ≠ '"' ∧ c ≠ '\'' → isBlank c = false → s.step c = s.push c :=
    fun s c mark solid => step_eq_push (Or.inl mark) (Or.inl solid)
  cases k with
  | opens => rfl
  | closes =>
    show s.run ('\x7d' :: '>' :: rest) = _
    rw [run]
    split
    · rename_i top
      rw [pushed _ _ (by decide) rfl, pushed _ _ (by decide) rfl]
      simp [hold, push, Glyph.chars, openTags, top]
    · rename_i tags inside
      simp [hold, push, Glyph.chars, openTags, inside]
  | bars =>
    show s.run ('|' :: '|' :: rest) = _
    rw [run, run, pushed _ _ (by decide) rfl, pushed _ _ (by decide) rfl]
    · simp [hold, push, Glyph.chars, openTags]
    all_goals simp
  | char c =>
    rw [Glyph.chars, List.singleton_append, run, single c rfl]
    · simp [hold, push, openTags]
    · rintro rest rfl rfl
      exact h _ rfl _ rfl .opens
    · rintro rest rfl rfl
      exact h _ rfl _ rfl .closes

/-- Outside quotes, a text that needs none is added to the word. -/
theorem run_plain (free : s.quote = none) (h : needsQuotes s.tags cs = false) (edge : Apart cs rest) :
    s.run (cs ++ rest) = (s.hold cs).run rest := by
  induction cs using glyph_induction generalizing s with
  | nil => rfl
  | glyph k more before ih =>
    obtain ⟨later, here⟩ := needsQuotes_glyph before h
    have single : ∀ c, k = .char c → s.step c = s.push c := fun c hc => by
      obtain ⟨⟨-, -, -, double, single⟩, solid⟩ := here c hc
      refine step_eq_push (Or.inl ⟨double, single⟩) ?_
      by_cases top : s.tags = 0
      · exact Or.inl (solid top)
      · exact Or.inr (Or.inr top)
    rw [List.append_assoc, run_glyph (edge.before before) single, hold_append_glyph before]
    exact ih free later edge.of_append

/-- Between quotes, a text without a quote of that kind is added to the word. -/
theorem run_quoted (inside : s.quote = some q) (h : q ∉ cs) (edge : Apart cs rest) :
    s.run (cs ++ rest) = (s.hold cs).run rest := by
  induction cs using glyph_induction generalizing s with
  | nil => rfl
  | glyph k more before ih =>
    have single : ∀ c, k = .char c → s.step c = s.push c := by
      rintro c rfl
      have other : q ≠ c := fun hq => h (by simp [hq, Glyph.chars])
      by_cases mark : (c = '"' ∨ c = '\'') ∧ s.tags = 0
      · rw [step, if_pos mark, quoteMark, inside]
        exact if_neg other
      · exact step_eq_push (by tauto) (Or.inr (Or.inl (by rw [inside]; exact Option.some_ne_none q)))
    rw [List.append_assoc, run_glyph (edge.before before) single, hold_append_glyph before]
    exact ih inside (fun hq => h (List.mem_append_right _ hq)) edge.of_append

end WordScan

/-! ### Characters of words -/

/-- The characters of the words so far, in no order. -/
def WordScan.held (s : WordScan) : List Char :=
  s.current ++ s.words.flatMap (·.chars)

namespace WordScan

theorem held_flush_subset (s : WordScan) : s.flush.held ⊆ s.held := by
  unfold flush
  split
  · exact List.Subset.refl _
  · simp [held]

theorem held_step_subset (s : WordScan) (c : Char) : (s.step c).held ⊆ c :: s.held := by
  unfold step quoteMark
  repeat' split
  all_goals first
    | exact List.Subset.refl _
    | exact List.subset_cons_self _ _
    | exact List.subset_cons_of_subset _ (held_flush_subset s)

/-- Reading words takes characters from the text only. -/
theorem held_run_subset (s : WordScan) (cs : List Char) : (s.run cs).held ⊆ cs ++ s.held := by
  fun_induction run s cs with
  | case1 s => exact held_flush_subset s
  | case2 s rest ih | case4 s rest _ _ ih =>
    refine List.Subset.trans ih fun c hc => ?_
    simp only [held, push, List.mem_append, List.mem_cons] at hc ⊢
    tauto
  | case3 s rest _ ih =>
    refine List.Subset.trans ih fun c hc => ?_
    rcases List.mem_append.mp hc with hc | hc
    · simp [hc]
    · have := held_step_subset _ _ hc
      rcases List.mem_cons.mp this with rfl | hc
      · simp
      · rcases List.mem_cons.mp (held_step_subset _ _ hc) with rfl | hc <;> simp [*]
  | case5 s d rest _ _ ih =>
    refine List.Subset.trans ih fun c hc => ?_
    rcases List.mem_append.mp hc with hc | hc
    · simp [hc]
    · rcases List.mem_cons.mp (held_step_subset _ _ hc) with rfl | hc <;> simp [*]

end WordScan

theorem subset_of_mem_words {cs : List Char} {w : Word} (h : w ∈ words cs) : w.chars ⊆ cs := by
  intro c hc
  have held : c ∈ (WordScan.run {} cs).held :=
    List.mem_append_right _ (List.mem_flatMap.mpr ⟨w, List.mem_reverse.mp h, hc⟩)
  simpa [WordScan.held] using WordScan.held_run_subset {} cs held

/-! ### Texts that write words -/

/-- A text that is read as a word where a blank or the end of the command follows it. -/
structure Writes (cs : List Char) (w : Word) : Prop where
  counts : w.quoted = true ∨ w.chars ≠ []
  reads : ∀ (before : List Word) (rest : List Char), (∀ c ∈ rest.head?, c = ' ') →
    WordScan.run { words := before } (cs ++ rest) =
      WordScan.run { current := w.chars.reverse, quoted := w.quoted, words := before } rest

theorem apart_of_blank {cs rest : List Char} (h : ∀ c ∈ rest.head?, c = ' ') : Apart cs rest := by
  cases rest with
  | nil => exact apart_nil
  | cons c rest =>
    rw [h c rfl]
    exact apart_cons (by decide)

/-- A text that needs no quotes and closes its tags writes itself. -/
theorem writes_plain {cs : List Char} (filled : cs ≠ []) (h : needsQuotes 0 cs = false) (closed : openTags 0 cs = 0) :
    Writes cs ⟨cs, false⟩ where
  counts := Or.inr filled
  reads := fun before rest behind => by
    have run := @WordScan.run_plain { words := before } cs rest rfl h (apart_of_blank behind)
    rw [run, WordScan.hold, closed, List.append_nil]

/-- A text that closes its tags is written between quotes of a kind that it does not hold. -/
theorem writes_quoted {cs : List Char} {q : Char} (mark : q = '"' ∨ q = '\'') (h : q ∉ cs)
    (closed : openTags 0 cs = 0) :
    Writes (q :: (cs ++ [q])) ⟨cs, true⟩ where
  counts := Or.inl rfl
  reads := fun before rest behind => by
    have single : ∀ (s : WordScan) (rest : List Char), s.tags = 0 → s.run (q :: rest) = (s.quoteMark q).run rest :=
      fun s rest top => by
        rw [WordScan.run, WordScan.step, if_pos ⟨mark, top⟩]
        all_goals rintro rest rfl; simp at mark
    have edge : Apart cs (q :: rest) := apart_cons (by rcases mark with rfl | rfl <;> decide)
    rw [List.cons_append, List.append_assoc, single _ _ rfl, List.singleton_append,
      WordScan.run_quoted (s := WordScan.quoteMark { words := before } q) rfl h edge, single _ _ closed]
    simp [WordScan.quoteMark, WordScan.hold, closed]

/-- Texts with blanks between them are read as the words that they write. -/
theorem words_of_writes {cs : List Char} {w : Word} {texts : List (List Char)} {ws : List Word} (first : Writes cs w)
    (more : List.Forall₂ Writes texts ws) : words (cs ++ texts.flatMap (' ' :: ·)) = w :: ws := by
  suffices run : ∀ before, (WordScan.run { words := before } (cs ++ texts.flatMap (' ' :: ·))).words =
      (w :: ws).reverse ++ before by
    rw [words, run, List.append_nil, List.reverse_reverse]
  have ended : ∀ {w : Word} {before : List Word}, w.quoted = true ∨ w.chars ≠ [] →
      WordScan.flush { current := w.chars.reverse, quoted := w.quoted, words := before } =
        { words := w :: before } := fun {w before} counts => by
    rw [WordScan.flush, if_neg (by simpa using fun empty => counts.resolve_right (not_not_intro empty))]
    simp
  induction more generalizing cs w with
  | nil =>
    intro before
    rw [List.flatMap_nil, first.reads before [] nofun, WordScan.run, ended first.counts]
    rfl
  | @cons text v texts ws second _ ih =>
    intro before
    rw [List.flatMap_cons, first.reads before _ (by simp), List.cons_append, WordScan.run]
    rotate_left
    · nofun
    · nofun
    have blank : WordScan.step { current := w.chars.reverse, quoted := w.quoted, words := before } ' ' =
        { words := w :: before } := ended first.counts
    rw [blank, ih second]
    simp

/-! ### Words within a command -/

/-- A text that stands within one command with blanks around it: no blanks are at its ends, no comment begins in it, it
    does not end the command, and it leaves no quote open. -/
structure Phrase (cs : List Char) : Prop where
  filled : cs ≠ []
  first : ∀ c ∈ cs.head?, isBlank c = false
  last : ∀ c ∈ cs.getLast?, isBlank c = false
  noComment : uncommented none (some ' ') cs = true
  notCut : ∀ previous next, unbroken none previous next cs = true
  closed : cs.foldl quoteAfter none = none

theorem Phrase.append {a b : List Char} (ha : Phrase a) (hb : Phrase b) : Phrase (a ++ ' ' :: b) where
  filled := List.append_ne_nil_of_left_ne_nil ha.filled _
  first := by
    rw [List.head?_append_of_ne_nil _ ha.filled]
    exact ha.first
  last := by
    rw [List.getLast?_append_cons, List.getLast?_cons_of_ne_nil hb.filled]
    exact hb.last
  noComment := by
    rw [uncommented_append, ha.closed, uncommented]
    exact Bool.and_eq_true_iff.mpr ⟨ha.noComment, Bool.and_eq_true_iff.mpr ⟨rfl, hb.noComment⟩⟩
  notCut := fun previous next => by
    rw [unbroken_append, ha.closed, unbroken]
    exact Bool.and_eq_true_iff.mpr ⟨ha.notCut _ _, Bool.and_eq_true_iff.mpr ⟨rfl, hb.notCut _ _⟩⟩
  closed := by
    rw [List.foldl_append, ha.closed, List.foldl_cons]
    exact hb.closed

theorem Phrase.append_all {cs : List Char} {texts : List (List Char)} (first : Phrase cs)
    (more : ∀ text ∈ texts, Phrase text) : Phrase (cs ++ texts.flatMap (' ' :: ·)) := by
  induction texts generalizing cs with
  | nil =>
    rw [List.flatMap_nil, List.append_nil]
    exact first
  | cons text texts ih =>
    obtain ⟨second, more⟩ := List.forall_mem_cons.mp more
    rw [List.flatMap_cons, ← List.append_assoc]
    exact ih (first.append second) more

theorem phrase_plain {cs : List Char} (filled : cs ≠ []) (h : needsQuotes 0 cs = false) (closed : openTags 0 cs = 0)
    (noComment : uncommented none none cs = true) : Phrase cs where
  filled := filled
  first := head?_of_needsQuotes h
  last := getLast?_of_needsQuotes h closed
  noComment := by
    rw [← noComment]
    exact uncommented_congr (by simp) cs
  notCut := unbroken_of_needsQuotes h
  closed := foldl_quoteAfter (quoteAfter_of_needsQuotes h)

theorem phrase_quoted {cs : List Char} {q : Char} (mark : q = '"' ∨ q = '\'') (h : q ∉ cs) :
    Phrase (q :: (cs ++ [q])) := by
  have opened : quoteAfter none q = some q := if_pos mark
  have ended : quoteAfter (some q) q = none := by rw [quoteAfter, if_pos mark]; exact if_pos rfl
  have inside := foldl_quoteAfter_within h
  refine ⟨List.cons_ne_nil _ _, ?_, ?_, ?_, fun previous next => ?_, ?_⟩
  · rintro c hc
    cases hc
    rcases mark with rfl | rfl <;> rfl
  · rw [← List.cons_append, List.getLast?_concat]
    rintro c hc
    cases hc
    rcases mark with rfl | rfl <;> rfl
  · rw [uncommented, opened, uncommented_append, uncommented_within h, inside]
    rcases mark with rfl | rfl <;> rfl
  · rw [unbroken, opened, unbroken_append, unbroken_within h, inside]
    rcases mark with rfl | rfl <;> rfl
  · rw [List.foldl_cons, opened, List.foldl_append, inside]
    exact ended

end CommandScript
