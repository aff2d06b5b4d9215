import CommandScript.Proofs.Lexing.Lexemes
import CommandScript.Proofs.Rendering.Reading
import CommandScript.Proofs.Traces.Positions

/-! Source text cut into statements. The tokens of a text are those of its reading: every stretch between two separators
    that is not all comments and blanks is a command, and every brace a token of its own. The command has the line in
    which the first of its lexemes stands that is no gap. -/

namespace CommandScript
open Text

/-! ### Statements of a reading -/

/-- How many lines a row of lexemes breaks. -/
def breaks (ls : List Lexeme) : Nat :=
  (sourceOf ls).count '\n'

@[simp] theorem breaks_nil : breaks [] = 0 := rfl

@[simp] theorem breaks_cons (l : Lexeme) (ls : List Lexeme) : breaks (l :: ls) = l.chars.count '\n' + breaks ls := by
  simp [breaks]

@[simp] theorem breaks_append (ls ms : List Lexeme) : breaks (ls ++ ms) = breaks ls + breaks ms := by
  simp [breaks]

/-- The text of a command that is written by lexemes. -/
def textOf (ls : List Lexeme) : List Char :=
  ls.flatMap Lexeme.text

/-- The token of the lexemes between two separators, which begin in line `line`: a command, unless they are gaps. -/
def statement (line : Nat) (ls : List Lexeme) : List Token :=
  commandTokens (trimChars (textOf ls)) (line + breaks (ls.takeWhile Lexeme.isGap))

/-- The token of a separator. -/
def Separator.tokens : Separator → List Token
  | semicolon => []
  | openBrace => [.openBrace]
  | closeBrace => [.closeBrace]

/-- The tokens of a row of lexemes that comes behind the lexemes `pending` of the same statement, which begins in line
    `line`. -/
def statements (line : Nat) (pending : List Lexeme) : List Lexeme → List Token
  | [] => statement line pending
  | .separator s :: ls => statement line pending ++ (s.tokens ++ statements (line + breaks pending) [] ls)
  | l :: ls => statements line (pending ++ [l]) ls

theorem statements_cons {l : Lexeme} (h : l.isSeparator = false) (line : Nat) (pending ls : List Lexeme) :
    statements line pending (l :: ls) = statements line (pending ++ [l]) ls := by
  cases l <;> first | rfl | cases h

theorem statements_append {body : List Lexeme} (h : ∀ l ∈ body, l.isSeparator = false) (line : Nat)
    (pending ls : List Lexeme) : statements line pending (body ++ ls) = statements line (pending ++ body) ls := by
  induction body generalizing pending with
  | nil => simp
  | cons l body ih =>
    obtain ⟨first, more⟩ := List.forall_mem_cons.mp h
    rw [List.cons_append, statements_cons first, ih more, List.append_assoc, List.singleton_append]

/-- The text of a command is blank if it is all gaps. -/
theorem all_isBlank_textOf {ls : List Lexeme} (h : ∀ l ∈ ls, l.isSeparator = false) :
    (textOf ls).all isBlank = ls.all Lexeme.isGap := by
  rw [textOf, List.all_flatMap, Bool.eq_iff_iff, List.all_eq_true, List.all_eq_true]
  exact forall₂_congr fun l hl => by rw [Lexeme.isGap_eq (h l hl)]

theorem takeWhile_append_of_not_all {α : Type _} {p : α → Bool} {xs : List α} (h : xs.all p = false) (ys : List α) :
    (xs ++ ys).takeWhile p = xs.takeWhile p := by
  induction xs with
  | nil => cases h
  | cons x xs ih =>
    cases hx : p x with
    | false => simp [hx]
    | true =>
      rw [List.all_cons, hx, Bool.true_and] at h
      simp [hx, ih h]

/-! ### Single characters -/

theorem quoteAfter_plain {c : Char} (h : ∀ q : Quote, c ≠ q.mark) : quoteAfter none c = none := by
  have single := h .single
  have double := h .double
  simp_all [quoteAfter, Quote.mark]

theorem separates_plain {c : Char} (h : ∀ s : Separator, c ≠ s.char) (quote previous next : Option Char) :
    separates quote previous next c = false := by
  have semicolon := h .semicolon
  have openBrace := h .openBrace
  have closeBrace := h .closeBrace
  simp_all [separates, Separator.char]

theorem commentAt_none {c : Char} {next : Option Char} (h : ¬(c = '/' ∧ (next = some '/' ∨ next = some '*'))) :
    commentAt none next c = false := by
  simpa [commentAt] using h

/-! ### Between quotes -/

theorem quoteAfter_mark (q : Quote) : quoteAfter none q.mark = some q.mark := by
  cases q <;> rfl

theorem quoteAfter_self (q : Quote) : quoteAfter (some q.mark) q.mark = none := by
  cases q <;> rfl

section
variable {q : Quote} {inside : List Char} (h : q.mark ∉ inside)
include h

/-- In a quoted passage no comment begins and no command ends. -/
theorem uncommented_quoted (closed : Bool) (next : Option Char) :
    uncommented none next (Lexeme.quoted q inside closed).chars = true := by
  rw [Lexeme.chars, uncommented, quoteAfter_mark, uncommented_append, uncommented_within h, foldl_quoteAfter_within h]
  cases q <;> cases closed <;> rfl

theorem unbroken_quoted (closed : Bool) (previous next : Option Char) :
    unbroken none previous next (Lexeme.quoted q inside closed).chars = true := by
  rw [Lexeme.chars, unbroken, quoteAfter_mark, unbroken_append, unbroken_within h, foldl_quoteAfter_within h]
  cases q <;> cases closed <;> rfl

end

/-! ### The scanner -/

namespace Scan
variable {s : Scan}

/-- Between quotes no comment begins. -/
theorem commentAt_quoted {quote : Option Char} (h : quote.isNone = false) (next : Option Char) (c : Char) :
    commentAt quote next c = false := by
  simp [commentAt, h]

/-- Where no comment begins, the scanner reads a single character. -/
theorem run_cons (region : s.region = .code) {c : Char} {rest : List Char}
    (h : commentAt s.quote rest.head? c = false) : s.run (c :: rest) = (s.step c rest.head?).run rest := by
  induction hn : rest.length using Nat.strongRecOn generalizing s c rest with
  | _ n ih =>
    -- Between quotes two slashes are read in one go, and the second of them one step later.
    have second : ∀ {d : Char} {more : List Char}, rest = d :: more → s.quote.isNone = false → c = '/' →
        ((s.step c (some d)).step d more.head?).run more = (s.step c rest.head?).run rest := by
      rintro d more rfl quoted rfl
      refine (ih more.length (by simp [← hn]) (by rw [step_region, region]) (commentAt_quoted ?_ _ _) rfl).symm
      rw [step_quote]
      exact quoted
    rw [run.eq_def]
    simp only [region]
    split
    · rename_i more
      split
      · rename_i free
        simp [commentAt, free] at h
      · rename_i quoted
        exact second rfl (Bool.eq_false_iff.mpr quoted) rfl
    · rename_i more
      split
      · rename_i free
        simp [commentAt, free] at h
      · rename_i quoted
        exact second rfl (Bool.eq_false_iff.mpr quoted) rfl
    · rfl

/-- Where no comment begins in a stretch, the scanner reads it character by character. -/
theorem run_append (region : s.region = .code) {a b : List Char} (h : uncommented s.quote b.head? a = true) :
    s.run (a ++ b) = (s.steps b.head? a).run b := by
  induction a generalizing s with
  | nil => rfl
  | cons c a ih =>
    simp only [uncommented, Bool.and_eq_true, Bool.not_eq_true', ← List.head?_append] at h
    obtain ⟨here, more⟩ := h
    rw [List.cons_append, run_cons region here, ih (by rw [step_region, region]) (by rw [step_quote]; exact more),
      steps, ← List.head?_append]

theorem count_cons_eq (c : Char) (cs : List Char) : (c :: cs).count '\n' = [c].count '\n' + cs.count '\n' := by
  rw [← List.count_append, List.singleton_append]

theorem steps_line (s : Scan) (next : Option Char) (cs : List Char) :
    (s.steps next cs).line = s.line + cs.count '\n' := by
  induction cs generalizing s with
  | nil => rfl
  | cons c cs ih => rw [steps, ih, step_line, count_cons_eq c cs, Nat.add_comm _ s.line, Nat.add_assoc]

/-- The line that is noted for a command does not change within it. -/
theorem steps_startLine (begun : s.current.all isBlank = false) {next : Option Char} {cs : List Char}
    (h : unbroken s.quote s.previous next cs = true) : (s.steps next cs).startLine = s.startLine := by
  induction cs generalizing s with
  | nil => rfl
  | cons c cs ih =>
    simp only [unbroken, Bool.and_eq_true, Bool.not_eq_true'] at h
    obtain ⟨here, more⟩ := h
    have noted : (s.begin c).startLine = s.startLine := by simp [begin, begun]
    rw [steps, ih _ (by rwa [step_quote, step_previous]), step_startLine, noted]
    rw [(step_within here).2]
    simp [begun]

theorem run_lineComment_open (region : s.region = .code) (quote : s.quote = none) (rest : List Char) :
    s.run ('/' :: '/' :: rest) = run { s with region := .lineComment } rest := by
  rw [run.eq_def]
  simp [region, quote]

theorem run_lineComment_cons (region : s.region = .lineComment) {c : Char} (h : c ≠ '\n') (rest : List Char) :
    s.run (c :: rest) = s.run rest := by
  rw [run.eq_def]
  simp [region, h]

theorem run_lineComment_close (region : s.region = .lineComment) (rest : List Char) :
    s.run ('\n' :: rest) = (step { s with region := .code } '\n' rest.head?).run rest := by
  rw [run.eq_def]
  simp [region]

theorem run_blockComment_open (region : s.region = .code) (quote : s.quote = none) (rest : List Char) :
    s.run ('/' :: '*' :: rest) = run { s with region := .blockComment } rest := by
  rw [run.eq_def]
  simp [region, quote]

theorem run_blockComment_cons (region : s.region = .blockComment) {c : Char} {rest : List Char}
    (h : ¬(c = '*' ∧ rest.head? = some '/')) :
    s.run (c :: rest) = run { s with line := s.line + [c].count '\n' } rest := by
  rw [run.eq_def]
  simp only [region]
  split
  · exact absurd ⟨rfl, rfl⟩ h
  · split
    · rename_i hc
      rw [hc]
      rfl
    · rename_i hc
      simp [hc, ← region]

theorem run_blockComment_close (region : s.region = .blockComment) (rest : List Char) :
    s.run ('*' :: '/' :: rest) = run { s with region := .code, previous := some '/' } rest := by
  rw [run.eq_def]
  simp [region]

/-- A comment to the end of the line is passed over. -/
theorem run_lineComment (region : s.region = .lineComment) {inside : List Char} (h : '\n' ∉ inside)
    (rest : List Char) : s.run (inside ++ rest) = s.run rest := by
  induction inside with
  | nil => rfl
  | cons c inside ih =>
    simp only [List.mem_cons, not_or] at h
    obtain ⟨first, more⟩ := h
    rw [List.cons_append, run_lineComment_cons region (Ne.symm first), ih more]

/-- The line break behind a comment is read as if there were no comment. -/
theorem run_afterLineComment (region : s.region = .code) {rest : List Char} (h : ∀ c ∈ rest.head?, c = '\n') :
    (run { s with region := .lineComment } rest).tokens = (s.run rest).tokens := by
  cases rest with
  | nil => rfl
  | cons c rest =>
    obtain rfl := h c rfl
    rw [run_cons region (by simp [commentAt]), run_lineComment_close rfl, ← region]

/-- The inside of a comment is passed over, and its line breaks are counted. -/
theorem run_blockComment (region : s.region = .blockComment) {inside : List Char} (rest : List Char)
    (h : ¬['*', '/'] <:+: inside ++ rest.head?.toList) :
    s.run (inside ++ rest) = run { s with line := s.line + inside.count '\n' } rest := by
  induction inside generalizing s with
  | nil => rfl
  | cons c inside ih =>
    have first : ¬(c = '*' ∧ (inside ++ rest).head? = some '/') := by
      rintro ⟨rfl, second⟩
      have cut : (inside ++ rest.head?.toList).head? = some '/' := by
        rw [← second]
        cases inside <;> cases rest <;> rfl
      obtain ⟨more, hmore⟩ := List.head?_eq_some_iff.mp cut
      exact h (List.IsPrefix.isInfix ⟨more, by simp [hmore]⟩)
    rw [List.cons_append, run_blockComment_cons region first,
      ih (s := { s with line := s.line + [c].count '\n' }) region fun more => h (List.infix_cons more),
      count_cons_eq c inside, Nat.add_assoc]

/-- The lexemes `pending` of a statement that begins in line `line` have been read. -/
structure Pending (line : Nat) (pending : List Lexeme) (s : Scan) : Prop where
  current : s.current.reverse = textOf pending
  here : s.line = line + breaks pending
  /-- The line that is noted is that of the first lexeme that is no gap. -/
  begun : pending.all Lexeme.isGap = false → s.startLine = line + breaks (pending.takeWhile Lexeme.isGap)
  within : ∀ l ∈ pending, l.isSeparator = false

namespace Pending
variable {line : Nat} {pending : List Lexeme}

theorem start (line : Nat) {s : Scan} (current : s.current = []) (here : s.line = line) : s.Pending line [] where
  current := by rw [current]; rfl
  here := here
  begun := nofun
  within := nofun

variable (h : s.Pending line pending)
include h

theorem blank_eq : s.current.all isBlank = pending.all Lexeme.isGap := by
  rw [← all_isBlank_textOf h.within, ← h.current, List.all_reverse]

/-- Ending the command adds the token of the statement. -/
theorem flush : s.flush.tokens = (statement line pending).reverse ++ s.tokens := by
  rw [flush_tokens_eq, statement, h.current]
  cases gaps : pending.all Lexeme.isGap with
  | true =>
    have blank : trimChars (textOf pending) = [] := by
      rw [trimChars_eq_nil, ← h.current]
      have := h.blank_eq
      rw [gaps] at this
      simpa using this
    rw [blank]
    rfl
  | false =>
    rw [h.begun gaps]
    unfold commandTokens
    split <;> rfl

/-- A lexeme is added to the statement whose characters are added to the command. -/
theorem push (free : s.quote = none) {l : Lexeme} (within : l.isSeparator = false) (text : l.text = l.chars.map flat)
    {next : Option Char} (whole : unbroken s.quote s.previous next l.chars = true) :
    (s.steps next l.chars).Pending line (pending ++ [l]) ∧ (s.steps next l.chars).tokens = s.tokens := by
  obtain ⟨tokens, current⟩ := steps_unbroken whole
  refine ⟨⟨?_, ?_, fun gaps => ?_, ?_⟩, tokens⟩
  · rw [current, List.reverse_append, List.reverse_reverse, h.current, textOf, textOf, List.flatMap_append,
      List.flatMap_singleton, text]
  · rw [steps_line, h.here, breaks_append]
    simp [breaks, Nat.add_assoc]
  · cases before : pending.all Lexeme.isGap with
    | false =>
      rw [steps_startLine (by rw [h.blank_eq, before]) whole, h.begun before, takeWhile_append_of_not_all before]
    | true =>
      have notGap : l.isGap = false := by simpa [before] using gaps
      obtain ⟨c, rest, hl, first, -⟩ := Lexeme.exists_solid notGap within
      rw [List.takeWhile_append_of_pos (List.all_eq_true.mp before), List.takeWhile_cons_of_neg (by simp [notGap]),
        List.append_nil, ← h.here]
      -- The first character notes the line at hand, and the others leave it.
      rw [hl, unbroken, Bool.and_eq_true, Bool.not_eq_true'] at whole
      have noted : (s.begin c).startLine = s.line := by simp [begin, free, first, h.blank_eq, before]
      have next_step := step_within (s := s) whole.1
      rw [hl, steps, steps_startLine _ (by rw [step_quote, step_previous]; exact whole.2), step_startLine, noted]
      rw [next_step.2]
      simp [Lexeme.isBlank_flat, first]
  · exact List.forall_mem_append.mpr ⟨h.within, List.forall_mem_singleton.mpr within⟩

/-- A comment is added to the statement and not to the command. -/
theorem pass {l : Lexeme} (gap : l.isGap = true) (within : l.isSeparator = false) (text : l.text = []) {t : Scan}
    (current : t.current = s.current) (here : t.line = s.line + l.chars.count '\n')
    (startLine : t.startLine = s.startLine) : t.Pending line (pending ++ [l]) where
  current := by simp [current, h.current, textOf, text]
  here := by simp [here, h.here, Nat.add_assoc]
  begun := fun gaps => by
    have before : pending.all Lexeme.isGap = false := by simpa [gap] using gaps
    rw [startLine, h.begun before, takeWhile_append_of_not_all before]
  within := List.forall_mem_append.mpr ⟨h.within, List.forall_mem_singleton.mpr within⟩

/-- Before the end of a statement only a blank one has its line noted anew. -/
theorem begin (c : Char) : (s.begin c).Pending line pending where
  current := by rw [begin_current, h.current]
  here := by rw [begin_line, h.here]
  begun := fun gaps => by
    have noted : (s.begin c).startLine = s.startLine := by simp [Scan.begin, h.blank_eq, gaps]
    rw [noted, h.begun gaps]
  within := h.within

end Pending

/-- The scanner has read the lexemes `pending` of a statement that begins in line `line`, and `rest` follows. -/
structure Behind (line : Nat) (pending : List Lexeme) (rest : List Char) (s : Scan) : Prop
    extends s.Pending line pending where
  region : s.region = .code
  quote : s.quote = none
  /-- A brace that follows opens no tag. -/
  edge : s.previous = some '<' → rest.head? ≠ some '\x7b'

/-- The scanner reads a lexeme as one more of its statement. -/
def Takes (s : Scan) (line : Nat) (pending : List Lexeme) (l : Lexeme) (rest : List Char) : Prop :=
  ∃ t : Scan, t.Behind line (pending ++ [l]) rest ∧ t.tokens = s.tokens ∧
    (s.run (l.chars ++ rest)).tokens = (t.run rest).tokens

namespace Behind
variable {line : Nat} {pending : List Lexeme} {rest : List Char} {l : Lexeme}

/-- A lexeme is read character by character that leaves no quote open. -/
theorem push (h : s.Behind line pending (l.chars ++ rest)) (within : l.isSeparator = false)
    (text : l.text = l.chars.map flat)
    (bare : uncommented none rest.head? l.chars = true) (whole : unbroken none s.previous rest.head? l.chars = true)
    (closed : l.chars.foldl quoteAfter none = none)
    (edge : l.chars.getLast? = some '<' → rest.head? ≠ some '\x7b') : s.Takes line pending l rest := by
  rw [← h.quote] at bare whole closed
  obtain ⟨after, tokens⟩ := h.toPending.push h.quote within text whole
  refine ⟨s.steps rest.head? l.chars, ⟨after, ?_, ?_, fun previous => edge ?_⟩, tokens,
    congrArg _ (run_append h.region bare)⟩
  · rw [steps_region, h.region]
  · rw [steps_quote, closed, h.quote]
  · rw [steps_previous, List.getLast?_eq_some_getLast l.chars_ne_nil] at previous
    rw [List.getLast?_eq_some_getLast l.chars_ne_nil]
    exact previous

theorem takes_plain {c : Char} (h : s.Behind line pending ((Lexeme.plain c).chars ++ rest))
    (fits : (Lexeme.plain c).Fits rest) : s.Takes line pending (.plain c) rest := by
  obtain ⟨unquoted, unparted, comment, tag⟩ := fits
  refine h.push rfl rfl ?_ ?_ (quoteAfter_plain unquoted) fun last => ?_
  · simp [Lexeme.chars, uncommented, commentAt_none comment]
  · simp [Lexeme.chars, unbroken, separates_plain unparted]
  · exact fun brace => tag ⟨Option.some.inj last, brace⟩

theorem takes_quoted {q : Quote} {inside : List Char} {closed : Bool}
    (h : s.Behind line pending ((Lexeme.quoted q inside closed).chars ++ rest))
    (fits : (Lexeme.quoted q inside closed).Fits rest) : s.Takes line pending (.quoted q inside closed) rest := by
  cases closed with
  | true =>
    refine h.push rfl rfl (uncommented_quoted fits.1 _ _) (unbroken_quoted fits.1 _ _ _) ?_ fun last => ?_
    · simp [Lexeme.chars, quoteAfter_mark, foldl_quoteAfter_within fits.1, quoteAfter_self]
    · rw [Lexeme.chars, if_pos rfl, ← List.cons_append, List.getLast?_concat] at last
      cases q <;> cases last
  | false =>
    obtain rfl := fits.2 rfl
    have bare : uncommented s.quote none (Lexeme.quoted q inside false).chars = true := by
      rw [h.quote, uncommented_quoted fits.1]
    have whole : unbroken s.quote s.previous none (Lexeme.quoted q inside false).chars = true := by
      rw [h.quote, unbroken_quoted fits.1]
    obtain ⟨after, tokens⟩ := h.toPending.push h.quote rfl rfl whole
    -- Nothing follows that the open quote could matter to.
    refine ⟨{ s.steps none (Lexeme.quoted q inside false).chars with quote := none },
      ⟨⟨after.current, after.here, after.begun, after.within⟩, ?_, rfl, fun _ brace => by cases brace⟩, tokens, ?_⟩
    · exact (steps_region s _ _).trans h.region
    · rw [run_append (b := []) h.region bare]
      rfl

theorem takes_lineComment {inside : List Char} (h : s.Behind line pending ((Lexeme.lineComment inside).chars ++ rest))
    (fits : (Lexeme.lineComment inside).Fits rest) : s.Takes line pending (.lineComment inside) rest := by
  have unbreaking : (Lexeme.lineComment inside).chars.count '\n' = 0 := by
    simpa [Lexeme.chars, List.count_eq_zero] using fits.1
  refine ⟨s, ⟨h.toPending.pass rfl rfl rfl rfl (by rw [unbreaking]; rfl) rfl, h.region, h.quote, ?_⟩, rfl, ?_⟩
  · intro _ brace
    cases fits.2 _ brace
  · rw [Lexeme.chars, List.cons_append, List.cons_append, run_lineComment_open h.region h.quote,
      run_lineComment rfl fits.1, run_afterLineComment h.region fits.2]

theorem takes_blockComment {inside : List Char} {closed : Bool}
    (h : s.Behind line pending ((Lexeme.blockComment inside closed).chars ++ rest))
    (fits : (Lexeme.blockComment inside closed).Fits rest) :
    s.Takes line pending (.blockComment inside closed) rest := by
  have breaking : (Lexeme.blockComment inside closed).chars.count '\n' = inside.count '\n' := by
    cases closed <;> simp [Lexeme.chars]
  cases closed with
  | true =>
    refine ⟨{ s with line := s.line + inside.count '\n', previous := some '/' },
      ⟨h.toPending.pass rfl rfl rfl rfl (by rw [breaking]) rfl, h.region, h.quote, fun slash => by cases slash⟩,
      rfl, ?_⟩
    have shape : (Lexeme.blockComment inside true).chars ++ rest = '/' :: '*' :: (inside ++ '*' :: '/' :: rest) := by
      simp [Lexeme.chars]
    rw [shape, run_blockComment_open h.region h.quote, run_blockComment rfl ('*' :: '/' :: rest) fits,
      run_blockComment_close rfl, h.region]
  | false =>
    obtain ⟨opened, rfl⟩ := fits
    refine ⟨{ s with line := s.line + inside.count '\n' },
      ⟨h.toPending.pass rfl rfl rfl rfl (by rw [breaking]) rfl, h.region, h.quote, fun _ brace => by cases brace⟩,
      rfl, ?_⟩
    have shape : (Lexeme.blockComment inside false).chars ++ [] = '/' :: '*' :: (inside ++ []) := by
      simp [Lexeme.chars]
    rw [shape, run_blockComment_open h.region h.quote, run_blockComment rfl [] (by simpa using opened)]
    rfl

theorem takes (h : s.Behind line pending (l.chars ++ rest)) (within : l.isSeparator = false) (fits : l.Fits rest) :
    s.Takes line pending l rest := by
  cases l with
  | plain c => exact h.takes_plain fits
  | tagOpen => exact h.push rfl rfl rfl rfl rfl fun last => by cases last
  | tagClose => exact h.push rfl rfl rfl rfl rfl fun last => by cases last
  | quoted q inside closed => exact h.takes_quoted fits
  | lineComment inside => exact h.takes_lineComment fits
  | blockComment inside closed => exact h.takes_blockComment fits
  | separator => cases within

/-- A separator ends the statement, and another begins behind it. -/
theorem run_separator {sep : Separator} (h : s.Behind line pending (sep.char :: rest))
    (fits : (Lexeme.separator sep).Fits rest) :
    ∃ t : Scan, t.Behind (line + breaks pending) [] rest ∧
      t.tokens = (statement line pending ++ sep.tokens).reverse ++ s.tokens ∧
      s.run (sep.char :: rest) = t.run rest := by
  have parts : separates s.quote s.previous rest.head? sep.char = true := by
    cases sep with
    | semicolon => simp [separates, h.quote, Separator.char]
    | openBrace => simpa [separates, h.quote, Separator.char] using fun previous => h.edge previous rfl
    | closeBrace => simpa [separates, h.quote, Separator.char] using fits rfl
  have bare : commentAt s.quote rest.head? sep.char = false := by
    cases sep <;> simp [commentAt, Separator.char]
  have free : quoteAfter none sep.char = none := by
    cases sep <;> rfl
  have unbreaking : [sep.char].count '\n' = 0 := by
    cases sep <;> rfl
  obtain ⟨tokens, current⟩ := step_separates parts
  refine ⟨s.step sep.char rest.head?, ⟨.start _ current ?_, ?_, ?_, fun previous => ?_⟩, ?_, run_cons h.region bare⟩
  · rw [step_line, h.here, unbreaking, Nat.zero_add]
  · rw [step_region, h.region]
  · rw [step_quote, h.quote, free]
  · rw [step_previous] at previous
    cases sep <;> cases previous
  · rw [tokens, (h.toPending.begin _).flush, begin_tokens, List.reverse_append, List.append_assoc]
    cases sep <;> rfl

/-- The rest of a source is read as its reading has it. -/
theorem run_reading {ls : List Lexeme} (h : s.Behind line pending (sourceOf ls)) (reading : Reading ls) :
    (s.run (sourceOf ls)).tokens = (statements line pending ls).reverse ++ s.tokens := by
  induction ls generalizing s line pending with
  | nil => exact h.flush
  | cons l ls ih =>
    obtain ⟨fits, more⟩ := Reading.cons_iff.mp reading
    rw [sourceOf_cons] at h ⊢
    cases parts : l.isSeparator with
    | false =>
      obtain ⟨t, behind, tokens, run⟩ := h.takes parts fits
      rw [run, ih behind more, tokens, statements_cons parts]
    | true =>
      obtain ⟨sep, rfl⟩ := Lexeme.exists_separator parts
      obtain ⟨t, behind, tokens, run⟩ := h.run_separator fits
      have first : s.run ((Lexeme.separator sep).chars ++ sourceOf ls) = t.run (sourceOf ls) := run
      rw [first, ih behind more, tokens, statements]
      simp

end Behind

end Scan

/-- The tokens of a source are the statements of its reading. -/
theorem tokens_eq_statements {source : String} {ls : List Lexeme} (reading : Reading ls)
    (h : sourceOf ls = source.toList) : tokens source = statements 1 [] ls := by
  have behind : ({} : Scan).Behind 1 [] (sourceOf ls) := ⟨.start 1 rfl rfl, rfl, rfl, nofun⟩
  rw [tokens, ← h, behind.run_reading reading, List.append_nil, List.reverse_reverse]

/-! ### A single statement -/

/-- The row parts into what stands before a statement, the lexemes of the statement and what stands behind it. -/
structure StatementAt (ls before body after : List Lexeme) : Prop where
  eq : ls = before ++ (body ++ after)
  start : before = [] ∨ ∃ row sep, before = row ++ [.separator sep]
  within : ∀ l ∈ body, l.isSeparator = false
  stop : after = [] ∨ ∃ sep row, after = .separator sep :: row

theorem commandTokens_cases (text : List Char) (line : Nat) :
    commandTokens text line = [] ∨ ∃ t, commandTokens text line = [t] := by
  unfold commandTokens
  split
  · exact Or.inl rfl
  · exact Or.inr ⟨_, rfl⟩

/-- A command that comes up is the one of the first statement, or comes behind it. -/
theorem statement_append {line : Nat} {ls : List Lexeme} {more ts us : List Token} {text : String} {n : Nat}
    (h : statement line ls ++ more = ts ++ .command text n :: us) :
    (ts = [] ∧ statement line ls = [.command text n] ∧ us = more) ∨
      ∃ behind, ts = statement line ls ++ behind ∧ more = behind ++ .command text n :: us := by
  rcases commandTokens_cases (trimChars (textOf ls)) (line + breaks (ls.takeWhile Lexeme.isGap)) with
    none | ⟨t, one⟩
  · rw [statement, none] at h ⊢
    exact Or.inr ⟨ts, rfl, h⟩
  · rw [statement, one] at h ⊢
    cases ts with
    | nil =>
      obtain ⟨rfl, rfl⟩ := List.cons.inj h
      exact Or.inl ⟨rfl, rfl, rfl⟩
    | cons t ts =>
      obtain ⟨rfl, rest⟩ := List.cons.inj h
      exact Or.inr ⟨ts, rfl, rest⟩

/-- The token of a separator is no command. -/
theorem Separator.tokens_append {sep : Separator} {more ts us : List Token} {text : String} {n : Nat}
    (h : sep.tokens ++ more = ts ++ .command text n :: us) :
    ∃ behind, ts = sep.tokens ++ behind ∧ more = behind ++ .command text n :: us := by
  cases sep with
  | semicolon => exact ⟨ts, rfl, h⟩
  | openBrace | closeBrace =>
    cases ts with
    | nil => cases (List.cons.inj h).1
    | cons t ts =>
      obtain ⟨rfl, more⟩ := List.cons.inj h
      exact ⟨ts, rfl, more⟩

/-- A command of a row is a statement in it. -/
theorem exists_statementAt {line : Nat} {pending ls : List Lexeme} (within : ∀ l ∈ pending, l.isSeparator = false)
    {ts us : List Token} {text : String} {n : Nat}
    (h : statements line pending ls = ts ++ .command text n :: us) :
    ∃ before body after, StatementAt (pending ++ ls) before body after ∧ ts = statements line [] before ∧
      statement (line + breaks before) body = [.command text n] ∧ (after = [] → us = []) := by
  induction ls generalizing line pending ts with
  | nil =>
    rw [statements, ← List.append_nil (statement line pending)] at h
    rcases statement_append h with ⟨rfl, here, rfl⟩ | ⟨behind, -, more⟩
    · exact ⟨[], pending, [], ⟨rfl, Or.inl rfl, within, Or.inl rfl⟩, rfl, here, fun _ => rfl⟩
    · exact absurd more (by simp)
  | cons l ls ih =>
    cases parts : l.isSeparator with
    | false =>
      rw [statements_cons parts] at h
      have := ih (List.forall_mem_append.mpr ⟨within, List.forall_mem_singleton.mpr parts⟩) h
      rwa [List.append_assoc] at this
    | true =>
      obtain ⟨sep, rfl⟩ := Lexeme.exists_separator parts
      rcases statement_append h with ⟨rfl, here, -⟩ | ⟨_, rfl, rest⟩
      · exact ⟨[], pending, .separator sep :: ls, ⟨rfl, Or.inl rfl, within, Or.inr ⟨_, _, rfl⟩⟩, rfl, here, nofun⟩
      · obtain ⟨_, rfl, later⟩ := Separator.tokens_append rest
        obtain ⟨before, body, after, standing, rfl, here, last⟩ := ih (List.forall_mem_nil _) later
        refine ⟨pending ++ .separator sep :: before, body, after,
          ⟨?_, Or.inr ?_, standing.within, standing.stop⟩, ?_, ?_, last⟩
        · rw [← List.nil_append ls, standing.eq]
          simp
        · rcases standing.start with rfl | ⟨row, last, rfl⟩
          · exact ⟨pending, sep, rfl⟩
          · exact ⟨pending ++ .separator sep :: row, last, by simp⟩
        · rw [statements_append within, List.nil_append, statements]
        · have unbreaking : (Lexeme.separator sep).chars.count '\n' = 0 := by cases sep <;> rfl
          rw [breaks_append, breaks_cons, unbreaking, Nat.zero_add, ← Nat.add_assoc, here]

end CommandScript
