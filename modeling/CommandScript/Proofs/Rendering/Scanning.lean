import CommandScript.Proofs.Text.Blank
import CommandScript.Script.Token

/-! The scanner where no comment begins. Between two commands the state of the scanner is the quote that is open, the
    text of the command so far and the tokens before it. What one character does to each of them is said once, and
    from it what a stretch of text does that stays within one command. -/

namespace CommandScript
open Text

/-! ### One character -/

/-- The quote that is open after a character. -/
def quoteAfter (quote : Option Char) (c : Char) : Option Char :=
  if c = '"' ∨ c = '\'' then
    match quote with
    | none => some c
    | some q => if q = c then none else some q
  else quote

/-- A character as the text of a command has it: a line break becomes a blank. -/
def flat (c : Char) : Char :=
  if c = '\n' then ' ' else c

/-- Whether a character ends a command or is a brace of a block. -/
def separates (quote previous next : Option Char) (c : Char) : Bool :=
  quote.isNone && (c = ';' || (c = '\x7b' && previous ≠ some '<') || (c = '\x7d' && next ≠ some '>'))

/-- Whether a comment begins at a character. -/
def commentAt (quote next : Option Char) (c : Char) : Bool :=
  quote.isNone && c = '/' && (next = some '/' || next = some '*')

/-- The token of a separator, after the tokens before it, written backwards. -/
def separatorTokens (c : Char) (tokens : List Token) : List Token :=
  if c = '\x7b' then .openBrace :: tokens else if c = '\x7d' then .closeBrace :: tokens else tokens

/-- The characters of a command. -/
def Token.chars : Token → List Char
  | .command text _ => text.toList
  | .openBrace => []
  | .closeBrace => []

namespace Scan

@[simp] theorem begin_region (s : Scan) (c : Char) : (s.begin c).region = s.region := by
  unfold begin
  split <;> rfl

@[simp] theorem begin_quote (s : Scan) (c : Char) : (s.begin c).quote = s.quote := by
  unfold begin
  split <;> rfl

@[simp] theorem begin_current (s : Scan) (c : Char) : (s.begin c).current = s.current := by
  unfold begin
  split <;> rfl

@[simp] theorem begin_previous (s : Scan) (c : Char) : (s.begin c).previous = s.previous := by
  unfold begin
  split <;> rfl

@[simp] theorem begin_tokens (s : Scan) (c : Char) : (s.begin c).tokens = s.tokens := by
  unfold begin
  split <;> rfl

theorem flush_current (s : Scan) : s.flush.current = [] := rfl

/-- What ending a command adds to the tokens. -/
theorem flush_tokens (s : Scan) :
    (trimChars s.current.reverse = [] ∧ s.flush.tokens = s.tokens) ∨
      (trimChars s.current.reverse ≠ [] ∧
        s.flush.tokens = .command (String.ofList (trimChars s.current.reverse)) s.startLine :: s.tokens) := by
  unfold flush
  cases h : trimChars s.current.reverse with
  | nil => exact Or.inl ⟨rfl, rfl⟩
  | cons c rest => exact Or.inr ⟨nofun, rfl⟩

theorem step_region (s : Scan) (c : Char) (next : Option Char) : (s.step c next).region = s.region := by
  unfold step
  dsimp only
  split
  · unfold toggleQuote
    split
    · simp [push]
    · split <;> simp [push]
  · repeat' split
    all_goals simp [push, brace, flush]

theorem step_previous (s : Scan) (c : Char) (next : Option Char) : (s.step c next).previous = some c := rfl

theorem step_quote (s : Scan) (c : Char) (next : Option Char) : (s.step c next).quote = quoteAfter s.quote c := by
  unfold step quoteAfter
  dsimp only
  split
  · unfold toggleQuote
    rw [begin_quote]
    cases hq : s.quote with
    | none => simp [push]
    | some q =>
      dsimp only
      split <;> simp [push, hq]
  · repeat' split
    all_goals simp [push, brace, flush]

/-- A character that does not end the command is added to it. -/
theorem step_within {s : Scan} {c : Char} {next : Option Char} (h : separates s.quote s.previous next c = false) :
    (s.step c next).tokens = s.tokens ∧ (s.step c next).current = flat c :: s.current := by
  unfold step
  dsimp only
  split
  · rename_i hc
    have same : flat c = c := by rcases hc with rfl | rfl <;> rfl
    rw [same]
    unfold toggleQuote
    split
    · simp [push]
    · split <;> simp [push]
  · cases hq : s.quote <;> repeat' split
    all_goals simp_all [push, separates, flat]

/-- A character that ends the command ends it, and a brace becomes a token. -/
theorem step_separates {s : Scan} {c : Char} {next : Option Char} (h : separates s.quote s.previous next c = true) :
    (s.step c next).tokens = separatorTokens c (s.begin c).flush.tokens ∧ (s.step c next).current = [] := by
  obtain ⟨hq, hc⟩ := Bool.and_eq_true_iff.mp h
  have free : s.quote = none := Option.isNone_iff_eq_none.mp hq
  simp only [Bool.or_eq_true, decide_eq_true_eq, Bool.and_eq_true] at hc
  rcases hc with (rfl | ⟨rfl, hp⟩) | ⟨rfl, hn⟩
  · simp [step, separatorTokens, free, flush_current]
  · have : ¬s.previous = some '<' := by simpa using hp
    simp [step, separatorTokens, free, this, brace, flush_current]
  · have : ¬next = some '>' := by simpa using hn
    simp [step, separatorTokens, free, this, brace, flush_current]

end Scan

/-! ### Stretches of text -/

/-- Whether no comment begins in characters with `next` behind them. -/
def uncommented (quote next : Option Char) : List Char → Bool
  | [] => true
  | c :: rest => !commentAt quote (rest.head?.or next) c && uncommented (quoteAfter quote c) next rest

/-- Whether no character ends the command in characters with `previous` before and `next` behind them. -/
def unbroken (quote previous next : Option Char) : List Char → Bool
  | [] => true
  | c :: rest =>
    !separates quote previous (rest.head?.or next) c && unbroken (quoteAfter quote c) (some c) next rest

theorem head?_append_or (a b : List Char) (next : Option Char) :
    (a ++ b).head?.or next = a.head?.or (b.head?.or next) := by
  rw [List.head?_append, Option.or_assoc]

theorem uncommented_append (quote next : Option Char) (a b : List Char) :
    uncommented quote next (a ++ b) =
      (uncommented quote (b.head?.or next) a && uncommented (a.foldl quoteAfter quote) next b) := by
  induction a generalizing quote with
  | nil => rfl
  | cons c a ih =>
    rw [List.cons_append, uncommented, uncommented, head?_append_or, ih, List.foldl_cons, Bool.and_assoc]

theorem unbroken_append (quote previous next : Option Char) (a b : List Char) :
    unbroken quote previous next (a ++ b) = (unbroken quote previous (b.head?.or next) a &&
      unbroken (a.foldl quoteAfter quote) (a.getLast?.or previous) next b) := by
  induction a generalizing quote previous with
  | nil => rfl
  | cons c a ih =>
    have last : (c :: a).getLast?.or previous = a.getLast?.or (some c) := by
      rw [List.getLast?_cons]
      cases a.getLast? <;> rfl
    rw [List.cons_append, unbroken, unbroken, head?_append_or, ih, last, List.foldl_cons, Bool.and_assoc]

theorem foldl_quoteAfter {quote : Option Char} {cs : List Char} (h : ∀ c ∈ cs, quoteAfter quote c = quote) :
    cs.foldl quoteAfter quote = quote := by
  induction cs with
  | nil => rfl
  | cons c cs ih =>
    obtain ⟨here, later⟩ := List.forall_mem_cons.mp h
    rw [List.foldl_cons, here, ih later]

/-- A mark of the other kind changes nothing between quotes. -/
theorem quoteAfter_other {q c : Char} (h : q ≠ c) : quoteAfter (some q) c = some q := by
  simp [quoteAfter, h]

section
variable {q : Char} {cs : List Char} (h : q ∉ cs)
include h

theorem foldl_quoteAfter_within : cs.foldl quoteAfter (some q) = some q :=
  foldl_quoteAfter fun _ hc => quoteAfter_other fun same => h (same ▸ hc)

/-- Between quotes no comment begins and no command ends. -/
theorem uncommented_within (next : Option Char) : uncommented (some q) next cs = true := by
  induction cs with
  | nil => rfl
  | cons c cs ih =>
    simp only [List.mem_cons, not_or] at h
    rw [uncommented, quoteAfter_other h.1, ih h.2]
    rfl

theorem unbroken_within (previous next : Option Char) : unbroken (some q) previous next cs = true := by
  induction cs generalizing previous with
  | nil => rfl
  | cons c cs ih =>
    simp only [List.mem_cons, not_or] at h
    rw [unbroken, quoteAfter_other h.1, ih h.2]
    rfl

end

/-- Of what stands around a text, only angle brackets matter to separators. -/
theorem unbroken_congr {quote previous previous' next next' : Option Char}
    (hp : previous = some '<' ↔ previous' = some '<') (hn : next = some '>' ↔ next' = some '>') (cs : List Char) :
    unbroken quote previous next cs = unbroken quote previous' next' cs := by
  have seen : ∀ {x y : Option Char} {d : Char}, (x = some d ↔ y = some d) →
      decide (x ≠ some d) = decide (y ≠ some d) := fun h => decide_eq_decide.mpr (not_congr h)
  induction cs generalizing quote previous previous' with
  | nil => rfl
  | cons c rest ih =>
    have behind : (rest.head?.or next = some '>') ↔ (rest.head?.or next' = some '>') := by
      cases rest.head? with
      | none => exact hn
      | some d => exact Iff.rfl
    rw [unbroken, unbroken, separates, separates, seen hp, seen behind, ih Iff.rfl]

/-- Of what stands behind a text, only what makes a comment of a slash matters to comments. -/
theorem uncommented_congr {quote next next' : Option Char}
    (hn : (next = some '/' ∨ next = some '*') ↔ (next' = some '/' ∨ next' = some '*')) (cs : List Char) :
    uncommented quote next cs = uncommented quote next' cs := by
  induction cs generalizing quote with
  | nil => rfl
  | cons c rest ih =>
    have behind : (rest.head?.or next = some '/' ∨ rest.head?.or next = some '*') ↔
        (rest.head?.or next' = some '/' ∨ rest.head?.or next' = some '*') := by
      cases rest.head? with
      | none => exact hn
      | some d => exact Iff.rfl
    rw [uncommented, uncommented, commentAt, commentAt, ih, ← Bool.decide_or, ← Bool.decide_or,
      decide_eq_decide.mpr behind]

namespace Scan

/-- Reads characters where no comment begins, with `next` behind them. -/
def steps (s : Scan) (next : Option Char) : List Char → Scan
  | [] => s
  | c :: rest => (s.step c (rest.head?.or next)).steps next rest

theorem steps_append (s : Scan) (next : Option Char) (a b : List Char) :
    s.steps next (a ++ b) = (s.steps (b.head?.or next) a).steps next b := by
  induction a generalizing s with
  | nil => rfl
  | cons c a ih => rw [List.cons_append, steps, steps, head?_append_or, ih]

theorem steps_region (s : Scan) (next : Option Char) (cs : List Char) : (s.steps next cs).region = s.region := by
  induction cs generalizing s with
  | nil => rfl
  | cons c rest ih => rw [steps, ih, step_region]

theorem steps_quote (s : Scan) (next : Option Char) (cs : List Char) :
    (s.steps next cs).quote = cs.foldl quoteAfter s.quote := by
  induction cs generalizing s with
  | nil => rfl
  | cons c rest ih => rw [steps, ih, step_quote, List.foldl_cons]

theorem steps_previous (s : Scan) (next : Option Char) (cs : List Char) :
    (s.steps next cs).previous = cs.getLast?.or s.previous := by
  induction cs generalizing s with
  | nil => rfl
  | cons c rest ih =>
    rw [steps, ih, step_previous, List.getLast?_cons]
    cases rest.getLast? <;> rfl

/-- A stretch without separators is added to the command. -/
theorem steps_unbroken {s : Scan} {next : Option Char} {cs : List Char}
    (h : unbroken s.quote s.previous next cs = true) :
    (s.steps next cs).tokens = s.tokens ∧ (s.steps next cs).current = (cs.map flat).reverse ++ s.current := by
  induction cs generalizing s with
  | nil => exact ⟨rfl, rfl⟩
  | cons c rest ih =>
    obtain ⟨hc, hr⟩ := Bool.and_eq_true_iff.mp h
    obtain ⟨tokens, current⟩ := step_within (Bool.not_eq_true' _ ▸ hc)
    rw [← step_quote s c (rest.head?.or next), ← step_previous s c (rest.head?.or next)] at hr
    obtain ⟨more_tokens, more_current⟩ := ih hr
    refine ⟨more_tokens.trans tokens, ?_⟩
    rw [steps, more_current, current, List.map_cons, List.reverse_cons, List.append_assoc]
    rfl

theorem uncommented_rest {s : Scan} {c : Char} {rest : List Char} (next : Option Char)
    (h : uncommented s.quote none (c :: rest) = true) : uncommented (s.step c next).quote none rest = true := by
  rw [step_quote]
  exact (Bool.and_eq_true_iff.mp h).2

/-- Where no comment begins, the scanner reads character by character. -/
theorem run_eq_steps {s : Scan} {cs : List Char} (hs : s.region = .code) (h : uncommented s.quote none cs = true) :
    s.run cs = (s.steps none cs).flush := by
  have next : ∀ rest : List Char, rest.head?.or none = rest.head? := fun rest => Option.or_none
  fun_induction run s cs with
  | case1 => rfl
  | case2 s rest hr | case3 s c rest hr | case4 s hr | case5 s hr => cases hs.symm.trans hr
  | case6 s hr rest hq | case8 s hr rest hq => simp [uncommented, commentAt, hq] at h
  | case7 s hr rest hq ih | case9 s hr rest hq ih =>
    rw [ih (by rw [step_region, step_region, hs]) (uncommented_rest _ (uncommented_rest _ h)), steps,
      steps, next, next]
    rfl
  | case10 s hr c rest _ _ ih =>
    rw [ih (by rw [step_region, hs]) (uncommented_rest _ h), steps, next]

/-! ### Line breaks -/

/-- The characters of the commands so far, in no order. -/
def held (s : Scan) : List Char :=
  s.current ++ s.tokens.flatMap Token.chars

theorem chars_separatorTokens (c : Char) (tokens : List Token) :
    (separatorTokens c tokens).flatMap Token.chars = tokens.flatMap Token.chars := by
  unfold separatorTokens
  split
  · rfl
  · split <;> rfl

theorem held_flush_subset (s : Scan) : s.flush.held ⊆ s.held := by
  intro c hc
  rw [held, flush_current, List.nil_append] at hc
  rw [held, List.mem_append]
  rcases s.flush_tokens with ⟨-, same⟩ | ⟨-, more⟩
  · rw [same] at hc
    exact Or.inr hc
  · rw [more, List.flatMap_cons, Token.chars, String.toList_ofList, List.mem_append] at hc
    refine hc.imp (fun hc => ?_) id
    obtain ⟨left, right, -, -, whole⟩ := exists_blanks s.current.reverse
    rw [← List.mem_reverse, whole]
    exact List.mem_append_right _ (List.mem_append_left _ hc)

theorem held_step_subset (s : Scan) (c : Char) (next : Option Char) : (s.step c next).held ⊆ flat c :: s.held := by
  cases hc : separates s.quote s.previous next c with
  | true =>
    obtain ⟨tokens, current⟩ := step_separates hc
    have flushed := held_flush_subset (s.begin c)
    rw [held, flush_current, List.nil_append, held, begin_current, begin_tokens] at flushed
    rw [held, current, tokens, chars_separatorTokens, List.nil_append]
    exact List.subset_cons_of_subset _ flushed
  | false =>
    obtain ⟨tokens, current⟩ := step_within hc
    rw [held, current, tokens, List.cons_append]
    exact List.Subset.refl _

theorem lineBreak_step {s : Scan} (h : '\n' ∉ s.held) (c : Char) (next : Option Char) :
    '\n' ∉ (s.step c next).held := by
  intro hc
  rcases List.mem_cons.mp (held_step_subset s c next hc) with broken | hc
  · unfold flat at broken
    split at broken
    · cases broken
    · rename_i other
      exact other broken.symm
  · exact h hc

/-- The scanner puts no line break into a command. -/
theorem lineBreak_run {s : Scan} (h : '\n' ∉ s.held) (cs : List Char) : '\n' ∉ (s.run cs).held := by
  fun_induction run s cs with
  | case1 s => exact fun hc => h (held_flush_subset s hc)
  | case2 s rest _ ih => exact ih (lineBreak_step (s := { s with region := .code }) h '\n' rest.head?)
  | case3 s _ rest _ _ ih | case4 s _ rest ih | case6 s _ rest _ ih | case8 s _ rest _ ih => exact ih h
  | case5 s _ c rest _ ih => exact ih (by split <;> exact h)
  | case7 s _ rest _ ih | case9 s _ rest _ ih => exact ih (lineBreak_step (lineBreak_step h _ _) _ _)
  | case10 s _ c rest _ _ ih => exact ih (lineBreak_step h _ _)

end Scan

theorem lineBreak_tokens {source text : String} {line : Nat} (h : .command text line ∈ tokens source) :
    '\n' ∉ text.toList := by
  have none_held := Scan.lineBreak_run (s := {}) List.not_mem_nil source.toList
  intro hc
  refine none_held (List.mem_append_right _ (List.mem_flatMap.mpr ⟨_, List.mem_reverse.mp h, hc⟩))

end CommandScript
