import CommandScript.Proofs.Rendering.Scanning

/-! The lines of commands. The line that a command is said to begin in is the line of the source text in which its
    first character stands, whatever comments and quotes come before it. -/

namespace CommandScript
open Text

/-- A character stands in line `line` of a source. -/
def StandsIn (source : List Char) (c : Char) (line : Nat) : Prop :=
  ∃ before after, source = before ++ c :: after ∧ line = before.count '\n' + 1

/-- The first character of `text` stands in line `line` of a source. -/
def BeginsIn (source text : List Char) (line : Nat) : Prop :=
  ∃ c, text.head? = some c ∧ StandsIn source c line

theorem StandsIn.append {source : List Char} {c : Char} {line : Nat} (h : StandsIn source c line)
    (more : List Char) : StandsIn (source ++ more) c line := by
  obtain ⟨before, after, rfl, lines⟩ := h
  exact ⟨before, after ++ more, by simp, lines⟩

theorem BeginsIn.append {source text : List Char} {line : Nat} (h : BeginsIn source text line) (more : List Char) :
    BeginsIn (source ++ more) text line := by
  obtain ⟨c, first, stands⟩ := h
  exact ⟨c, first, stands.append more⟩

namespace Scan

/-- The first character of the command so far. -/
def first? (s : Scan) : Option Char :=
  s.current.reverse.find? fun c => !isBlank c

/-- The state of the scanner after the characters `read`. -/
structure After (read : List Char) (s : Scan) : Prop where
  line : s.line = read.count '\n' + 1
  /-- The line that is noted is that of the first character of the command. -/
  begun : ∀ c, s.first? = some c → StandsIn read c s.startLine
  /-- A quote that is open belongs to the command. -/
  quoted : s.quote ≠ none → s.first? ≠ none
  tokens : ∀ text line, Token.command text line ∈ s.tokens → BeginsIn read text.toList line

theorem after_start : After [] {} where
  line := rfl
  begun _ h := by cases h
  quoted h := absurd rfl h
  tokens _ _ h := absurd h List.not_mem_nil

/-! ### One character -/

@[simp] theorem begin_line (s : Scan) (c : Char) : (s.begin c).line = s.line := by
  unfold begin
  split <;> rfl

theorem first?_eq_none {s : Scan} : s.first? = none ↔ s.current.all isBlank = true := by
  simp [first?]

theorem step_line (s : Scan) (c : Char) (next : Option Char) : (s.step c next).line = [c].count '\n' + s.line := by
  unfold step toggleQuote
  dsimp only
  by_cases hc : c = '\n'
  · subst hc
    simp [push, Nat.add_comm]
  · have count : [c].count '\n' = 0 := by simp [hc]
    rw [count, Nat.zero_add]
    repeat' split
    all_goals first | contradiction | simp [push, brace, Scan.flush]

theorem step_startLine (s : Scan) (c : Char) (next : Option Char) :
    (s.step c next).startLine = (s.begin c).startLine := by
  unfold step toggleQuote
  dsimp only
  repeat' split
  all_goals rfl

theorem mem_of_separatorTokens {text : String} {line : Nat} {c : Char} {tokens : List Token}
    (h : Token.command text line ∈ separatorTokens c tokens) : Token.command text line ∈ tokens := by
  unfold separatorTokens at h
  split at h
  · simpa using h
  · split at h
    · simpa using h
    · exact h

namespace After

variable {read : List Char} {s : Scan} (h : After read s)
include h

/-- Characters of a comment change the line at hand only. -/
theorem skip (cs : List Char) {s' : Scan} (line : s'.line = s.line + cs.count '\n') (current : s'.current = s.current)
    (startLine : s'.startLine = s.startLine) (quote : s'.quote = s.quote) (tokens : s'.tokens = s.tokens) :
    After (read ++ cs) s' where
  line := by
    rw [line, h.line, List.count_append]
    omega
  begun d hd := by
    rw [startLine]
    exact (h.begun d (by rwa [first?, current] at hd)).append cs
  quoted hq := by
    rw [first?, current]
    exact h.quoted (quote ▸ hq)
  tokens text line hm := (h.tokens text line (tokens ▸ hm)).append cs

/-- The line that is noted changes with a character only if none of the command has been read. -/
theorem begin (c : Char) : After read (s.begin c) where
  line := by rw [begin_line, h.line]
  begun d hd := by
    rw [first?, begin_current] at hd
    have blank : ¬s.current.all isBlank = true := fun h0 => by
      rw [← first?, first?_eq_none.mpr h0] at hd
      cases hd
    have noted : (s.begin c).startLine = s.startLine := by
      unfold Scan.begin
      rw [if_neg (by simp [blank])]
    rw [noted]
    exact h.begun d hd
  quoted hq := by
    rw [first?, begin_current]
    exact h.quoted (begin_quote s c ▸ hq)
  tokens text line hm := h.tokens text line (begin_tokens s c ▸ hm)

theorem flush_tokens : ∀ text line, Token.command text line ∈ s.flush.tokens → BeginsIn read text.toList line := by
  intro text line hm
  rcases Scan.flush_tokens s with ⟨-, same⟩ | ⟨some, more⟩
  · rw [same] at hm
    exact h.tokens text line hm
  · rw [more] at hm
    rcases List.mem_cons.mp hm with here | hm
    · cases here
      obtain ⟨c, rest, begins⟩ := List.exists_cons_of_ne_nil some
      have first : (trimChars s.current.reverse).head? = Option.some c := by rw [begins]; rfl
      rw [String.toList_ofList]
      exact ⟨c, first, h.begun c (by rw [first?, ← head?_trimChars, first])⟩
    · exact h.tokens text line hm

/-- The line that is noted before a character is read is that of the first character after it. -/
theorem begun_push {c d : Char} (hd : (s.first?.or ([flat c].find? fun c => !isBlank c)) = some d) :
    StandsIn (read ++ [c]) d (s.begin c).startLine := by
  cases first : s.first? with
  | some b =>
    rw [first, Option.some_or] at hd
    exact ((h.begin c).begun d (by rw [first?, begin_current]; exact first.trans hd)).append [c]
  | none =>
    -- The first character of a command is never inside quotes.
    have free : s.quote = none := Decidable.byContradiction fun hq => h.quoted hq first
    rw [first, Option.none_or] at hd
    have blank := first?_eq_none.mp first
    have solid : isBlank (flat c) = false ∧ flat c = d := by simpa [List.find?_singleton] using hd
    have same : flat c = c := by
      unfold flat at solid ⊢
      split
      · rename_i hc
        rw [if_pos hc] at solid
        exact absurd solid.1 (by decide)
      · rfl
    rw [same] at solid
    obtain ⟨solid, rfl⟩ := solid
    have noted : (s.begin c).startLine = s.line := by
      unfold Scan.begin
      rw [if_pos (by simp [free, solid, blank])]
    rw [noted, h.line]
    exact ⟨read, [], rfl, rfl⟩

theorem step (c : Char) (next : Option Char) : After (read ++ [c]) (s.step c next) := by
  have line : (s.step c next).line = (read ++ [c]).count '\n' + 1 := by
    rw [step_line, h.line, List.count_append]
    omega
  cases ends : separates s.quote s.previous next c with
  | true =>
    obtain ⟨tokens, current⟩ := step_separates ends
    have free : (s.step c next).quote = none := by
      obtain ⟨free, -⟩ := Bool.and_eq_true_iff.mp ends
      rw [step_quote, Option.isNone_iff_eq_none.mp free]
      unfold quoteAfter
      rw [if_neg]
      rintro (rfl | rfl) <;> simp [separates] at ends
    refine ⟨line, fun d hd => ?_, fun hq => absurd free hq, fun text line hm => ?_⟩
    · rw [first?, current] at hd
      cases hd
    · rw [tokens] at hm
      exact ((h.begin c).flush_tokens text line (mem_of_separatorTokens hm)).append [c]
  | false =>
    obtain ⟨tokens, current⟩ := step_within ends
    have first : (s.step c next).first? = s.first?.or ([flat c].find? fun c => !isBlank c) := by
      rw [first?, current, List.reverse_cons, List.find?_append]
      rfl
    refine ⟨line, fun d hd => ?_, fun hq => ?_, fun text line hm => ?_⟩
    · rw [step_startLine]
      exact h.begun_push (first ▸ hd)
    · -- A quote that is open was open before, or is the character itself.
      rw [first]
      cases hs : s.first? with
      | some b => simp
      | none =>
        have free : s.quote = none := Decidable.byContradiction fun hq => h.quoted hq hs
        rw [step_quote, free] at hq
        unfold quoteAfter at hq
        split at hq
        · rename_i hc
          rcases hc with rfl | rfl <;> decide
        · exact absurd rfl hq
    · rw [tokens] at hm
      exact (h.tokens text line hm).append [c]

/-- What is known of the commands holds of all commands when the rest is read. -/
theorem run (cs : List Char) :
    ∀ text line, Token.command text line ∈ (s.run cs).tokens → BeginsIn (read ++ cs) text.toList line := by
  fun_induction Scan.run s cs generalizing read with
  | case1 s =>
    rw [List.append_nil]
    exact h.flush_tokens
  | case2 s rest region ih =>
    have more := ih (After.step (s := { s with region := .code }) ⟨h.line, h.begun, h.quoted, h.tokens⟩
      '\n' rest.head?)
    simpa using more
  | case3 s c rest region hc ih =>
    have more := ih (h.skip [c] (by simp [hc]) rfl rfl rfl rfl)
    simpa using more
  | case4 s region rest ih =>
    have more := ih (h.skip ['*', '/'] rfl rfl rfl rfl rfl)
    simpa using more
  | case5 s region c rest notEnd ih =>
    have more := ih (h.skip [c] (by split <;> simp [*]) (by split <;> rfl) (by split <;> rfl)
      (by split <;> rfl) (by split <;> rfl))
    simpa using more
  | case6 s region rest free ih =>
    have more := ih (h.skip ['/', '/'] rfl rfl rfl rfl rfl)
    simpa using more
  | case8 s region rest free ih =>
    have more := ih (h.skip ['/', '*'] rfl rfl rfl rfl rfl)
    simpa using more
  -- Between quotes the two characters are read one after the other.
  | case7 s region rest quoted ih =>
    have more := ih ((h.step '/' (some '/')).step '/' rest.head?)
    simpa using more
  | case9 s region rest quoted ih =>
    have more := ih ((h.step '/' (some '*')).step '*' rest.head?)
    simpa using more
  | case10 s region c rest _ _ ih =>
    have more := ih (h.step c rest.head?)
    simpa using more

end After

end Scan

/-- A command among the tokens of a source text begins in the line that its token names. -/
theorem beginsIn_of_mem_tokens {source text : String} {line : Nat} (h : Token.command text line ∈ tokens source) :
    BeginsIn source.toList text.toList line := by
  have begins := Scan.after_start.run source.toList text line (List.mem_reverse.mp h)
  rwa [List.nil_append] at begins

end CommandScript
