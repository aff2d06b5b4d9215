import CommandScript.Proofs.Lexing.Statements

/-! Where statements stand in the source. The line of a command is that of its first character, counted over everything
    before it, and behind a semicolon the rest of a source is cut as if it stood alone, but for the lines. -/

namespace CommandScript
open Text

/-! ### The line of a command -/

theorem exists_first_of_statement {line : Nat} {body : List Lexeme} (within : ∀ l ∈ body, l.isSeparator = false)
    {text : String} {n : Nat} (h : statement line body = [.command text n]) :
    ∃ gap first rest c, body = gap ++ first :: rest ∧ (∀ l ∈ gap, l.isGap = true) ∧ first.isGap = false ∧
      first.chars.head? = some c ∧ isBlank c = false ∧ text.toList.head? = some c ∧ n = line + breaks gap := by
  unfold statement commandTokens at h
  split at h
  · cases h
  rename_i some
  have same := List.cons.inj h
  obtain ⟨rfl, rfl⟩ := Token.command.inj same.1
  -- The text of the command is not blank, so not every lexeme is a gap.
  cases gaps : body.find? (fun l => !l.isGap) with
  | none =>
    have all : body.all Lexeme.isGap = true := by simpa using gaps
    rw [← all_isBlank_textOf within, List.all_eq_true] at all
    rw [trimChars_eq_nil.mpr all] at some
    exact absurd rfl some
  | some first =>
    obtain ⟨solid, gap, rest, rfl, before⟩ := List.find?_eq_some_iff_append.mp gaps
    have notGap : first.isGap = false := by simpa using solid
    have gap_all : ∀ l ∈ gap, l.isGap = true := fun l hl => by simpa using before l hl
    obtain ⟨c, cs, hchars, hc, htext⟩ := Lexeme.exists_solid notGap (within first (by simp))
    refine ⟨gap, first, rest, c, rfl, gap_all, notGap, by rw [hchars]; rfl, hc, ?_, ?_⟩
    · have blank : ∀ d ∈ textOf gap, isBlank d = true := by
        rw [← List.all_eq_true, all_isBlank_textOf fun l hl => within l (by simp [hl]), List.all_eq_true]
        exact gap_all
      have cut : textOf (gap ++ first :: rest) = textOf gap ++ c :: (cs.map flat ++ textOf rest) := by
        simp [textOf, htext]
      rw [String.toList_ofList, cut, trimChars_blank_append blank, head?_trimChars]
      simp [hc]
    · rw [List.takeWhile_append_of_pos gap_all, List.takeWhile_cons_of_neg (by simp [notGap]), List.append_nil]

theorem StatementAt.reading {ls before body after : List Lexeme} (at_ : StatementAt ls before body after)
    (h : Reading ls) : Reading before := by
  obtain rfl := at_.eq
  rcases at_.start with rfl | ⟨row, sep, rfl⟩
  · exact .nil
  · rw [List.append_assoc] at h
    exact h.left

/-- The line of a command is that of its first character: one more than the line breaks before it. -/
theorem command_line_eq {source : String} {ts us : List Token} {text : String} {n : Nat}
    (h : tokens source = ts ++ .command text n :: us) :
    (∃ ls, Reading ls ∧ sourceOf ls = source.toList) ∧ ∀ ls, Reading ls → sourceOf ls = source.toList →
      ∃ before gap first rest c, ls = before ++ (gap ++ first :: rest) ∧
        (before = [] ∨ ∃ row sep, before = row ++ [.separator sep]) ∧ ts = tokens (String.ofList (sourceOf before)) ∧
        (∀ l ∈ gap, l.isGap = true) ∧ first.isGap = false ∧ first.isSeparator = false ∧
        first.chars.head? = some c ∧ isBlank c = false ∧ text.toList.head? = some c ∧
        n = 1 + (sourceOf (before ++ gap)).count '\n' := by
  refine ⟨exists_reading source.toList, fun ls reading same => ?_⟩
  rw [tokens_eq_statements reading same] at h
  obtain ⟨before, body, after, at_, rfl, here, -⟩ := exists_statementAt (List.forall_mem_nil _) h
  obtain ⟨gap, first, rest, c, rfl, gap_all, notGap, head, hc, text_head, rfl⟩ :=
    exists_first_of_statement at_.within here
  rw [List.nil_append] at at_
  refine ⟨before, gap, first, rest ++ after, c, ?_, at_.start, ?_, gap_all, notGap, at_.within first (by simp), head,
    hc, text_head, ?_⟩
  · rw [at_.eq, List.append_assoc, List.cons_append]
  · rw [tokens_eq_statements (at_.reading reading) (by rw [String.toList_ofList])]
  · rw [Nat.add_assoc, ← breaks_append]
    rfl

theorem command_line_eq_commented :
    tokens "if <\x7bx\x7d> \x7b // first\n/* second\nthird */ echo 'a\nb' \x7d" =
        [.command "if <\x7bx\x7d>" 1, .openBrace] ++ .command "echo 'a b'" 3 :: [.closeBrace] ∧
      ∃ before gap : List Lexeme,
        [.command "if <\x7bx\x7d>" 1, .openBrace] = tokens (String.ofList (sourceOf before)) ∧
        (∀ l ∈ gap, l.isGap = true) ∧ 3 = 1 + (sourceOf (before ++ gap)).count '\n' := by
  have cut : tokens "if <\x7bx\x7d> \x7b // first\n/* second\nthird */ echo 'a\nb' \x7d" =
      [.command "if <\x7bx\x7d>" 1, .openBrace] ++ .command "echo 'a b'" 3 :: [.closeBrace] := by decide
  obtain ⟨⟨ls, reading, same⟩, all⟩ := command_line_eq cut
  obtain ⟨before, gap, _, _, _, -, -, first, gaps, -, -, -, -, -, line⟩ := all ls reading same
  exact ⟨cut, before, gap, first, gaps, line⟩

/-! ### Behind a semicolon -/

/-- The token, further down in a source. -/
def Token.below (k : Nat) : Token → Token
  | command text line => command text (line + k)
  | openBrace => openBrace
  | closeBrace => closeBrace

theorem statement_below (line k : Nat) (ls : List Lexeme) :
    statement (line + k) ls = (statement line ls).map (Token.below k) := by
  unfold statement commandTokens
  split
  · rfl
  · rw [List.map_singleton, Token.below, Nat.add_right_comm]

theorem Separator.tokens_below (sep : Separator) (k : Nat) : sep.tokens.map (Token.below k) = sep.tokens := by
  cases sep <;> rfl

theorem statements_below (line k : Nat) (pending ls : List Lexeme) :
    statements (line + k) pending ls = (statements line pending ls).map (Token.below k) := by
  induction ls generalizing line pending with
  | nil => exact statement_below line k pending
  | cons l ls ih =>
    cases parts : l.isSeparator with
    | false => rw [statements_cons parts, statements_cons parts, ih]
    | true =>
      obtain ⟨sep, rfl⟩ := Lexeme.exists_separator parts
      rw [statements, statements, statement_below, Nat.add_right_comm, ih, List.map_append, List.map_append,
        Separator.tokens_below]

namespace Scan
variable {s : Scan}

/-- A semicolon behind a text is nothing that the text could have begun. -/
theorem step_semicolon (s : Scan) (c : Char) (rest b : List Char) :
    s.step c (rest ++ ';' :: b).head? = s.step c rest.head? := by
  cases rest with
  | nil => simp [step]
  | cons d rest => rfl

/-- Where no quote and no comment is open at the end, a semicolon behind the text is read as one. -/
theorem exists_run_semicolon {cs : List Char} (region : (s.run cs).region = .code) (quote : (s.run cs).quote = none) :
    ∃ t : Scan, s.run cs = t.flush ∧ ∀ b, s.run (cs ++ ';' :: b) = (t.step ';' b.head?).run b := by
  fun_induction run s cs with
  | case1 s => exact ⟨s, rfl, fun b => run_cons (s := s) region (by simp [commentAt])⟩
  | case2 s rest here ih =>
    obtain ⟨t, same, more⟩ := ih region quote
    refine ⟨t, same, fun b => ?_⟩
    rw [← more b, List.cons_append, run_lineComment_close here, step_semicolon]
  | case3 s c rest here hc ih =>
    obtain ⟨t, same, more⟩ := ih region quote
    refine ⟨t, same, fun b => ?_⟩
    rw [← more b, List.cons_append, run_lineComment_cons here hc]
  | case4 s here rest ih =>
    obtain ⟨t, same, more⟩ := ih region quote
    exact ⟨t, same, fun b => by rw [← more b, List.cons_append, List.cons_append, run_blockComment_close here]⟩
  | case5 s here c rest notEnd ih =>
    obtain ⟨t, same, more⟩ := ih region quote
    refine ⟨t, same, fun b => ?_⟩
    have notEnd : ¬(c = '*' ∧ (rest ++ ';' :: b).head? = some '/') := by
      rintro ⟨rfl, slash⟩
      cases rest with
      | nil => cases slash
      | cons d rest => exact notEnd rest rfl (by rw [Option.some.inj slash])
    have counted : { s with line := s.line + [c].count '\n' } =
        if c = '\n' then { s with line := s.line + 1 } else s := by
      split
      · rename_i hc
        rw [hc]
        rfl
      · rename_i hc
        simp [hc]
    rw [← more b, List.cons_append, run_blockComment_cons here notEnd, counted]
  | case6 s here rest none ih =>
    obtain ⟨t, same, more⟩ := ih region quote
    refine ⟨t, same, fun b => ?_⟩
    rw [← more b, List.cons_append, List.cons_append, run_lineComment_open here (by simpa using none)]
  | case8 s here rest none ih =>
    obtain ⟨t, same, more⟩ := ih region quote
    refine ⟨t, same, fun b => ?_⟩
    rw [← more b, List.cons_append, List.cons_append, run_blockComment_open here (by simpa using none)]
  | case7 s here rest quoted ih | case9 s here rest quoted ih =>
    obtain ⟨t, same, more⟩ := ih region quote
    refine ⟨t, same, fun b => ?_⟩
    have inside := Bool.not_eq_true _ ▸ quoted
    rw [← more b, List.cons_append, List.cons_append, run_cons here (commentAt_quoted inside _ _), run_cons, 
      step_semicolon]
    · rfl
    · rw [step_region, here]
    · exact commentAt_quoted (by rw [step_quote]; exact inside) _ _
  | case10 s here c rest notLine notBlock ih =>
    obtain ⟨t, same, more⟩ := ih region quote
    refine ⟨t, same, fun b => ?_⟩
    rw [← more b, List.cons_append, run_cons here, step_semicolon]
    cases rest with
    | nil => simp [commentAt]
    | cons d rest =>
      have noLine : c = '/' → d ≠ '/' := fun hc hd => notLine rest hc (by rw [hd])
      have noBlock : c = '/' → d ≠ '*' := fun hc hd => notBlock rest hc (by rw [hd])
      simpa [commentAt] using fun _ hc => ⟨noLine hc, noBlock hc⟩

/-- The scanner counts every line break. -/
theorem run_line (s : Scan) (cs : List Char) : (s.run cs).line = s.line + cs.count '\n' := by
  fun_induction run s cs with
  | case1 s => rfl
  | case2 s rest here ih => rw [ih, step_line, count_cons_eq _ rest, Nat.add_comm _ (Scan.line _), Nat.add_assoc]
  | case3 s c rest here hc ih => simp [ih, hc]
  | case4 s here rest ih => simp [ih]
  | case5 s here c rest _ ih =>
    rw [ih, count_cons_eq c rest, ← Nat.add_assoc]
    split
    · rename_i hc
      rw [hc]
      rfl
    · rename_i hc
      simp [hc]
  | case6 s here rest none ih | case8 s here rest none ih => simp [ih]
  | case7 s here rest quoted ih | case9 s here rest quoted ih => simp [ih, step_line]
  | case10 s here c rest _ _ ih => rw [ih, step_line, count_cons_eq c rest, Nat.add_comm _ s.line, Nat.add_assoc]

/-- Behind a semicolon that is read as one nothing is pending, and no quote and no comment is open. -/
theorem exists_behind_semicolon {cs : List Char} (region : (s.run cs).region = .code)
    (quote : (s.run cs).quote = none) :
    ∃ u : Scan, (∀ b, u.Behind (s.line + cs.count '\n') [] b) ∧ ∀ b, s.run (cs ++ ';' :: b) = u.run b := by
  obtain ⟨t, same, more⟩ := exists_run_semicolon region quote
  have line := run_line s cs
  rw [same] at region quote line
  have free : t.quote = none := quote
  have parts : separates t.quote t.previous none ';' = true := by simp [separates, free]
  obtain ⟨-, current⟩ := step_separates parts
  refine ⟨t.step ';' none, fun b => ⟨.start _ current ?_, ?_, ?_, fun h => by cases h⟩, more⟩
  · rw [step_line, ← line]
    exact Nat.zero_add _
  · rw [step_region]
    exact region
  · rw [step_quote, free]
    rfl

end Scan

/-- Behind a semicolon that stands outside quotes and comments a source is cut as if it stood alone, further down. -/
theorem tokens_append_semicolon {a front b : String} (ends : a = front ++ ";")
    (region : (Scan.run {} front.toList).region = .code) (quote : (Scan.run {} front.toList).quote = none) :
    tokens (a ++ b) = tokens a ++ (tokens b).map (Token.below (a.toList.count '\n')) := by
  obtain ⟨u, behind, more⟩ := Scan.exists_behind_semicolon region quote
  have chars : a.toList = front.toList ++ [';'] := by rw [ends, String.toList_append]; rfl
  have lines : 1 + front.toList.count '\n' = 1 + a.toList.count '\n' := by rw [chars]; simp
  obtain ⟨ms, reading, source⟩ := exists_reading b.toList
  have alone : (u.run []).tokens = u.tokens := (behind []).run_reading .nil
  have first : tokens a = u.tokens.reverse := by rw [tokens, chars, more, alone]
  have rest := (behind (sourceOf ms)).run_reading reading
  rw [lines, statements_below, ← tokens_eq_statements reading source, source] at rest
  calc tokens (a ++ b)
      = (u.run b.toList).tokens.reverse := by rw [tokens, String.toList_append, chars, List.append_assoc, ← more]; rfl
    _ = tokens a ++ (tokens b).map (Token.below (a.toList.count '\n')) := by rw [rest, first]; simp

theorem tokens_append_semicolon_quoted :
    let front := "echo 'a;\nb' // c;\n"
    (Scan.run {} front.toList).region = .code ∧ (Scan.run {} front.toList).quote = none ∧
      tokens (front ++ ";" ++ "echo <\x7bd\x7d>\n;echo 'e'") =
        tokens (front ++ ";") ++ [.command "echo <\x7bd\x7d>" 3, .command "echo 'e'" 4] := by
  intro front
  have region : (Scan.run {} front.toList).region = .code := by decide
  have quote : (Scan.run {} front.toList).quote = none := by decide
  refine ⟨region, quote, (tokens_append_semicolon rfl region quote).trans (congrArg _ ?_)⟩
  decide

end CommandScript
