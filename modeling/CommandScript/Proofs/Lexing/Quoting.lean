import CommandScript.Proofs.Lexing.Statements

/-! Quotes in the two cuts of a source. A command ends where no quote of it is open, if every quote mark counts. Cutting
    the command into words counts the marks outside tags only, so the two agree on what is quoted as long as no tag
    changes which quote is open. -/

namespace CommandScript
open Text

/-! ### Marks outside tags -/

/-- The characters of a command that its words have outside tags, behind the opening of `tags` tags. -/
def outsideOfTags : Nat → List Char → List Char
  | _, [] => []
  | tags, '<' :: '\x7b' :: rest => outsideOfTags (tags + 1) rest
  | 0, '\x7d' :: '>' :: rest => '\x7d' :: '>' :: outsideOfTags 0 rest
  | tags + 1, '\x7d' :: '>' :: rest => outsideOfTags tags rest
  | 0, c :: rest => c :: outsideOfTags 0 rest
  | tags + 1, _ :: rest => outsideOfTags (tags + 1) rest

theorem outsideOfTags_cons {c : Char} {rest : List Char} (opening : ∀ more, c = '<' → rest = '\x7b' :: more → False)
    (closing : ∀ more, c = '\x7d' → rest = '>' :: more → False) (tags : Nat) :
    outsideOfTags tags (c :: rest) = if tags = 0 then c :: outsideOfTags 0 rest else outsideOfTags tags rest := by
  cases tags with
  | zero => rw [outsideOfTags] <;> grind
  | succ tags => rw [outsideOfTags] <;> grind

namespace WordScan

theorem flush_quote (s : WordScan) : s.flush.quote = s.quote := by
  unfold flush
  split <;> rfl

theorem flush_tags (s : WordScan) : s.flush.tags = s.tags := by
  unfold flush
  split <;> rfl

theorem step_tags (s : WordScan) (c : Char) : (s.step c).tags = s.tags := by
  unfold step quoteMark
  repeat' split
  all_goals first | rfl | exact flush_tags s

theorem step_quote (s : WordScan) (c : Char) :
    (s.step c).quote = if s.tags = 0 then quoteAfter s.quote c else s.quote := by
  by_cases tags : s.tags = 0
  · rw [if_pos tags]
    unfold step quoteAfter
    by_cases mark : c = '"' ∨ c = '\''
    · rw [if_pos ⟨mark, tags⟩, if_pos mark]
      unfold quoteMark
      cases quote : s.quote with
      | none => rfl
      | some q =>
        dsimp only
        split
        · rfl
        · exact quote
    · rw [if_neg fun h => mark h.1, if_neg mark]
      split
      · exact flush_quote s
      · rfl
  · rw [if_neg tags]
    unfold step
    rw [if_neg fun h => tags h.2]
    split
    · exact flush_quote s
    · rfl

/-- The quote that is open at the end hangs on the marks outside tags only. -/
theorem run_quote (s : WordScan) (cs : List Char) :
    (s.run cs).quote = (outsideOfTags s.tags cs).foldl quoteAfter s.quote := by
  fun_induction run s cs with
  | case1 s => exact flush_quote s
  | case2 s rest ih => rw [ih]; rfl
  | case3 s rest tags ih =>
    rw [ih]
    simp [step_tags, step_quote, tags, outsideOfTags]
  | case4 s rest n tags ih => rw [ih, tags]; rfl
  | case5 s c rest noOpening noClosing ih =>
    rw [ih, step_tags, step_quote, outsideOfTags_cons noOpening noClosing]
    split
    · rename_i tags
      rw [tags]
      rfl
    · rfl

end WordScan

/-- Whether no tag changes which quote is open, if every quote mark counts. Behind the opening of `tags` tags, `found`
    is the quote that was open where the first of them began. -/
def tagsKeepQuote (tags : Nat) (found quote : Option Char) : List Char → Bool
  | [] => tags = 0 || quote = found
  | '<' :: '\x7b' :: rest => tagsKeepQuote (tags + 1) (if tags = 0 then quote else found) quote rest
  | '\x7d' :: '>' :: rest =>
    match tags with
    | 0 => tagsKeepQuote 0 found quote rest
    | 1 => quote = found && tagsKeepQuote 0 found quote rest
    | tags + 2 => tagsKeepQuote (tags + 1) found quote rest
  | c :: rest => tagsKeepQuote tags found (quoteAfter quote c) rest

theorem foldl_outsideOfTags {tags : Nat} {found quote : Option Char} {cs : List Char}
    (h : tagsKeepQuote tags found quote cs = true) :
    (outsideOfTags tags cs).foldl quoteAfter (if tags = 0 then quote else found) = cs.foldl quoteAfter quote := by
  fun_induction tagsKeepQuote tags found quote cs with
  | case1 tags found quote =>
    rw [outsideOfTags]
    split
    · rfl
    · rename_i tags
      exact (by simpa [tags] using h : quote = found).symm
  | case2 tags found quote rest ih => exact ih h
  | case3 found quote rest ih => exact ih h
  | case4 found quote rest ih =>
    obtain ⟨same, more⟩ := Bool.and_eq_true_iff.mp h
    rw [← of_decide_eq_true same]
    exact ih more
  | case5 found quote rest tags ih => exact ih h
  | case6 tags found quote c rest noOpening noClosing ih =>
    rw [outsideOfTags_cons noOpening noClosing, List.foldl_cons, ← ih h]
    split
    · rename_i tags
      rw [tags]
      rfl
    · rfl

/-! ### The text of a command -/

theorem foldl_quoteAfter_flat (quote : Option Char) (cs : List Char) :
    (cs.map flat).foldl quoteAfter quote = cs.foldl quoteAfter quote := by
  induction cs generalizing quote with
  | nil => rfl
  | cons c cs ih =>
    have same : quoteAfter quote (flat c) = quoteAfter quote c := by
      unfold flat
      split
      · rename_i hc
        rw [hc]
        rfl
      · rfl
    rw [List.map_cons, List.foldl_cons, List.foldl_cons, same, ih]

/-- A lexeme that something follows leaves no quote open. -/
theorem Lexeme.foldl_quoteAfter_text {l : Lexeme} {rest : List Char} (fits : l.Fits rest) (more : rest ≠ []) :
    l.text.foldl quoteAfter none = none := by
  cases l with
  | plain c =>
    rw [text, chars, foldl_quoteAfter_flat]
    exact quoteAfter_plain fits.1
  | tagOpen | tagClose | lineComment | blockComment | separator => rfl
  | quoted q inside closed =>
    cases closed with
    | true =>
      rw [text, foldl_quoteAfter_flat]
      simp [chars, quoteAfter_mark, foldl_quoteAfter_within fits.1, quoteAfter_self]
    | false => exact absurd (fits.2 rfl) more

theorem foldl_quoteAfter_textOf {body after : List Lexeme} (reading : Reading (body ++ after)) (more : after ≠ []) :
    (textOf body).foldl quoteAfter none = none := by
  induction body with
  | nil => rfl
  | cons l body ih =>
    obtain ⟨fits, rest⟩ := Reading.cons_iff.mp reading
    have behind : sourceOf (body ++ after) ≠ [] := by
      obtain ⟨m, after, rfl⟩ := List.exists_cons_of_ne_nil more
      simp [m.chars_ne_nil]
    have first : textOf (l :: body) = l.text ++ textOf body := List.flatMap_cons
    rw [first, List.foldl_append, Lexeme.foldl_quoteAfter_text fits behind, ih rest]

theorem foldl_quoteAfter_trimChars (cs : List Char) :
    (trimChars cs).foldl quoteAfter none = cs.foldl quoteAfter none := by
  obtain ⟨left, right, left_blank, right_blank, same⟩ := exists_blanks cs
  conv_rhs => rw [same, List.foldl_append, List.foldl_append, foldl_quoteAfter_blank left_blank,
    foldl_quoteAfter_blank right_blank]

/-- In a command that another token follows all quote marks pair off. Its words leave no quote open exactly if the marks
    outside its tags pair off as well, and so they do if no tag changes which quote is open. -/
theorem command_quotes {source : String} {ts us : List Token} {text : String} {n : Nat}
    (h : tokens source = ts ++ .command text n :: us) (more : us ≠ []) :
    text.toList.foldl quoteAfter none = none ∧
      ((WordScan.run {} text.toList).quote = none ↔ (outsideOfTags 0 text.toList).foldl quoteAfter none = none) ∧
      (tagsKeepQuote 0 none none text.toList = true → (WordScan.run {} text.toList).quote = none) := by
  obtain ⟨ls, reading, same⟩ := exists_reading source.toList
  rw [tokens_eq_statements reading same] at h
  obtain ⟨before, body, after, at_, -, here, last⟩ := exists_statementAt (List.forall_mem_nil _) h
  obtain rfl := at_.eq
  have paired : text.toList.foldl quoteAfter none = none := by
    unfold statement commandTokens at here
    split at here
    · cases here
    · obtain ⟨rfl, -⟩ := Token.command.inj (List.cons.inj here).1
      rw [String.toList_ofList, foldl_quoteAfter_trimChars]
      exact foldl_quoteAfter_textOf reading.right fun nothing => more (last nothing)
  have words : (WordScan.run {} text.toList).quote = (outsideOfTags 0 text.toList).foldl quoteAfter none :=
    WordScan.run_quote {} text.toList
  refine ⟨paired, by rw [words], fun keeps => ?_⟩
  rw [words]
  exact (foldl_outsideOfTags keeps).trans paired

theorem command_quotes_of_tag :
    tokens "echo <\x7btext['it;s']\x7d> \"a; b\"; echo c" =
        [] ++ .command "echo <\x7btext['it;s']\x7d> \"a; b\"" 1 :: [.command "echo c" 1] ∧
      (WordScan.run {} "echo <\x7btext['it;s']\x7d> \"a; b\"".toList).quote = none := by
  have cut : tokens "echo <\x7btext['it;s']\x7d> \"a; b\"; echo c" =
      [] ++ .command "echo <\x7btext['it;s']\x7d> \"a; b\"" 1 :: [.command "echo c" 1] := by decide
  exact ⟨cut, (command_quotes cut nofun).2.2 (by decide)⟩

/-- An apostrophe in a tag opens a quote for the one cut and not for the other. -/
theorem command_quotes_of_apostrophe :
    ¬∀ source ts us text n, tokens source = ts ++ .command text n :: us → us ≠ [] →
      (WordScan.run {} text.toList).quote = none := by
  intro all
  have cut : tokens "echo <\x7btext[it's]\x7d> 'a; b'; echo c" =
      [] ++ .command "echo <\x7btext[it's]\x7d> 'a" 1 :: [.command "b'; echo c" 1] := by decide
  have closed := all _ _ _ _ _ cut nofun
  have opened : (WordScan.run {} "echo <\x7btext[it's]\x7d> 'a".toList).quote = some '\'' := by decide
  rw [opened] at closed
  cases closed

end CommandScript
