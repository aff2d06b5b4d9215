import CommandScript.Proofs.Indices.Places
import CommandScript.Proofs.Rendering.Scanning
import CommandScript.Script.Layout

/-! Cutting a source text into tokens and a command into words, with the places of the characters that are looked at.
    Each is a loop over places, from one to the end of the text, and comes to what is read from the rest of the text
    there. -/

namespace CommandScript

/-! ### The rest of a list -/

section
variable {cs rest : List α} {i : Nat} {c : α} (h : cs.drop i = c :: rest)
include h

theorem lt_length_of_drop : i < cs.length := by
  have := congrArg List.length h
  rw [List.length_drop, List.length_cons] at this
  omega

theorem getElem?_of_drop : cs[i]? = some c := by
  have first := congrArg (·[0]?) h
  simpa using first

theorem drop_succ_of_drop : cs.drop (i + 1) = rest := by
  rw [← List.drop_drop, h]
  rfl

/-- What is next is what the rest begins with. -/
theorem getElem?_succ_of_drop : cs[i + 1]? = rest.head? := by
  have second := congrArg (·[1]?) h
  rw [List.head?_eq_getElem?]
  simpa using second

end

theorem length_le_of_drop_nil {cs : List α} {i : Nat} (h : cs.drop i = []) : cs.length ≤ i :=
  List.drop_eq_nil_iff.mp h

/-- Two characters that a text does not begin with. -/
theorem not_pair {a b c : Char} {rest : List Char} (h : ∀ rest', c = a → rest = b :: rest' → False) :
    ¬(c = a ∧ rest.head? = some b) := by
  rintro ⟨first, second⟩
  obtain ⟨rest', rfl⟩ := List.head?_eq_some_iff.mp second
  exact h rest' first rfl

/-! ### Tokens -/

namespace Scan

/-- Reads a character that begins no comment, looking at the one before it where it is a brace. -/
def stepIndexed (s : Scan) (cs : List Char) (i : Nat) (c : Char) (next : Option Char) : Option Scan := do
  let s := s.begin c
  let free := s.quote.isNone
  let read ←
    if c = '"' ∨ c = '\'' then some ((s.toggleQuote c).push c)
    else if c = ';' ∧ free then some s.flush
    else if c = '\x7b' ∧ free then
      if 0 < i then do
        let before ← cs[← sub? i 1]?
        some (if before = '<' then s.push c else s.brace .openBrace)
      else some (s.brace .openBrace)
    else if c = '\x7d' ∧ free then some (if next = some '>' then s.push c else s.brace .closeBrace)
    else if c = '\n' then some ({ s with line := s.line + 1 }.push ' ')
    else some (s.push c)
  return { read with previous := some c }

/-- Reads the source from a place on. -/
def runIndexed (cs : List Char) (s : Scan) (i : Nat) : Option Scan :=
  if i < cs.length then do
    let c ← cs[i]?
    let next := cs[i + 1]?
    match s.region with
    | .lineComment =>
      if c = '\n' then runIndexed cs (← { s with region := .code }.stepIndexed cs i c next) (i + 1)
      else runIndexed cs s (i + 1)
    | .blockComment =>
      if c = '*' ∧ next = some '/' then runIndexed cs { s with region := .code, previous := some '/' } (i + 2)
      else runIndexed cs (if c = '\n' then { s with line := s.line + 1 } else s) (i + 1)
    | .code =>
      if s.quote.isNone ∧ c = '/' ∧ next = some '/' then runIndexed cs { s with region := .lineComment } (i + 2)
      else if s.quote.isNone ∧ c = '/' ∧ next = some '*' then runIndexed cs { s with region := .blockComment } (i + 2)
      else runIndexed cs (← s.stepIndexed cs i c next) (i + 1)
  else some s.flush
termination_by cs.length - i

section
variable {cs rest : List Char} {i : Nat} {c : Char} {s : Scan}

/-- The character before one is looked for only where there is one. -/
theorem stepIndexed_eq (h : cs.drop i = c :: rest)
    (previous : c = '\x7b' → s.previous = if 0 < i then cs[i - 1]? else none) (next : Option Char) :
    s.stepIndexed cs i c next = some (s.step c next) := by
  have lt := lt_length_of_drop h
  unfold stepIndexed step
  dsimp only
  split
  · rfl
  · split
    · rfl
    · split
      · rename_i brace
        rw [begin_previous, previous brace.1]
        split
        · rename_i pos
          have within : i - 1 < cs.length := by omega
          have before : cs[i - 1]? = some cs[i - 1] := List.getElem?_eq_getElem within
          rw [sub?_eq_some pos]
          dsimp only [Option.bind_eq_bind, Option.bind_some]
          rw [before]
          simp only [Option.bind_some, Option.some.injEq]
          rfl
        · rfl
      · split
        · rfl
        · split <;> rfl

theorem runIndexed_lineComment (h : cs.drop i = c :: rest) (region : s.region = .lineComment) : runIndexed cs s i =
    if c = '\n' then
      ({ s with region := .code }.stepIndexed cs i c rest.head?).bind fun s => runIndexed cs s (i + 1)
    else runIndexed cs s (i + 1) := by
  rw [runIndexed, if_pos (lt_length_of_drop h), getElem?_of_drop h, getElem?_succ_of_drop h, Option.bind_eq_bind,
    Option.bind_some, region]
  rfl

theorem runIndexed_blockComment (h : cs.drop i = c :: rest) (region : s.region = .blockComment) : runIndexed cs s i =
    if c = '*' ∧ rest.head? = some '/' then
      runIndexed cs { s with region := .code, previous := some '/' } (i + 2)
    else runIndexed cs (if c = '\n' then { s with line := s.line + 1 } else s) (i + 1) := by
  rw [runIndexed, if_pos (lt_length_of_drop h), getElem?_of_drop h, getElem?_succ_of_drop h, Option.bind_eq_bind,
    Option.bind_some, region]

theorem runIndexed_inCode (h : cs.drop i = c :: rest) (region : s.region = .code) : runIndexed cs s i =
    if s.quote.isNone ∧ c = '/' ∧ rest.head? = some '/' then runIndexed cs { s with region := .lineComment } (i + 2)
    else if s.quote.isNone ∧ c = '/' ∧ rest.head? = some '*' then
      runIndexed cs { s with region := .blockComment } (i + 2)
    else (s.stepIndexed cs i c rest.head?).bind fun s => runIndexed cs s (i + 1) := by
  rw [runIndexed, if_pos (lt_length_of_drop h), getElem?_of_drop h, getElem?_succ_of_drop h, Option.bind_eq_bind,
    Option.bind_some, region]
  rfl

/-- In code, a character that begins no comment is read, and then the rest. -/
theorem runIndexed_code (h : cs.drop i = c :: rest) (region : s.region = .code)
    (previous : c = '\x7b' → s.previous = if 0 < i then cs[i - 1]? else none)
    (comment : commentAt s.quote rest.head? c = false) :
    runIndexed cs s i = runIndexed cs (s.step c rest.head?) (i + 1) := by
  have line : ¬(s.quote.isNone = true ∧ c = '/' ∧ rest.head? = some '/') := by
    rintro ⟨hq, hc, hn⟩
    simp [commentAt, hq, hc, hn] at comment
  have block : ¬(s.quote.isNone = true ∧ c = '/' ∧ rest.head? = some '*') := by
    rintro ⟨hq, hc, hn⟩
    simp [commentAt, hq, hc, hn] at comment
  rw [runIndexed_inCode h region, if_neg line, if_neg block, stepIndexed_eq h previous]
  rfl

/-- What the scanner has seen last, after the character at a place. -/
theorem previous_of_drop (h : cs.drop i = c :: rest) : (if 0 < i + 1 then cs[i + 1 - 1]? else none) = some c :=
  getElem?_of_drop h

/-- Between quotes, two characters are read one after the other. -/
theorem runIndexed_quoted {d : Char} (quoted : s.quote.isNone = false) (region : s.region = .code)
    (h : cs.drop i = c :: d :: rest) (plain : ¬(c = '"' ∨ c = '\''))
    (previous : s.previous = if 0 < i then cs[i - 1]? else none) :
    runIndexed cs s i = runIndexed cs ((s.step c (some d)).step d rest.head?) (i + 2) := by
  have uncommented : ∀ next c, commentAt s.quote next c = false := fun next c => by simp [commentAt, quoted]
  have later := drop_succ_of_drop h
  have quote : (s.step c (some d)).quote = s.quote := by
    rw [step_quote]
    unfold quoteAfter
    rw [if_neg plain]
  rw [runIndexed_code h region (fun _ => previous) (uncommented _ _), List.head?_cons,
    runIndexed_code later ((step_region _ _ _).trans region)
      (fun _ => (step_previous _ _ _).trans (previous_of_drop h).symm) (by rw [quote]; exact uncommented _ _)]

/-- Reading from a place on comes to what reading the rest there does. Where code is read, the character before it is
    the one that the scanner has seen last. By induction on how the rest is read. -/
theorem runIndexed_eq (h : cs.drop i = rest)
    (previous : s.region = .code → s.previous = if 0 < i then cs[i - 1]? else none) :
    runIndexed cs s i = some (s.run rest) := by
  fun_induction Scan.run s rest generalizing i with
  | case1 s =>
    rw [runIndexed, if_neg (Nat.not_lt.mpr (length_le_of_drop_nil h))]
  -- A comment ends before its line does: the line break is read as code.
  | case2 s rest region ih =>
    rw [runIndexed_lineComment h region, if_pos rfl, stepIndexed_eq h fun brace => absurd brace (by decide)]
    exact ih (drop_succ_of_drop h) fun _ => (step_previous _ _ _).trans (previous_of_drop h).symm
  | case3 s c rest region hc ih =>
    rw [runIndexed_lineComment h region, if_neg hc]
    exact ih (drop_succ_of_drop h) fun code => absurd (region.symm.trans code) (by decide)
  | case4 s region rest ih =>
    rw [runIndexed_blockComment h region, if_pos ⟨rfl, rfl⟩]
    refine ih (drop_succ_of_drop (drop_succ_of_drop h)) fun _ => ?_
    exact (previous_of_drop (drop_succ_of_drop h)).symm
  | case5 s region c rest notEnd ih =>
    rw [runIndexed_blockComment h region, if_neg (not_pair notEnd)]
    refine ih (drop_succ_of_drop h) fun code => ?_
    have same : s.region = .code := by split at code <;> exact code
    exact absurd (region.symm.trans same) (by decide)
  | case6 s region rest free ih =>
    rw [runIndexed_inCode h region, if_pos ⟨free, rfl, rfl⟩]
    exact ih (drop_succ_of_drop (drop_succ_of_drop h)) fun code => (by cases code)
  | case8 s region rest free ih =>
    rw [runIndexed_inCode h region, if_neg (by simp), if_pos ⟨free, rfl, rfl⟩]
    exact ih (drop_succ_of_drop (drop_succ_of_drop h)) fun code => (by cases code)
  -- Between quotes the two characters are read one after the other.
  | case7 s region rest quoted ih =>
    rw [runIndexed_quoted (Bool.eq_false_iff.mpr quoted) region h (by decide) (previous region)]
    have later := drop_succ_of_drop h
    exact ih (drop_succ_of_drop later) fun _ => (step_previous _ _ _).trans (previous_of_drop later).symm
  | case9 s region rest quoted ih =>
    rw [runIndexed_quoted (Bool.eq_false_iff.mpr quoted) region h (by decide) (previous region)]
    have later := drop_succ_of_drop h
    exact ih (drop_succ_of_drop later) fun _ => (step_previous _ _ _).trans (previous_of_drop later).symm
  | case10 s region c rest line block ih =>
    have comment : commentAt s.quote rest.head? c = false := by
      rw [Bool.eq_false_iff]
      intro begins
      simp only [commentAt, Bool.and_eq_true, Bool.or_eq_true, decide_eq_true_eq] at begins
      obtain ⟨⟨-, slash⟩, next | next⟩ := begins
      · exact not_pair line ⟨slash, next⟩
      · exact not_pair block ⟨slash, next⟩
    rw [runIndexed_code h region (fun _ => previous region) comment]
    exact ih (drop_succ_of_drop h) fun _ => (step_previous _ _ _).trans (previous_of_drop h).symm

end

end Scan

/-- The tokens of a source text, with the places that are looked at. -/
def tokensIndexed (source : String) : Option (List Token) := do
  return (← Scan.runIndexed source.toList {} 0).tokens.reverse

/-- No text is looked at beyond its end for its tokens. -/
theorem tokensIndexed_eq (source : String) : tokensIndexed source = some (tokens source) := by
  rw [tokensIndexed, Scan.runIndexed_eq (Eq.refl (source.toList.drop 0)) fun _ => rfl]
  rfl

/-! ### Words -/

namespace WordScan

/-- Reads a command from a place on. No more tags are closed than were opened. -/
def runIndexed (cs : List Char) (s : WordScan) (i : Nat) : Option WordScan :=
  if i < cs.length then do
    let c ← cs[i]?
    let next := cs[i + 1]?
    if c = '<' ∧ next = some '\x7b' then
      runIndexed cs { (s.push '<').push '\x7b' with tags := s.tags + 1 } (i + 2)
    else if c = '\x7d' ∧ next = some '>' ∧ 0 < s.tags then
      runIndexed cs { (s.push '\x7d').push '>' with tags := ← sub? s.tags 1 } (i + 2)
    else runIndexed cs (s.step c) (i + 1)
  else some s.flush
termination_by cs.length - i

variable {cs rest : List Char} {i : Nat} {c : Char} {s : WordScan}

theorem runIndexed_cons (h : cs.drop i = c :: rest) : runIndexed cs s i =
    if c = '<' ∧ rest.head? = some '\x7b' then
      runIndexed cs { (s.push '<').push '\x7b' with tags := s.tags + 1 } (i + 2)
    else if c = '\x7d' ∧ rest.head? = some '>' ∧ 0 < s.tags then
      (sub? s.tags 1).bind fun tags => runIndexed cs { (s.push '\x7d').push '>' with tags := tags } (i + 2)
    else runIndexed cs (s.step c) (i + 1) := by
  rw [runIndexed, if_pos (lt_length_of_drop h), getElem?_of_drop h, getElem?_succ_of_drop h, Option.bind_eq_bind,
    Option.bind_some]
  rfl

theorem runIndexed_plain (h : cs.drop i = c :: rest) (opens : ¬(c = '<' ∧ rest.head? = some '\x7b'))
    (closes : ¬(c = '\x7d' ∧ rest.head? = some '>' ∧ 0 < s.tags)) :
    runIndexed cs s i = runIndexed cs (s.step c) (i + 1) := by
  rw [runIndexed_cons h, if_neg opens, if_neg closes]

theorem runIndexed_eq (h : cs.drop i = rest) : runIndexed cs s i = some (s.run rest) := by
  fun_induction WordScan.run s rest generalizing i with
  | case1 s => rw [runIndexed, if_neg (Nat.not_lt.mpr (length_le_of_drop_nil h))]
  | case2 s rest ih =>
    rw [runIndexed_cons h, if_pos ⟨rfl, rfl⟩]
    exact ih (drop_succ_of_drop (drop_succ_of_drop h))
  -- Outside tags, the end of one is two characters like others.
  | case3 s rest outside ih =>
    have later := drop_succ_of_drop h
    rw [runIndexed_plain h (by simp) (fun within => absurd outside (Nat.ne_of_gt within.2.2)),
      runIndexed_plain later (by simp) (by simp)]
    exact ih (drop_succ_of_drop later)
  | case4 s rest tags within ih =>
    have pos : 0 < s.tags := within ▸ Nat.succ_pos tags
    rw [runIndexed_cons h, if_neg (by simp), if_pos ⟨rfl, rfl, pos⟩, sub?_eq_some pos, within]
    exact ih (drop_succ_of_drop (drop_succ_of_drop h))
  | case5 s c rest opens closes ih =>
    rw [runIndexed_plain h (not_pair opens) fun closing => not_pair closes ⟨closing.1, closing.2.1⟩]
    exact ih (drop_succ_of_drop h)

end WordScan

/-- The words of a command, with the places that are looked at. -/
def wordsIndexed (cs : List Char) : Option (List Word) := do
  return (← WordScan.runIndexed cs {} 0).words.reverse

/-- No command is looked at beyond its end for its words. -/
theorem wordsIndexed_eq (cs : List Char) : wordsIndexed cs = some (words cs) := by
  rw [wordsIndexed, WordScan.runIndexed_eq (Eq.refl (cs.drop 0))]
  rfl

end CommandScript
