import CommandScript.Proofs.Rendering.Scanning

/-! Source texts as rows of lexemes: quoted passages, comments, the edges of tags, separators, and all other characters
    one by one. A row is a reading of a text if each lexeme is one where it stands, which hangs on nothing but the text
    from there on. Every text has a reading, and what stands before a separator is read in the same way by itself. -/

namespace CommandScript
open Text

/-! ### Lexemes -/

/-- The marks that quoted passages begin and end with. -/
inductive Quote where
  | single
  | double
  deriving DecidableEq

/-- The character of a quote mark. -/
def Quote.mark : Quote → Char
  | single => '\''
  | double => '"'

/-- What parts commands. -/
inductive Separator where
  | semicolon
  | openBrace
  | closeBrace
  deriving DecidableEq

/-- The character of a separator. -/
def Separator.char : Separator → Char
  | semicolon => ';'
  | openBrace => '\x7b'
  | closeBrace => '\x7d'

/-- A stretch of source text. -/
inductive Lexeme where
  /-- A character that stands for itself. -/
  | plain (c : Char)
  /-- The two characters that a tag opens with. -/
  | tagOpen
  /-- The two characters that a tag closes with. -/
  | tagClose
  /-- A passage between quote marks, or behind one to the end of the text. -/
  | quoted (q : Quote) (inside : List Char) (closed : Bool)
  /-- A comment to the end of the line. -/
  | lineComment (inside : List Char)
  /-- A comment that has an end of its own, or goes on to the end of the text. -/
  | blockComment (inside : List Char) (closed : Bool)
  | separator (s : Separator)
  deriving DecidableEq

namespace Lexeme

/-- The characters of a lexeme. -/
def chars : Lexeme → List Char
  | plain c => [c]
  | tagOpen => ['<', '\x7b']
  | tagClose => ['\x7d', '>']
  | quoted q inside closed => q.mark :: (inside ++ if closed then [q.mark] else [])
  | lineComment inside => '/' :: '/' :: inside
  | blockComment inside closed => '/' :: '*' :: (inside ++ if closed then ['*', '/'] else [])
  | separator s => [s.char]

/-- Whether a lexeme parts commands. -/
def isSeparator : Lexeme → Bool
  | separator _ => true
  | _ => false

/-- Whether a lexeme is a comment or blank. -/
def isGap : Lexeme → Bool
  | plain c => isBlank c
  | lineComment _ | blockComment _ _ => true
  | _ => false

/-- What a lexeme adds to the text of its command: its characters, with blanks for line breaks, or nothing if it is a
    comment. -/
def text (l : Lexeme) : List Char :=
  match l with
  | lineComment _ | blockComment _ _ | separator _ => []
  | plain _ | tagOpen | tagClose | quoted _ _ _ => l.chars.map flat

/-- Whether a lexeme is one where `rest` follows it: it is not part of a longer one, and what goes on to the end of the
    text has nothing behind it. -/
def Fits (rest : List Char) : Lexeme → Prop
  | plain c => (∀ q : Quote, c ≠ q.mark) ∧ (∀ s : Separator, c ≠ s.char) ∧
      ¬(c = '/' ∧ (rest.head? = some '/' ∨ rest.head? = some '*')) ∧ ¬(c = '<' ∧ rest.head? = some '\x7b')
  | tagOpen | tagClose => True
  | quoted q inside closed => q.mark ∉ inside ∧ (closed = false → rest = [])
  | lineComment inside => '\n' ∉ inside ∧ ∀ c ∈ rest.head?, c = '\n'
  | blockComment inside true => ¬['*', '/'] <:+: inside ++ ['*']
  | blockComment inside false => ¬['*', '/'] <:+: inside ∧ rest = []
  | separator s => s = .closeBrace → rest.head? ≠ some '>'

theorem chars_ne_nil (l : Lexeme) : l.chars ≠ [] := by
  cases l <;> simp [chars]

theorem exists_separator {l : Lexeme} (h : l.isSeparator = true) : ∃ s, l = separator s := by
  cases l with
  | separator s => exact ⟨s, rfl⟩
  | _ => cases h

theorem isBlank_mark (q : Quote) : isBlank q.mark = false := by
  cases q <;> rfl

theorem isBlank_flat (c : Char) : isBlank (flat c) = isBlank c := by
  unfold flat
  split
  · rename_i h
    rw [h]
    rfl
  · rfl

/-- A gap adds blanks at most, and any other lexeme within a command adds more. -/
theorem isGap_eq {l : Lexeme} (h : l.isSeparator = false) : l.isGap = l.text.all isBlank := by
  cases l with
  | plain c => simp [isGap, text, chars, isBlank_flat]
  | tagOpen | tagClose => rfl
  | quoted q inside closed => simp [isGap, text, chars, isBlank_flat, isBlank_mark]
  | lineComment | blockComment => rfl
  | separator => cases h

theorem flat_of_solid {c : Char} (h : isBlank c = false) : flat c = c := by
  unfold flat
  split
  · rename_i hc
    rw [hc] at h
    cases h
  · rfl

/-- What is neither a gap nor a separator begins with a character that is not blank, as its text does. -/
theorem exists_solid {l : Lexeme} (gap : l.isGap = false) (within : l.isSeparator = false) :
    ∃ c rest, l.chars = c :: rest ∧ isBlank c = false ∧ l.text = c :: rest.map flat := by
  cases l with
  | plain c => exact ⟨c, [], rfl, gap, by rw [text, chars, List.map_singleton, flat_of_solid gap]; rfl⟩
  | tagOpen | tagClose => exact ⟨_, _, rfl, rfl, rfl⟩
  | quoted q inside closed =>
    refine ⟨q.mark, _, rfl, isBlank_mark q, ?_⟩
    rw [text, chars, List.map_cons, flat_of_solid (isBlank_mark q)]
  | lineComment | blockComment => cases gap
  | separator => cases within

theorem head?_append_of_ne_nil {rest : List Char} (some : rest ≠ []) (more : List Char) :
    (rest ++ more).head? = rest.head? := by
  obtain ⟨c, rest, rfl⟩ := List.exists_cons_of_ne_nil some
  rfl

theorem Fits.of_append {l : Lexeme} {rest more : List Char} (h : l.Fits (rest ++ more)) (some : rest ≠ []) :
    l.Fits rest := by
  have head := head?_append_of_ne_nil some more
  cases l with
  | plain c =>
    unfold Fits at h ⊢
    rwa [head] at h
  | tagOpen | tagClose => trivial
  | quoted q inside closed => exact ⟨h.1, fun opened => (List.append_eq_nil_iff.mp (h.2 opened)).1⟩
  | lineComment inside => exact ⟨h.1, head ▸ h.2⟩
  | blockComment inside closed =>
    cases closed with
    | true => exact h
    | false => exact ⟨h.1, (List.append_eq_nil_iff.mp h.2).1⟩
  | separator s => exact fun hs => head ▸ h hs

end Lexeme

/-! ### Readings -/

/-- The text of a row of lexemes. -/
def sourceOf (ls : List Lexeme) : List Char :=
  ls.flatMap Lexeme.chars

@[simp] theorem sourceOf_nil : sourceOf [] = [] := rfl

@[simp] theorem sourceOf_cons (l : Lexeme) (ls : List Lexeme) : sourceOf (l :: ls) = l.chars ++ sourceOf ls :=
  List.flatMap_cons

@[simp] theorem sourceOf_append (ls ms : List Lexeme) : sourceOf (ls ++ ms) = sourceOf ls ++ sourceOf ms :=
  List.flatMap_append

/-- The row is the reading of its text. -/
inductive Reading : List Lexeme → Prop
  | nil : Reading []
  | cons {l : Lexeme} {ls : List Lexeme} (fits : l.Fits (sourceOf ls)) (more : Reading ls) : Reading (l :: ls)

/-- What an open quote or comment would end with comes up, or it goes on to the end of the text. -/
theorem exists_first (q : Char) (rest : List Char) :
    q ∉ rest ∨ ∃ inside more, rest = inside ++ q :: more ∧ q ∉ inside := by
  by_cases h : q ∈ rest
  · exact Or.inr (List.eq_append_cons_of_mem h)
  · exact Or.inl h

theorem exists_commentEnd (rest : List Char) : ¬['*', '/'] <:+: rest ∨
    ∃ inside more, rest = inside ++ '*' :: '/' :: more ∧ ¬['*', '/'] <:+: inside ++ ['*'] := by
  induction rest with
  | nil => exact Or.inl (by simp)
  | cons c rest ih =>
    by_cases begins : ['*', '/'] <+: c :: rest
    · obtain ⟨more, hmore⟩ := begins
      exact Or.inr ⟨[], more, hmore.symm, fun h => absurd h.length_le (by simp)⟩
    · rcases ih with none_left | ⟨inside, more, rfl, first⟩
      · exact Or.inl fun h => (List.infix_cons_iff.mp h).elim begins none_left
      · refine Or.inr ⟨c :: inside, more, rfl, fun h => ?_⟩
        refine (List.infix_cons_iff.mp h).elim (fun ⟨tail, htail⟩ => ?_) first
        -- The pair would begin the text as well.
        refine begins ?_
        cases inside with
        | nil => simp at htail
        | cons d inside =>
          obtain ⟨rfl, hd⟩ := List.cons.inj htail
          obtain ⟨rfl, -⟩ := List.cons.inj hd
          exact ⟨_, rfl⟩

/-- Every text that is not empty begins with a lexeme. -/
theorem exists_lexeme (c : Char) (rest : List Char) :
    ∃ (l : Lexeme) (more : List Char), c :: rest = l.chars ++ more ∧ l.Fits more := by
  by_cases mark : ∃ q : Quote, c = q.mark
  · obtain ⟨q, rfl⟩ := mark
    rcases exists_first q.mark rest with opened | ⟨inside, more, rfl, first⟩
    · exact ⟨.quoted q rest false, [], by simp [Lexeme.chars], opened, fun _ => rfl⟩
    · exact ⟨.quoted q inside true, more, by simp [Lexeme.chars], first, nofun⟩
  by_cases separates : ∃ s : Separator, c = s.char ∧ (s = .closeBrace → rest.head? ≠ some '>')
  · obtain ⟨s, rfl, fits⟩ := separates
    exact ⟨.separator s, rest, rfl, fits⟩
  by_cases comment : c = '/' ∧ (rest.head? = some '/' ∨ rest.head? = some '*')
  · obtain ⟨rfl, line | block⟩ := comment
    · obtain ⟨rest, rfl⟩ := List.head?_eq_some_iff.mp line
      rcases exists_first '\n' rest with last | ⟨inside, more, rfl, first⟩
      · exact ⟨.lineComment rest, [], by simp [Lexeme.chars], last, nofun⟩
      · exact ⟨.lineComment inside, '\n' :: more, rfl, first, by simp⟩
    · obtain ⟨rest, rfl⟩ := List.head?_eq_some_iff.mp block
      rcases exists_commentEnd rest with opened | ⟨inside, more, rfl, first⟩
      · exact ⟨.blockComment rest false, [], by simp [Lexeme.chars], opened, rfl⟩
      · exact ⟨.blockComment inside true, more, by simp [Lexeme.chars], first⟩
  by_cases opens : c = '<' ∧ rest.head? = some '\x7b'
  · obtain ⟨rfl, brace⟩ := opens
    obtain ⟨rest, rfl⟩ := List.head?_eq_some_iff.mp brace
    exact ⟨.tagOpen, rest, rfl, trivial⟩
  by_cases closes : c = '\x7d' ∧ rest.head? = some '>'
  · obtain ⟨rfl, bracket⟩ := closes
    obtain ⟨rest, rfl⟩ := List.head?_eq_some_iff.mp bracket
    exact ⟨.tagClose, rest, rfl, trivial⟩
  · refine ⟨.plain c, rest, rfl, fun q hq => mark ⟨q, hq⟩, fun s hs => separates ⟨s, hs, ?_⟩, comment, opens⟩
    rintro rfl bracket
    exact closes ⟨hs, bracket⟩

/-- Every text has a reading. -/
theorem exists_reading (cs : List Char) : ∃ ls, Reading ls ∧ sourceOf ls = cs := by
  induction h : cs.length using Nat.strongRecOn generalizing cs with
  | _ n ih =>
    cases cs with
    | nil => exact ⟨[], .nil, rfl⟩
    | cons c rest =>
      obtain ⟨l, more, hl, fits⟩ := exists_lexeme c rest
      have shorter : more.length < n := by
        have := congrArg List.length hl
        have := List.length_pos_iff.mpr l.chars_ne_nil
        simp only [List.length_append] at *
        omega
      obtain ⟨ls, reading, rfl⟩ := ih _ shorter more rfl
      exact ⟨l :: ls, .cons fits reading, by rw [sourceOf_cons, hl]⟩

namespace Reading
variable {l : Lexeme} {ls ms : List Lexeme} {s : Separator}

theorem cons_iff : Reading (l :: ls) ↔ l.Fits (sourceOf ls) ∧ Reading ls := by
  constructor
  · rintro ⟨⟩
    exact ⟨‹_›, ‹_›⟩
  · rintro ⟨fits, more⟩
    exact .cons fits more

theorem right (h : Reading (ls ++ ms)) : Reading ms := by
  induction ls with
  | nil => exact h
  | cons l ls ih => exact ih (cons_iff.mp h).2

theorem sourceOf_separator_ne_nil : sourceOf (ls ++ [.separator s]) ≠ [] := by
  simp [Lexeme.chars_ne_nil]

theorem sourceOf_cut : sourceOf (ls ++ .separator s :: ms) = sourceOf (ls ++ [.separator s]) ++ sourceOf ms := by
  simp

/-- What stands before a separator, with it, is read in the same way by itself. -/
theorem left (h : Reading (ls ++ .separator s :: ms)) : Reading (ls ++ [.separator s]) := by
  induction ls with
  | nil => exact .cons (fun _ => nofun) .nil
  | cons l ls ih =>
    obtain ⟨fits, more⟩ := cons_iff.mp h
    rw [List.append_eq, sourceOf_cut] at fits
    exact .cons (fits.of_append sourceOf_separator_ne_nil) (ih more)

end Reading

end CommandScript
