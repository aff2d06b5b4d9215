import CommandScript.Tag.Syntax
import CommandScript.Text.Blank
import CommandScript.Text.Split

/-! Reading arguments and tags. An argument is first cut into literal stretches and the bodies of its outermost
    tags, and the body of a tag into the keys of its chain and the text of its fallback; the pieces are shorter
    than the whole, and are read in turn. Brackets and tag delimiters have to balance. -/

namespace CommandScript

/-- Why a text is no argument. Each cause holds the text at fault. -/
inductive ReadError where
  /-- A tag has no end. -/
  | openTag (argument : String)
  /-- A bracket closes that was never opened. -/
  | strayBracket (tag : String)
  /-- A bracket opens and is never closed. -/
  | openBracket (tag : String)
  /-- Text follows the parameter of a key. -/
  | textAfterBracket (tag : String)
  deriving DecidableEq

/-- What is said of a text that is no argument. -/
def ReadError.message : ReadError → String
  | openTag argument => s!"Unterminated tag '<\x7b' in '" ++ argument ++ "'."
  | strayBracket tag => s!"Unbalanced ']' in tag '{tag}'."
  | openBracket tag => s!"Unbalanced '[' in tag '{tag}'."
  | textAfterBracket tag => s!"Unexpected text after ']' in tag '{tag}'."

/-! ### Pieces of an argument -/

/-- A piece of an argument: literal text, the body of a tag, or the start of a tag without end. -/
inductive Piece where
  | literal (cs : List Char)
  | body (cs : List Char)
  | broken
  deriving DecidableEq

/-- The literal piece of characters collected backwards, if there are any. -/
def Piece.ofLiteral : List Char → List Piece
  | [] => []
  | c :: cs => [.literal (c :: cs).reverse]

mutual

/-- The pieces of text outside tags, after the literal characters `before`, which are written backwards. -/
def piecesOutside (before : List Char) : List Char → List Piece
  | '<' :: '\x7b' :: rest => Piece.ofLiteral before ++ piecesInside 0 [] rest
  | c :: rest => piecesOutside (c :: before) rest
  | [] => Piece.ofLiteral before

/-- The pieces of text inside a tag, `depth` further tags deep, after `before` of its body. -/
def piecesInside (depth : Nat) (before : List Char) : List Char → List Piece
  | '<' :: '\x7b' :: rest => piecesInside (depth + 1) ('\x7b' :: '<' :: before) rest
  | '\x7d' :: '>' :: rest =>
    match depth with
    | 0 => .body before.reverse :: piecesOutside [] rest
    | depth + 1 => piecesInside depth ('>' :: '\x7d' :: before) rest
  | c :: rest => piecesInside depth (c :: before) rest
  | [] => [.broken]

end

/-- The pieces of an argument. -/
def argumentPieces (cs : List Char) : List Piece :=
  piecesOutside [] cs

/-! ### Pieces of a tag -/

/-- The keys of a chain and the fallback after it, still unread. -/
structure ChainText where
  parts : List (List Char)
  fallback : Option (List Char)

/-- Cuts the body of a tag, inside `brackets` brackets and `tags` tags, after the characters `key` of a key and
    the keys `before` it, both written backwards. Points and bars inside brackets or tags do not count, nor do
    brackets inside tags. -/
def chainText (whole : List Char) (brackets : Nat) (tags : Int) (key : List Char) (before : List (List Char)) :
    List Char → Except ReadError ChainText
  | [] =>
    if brackets = 0 then .ok ⟨(key.reverse :: before).reverse, none⟩
    else .error (.openBracket (String.ofList whole))
  | '<' :: '\x7b' :: rest => chainText whole brackets (tags + 1) ('\x7b' :: '<' :: key) before rest
  | '\x7d' :: '>' :: rest => chainText whole brackets (tags - 1) ('>' :: '\x7d' :: key) before rest
  | '[' :: rest => chainText whole (if tags = 0 then brackets + 1 else brackets) tags ('[' :: key) before rest
  | ']' :: rest =>
    if tags ≠ 0 then chainText whole brackets tags (']' :: key) before rest
    else
      match brackets with
      | 0 => .error (.strayBracket (String.ofList whole))
      | brackets + 1 => chainText whole brackets tags (']' :: key) before rest
  | '.' :: rest =>
    if brackets = 0 ∧ tags = 0 then chainText whole brackets tags [] (key.reverse :: before) rest
    else chainText whole brackets tags ('.' :: key) before rest
  | '|' :: '|' :: rest =>
    if brackets = 0 ∧ tags = 0 then .ok ⟨(key.reverse :: before).reverse, some rest⟩
    else chainText whole brackets tags ('|' :: '|' :: key) before rest
  | c :: rest => chainText whole brackets tags (c :: key) before rest

/-- A key and the text of its parameter. -/
structure PartText where
  key : List Char
  param : Option (List Char)

/-- Cuts a key from its parameter, which runs from the first bracket to the end. -/
def partText (whole cs : List Char) : Except ReadError PartText :=
  match Text.splitFirst '[' cs with
  | none => .ok ⟨Text.trimChars cs, none⟩
  | some (key, after) =>
    if after.getLast? = some ']' then .ok ⟨Text.trimChars key, some after.dropLast⟩
    else .error (.textAfterBracket (String.ofList whole))

/-! ### The pieces are shorter -/

mutual

theorem length_of_body_mem_piecesOutside {body before cs : List Char}
    (h : Piece.body body ∈ piecesOutside before cs) : body.length < cs.length := by
  unfold piecesOutside at h
  split at h
  · rename_i rest
    simp only [List.mem_append] at h
    rcases h with h | h
    · cases before <;> simp [Piece.ofLiteral] at h
    · have := length_of_body_mem_piecesInside h
      simp only [List.length_cons, List.length_nil] at this ⊢
      omega
  · have := length_of_body_mem_piecesOutside h
    simp only [List.length_cons]
    omega
  · cases before <;> simp [Piece.ofLiteral] at h
termination_by cs.length

theorem length_of_body_mem_piecesInside {depth : Nat} {body before cs : List Char}
    (h : Piece.body body ∈ piecesInside depth before cs) : body.length ≤ before.length + cs.length := by
  unfold piecesInside at h
  split at h
  · have := length_of_body_mem_piecesInside h
    simp only [List.length_cons] at this ⊢
    omega
  · split at h
    · simp only [List.mem_cons, Piece.body.injEq] at h
      rcases h with h | h
      · subst h
        simp only [List.length_reverse, List.length_cons]
        omega
      · have := length_of_body_mem_piecesOutside h
        simp only [List.length_cons]
        omega
    · have := length_of_body_mem_piecesInside h
      simp only [List.length_cons] at this ⊢
      omega
  · have := length_of_body_mem_piecesInside h
    simp only [List.length_cons] at this ⊢
    omega
  · simp at h
termination_by cs.length

end

/-- The body of a tag is shorter than the argument around it. -/
theorem length_of_body_mem {body cs : List Char} (h : Piece.body body ∈ argumentPieces cs) :
    body.length < cs.length :=
  length_of_body_mem_piecesOutside h

theorem length_of_chainText {whole : List Char} {brackets : Nat} {tags : Int} {key cs : List Char}
    {before : List (List Char)} {t : ChainText} {n : Nat}
    (h : chainText whole brackets tags key before cs = .ok t)
    (hn : key.length + cs.length ≤ n) (hb : ∀ p ∈ before, p.length ≤ n) :
    (∀ p ∈ t.parts, p.length ≤ n) ∧ ∀ f, t.fallback = some f → f.length < n := by
  have key_le : key.reverse.length ≤ n := by simp only [List.length_reverse]; omega
  have keys_le : ∀ p ∈ (key.reverse :: before).reverse, p.length ≤ n := by
    intro p hp
    simp only [List.mem_reverse, List.mem_cons] at hp
    rcases hp with rfl | hp
    · exact key_le
    · exact hb p hp
  unfold chainText at h
  split at h
  · split at h
    · cases h
      exact ⟨keys_le, by simp⟩
    · cases h
  · exact length_of_chainText h (by simp only [List.length_cons] at hn ⊢; omega) hb
  · exact length_of_chainText h (by simp only [List.length_cons] at hn ⊢; omega) hb
  · exact length_of_chainText h (by simp only [List.length_cons] at hn ⊢; omega) hb
  · split at h
    · exact length_of_chainText h (by simp only [List.length_cons] at hn ⊢; omega) hb
    · split at h
      · cases h
      · exact length_of_chainText h (by simp only [List.length_cons] at hn ⊢; omega) hb
  · split at h
    · refine length_of_chainText h (by simp only [List.length_cons, List.length_nil] at hn ⊢; omega) ?_
      exact fun p hp => keys_le p (List.mem_reverse.mpr hp)
    · exact length_of_chainText h (by simp only [List.length_cons] at hn ⊢; omega) hb
  · split at h
    · cases h
      refine ⟨keys_le, fun f hf => ?_⟩
      cases hf
      simp only [List.length_cons] at hn
      omega
    · exact length_of_chainText h (by simp only [List.length_cons] at hn ⊢; omega) hb
  · exact length_of_chainText h (by simp only [List.length_cons] at hn ⊢; omega) hb
termination_by cs.length

/-- No key is longer than its tag, and the fallback is shorter. -/
theorem length_of_chainText_start {cs : List Char} {t : ChainText} (h : chainText cs 0 0 [] [] cs = .ok t) :
    (∀ p ∈ t.parts, p.length ≤ cs.length) ∧ ∀ f, t.fallback = some f → f.length < cs.length :=
  length_of_chainText h (by simp) (by simp)

theorem length_of_splitFirst {sep : Char} {cs before after : List Char}
    (h : Text.splitFirst sep cs = some (before, after)) : after.length < cs.length := by
  induction cs generalizing before with
  | nil => cases h
  | cons c rest ih =>
    rw [Text.splitFirst] at h
    split at h
    · cases h
      simp
    · simp only [Option.map_eq_some_iff, Prod.mk.injEq, Prod.exists] at h
      obtain ⟨b, a, hr, -, rfl⟩ := h
      have := ih hr
      simp only [List.length_cons]
      omega

/-- A parameter is shorter than the text of its key. -/
theorem length_of_partText {whole cs param : List Char} {t : PartText} (h : partText whole cs = .ok t)
    (hp : t.param = some param) : param.length < cs.length := by
  unfold partText at h
  split at h
  · cases h
    cases hp
  · rename_i key after hs
    split at h
    · cases h
      cases hp
      have := length_of_splitFirst hs
      simp only [List.length_dropLast]
      omega
    · cases h

/-! ### Reading -/

mutual

/-- Reads an argument. -/
def readArgument (cs : List Char) : Except ReadError Argument := do
  let segments ← (argumentPieces cs).attach.mapM fun
    | ⟨.literal text, _⟩ => return .text (String.ofList text)
    | ⟨.body body, h⟩ =>
      have := length_of_body_mem h
      return .tag (← readTag body)
    | ⟨.broken, _⟩ => throw (.openTag (String.ofList cs))
  return ⟨if segments.isEmpty then [.text ""] else segments, false⟩
termination_by cs.length

/-- Reads the body of a tag. The fallback is read before the parameters. -/
def readTag (cs : List Char) : Except ReadError Tag :=
  match ht : chainText cs 0 0 [] [] cs with
  | .error e => .error e
  | .ok t => do
    let fallback ←
      match hf : t.fallback with
      | none => pure none
      | some text =>
        have := (length_of_chainText_start ht).2 text hf
        some <$> readArgument text
    let parts ← t.parts.attach.mapM fun ⟨text, hm⟩ =>
      match hp : partText cs text with
      | .error e => throw e
      | .ok ⟨key, none⟩ => return (⟨String.ofList key, none⟩ : Part)
      | .ok ⟨key, some param⟩ => do
        have := length_of_partText hp rfl
        have := (length_of_chainText_start ht).1 text hm
        return (⟨String.ofList key, some (← readArgument param)⟩ : Part)
    return ⟨parts, fallback⟩
termination_by cs.length

end

/-- The argument that a text writes. -/
def Argument.read (s : String) : Except ReadError Argument :=
  readArgument s.toList

/-- The tag that a text between tag delimiters writes. -/
def Tag.read (s : String) : Except ReadError Tag :=
  readTag s.toList

end CommandScript
