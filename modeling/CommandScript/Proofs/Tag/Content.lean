import CommandScript.Proofs.Outcome
import CommandScript.Proofs.Text.Blank
import CommandScript.Tag.Reader

/-! The pieces that arguments and tags are cut into. Put together, they give back the text that was cut. -/

namespace CommandScript
open Text

/-! ### Pieces put together -/

/-- The text of a piece. -/
def Piece.chars : Piece → List Char
  | .literal cs => cs
  | .body cs => '<' :: '\x7b' :: (cs ++ ['\x7d', '>'])
  | .broken => []

theorem Piece.chars_ofLiteral (before : List Char) :
    (Piece.ofLiteral before).flatMap Piece.chars = before.reverse := by
  cases before <;> simp [Piece.ofLiteral, Piece.chars]

mutual

theorem chars_piecesOutside {before cs : List Char} {ps : List Piece} (h : piecesOutside before cs = ps)
    (hb : Piece.broken ∉ ps) : ps.flatMap Piece.chars = before.reverse ++ cs := by
  unfold piecesOutside at h
  split at h <;> subst h
  · rw [List.flatMap_append, Piece.chars_ofLiteral,
      chars_piecesInside rfl fun h => hb (List.mem_append_right _ h)]
    rfl
  · rw [chars_piecesOutside rfl hb, List.reverse_cons, List.append_assoc]
    rfl
  · rw [Piece.chars_ofLiteral, List.append_nil]
termination_by cs.length

theorem chars_piecesInside {depth : Nat} {before cs : List Char} {ps : List Piece}
    (h : piecesInside depth before cs = ps) (hb : Piece.broken ∉ ps) :
    ps.flatMap Piece.chars = '<' :: '\x7b' :: (before.reverse ++ cs) := by
  unfold piecesInside at h
  split at h
  · rw [chars_piecesInside h hb]
    simp
  · split at h
    · subst h
      rw [List.flatMap_cons, chars_piecesOutside rfl fun h => hb (List.mem_cons_of_mem _ h)]
      simp [Piece.chars]
    · rw [chars_piecesInside h hb]
      simp
  · rw [chars_piecesInside h hb]
    simp
  · subst h
    simp at hb
termination_by cs.length

end

/-- The pieces of an argument are its text. -/
theorem chars_argumentPieces {cs : List Char} (h : Piece.broken ∉ argumentPieces cs) :
    (argumentPieces cs).flatMap Piece.chars = cs :=
  chars_piecesOutside rfl h

/-- The keys of a chain with points between them. -/
def dotted : List (List Char) → List Char
  | [] => []
  | [k] => k
  | k :: l :: rest => k ++ '.' :: dotted (l :: rest)

/-- The text of a chain with its fallback. -/
def ChainText.chars (t : ChainText) : List Char :=
  dotted t.parts ++ (t.fallback.map fun f => '|' :: '|' :: f).getD []

/-- The text of a key with its parameter, without the blanks around the key. -/
def PartText.chars (t : PartText) : List Char :=
  t.key ++ (t.param.map fun p => '[' :: (p ++ [']'])).getD []

end CommandScript
