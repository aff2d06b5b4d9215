import CommandScript.Proofs.Tag.Readings

/-! The source form of arguments, put together from the source forms of their parts. The source form of what is read
    from a text differs from the text only in what tags hold, and a tag that is read from a balanced text has a balanced
    source form. -/

namespace CommandScript

/-! ### Source forms put together -/

mutual

theorem Segment.write_eq (after : List Char) (s : Segment) : s.write after = s.write [] ++ after := by
  cases s with
  | text s => simp [Segment.write]
  | tag t =>
    rw [Segment.write, Segment.write, t.write_eq, t.write_eq ['\x7d', '>']]
    simp

theorem writeSegments_eq (after : List Char) (segments : List Segment) :
    writeSegments after segments = writeSegments [] segments ++ after := by
  cases segments with
  | nil => rfl
  | cons s rest =>
    rw [writeSegments, writeSegments, s.write_eq, s.write_eq (writeSegments [] rest), writeSegments_eq after rest,
      List.append_assoc]

theorem Argument.write_eq (after : List Char) (a : Argument) : a.write after = a.source ++ after := by
  obtain ⟨segments, quoted⟩ := a
  exact writeSegments_eq after segments

theorem Tag.write_eq (after : List Char) (t : Tag) : t.write after = t.write [] ++ after := by
  obtain ⟨parts, fallback⟩ := t
  rw [Tag.write, Tag.write, writeParts_eq, writeParts_eq (writeFallback [] fallback), writeFallback_eq,
    List.append_assoc]

theorem writeParts_eq (after : List Char) (parts : List Part) :
    writeParts after parts = writeParts [] parts ++ after := by
  match parts with
  | [] => rfl
  | [p] => exact p.write_eq after
  | p :: q :: rest =>
    rw [writeParts, writeParts, p.write_eq, p.write_eq ('.' :: _), writeParts_eq after (q :: rest)]
    simp

theorem Part.write_eq (after : List Char) (p : Part) : p.write after = p.write [] ++ after := by
  obtain ⟨key, param⟩ := p
  rw [Part.write, Part.write, writeParam_eq, List.append_assoc]

theorem writeParam_eq (after : List Char) (param : Option Argument) :
    writeParam after param = writeParam [] param ++ after := by
  cases param with
  | none => rfl
  | some a =>
    rw [writeParam, writeParam, a.write_eq, a.write_eq [']']]
    simp

theorem writeFallback_eq (after : List Char) (fallback : Option Argument) :
    writeFallback after fallback = writeFallback [] fallback ++ after := by
  cases fallback with
  | none => rfl
  | some a =>
    rw [writeFallback, writeFallback, a.write_eq, a.write_eq []]
    simp

end

/-- A segment as a piece of its argument. -/
def Segment.piece : Segment → Piece
  | text s => .literal s.toList
  | tag t => .body (t.write [])

theorem writeSegments_eq_chars (segments : List Segment) :
    writeSegments [] segments = (segments.map Segment.piece).flatMap Piece.chars := by
  induction segments with
  | nil => rfl
  | cons s rest ih =>
    rw [writeSegments, s.write_eq, ih]
    cases s with
    | text s => simp [Segment.write, Segment.piece, Piece.chars]
    | tag t =>
      rw [Segment.write, t.write_eq]
      simp [Segment.piece, Piece.chars]

/-- A key with its parameter as text. -/
def Part.texts (p : Part) : PartText :=
  ⟨p.key.toList, p.param.map Argument.source⟩

theorem Part.chars_texts (p : Part) : p.texts.chars = p.write [] := by
  obtain ⟨key, param⟩ := p
  cases param with
  | none => simp [Part.texts, PartText.chars, Part.write, writeParam]
  | some a =>
    rw [Part.write, writeParam, a.write_eq]
    simp [Part.texts, PartText.chars]

/-- A tag as texts of its keys and its fallback. -/
def Tag.texts (t : Tag) : ChainText :=
  ⟨t.parts.map (Part.write []), t.fallback.map Argument.source⟩

theorem writeParts_eq_dotted (parts : List Part) : writeParts [] parts = dotted (parts.map (Part.write [])) := by
  match parts with
  | [] => rfl
  | [p] => rfl
  | p :: q :: rest =>
    rw [writeParts, p.write_eq, writeParts_eq_dotted (q :: rest)]
    rfl

theorem Tag.chars_texts (t : Tag) : t.texts.chars = t.write [] := by
  obtain ⟨parts, fallback⟩ := t
  rw [Tag.write, writeParts_eq, writeParts_eq_dotted, ChainText.chars, Tag.texts]
  cases fallback with
  | none => rfl
  | some a =>
    rw [writeFallback, ← Argument.source]
    rfl

theorem source_of_segments {segments : List Segment} :
    Argument.source ⟨if segments.isEmpty then [.text ""] else segments, false⟩ =
      (segments.map Segment.piece).flatMap Piece.chars := by
  rw [← writeSegments_eq_chars]
  cases segments <;> rfl

/-! ### Source forms of what is read -/

theorem balanced_of_rel {fallback other : Option (List Char)} (h : Option.Rel Alike fallback other)
    (balanced : ∀ f ∈ fallback, Balanced f) : ∀ f ∈ other, Balanced f := by
  cases h with
  | none => nofun
  | some alike =>
    rintro _ ⟨⟩
    exact alike.balanced (balanced _ rfl)

mutual

/-- What is read from a text is written as the text but for what its tags hold. -/
theorem ReadsArgument.alike {cs : List Char} {a : Argument} : ReadsArgument cs a → Alike cs a.source
  | .segments pieces => by
    rw [Alike, source_of_segments, argumentPieces_of_alike pieces.alike]
    exact pieces.alike

theorem ReadsPieces.alike {pieces : List Piece} {segments : List Segment} :
    ReadsPieces pieces segments → List.Forall₂ Piece.Alike pieces (segments.map Segment.piece)
  | .nil => .nil
  | @ReadsPieces.literal cs _ _ later => by
    refine .cons ?_ later.alike
    rw [Segment.piece, String.toList_ofList]
    exact .literal cs
  | .body balanced tag later => .cons (.body balanced (tag.balanced balanced)) later.alike

theorem ReadsTag.balanced {cs : List Char} {t : Tag} : ReadsTag cs t → Balanced cs → Balanced (t.write [])
  | .chain cut fallback parts, balanced => by
    have single := parts.single
    have alike := fallback.alike
    obtain ⟨keys, rfl⟩ := (chainText_eq_ok balanced).mp cut
    rw [← Tag.chars_texts]
    exact (balanced_chars (List.forall_mem_map.mpr (single keys.single))).mpr
      (balanced_of_rel alike ((balanced_chars keys.single).mp balanced))

theorem ReadsParts.single {whole : List Char} {texts : List (List Char)} {parts : List Part} :
    ReadsParts whole texts parts → (∀ p ∈ texts, SingleKey p) → ∀ p ∈ parts, SingleKey (p.write [])
  | .nil, _ => nofun
  | .cons cut param later, single => by
    obtain ⟨first, rest⟩ := List.forall_mem_cons.mp single
    refine List.forall_mem_cons.mpr ⟨?_, later.single rest⟩
    rw [← Part.chars_texts, Part.texts, String.toList_ofList]
    exact singleKey_of_partText first cut param.alike

theorem ReadsOptional.alike {text : Option (List Char)} {a : Option Argument} :
    ReadsOptional text a → Option.Rel Alike text (a.map Argument.source)
  | .none => .none
  | .some argument => .some argument.alike

end

end CommandScript
