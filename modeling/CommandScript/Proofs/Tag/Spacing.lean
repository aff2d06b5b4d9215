import CommandScript.Proofs.Tag.Sources

/-! What reading an argument and writing it again takes away of its text: blanks at the ends of keys, and nothing else.
    Two texts of one argument are related as its segments, tags and keys are put together in both, and outside tags
    they are the same. -/

namespace CommandScript
open Text

/-! ### Texts without the blanks around keys -/

mutual

/-- Two texts of an argument, the second without the blanks around keys. -/
inductive TrimsArgument : Argument → (raw shown : List Char) → Prop
  | segments {segments : List Segment} {quoted : Bool} {raw shown : List Char}
    (all : TrimsSegments segments raw shown) : TrimsArgument ⟨segments, quoted⟩ raw shown

/-- Two texts of segments in a row: literal text is the same in both. -/
inductive TrimsSegments : List Segment → (raw shown : List Char) → Prop
  | nil : TrimsSegments [] [] []
  | text {segments : List Segment} {raw shown : List Char} (s : String) (later : TrimsSegments segments raw shown) :
    TrimsSegments (.text s :: segments) (s.toList ++ raw) (s.toList ++ shown)
  | tag {t : Tag} {segments : List Segment} {body body' raw shown : List Char} (tag : TrimsTag t body body')
    (later : TrimsSegments segments raw shown) :
    TrimsSegments (.tag t :: segments) ('<' :: '\x7b' :: (body ++ '\x7d' :: '>' :: raw))
      ('<' :: '\x7b' :: (body' ++ '\x7d' :: '>' :: shown))

/-- Two texts of a tag, without its delimiters. -/
inductive TrimsTag : Tag → (raw shown : List Char) → Prop
  | chain {parts : List Part} {fallback : Option Argument} {raw shown raw' shown' : List Char}
    (keys : TrimsParts parts raw shown) (last : TrimsFallback fallback raw' shown') :
    TrimsTag ⟨parts, fallback⟩ (raw ++ raw') (shown ++ shown')

/-- Two texts of the keys of a chain. -/
inductive TrimsParts : List Part → (raw shown : List Char) → Prop
  | last {p : Part} {raw shown : List Char} (key : TrimsPart p raw shown) : TrimsParts [p] raw shown
  | point {p q : Part} {parts : List Part} {raw shown raw' shown' : List Char} (key : TrimsPart p raw shown)
    (later : TrimsParts (q :: parts) raw' shown') :
    TrimsParts (p :: q :: parts) (raw ++ '.' :: raw') (shown ++ '.' :: shown')

/-- Two texts of a key with its parameter, the first with blanks on both sides of the key. -/
inductive TrimsPart : Part → (raw shown : List Char) → Prop
  | key {key : String} {param : Option Argument} {left right raw shown : List Char}
    (left_blank : ∀ c ∈ left, isBlank c = true) (right_blank : ∀ c ∈ right, isBlank c = true)
    (bracket : TrimsParam param raw shown) :
    TrimsPart ⟨key, param⟩ (left ++ (key.toList ++ (right ++ raw))) (key.toList ++ shown)

/-- Two texts of a parameter. -/
inductive TrimsParam : Option Argument → (raw shown : List Char) → Prop
  | none : TrimsParam none [] []
  | some {a : Argument} {raw shown : List Char} (argument : TrimsArgument a raw shown) :
    TrimsParam (some a) ('[' :: (raw ++ [']'])) ('[' :: (shown ++ [']']))

/-- Two texts of a fallback. -/
inductive TrimsFallback : Option Argument → (raw shown : List Char) → Prop
  | none : TrimsFallback none [] []
  | some {a : Argument} {raw shown : List Char} (argument : TrimsArgument a raw shown) :
    TrimsFallback (some a) ('|' :: '|' :: raw) ('|' :: '|' :: shown)

end

/-! ### The source form is trimmed -/

mutual

theorem ReadsArgument.trims {cs : List Char} {a : Argument} : ReadsArgument cs a → TrimsArgument a cs a.source
  | .segments pieces => by
    have chars := chars_argumentPieces (not_broken_of_alike pieces.alike).1
    have trims := pieces.trims
    rw [chars, writeSegments_eq_chars] at trims
    rw [source_of_segments]
    refine .segments ?_
    -- An argument without pieces is the empty text.
    split
    · rename_i empty
      rw [List.isEmpty_iff.mp empty] at trims ⊢
      cases trims
      exact .text "" .nil
    · exact trims

theorem ReadsPieces.trims {pieces : List Piece} {segments : List Segment} : ReadsPieces pieces segments →
    TrimsSegments segments (pieces.flatMap Piece.chars) (writeSegments [] segments)
  | .nil => .nil
  | @ReadsPieces.literal cs _ _ later => by
    rw [writeSegments, Segment.write, List.flatMap_cons, Piece.chars]
    have text := TrimsSegments.text (String.ofList cs) later.trims
    rwa [String.toList_ofList] at text ⊢
  | .body balanced tag later => by
    rw [writeSegments, Segment.write, Tag.write_eq, List.flatMap_cons, Piece.chars, List.cons_append,
      List.cons_append, List.append_assoc]
    exact .tag (tag.trims balanced) later.trims

theorem ReadsTag.trims {cs : List Char} {t : Tag} : ReadsTag cs t → Balanced cs → TrimsTag t cs (t.write [])
  | .chain cut readsFallback readsParts, balanced => by
    obtain ⟨keys, chars⟩ := (chainText_eq_ok balanced).mp cut
    rw [← chars, Tag.write, writeParts_eq, writeParts_eq_dotted]
    exact .chain (readsParts.trims keys.keyed) readsFallback.trimsFallback

theorem ReadsParts.trims {whole : List Char} {texts : List (List Char)} {parts : List Part} :
    ReadsParts whole texts parts → texts ≠ [] → TrimsParts parts (dotted texts) (dotted (parts.map (Part.write [])))
  | .nil, keyed => absurd rfl keyed
  | @ReadsParts.cons _ cs text param _ _ cut readsParam later, _ => by
    obtain ⟨-, left, right, left_blank, right_blank, raw⟩ := partText_eq_ok.mp cut
    have key : TrimsPart ⟨String.ofList text.key, param⟩ _ _ := .key left_blank right_blank readsParam.trimsParam
    rw [String.toList_ofList, ← raw] at key
    have rest := later.trims
    rw [List.map_cons, ← Part.chars_texts, Part.texts, String.toList_ofList]
    cases later with
    | nil => exact .last key
    | cons => exact .point key (rest (List.cons_ne_nil _ _))

theorem ReadsOptional.trimsParam {text : Option (List Char)} {a : Option Argument} : ReadsOptional text a →
    TrimsParam a (bracketed text) (bracketed (a.map Argument.source))
  | .none => .none
  | .some argument => .some argument.trims

theorem ReadsOptional.trimsFallback {text : Option (List Char)} {a : Option Argument} : ReadsOptional text a →
    TrimsFallback a ((text.map fun f => '|' :: '|' :: f).getD []) (writeFallback [] a)
  | .none => .none
  | .some argument => .some argument.trims

end

/-! ### Only blanks are lost -/

/-- A text without some of the blanks of another. -/
structure LosesBlanks (raw shown : List Char) : Prop where
  sublist : shown.Sublist raw
  solid : solid shown = solid raw

namespace LosesBlanks
variable {raw shown raw' shown' : List Char}

theorem refl (cs : List Char) : LosesBlanks cs cs :=
  ⟨.refl cs, rfl⟩

theorem append (h : LosesBlanks raw shown) (h' : LosesBlanks raw' shown') :
    LosesBlanks (raw ++ raw') (shown ++ shown') :=
  ⟨h.sublist.append h'.sublist, by rw [solid_append, solid_append, h.solid, h'.solid]⟩

theorem cons (h : LosesBlanks raw shown) (c : Char) : LosesBlanks (c :: raw) (c :: shown) :=
  (refl [c]).append h

theorem blanks {bs : List Char} (blank : ∀ c ∈ bs, isBlank c = true) (h : LosesBlanks raw shown) :
    LosesBlanks (bs ++ raw) shown :=
  ⟨h.sublist.trans (List.sublist_append_right _ _), by rw [solid_append, solid_eq_nil.mpr blank, h.solid]; rfl⟩

end LosesBlanks

mutual

theorem TrimsArgument.losesBlanks {a : Argument} {raw shown : List Char} :
    TrimsArgument a raw shown → LosesBlanks raw shown
  | .segments all => all.losesBlanks

theorem TrimsSegments.losesBlanks {segments : List Segment} {raw shown : List Char} :
    TrimsSegments segments raw shown → LosesBlanks raw shown
  | .nil => .refl []
  | .text s later => (LosesBlanks.refl s.toList).append later.losesBlanks
  | .tag tag later => ((tag.losesBlanks.append ((later.losesBlanks.cons '>').cons '\x7d')).cons '\x7b').cons '<'

theorem TrimsTag.losesBlanks {t : Tag} {raw shown : List Char} : TrimsTag t raw shown → LosesBlanks raw shown
  | .chain keys last => keys.losesBlanks.append last.losesBlanks

theorem TrimsParts.losesBlanks {parts : List Part} {raw shown : List Char} :
    TrimsParts parts raw shown → LosesBlanks raw shown
  | .last key => key.losesBlanks
  | .point key later => key.losesBlanks.append (later.losesBlanks.cons '.')

theorem TrimsPart.losesBlanks {p : Part} {raw shown : List Char} : TrimsPart p raw shown → LosesBlanks raw shown
  | .key left_blank right_blank bracket =>
    .blanks left_blank ((LosesBlanks.refl _).append (.blanks right_blank bracket.losesBlanks))

theorem TrimsParam.losesBlanks {param : Option Argument} {raw shown : List Char} :
    TrimsParam param raw shown → LosesBlanks raw shown
  | .none => .refl []
  | .some argument => (argument.losesBlanks.append (.refl [']'])).cons '['

theorem TrimsFallback.losesBlanks {fallback : Option Argument} {raw shown : List Char} :
    TrimsFallback fallback raw shown → LosesBlanks raw shown
  | .none => .refl []
  | .some argument => (argument.losesBlanks.cons '|').cons '|'

end

/-- Reading an argument loses no character that is not blank. -/
theorem ReadsArgument.count_source {cs : List Char} {a : Argument} (h : ReadsArgument cs a) {c : Char}
    (hc : isBlank c = false) : a.source.count c = cs.count c := by
  rw [← count_solid hc, h.trims.losesBlanks.solid, count_solid hc]

/-- The text of what is read is the text that it was read from, but for blanks at the ends of keys: every other
    character is there, in the same order, and outside tags nothing has changed. -/
theorem Argument.read_trims {s : String} {a : Argument} (h : Argument.read s = .ok a) :
    TrimsArgument a s.toList a.toText.toList ∧ solid a.toText.toList = solid s.toList ∧
      outsideTags 0 a.toText.toList = outsideTags 0 s.toList := by
  have reads : ReadsArgument s.toList a := readArgument_eq_ok.mp h
  rw [Argument.toText, String.toList_ofList]
  exact ⟨reads.trims, reads.trims.losesBlanks.solid, reads.alike.outside⟩

theorem Argument.read_trims_nested :
    TrimsArgument ⟨[.text " ", .tag ⟨[⟨"a", none⟩, ⟨"b", some ⟨[.tag ⟨[⟨"c", none⟩], none⟩], false⟩⟩],
      some ⟨[.text " d "], false⟩⟩], false⟩ " <{ a . b [<{ c }>]|| d }>".toList " <{a.b[<{c}>]|| d }>".toList :=
  (Argument.read_trims (by cbv)).1

end CommandScript
