import CommandScript.Proofs.Tag.Sources

/-! Reading the source form of an argument again. Trimming can put the bar at the end of a key right before the two bars
    of a fallback, and only there does it make a delimiter that was not in the text: but for such keys, the source form
    of what is read is read as the same. -/

namespace CommandScript
open Text

/-! ### Tags at every depth -/

mutual

/-- The tags in a segment, with those inside other tags. -/
def Segment.tagsWithin : Segment → List Tag
  | .text _ => []
  | .tag t => t :: t.tagsWithin

/-- The tags in segments. -/
def tagsInSegments : List Segment → List Tag
  | [] => []
  | s :: rest => s.tagsWithin ++ tagsInSegments rest

/-- The tags in an argument, with those inside other tags. -/
def Argument.tagsWithin : Argument → List Tag
  | ⟨segments, _⟩ => tagsInSegments segments

/-- The tags inside a tag. -/
def Tag.tagsWithin : Tag → List Tag
  | ⟨parts, fallback⟩ => tagsInParts parts ++ tagsInOptional fallback

/-- The tags in the parameters of keys. -/
def tagsInParts : List Part → List Tag
  | [] => []
  | p :: rest => p.tagsWithin ++ tagsInParts rest

/-- The tags in the parameter of a key. -/
def Part.tagsWithin : Part → List Tag
  | ⟨_, param⟩ => tagsInOptional param

/-- The tags in a parameter or a fallback, if there is one. -/
def tagsInOptional : Option Argument → List Tag
  | none => []
  | some a => a.tagsWithin

end

/-- Whether a bar stands right before the two bars of the fallback of a tag: at the end of the last key, which has no
    parameter. -/
def Tag.barred (t : Tag) : Bool :=
  t.fallback.isSome && t.parts.getLast?.any fun p => p.param.isNone && p.key.toList.getLast? == some '|'

/-! ### The source form is read as the same -/

theorem getLast?_write {p : Part} (h : (p.write []).getLast? = some '|') :
    p.param.isNone ∧ p.key.toList.getLast? = some '|' := by
  obtain ⟨key, param⟩ := p
  cases param with
  | none => simpa [Part.write, writeParam] using h
  | some a =>
    rw [Part.write, writeParam, a.write_eq, ← List.cons_append, ← List.append_assoc, List.getLast?_concat] at h
    cases h

/-- A tag that is not barred is cut into its keys and its fallback where it is written. -/
theorem Tag.cut_texts {t : Tag} (keyed : t.parts ≠ []) (single : ∀ p ∈ t.parts, SingleKey (p.write []))
    (clear : t.barred = false) : t.texts.Cut where
  keyed := by simpa [Tag.texts] using keyed
  single := List.forall_mem_map.mpr single
  unbarred := by
    intro fallback p hp bar
    rw [Tag.texts] at fallback hp
    rw [List.getLast?_map] at hp
    obtain ⟨q, hq, rfl⟩ := Option.map_eq_some_iff.mp hp
    rw [Option.isSome_map] at fallback
    have last := getLast?_write bar
    rw [Tag.barred, fallback, hq] at clear
    simp [last] at clear

theorem ReadsParts.ne_nil {whole : List Char} {texts : List (List Char)} {parts : List Part}
    (h : ReadsParts whole texts parts) (keyed : texts ≠ []) : parts ≠ [] := by
  cases h with
  | nil => exact absurd rfl keyed
  | cons => exact List.cons_ne_nil _ _

mutual

theorem ReadsArgument.again {cs : List Char} {a : Argument} :
    ReadsArgument cs a → (∀ t ∈ a.tagsWithin, t.barred = false) → ReadsArgument a.source a
  | @ReadsArgument.segments _ segments pieces, clear => by
    have own : ReadsPieces (segments.map Segment.piece) segments := pieces.again fun t ht => clear t (by
      cases segments with
      | nil => cases ht
      | cons => exact ht)
    refine .segments ?_
    rw [source_of_segments, argumentPieces_of_alike pieces.alike]
    exact own

theorem ReadsPieces.again {pieces : List Piece} {segments : List Segment} : ReadsPieces pieces segments →
    (∀ t ∈ tagsInSegments segments, t.barred = false) → ReadsPieces (segments.map Segment.piece) segments
  | .nil, _ => .nil
  | @ReadsPieces.literal cs _ _ later, clear => by
    rw [List.map_cons, Segment.piece, String.toList_ofList]
    exact .literal (later.again clear)
  | .body balanced tag later, clear => by
    obtain ⟨own, rest⟩ := List.forall_mem_append.mp clear
    obtain ⟨first, inner⟩ := List.forall_mem_cons.mp own
    exact .body (tag.balanced balanced) (tag.again balanced first inner) (later.again rest)

theorem ReadsTag.again {cs : List Char} {t : Tag} : ReadsTag cs t → Balanced cs → t.barred = false →
    (∀ inner ∈ t.tagsWithin, Tag.barred inner = false) → ReadsTag (t.write []) t
  | .chain cut readsFallback readsParts, balanced, own, clear => by
    obtain ⟨inParts, inFallback⟩ := List.forall_mem_append.mp clear
    have written := (ReadsTag.chain cut readsFallback readsParts).balanced balanced
    have keys := ((chainText_eq_ok balanced).mp cut).1
    have texts : Tag.texts _ |>.Cut :=
      Tag.cut_texts (readsParts.ne_nil keys.keyed) (readsParts.single keys.single) own
    exact .chain ((chainText_eq_ok written).mpr ⟨texts, Tag.chars_texts _⟩) (readsFallback.again inFallback)
      (readsParts.again inParts)

theorem ReadsParts.again {whole whole' : List Char} {texts : List (List Char)} {parts : List Part} :
    ReadsParts whole texts parts → (∀ t ∈ tagsInParts parts, t.barred = false) →
    ReadsParts whole' (parts.map (Part.write [])) parts
  | .nil, _ => .nil
  | @ReadsParts.cons _ _ text param _ _ cut readsParam later, clear => by
    obtain ⟨own, rest⟩ := List.forall_mem_append.mp clear
    have bare := @partText_of_partText whole whole' _ text cut (param.map Argument.source)
    rw [List.map_cons, ← Part.chars_texts, Part.texts, String.toList_ofList]
    exact @ReadsParts.cons _ _ ⟨text.key, param.map Argument.source⟩ _ _ _ bare (readsParam.again own)
      (later.again rest)

theorem ReadsOptional.again {text : Option (List Char)} {a : Option Argument} : ReadsOptional text a →
    (∀ t ∈ tagsInOptional a, t.barred = false) → ReadsOptional (a.map Argument.source) a
  | .none, _ => .none
  | .some argument, clear => .some (argument.again clear)

end

/-! ### Texts that are as short as the source form -/

/-- The length of texts in a row with one character behind each. -/
def spread : List (List Char) → Nat
  | [] => 0
  | cs :: rest => cs.length + 1 + spread rest

theorem length_dotted {texts : List (List Char)} (h : texts ≠ []) : (dotted texts).length + 1 = spread texts := by
  match texts, h with
  | [cs], _ => simp [dotted, spread]
  | cs :: cs' :: rest, _ =>
    have ih := length_dotted (List.cons_ne_nil cs' rest)
    show _ = cs.length + 1 + spread (cs' :: rest)
    rw [dotted, List.length_append, List.length_cons, ih]
    omega

theorem length_chars {t : ChainText} (h : t.parts ≠ []) :
    t.chars.length + 1 = spread t.parts + (bracketed t.fallback).length := by
  rw [ChainText.chars, List.length_append, ← length_dotted h]
  cases t.fallback <;> simp [bracketed]
  omega

theorem Tag.not_barred {t : Tag} {texts : ChainText} (cut : texts.Cut)
    (last : ∀ p ∈ t.parts.getLast?, p.param = none → texts.parts.getLast? = some p.key.toList)
    (fallback : t.fallback.isSome → texts.fallback.isSome) : t.barred = false := by
  rw [← Bool.not_eq_true]
  intro barred
  rw [Tag.barred, Bool.and_eq_true, Option.any_eq_true] at barred
  obtain ⟨some_fallback, p, hp, bar⟩ := barred
  rw [Bool.and_eq_true, Option.isNone_iff_eq_none, beq_iff_eq] at bar
  exact cut.unbarred (fallback some_fallback) _ (last p hp bar.1) bar.2

theorem ReadsOptional.isSome {text : Option (List Char)} {a : Option Argument} (h : ReadsOptional text a) :
    a.isSome = text.isSome := by
  cases h <;> rfl

mutual

/-- The source form of what is read from a text is not longer than the text, and if it is as long, trimming has put no
    bar before those of a fallback. -/
theorem ReadsArgument.tight {cs : List Char} {a : Argument} : ReadsArgument cs a →
    a.source.length ≤ cs.length ∧ (cs.length ≤ a.source.length → ∀ t ∈ a.tagsWithin, t.barred = false)
  | @ReadsArgument.segments cs segments pieces => by
    have chars : (argumentPieces cs).flatMap Piece.chars = cs :=
      chars_argumentPieces (not_broken_of_alike pieces.alike).1
    obtain ⟨shorter, tight⟩ := pieces.tight
    rw [chars] at shorter tight
    rw [source_of_segments]
    refine ⟨shorter, fun h t ht => tight h t ?_⟩
    cases segments with
    | nil => cases ht
    | cons => exact ht

theorem ReadsPieces.tight {pieces : List Piece} {segments : List Segment} : ReadsPieces pieces segments →
    ((segments.map Segment.piece).flatMap Piece.chars).length ≤ (pieces.flatMap Piece.chars).length ∧
      ((pieces.flatMap Piece.chars).length ≤ ((segments.map Segment.piece).flatMap Piece.chars).length →
        ∀ t ∈ tagsInSegments segments, t.barred = false)
  | .nil => ⟨Nat.le_refl 0, nofun⟩
  | .literal later => by
    obtain ⟨shorter, tight⟩ := later.tight
    simp only [List.map_cons, List.flatMap_cons, List.length_append, Segment.piece, String.toList_ofList]
    exact ⟨by omega, fun h => tight (by omega)⟩
  | .body balanced tag later => by
    obtain ⟨shorter, tight⟩ := later.tight
    obtain ⟨own_shorter, own_tight⟩ := tag.tight balanced
    simp only [List.map_cons, List.flatMap_cons, List.length_append, Segment.piece, Piece.chars, List.length_cons]
    refine ⟨by omega, fun h => List.forall_mem_append.mpr ⟨?_, tight (by omega)⟩⟩
    exact List.forall_mem_cons.mpr (own_tight (by omega))

theorem ReadsTag.tight {cs : List Char} {t : Tag} : ReadsTag cs t → Balanced cs →
    (t.write []).length ≤ cs.length ∧
      (cs.length ≤ (t.write []).length → t.barred = false ∧ ∀ inner ∈ t.tagsWithin, Tag.barred inner = false)
  | @ReadsTag.chain _ texts parts fallback cut readsFallback readsParts, balanced => by
    obtain ⟨shorter, tight⟩ := readsParts.tight
    obtain ⟨fallback_shorter, fallback_tight⟩ := readsFallback.tight
    obtain ⟨keys, chars⟩ := (chainText_eq_ok balanced).mp cut
    have own := length_chars keys.keyed
    rw [chars] at own
    have written : _ = spread (parts.map (Part.write [])) + (bracketed (fallback.map Argument.source)).length :=
      length_chars (t := Tag.texts ⟨parts, fallback⟩) (by simpa [Tag.texts] using readsParts.ne_nil keys.keyed)
    rw [Tag.chars_texts] at written
    refine ⟨by omega, fun h => ?_⟩
    -- Neither the keys nor the fallback have grown, so neither has become shorter where the whole has not.
    obtain ⟨inner, last⟩ := tight (by omega)
    exact ⟨Tag.not_barred keys last (readsFallback.isSome ▸ id),
      List.forall_mem_append.mpr ⟨inner, fallback_tight (by omega)⟩⟩

theorem ReadsParts.tight {whole : List Char} {texts : List (List Char)} {parts : List Part} :
    ReadsParts whole texts parts → spread (parts.map (Part.write [])) ≤ spread texts ∧
      (spread texts ≤ spread (parts.map (Part.write [])) → (∀ t ∈ tagsInParts parts, t.barred = false) ∧
        ∀ p ∈ parts.getLast?, p.param = none → texts.getLast? = some p.key.toList)
  | .nil => ⟨Nat.le_refl 0, fun _ => ⟨nofun, nofun⟩⟩
  | @ReadsParts.cons _ cs text param texts parts cut readsParam later => by
    obtain ⟨shorter, tight⟩ := later.tight
    obtain ⟨param_shorter, param_tight⟩ := readsParam.tight
    obtain ⟨-, left, right, -, -, raw⟩ := partText_eq_ok.mp cut
    have own := congrArg List.length raw
    have written := congrArg List.length (Part.chars_texts ⟨String.ofList text.key, param⟩)
    simp only [List.length_append] at own
    simp only [PartText.chars, Part.texts, String.toList_ofList, List.length_append] at written
    rw [← bracketed] at written
    rw [List.map_cons, spread, spread]
    refine ⟨by omega, fun h => ?_⟩
    obtain ⟨inner, last⟩ := tight (by omega)
    refine ⟨List.forall_mem_append.mpr ⟨param_tight (by omega), inner⟩, ?_⟩
    cases later with
    | cons => simpa using last
    | nil =>
      rintro p hp bare
      cases hp
      obtain rfl : param = none := bare
      have unopened : text.param = none := by simpa using readsParam.isSome
      rw [unopened] at raw own
      rw [Option.map_none] at written
      -- A key as long as its text had no blanks around it.
      have left_nil : left = [] := List.eq_nil_of_length_eq_zero (by omega)
      have right_nil : right = [] := List.eq_nil_of_length_eq_zero (by omega)
      rw [raw, left_nil, right_nil]
      simp [bracketed]

theorem ReadsOptional.tight {text : Option (List Char)} {a : Option Argument} : ReadsOptional text a →
    (bracketed (a.map Argument.source)).length ≤ (bracketed text).length ∧
      ((bracketed text).length ≤ (bracketed (a.map Argument.source)).length →
        ∀ t ∈ tagsInOptional a, t.barred = false)
  | .none => ⟨Nat.le_refl 0, nofun⟩
  | .some argument => by
    obtain ⟨shorter, tight⟩ := argument.tight
    simp only [bracketed, Option.map_some, Option.getD_some, List.length_cons, List.length_append]
    exact ⟨by omega, fun h => tight (by omega)⟩

end

/-- The text of what is read is read as the same exactly if trimming has put no bar before those of a fallback. -/
theorem Argument.read_toText_iff {s : String} {a : Argument} (h : Argument.read s = .ok a) :
    Argument.read a.toText = .ok a ↔ ∀ t ∈ a.tagsWithin, t.barred = false := by
  have reads : ReadsArgument s.toList a := readArgument_eq_ok.mp h
  rw [Argument.read, Argument.toText, String.toList_ofList, readArgument_eq_ok]
  exact ⟨fun again => again.tight.2 (Nat.le_refl _), reads.again⟩

theorem Argument.read_toText_nested : ∃ a, Argument.read " <{ a| . b [<{ c }>]|| d }>" = .ok a ∧
    a.toText = " <{a|.b[<{c}>]|| d }>" ∧ Argument.read a.toText = .ok a :=
  ⟨⟨[.text " ", .tag ⟨[⟨"a|", none⟩, ⟨"b", some ⟨[.tag ⟨[⟨"c", none⟩], none⟩], false⟩⟩],
      some ⟨[.text " d "], false⟩⟩], false⟩,
    by cbv, by cbv, (Argument.read_toText_iff (s := " <{ a| . b [<{ c }>]|| d }>") (by cbv)).mpr (by decide)⟩

/-- A bar at the end of a key and the two bars of the fallback become three bars, of which the first two are read as
    those of the fallback. -/
theorem Argument.toText_joins_bars : ∃ a, Argument.read "<{a| ||b}>" = .ok a ∧ a.toText = "<{a|||b}>" ∧
    Argument.read a.toText ≠ .ok a := by
  refine ⟨⟨[.tag ⟨[⟨"a|", none⟩], some ⟨[.text "b"], false⟩⟩], false⟩, by cbv, by cbv, fun again => ?_⟩
  have other : Argument.read (Argument.toText ⟨[.tag ⟨[⟨"a|", none⟩], some ⟨[.text "b"], false⟩⟩], false⟩) =
      .ok ⟨[.tag ⟨[⟨"a", none⟩], some ⟨[.text "|b"], false⟩⟩], false⟩ := by
    cbv
  rw [again] at other
  simp at other

end CommandScript
