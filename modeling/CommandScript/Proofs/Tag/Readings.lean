import CommandScript.Proofs.Tag.Keys

/-! Readings of arguments as derivations. An argument is read from a text if its segments are read from the pieces of
    the text, and a tag if its parts and its fallback are read from the texts that its body is cut into. The body of a
    tag is balanced: it closes the tags that it opens, and no others. -/

namespace CommandScript

/-! ### Derivations -/

mutual

/-- An argument that is read from a text. -/
inductive ReadsArgument : List Char → Argument → Prop
  | segments {cs : List Char} {segments : List Segment} (pieces : ReadsPieces (argumentPieces cs) segments) :
    ReadsArgument cs ⟨if segments.isEmpty then [.text ""] else segments, false⟩

/-- Segments that are read from pieces. -/
inductive ReadsPieces : List Piece → List Segment → Prop
  | nil : ReadsPieces [] []
  | literal {cs : List Char} {pieces : List Piece} {segments : List Segment} (later : ReadsPieces pieces segments) :
    ReadsPieces (.literal cs :: pieces) (.text (String.ofList cs) :: segments)
  | body {cs : List Char} {t : Tag} {pieces : List Piece} {segments : List Segment} (balanced : Balanced cs)
    (tag : ReadsTag cs t) (later : ReadsPieces pieces segments) :
    ReadsPieces (.body cs :: pieces) (.tag t :: segments)

/-- A tag that is read from its body. -/
inductive ReadsTag : List Char → Tag → Prop
  | chain {cs : List Char} {texts : ChainText} {parts : List Part} {fallback : Option Argument}
    (cut : chainText cs 0 0 [] [] cs = .ok texts) (readsFallback : ReadsOptional texts.fallback fallback)
    (readsParts : ReadsParts cs texts.parts parts) : ReadsTag cs ⟨parts, fallback⟩

/-- Keys with their parameters that are read from their texts. -/
inductive ReadsParts : List Char → List (List Char) → List Part → Prop
  | nil {whole : List Char} : ReadsParts whole [] []
  | cons {whole cs : List Char} {text : PartText} {param : Option Argument} {texts : List (List Char)}
    {parts : List Part} (cut : partText whole cs = .ok text) (readsParam : ReadsOptional text.param param)
    (later : ReadsParts whole texts parts) :
    ReadsParts whole (cs :: texts) (⟨String.ofList text.key, param⟩ :: parts)

/-- A parameter or a fallback that is read from its text, if there is one. -/
inductive ReadsOptional : Option (List Char) → Option Argument → Prop
  | none : ReadsOptional none none
  | some {cs : List Char} {a : Argument} (argument : ReadsArgument cs a) : ReadsOptional (some cs) (some a)

end

/-! ### Reading by derivations -/

/-- Reads a piece of an argument. -/
def readPiece (whole : List Char) : Piece → Except ReadError Segment
  | .literal cs => return .text (String.ofList cs)
  | .body cs => return .tag (← readTag cs)
  | .broken => throw (.openTag (String.ofList whole))

theorem readArgument_eq (cs : List Char) : readArgument cs = do
    let segments ← (argumentPieces cs).mapM (readPiece cs)
    return ⟨if segments.isEmpty then [.text ""] else segments, false⟩ := by
  rw [readArgument]
  show _ >>= _ = _ >>= _
  rw [mapM_attach (g := readPiece cs)]
  intro p hp
  cases p <;> rfl

theorem readPart_eq_ok {whole cs : List Char} {q : Part} : readPart whole cs = .ok q ↔
    ∃ text param, partText whole cs = .ok text ∧ readFallback text.param = .ok param ∧
      ⟨String.ofList text.key, param⟩ = q := by
  rw [readPart, bind_eq_ok]
  refine exists_congr fun text => ?_
  rw [exists_and_left]
  refine and_congr_right fun _ => ?_
  cases text.param with
  | none => simp [readFallback, pure, Except.pure]
  | some param =>
    dsimp only
    rw [bind_eq_ok]
    simp [readFallback, map_eq_ok, pure, Except.pure]

mutual

theorem ReadsArgument.read {cs : List Char} {a : Argument} : ReadsArgument cs a → readArgument cs = .ok a
  | .segments pieces => by
    rw [readArgument_eq, pieces.read cs]
    rfl

theorem ReadsPieces.read (whole : List Char) {pieces : List Piece} {segments : List Segment} :
    ReadsPieces pieces segments → pieces.mapM (readPiece whole) = .ok segments
  | .nil => rfl
  | .literal later => by
    rw [List.mapM_cons, later.read whole]
    rfl
  | .body _ tag later => by
    rw [List.mapM_cons, later.read whole, readPiece, tag.read]
    rfl

theorem ReadsTag.read {cs : List Char} {t : Tag} : ReadsTag cs t → readTag cs = .ok t
  | .chain cut fallback parts => by
    rw [readTag_of_ok cut, fallback.read, parts.read]
    rfl

theorem ReadsParts.read {whole : List Char} {texts : List (List Char)} {parts : List Part} :
    ReadsParts whole texts parts → texts.mapM (readPart whole) = .ok parts
  | .nil => rfl
  | .cons cut param later => by
    rw [List.mapM_cons, later.read, readPart_eq_ok.mpr ⟨_, _, cut, param.read, rfl⟩]
    rfl

theorem ReadsOptional.read {text : Option (List Char)} {a : Option Argument} :
    ReadsOptional text a → readFallback text = .ok a
  | .none => rfl
  | .some argument => by
    rw [readFallback, argument.read]
    rfl

end

theorem readsPieces_of_mapM {whole : List Char} {pieces : List Piece} {segments : List Segment}
    (bodies : ∀ cs t, .body cs ∈ pieces → readTag cs = .ok t → Balanced cs ∧ ReadsTag cs t)
    (h : pieces.mapM (readPiece whole) = .ok segments) : ReadsPieces pieces segments := by
  induction pieces generalizing segments with
  | nil =>
    cases h
    exact .nil
  | cons p pieces ih =>
    rw [List.mapM_cons] at h
    obtain ⟨s, hs, h⟩ := bind_eq_ok.mp h
    obtain ⟨more, hm, h⟩ := bind_eq_ok.mp h
    cases h
    have later := ih (fun cs t hb => bodies cs t (List.mem_cons_of_mem _ hb)) hm
    cases p with
    | literal cs =>
      cases hs
      exact .literal later
    | body cs =>
      obtain ⟨t, ht, hs⟩ := bind_eq_ok.mp hs
      cases hs
      obtain ⟨balanced, tag⟩ := bodies cs t List.mem_cons_self ht
      exact .body balanced tag later
    | broken => cases hs

theorem readsParts_of_mapM {whole : List Char} {texts : List (List Char)} {parts : List Part}
    (params : ∀ cs ∈ texts, ∀ text param, partText whole cs = .ok text → readFallback text.param = .ok param →
      ReadsOptional text.param param)
    (h : texts.mapM (readPart whole) = .ok parts) : ReadsParts whole texts parts := by
  induction texts generalizing parts with
  | nil =>
    cases h
    exact .nil
  | cons cs texts ih =>
    rw [List.mapM_cons] at h
    obtain ⟨q, hq, h⟩ := bind_eq_ok.mp h
    obtain ⟨more, hm, h⟩ := bind_eq_ok.mp h
    cases h
    obtain ⟨text, param, cut, hp, rfl⟩ := readPart_eq_ok.mp hq
    exact .cons cut (params cs List.mem_cons_self text param cut hp)
      (ih (fun cs' hc => params cs' (List.mem_cons_of_mem _ hc)) hm)

theorem readsOptional_of_readFallback {text : Option (List Char)} {a : Option Argument}
    (arguments : ∀ cs a, text = some cs → readArgument cs = .ok a → ReadsArgument cs a)
    (h : readFallback text = .ok a) : ReadsOptional text a := by
  cases text with
  | none =>
    cases h
    exact .none
  | some cs =>
    obtain ⟨a, ha, rfl⟩ := map_eq_ok.mp h
    exact .some (arguments cs a rfl ha)

mutual

theorem readsArgument {cs : List Char} {a : Argument} (h : readArgument cs = .ok a) : ReadsArgument cs a := by
  rw [readArgument_eq] at h
  obtain ⟨segments, hs, h⟩ := bind_eq_ok.mp h
  cases h
  refine .segments (readsPieces_of_mapM (fun body t hb ht => ?_) hs)
  have := length_of_body_mem hb
  exact ⟨balanced_of_body_mem hb, readsTag ht⟩
termination_by cs.length

theorem readsTag {cs : List Char} {t : Tag} (h : readTag cs = .ok t) : ReadsTag cs t := by
  obtain ⟨texts, cut⟩ : ∃ texts, chainText cs 0 0 [] [] cs = .ok texts := by
    rw [readTag] at h
    split at h
    · cases h
    · exact ⟨_, ‹_›⟩
  rw [readTag_of_ok cut] at h
  obtain ⟨fallback, hf, h⟩ := bind_eq_ok.mp h
  obtain ⟨parts, hp, h⟩ := bind_eq_ok.mp h
  cases h
  have short := length_of_chainText_start cut
  refine .chain cut (readsOptional_of_readFallback (fun text a hs ha => ?_) hf)
    (readsParts_of_mapM (fun text hm part param hc hq => ?_) hp)
  · have := short.2 text hs
    exact readsArgument ha
  · refine readsOptional_of_readFallback (fun p a hs ha => ?_) hq
    have := short.1 text hm
    have := length_of_partText hc hs
    exact readsArgument ha
termination_by cs.length

end

/-- Reading succeeds with what can be derived. -/
theorem readArgument_eq_ok {cs : List Char} {a : Argument} : readArgument cs = .ok a ↔ ReadsArgument cs a :=
  ⟨readsArgument, ReadsArgument.read⟩

end CommandScript
