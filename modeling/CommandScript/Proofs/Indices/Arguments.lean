import CommandScript.Proofs.Indices.Cutting

/-! Reading arguments and the tags in them, with the places that are looked at. No text makes the reader look beyond an
    end. Nor does it take a difference below zero: only the body of a tag is cut into keys, and it closes no tag that it
    does not open. -/

namespace CommandScript

/-! ### Arguments and tags -/

theorem argumentPieces_of_indexed {cs : List Char} {pieces : List Piece} (h : piecesIndexed cs [] 0 = some pieces) :
    pieces = argumentPieces cs :=
  Option.some.inj (h.symm.trans (piecesIndexed_eq (Eq.refl (cs.drop 0))))

theorem chainText_of_indexed {cs : List Char} {r : Except ReadError ChainText}
    (h : chainTextIndexed cs 0 0 [] [] 0 = some r) : chainText cs 0 0 [] [] cs = r := by
  rcases chainTextIndexed_start cs with same | ⟨none_, -⟩
  · exact Option.some.inj (same.symm.trans h)
  · cases none_.symm.trans h

theorem partText_of_indexed {whole cs : List Char} {r : Except ReadError PartText}
    (h : partTextIndexed whole cs = some r) : partText whole cs = r :=
  Option.some.inj ((partTextIndexed_eq whole cs).symm.trans h)

mutual

/-- Reads an argument, with the places that are looked at. -/
def readArgumentIndexed (cs : List Char) : OptionT (Except ReadError) Argument :=
  match h : piecesIndexed cs [] 0 with
  | none => failure
  | some pieces => do
    let segments ← pieces.attach.mapM fun
      | ⟨.literal text, _⟩ => return .text (String.ofList text)
      | ⟨.body body, hm⟩ =>
        have := length_of_body_mem (argumentPieces_of_indexed h ▸ hm)
        return .tag (← readTagIndexed body)
      | ⟨.broken, _⟩ => OptionT.mk (.error (.openTag (String.ofList cs)))
    return ⟨if segments.isEmpty then [.text ""] else segments, false⟩
termination_by cs.length

/-- Reads the body of a tag, with the places that are looked at. -/
def readTagIndexed (cs : List Char) : OptionT (Except ReadError) Tag :=
  match ht : chainTextIndexed cs 0 0 [] [] 0 with
  | none => failure
  | some (.error e) => OptionT.mk (.error e)
  | some (.ok t) => do
    have short := length_of_chainText_start (chainText_of_indexed ht)
    let fallback ←
      match hf : t.fallback with
      | none => pure none
      | some text =>
        have := short.2 text hf
        some <$> readArgumentIndexed text
    let parts ← t.parts.attach.mapM fun ⟨text, hm⟩ =>
      match hp : partTextIndexed cs text with
      | none => failure
      | some (.error e) => OptionT.mk (.error e)
      | some (.ok ⟨key, none⟩) => return (⟨String.ofList key, none⟩ : Part)
      | some (.ok ⟨key, some param⟩) => do
        have := length_of_partText (partText_of_indexed hp) rfl
        have := short.1 text hm
        return (⟨String.ofList key, some (← readArgumentIndexed param)⟩ : Part)
    return ⟨parts, fallback⟩
termination_by cs.length

end

/-! ### Without the proofs that the pieces are shorter -/

theorem mapM_attach {m : Type → Type} [Monad m] [LawfulMonad m] {α β : Type} {l : List α} {f : {x // x ∈ l} → m β}
    {g : α → m β} (h : ∀ x (hx : x ∈ l), f ⟨x, hx⟩ = g x) : l.attach.mapM f = l.mapM g := by
  have same : f = g ∘ Subtype.val := funext fun x => h x.1 x.2
  rw [same, ← List.mapM_map, List.attach_map_subtype_val]

/-- Reads a key with its parameter. -/
def readPart (whole text : List Char) : Except ReadError Part := do
  let p ← partText whole text
  match p.param with
  | none => return ⟨String.ofList p.key, none⟩
  | some param => return ⟨String.ofList p.key, some (← readArgument param)⟩

/-- Reads a fallback, if there is one. -/
def readFallback : Option (List Char) → Except ReadError (Option Argument)
  | none => .ok none
  | some text => some <$> readArgument text

theorem readTag_of_ok {cs : List Char} {t : ChainText} (ht : chainText cs 0 0 [] [] cs = .ok t) : readTag cs = do
    let fallback ← readFallback t.fallback
    return ⟨← t.parts.mapM (readPart cs), fallback⟩ := by
  rw [readTag]
  split
  · rename_i he
    cases he.symm.trans ht
  · rename_i t' ht'
    cases ht'.symm.trans ht
    extract_lets finish
    have parts : ∀ fallback, finish fallback = do return ⟨← t.parts.mapM (readPart cs), fallback⟩ := by
      intro fallback
      show _ >>= _ = _ >>= _
      rw [mapM_attach (g := readPart cs)]
      intro text hm
      rw [readPart]
      dsimp only
      split <;>
      · rename_i hp
        rw [hp]
        rfl
    split
    · rename_i hf
      simp only [hf, parts, readFallback]
      rfl
    · rename_i hf
      simp only [hf, parts, readFallback]

/-- Reads a key with its parameter, with the places that are looked at. -/
def readPartIndexed (whole text : List Char) : OptionT (Except ReadError) Part := do
  let p ← (← found (partTextIndexed whole text) : Except ReadError PartText)
  match p.param with
  | none => return ⟨String.ofList p.key, none⟩
  | some param => return ⟨String.ofList p.key, some (← readArgumentIndexed param)⟩

/-- Reads a fallback, if there is one, with the places that are looked at. -/
def readFallbackIndexed : Option (List Char) → OptionT (Except ReadError) (Option Argument)
  | none => return none
  | some text => some <$> readArgumentIndexed text

theorem readTagIndexed_of_ok {cs : List Char} {t : ChainText}
    (ht : chainTextIndexed cs 0 0 [] [] 0 = some (.ok t)) : readTagIndexed cs = do
    let fallback ← readFallbackIndexed t.fallback
    return ⟨← t.parts.mapM (readPartIndexed cs), fallback⟩ := by
  rw [readTagIndexed]
  split
  · rename_i he
    cases he.symm.trans ht
  · rename_i he
    cases he.symm.trans ht
  · rename_i t' ht'
    cases ht'.symm.trans ht
    extract_lets short finish
    have parts : ∀ fallback, finish fallback = do return ⟨← t.parts.mapM (readPartIndexed cs), fallback⟩ := by
      intro fallback
      show _ >>= _ = _ >>= _
      rw [mapM_attach (g := readPartIndexed cs)]
      intro text hm
      rw [readPartIndexed]
      dsimp only
      split <;>
      · rename_i hp
        rw [hp]
        rfl
    split
    · rename_i hf
      simp only [hf, parts, readFallbackIndexed]
    · rename_i hf
      simp only [hf, parts, readFallbackIndexed]

/-! ### No place beyond an end -/

mutual

/-- No argument is read beyond its end. -/
theorem readArgumentIndexed_inBounds (cs : List Char) : InBounds (readArgumentIndexed cs) (readArgument cs) := by
  rw [readArgumentIndexed, readArgument]
  split
  · rename_i none_
    cases none_.symm.trans (piecesIndexed_eq (Eq.refl (cs.drop 0)))
  · rename_i pieces h
    cases argumentPieces_of_indexed h
    refine InBounds.bind (InBounds.mapM fun piece _ => ?_) fun segments _ => .pure _
    obtain ⟨piece, hm⟩ := piece
    cases piece with
    | literal text => exact .pure _
    | body body =>
      have := length_of_body_mem hm
      exact (readTagIndexed_inBounds (nested_of_body_mem hm)).bind fun t _ => .pure _
    | broken => exact .error _
termination_by cs.length

/-- Nor is a tag whose body closes no more tags than it opens. -/
theorem readTagIndexed_inBounds {cs : List Char} (balanced : nested 0 cs = true) :
    InBounds (readTagIndexed cs) (readTag cs) := by
  have cut : chainTextIndexed cs 0 0 [] [] 0 = some (chainText cs 0 0 [] [] cs) :=
    (chainTextIndexed_start cs).resolve_right fun h => Bool.false_ne_true (h.2.symm.trans balanced)
  cases ht : chainText cs 0 0 [] [] cs with
  | error e =>
    rw [ht] at cut
    rw [readTagIndexed, readTag]
    split
    · rename_i none_
      cases none_.symm.trans cut
    · rename_i he
      cases he.symm.trans cut
      split
      · rename_i he'
        cases he'.symm.trans ht
        exact .error _
      · rename_i ht'
        cases ht'.symm.trans ht
    · rename_i ht'
      cases ht'.symm.trans cut
  | ok t =>
    have short := length_of_chainText_start ht
    rw [ht] at cut
    rw [readTagIndexed_of_ok cut, readTag_of_ok ht]
    have fallback : InBounds (readFallbackIndexed t.fallback) (readFallback t.fallback) := by
      cases hf : t.fallback with
      | none => exact .pure _
      | some text =>
        have := short.2 text hf
        exact (readArgumentIndexed_inBounds text).map some
    refine fallback.bind fun _ _ => (InBounds.mapM fun text hm => ?_).bind fun _ _ => .pure _
    refine .finds (partTextIndexed_eq cs text) ((InBounds.lift _).bind fun p hp => ?_)
    obtain ⟨key, _ | param⟩ := p
    · exact .pure _
    · have := length_of_partText hp rfl
      have := short.1 text hm
      exact (readArgumentIndexed_inBounds param).bind fun _ _ => .pure _
termination_by cs.length

end

end CommandScript
