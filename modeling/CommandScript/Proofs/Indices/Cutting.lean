import CommandScript.Proofs.Indices.Scanning
import CommandScript.Proofs.Tag.Content

/-! Cutting arguments, tags and keys, with the places that are looked at. An argument is cut at the ends of its tags, a
    tag at its points and bars, and a key at the bytes of its brackets. The body of a tag ends where its own tags are
    closed, so the count of open tags in it never goes below zero. -/

namespace CommandScript
open Text

/-! ### Arguments -/

/-- The place where a tag ends that is `depth` tags deep at a place of its body, if it ends. -/
def closeIndexed (cs : List Char) (depth j : Nat) : Option (Option Nat) :=
  if j < cs.length then do
    let c ← cs[j]?
    let next := cs[j + 1]?
    if c = '<' ∧ next = some '\x7b' then closeIndexed cs (depth + 1) (j + 2)
    else if c = '\x7d' ∧ next = some '>' then
      let depth ← sub? depth 1
      if depth = 0 then return some j else closeIndexed cs depth (j + 2)
    else closeIndexed cs depth (j + 1)
  else return none
termination_by cs.length - j

/-- Whether a text that is `tags` tags deep closes no more tags than are open. -/
def nested (tags : Nat) : List Char → Bool
  | '<' :: '\x7b' :: rest => nested (tags + 1) rest
  | '\x7d' :: '>' :: rest =>
    match tags with
    | 0 => false
    | tags + 1 => nested tags rest
  | _ :: rest => nested tags rest
  | [] => true

/-- What is found of the end of a tag, and the pieces that this makes of the text from a place `j` of its body on,
    after `before` of it. -/
inductive Closing (cs before : List Char) (depth j : Nat) : Option Nat → List Piece → Prop
  | broken : Closing cs before depth j none [.broken]
  | closed {k : Nat} (le : j ≤ k) (room : k + 2 ≤ cs.length) (inner : nested depth ((cs.take k).drop j) = true) :
    Closing cs before depth j (some k)
      (.body (before.reverse ++ (cs.take k).drop j) :: piecesOutside [] (cs.drop (k + 2)))

section
variable {cs before rest : List Char} {c d : Char} {depth j : Nat} {found : Option Nat} {pieces : List Piece}

theorem drop_take_of_drop {k : Nat} (h : cs.drop j = c :: rest) (lt : j < k) :
    (cs.take k).drop j = c :: (cs.take k).drop (j + 1) := by
  have more : k - j = k - (j + 1) + 1 := by omega
  rw [List.drop_take, List.drop_take, h, drop_succ_of_drop h, more, List.take_succ_cons]

theorem nested_cons (tags : Nat) (opens : ∀ rest', c = '<' → rest = '\x7b' :: rest' → False)
    (closes : ∀ rest', c = '\x7d' → rest = '>' :: rest' → False) : nested tags (c :: rest) = nested tags rest := by
  rw [nested]
  · exact opens
  · exact closes

/-- A character that belongs to no end of a tag may stand before. -/
theorem Closing.plain (h : cs.drop j = c :: rest) (opens : ∀ rest', c = '<' → rest = '\x7b' :: rest' → False)
    (closes : ∀ rest', c = '\x7d' → rest = '>' :: rest' → False)
    (closing : Closing cs (c :: before) depth (j + 1) found pieces) : Closing cs before depth j found pieces := by
  cases closing with
  | broken => exact .broken
  | @closed k le room inner =>
    have first := drop_take_of_drop h le
    have text : (c :: before).reverse ++ (cs.take k).drop (j + 1) = before.reverse ++ (cs.take k).drop j := by
      rw [first, List.reverse_cons, List.append_assoc, List.singleton_append]
    -- What is cut off at the end of the tag cannot have been the second character of such a pair.
    have shorter : ∀ {e : Char} {rest' : List Char}, (cs.take k).drop (j + 1) = e :: rest' →
        ∃ more, rest = e :: more := by
      intro e rest' he
      rw [List.drop_take, drop_succ_of_drop h] at he
      cases rest with
      | nil => simp at he
      | cons e' more =>
        cases hk : k - (j + 1) with
        | zero => rw [hk] at he; cases he
        | succ n =>
          rw [hk, List.take_succ_cons] at he
          cases he
          exact ⟨more, rfl⟩
    rw [text]
    refine .closed (Nat.le_of_succ_le le) room ?_
    rw [first, nested_cons]
    · exact inner
    · intro rest' hc he
      obtain ⟨more, hm⟩ := shorter he
      exact opens more hc hm
    · intro rest' hc he
      obtain ⟨more, hm⟩ := shorter he
      exact closes more hc hm

/-- Two characters that open or close an inner tag may stand before. -/
theorem Closing.pair {inner : Nat} (h : cs.drop j = c :: d :: rest)
    (same : ∀ rest, nested depth (c :: d :: rest) = nested inner rest)
    (closing : Closing cs (d :: c :: before) inner (j + 2) found pieces) :
    Closing cs before depth j found pieces := by
  cases closing with
  | broken => exact .broken
  | @closed k le room inside =>
    have text : (cs.take k).drop j = c :: d :: (cs.take k).drop (j + 2) := by
      rw [drop_take_of_drop h (by omega), drop_take_of_drop (drop_succ_of_drop h) (by omega)]
    have whole : (d :: c :: before).reverse ++ (cs.take k).drop (j + 2) = before.reverse ++ (cs.take k).drop j := by
      rw [text, List.reverse_cons, List.reverse_cons, List.append_assoc, List.append_assoc]
      rfl
    rw [whole]
    exact .closed (by omega) room (by rw [text, same]; exact inside)

end

theorem closeIndexed_cons {cs rest : List Char} {c : Char} {depth j : Nat} (h : cs.drop j = c :: rest) :
    closeIndexed cs depth j =
      if c = '<' ∧ rest.head? = some '\x7b' then closeIndexed cs (depth + 1) (j + 2)
      else if c = '\x7d' ∧ rest.head? = some '>' then
        (sub? depth 1).bind fun depth => if depth = 0 then some (some j) else closeIndexed cs depth (j + 2)
      else closeIndexed cs depth (j + 1) := by
  rw [closeIndexed, if_pos (lt_length_of_drop h), getElem?_of_drop h, getElem?_succ_of_drop h, Option.bind_eq_bind,
    Option.bind_some]
  rfl

/-- The end of a tag is looked for within the text, and is where the pieces of the text have it. -/
theorem closeIndexed_eq {cs rest : List Char} {j : Nat} (h : cs.drop j = rest) (depth : Nat) (before : List Char) :
    ∃ found, closeIndexed cs (depth + 1) j = some found ∧
      Closing cs before depth j found (piecesInside depth before rest) := by
  unfold piecesInside
  split
  · rename_i rest
    have := lt_length_of_drop h
    obtain ⟨found, hf, closing⟩ := closeIndexed_eq (drop_succ_of_drop (drop_succ_of_drop h)) (depth + 1)
      ('\x7b' :: '<' :: before)
    refine ⟨found, ?_, closing.pair h fun _ => rfl⟩
    rw [closeIndexed_cons h, if_pos ⟨rfl, rfl⟩]
    exact hf
  · rename_i rest
    have := lt_length_of_drop h
    have later := drop_succ_of_drop h
    have step : closeIndexed cs (depth + 1) j =
        if depth = 0 then some (some j) else closeIndexed cs depth (j + 2) := by
      rw [closeIndexed_cons h, if_neg (by simp), if_pos ⟨rfl, rfl⟩, sub?_eq_some (Nat.succ_pos _)]
      rfl
    split
    · refine ⟨some j, step, ?_⟩
      have closing : Closing cs before 0 j (some j) _ := .closed (Nat.le_refl j) (lt_length_of_drop later) (by
        rw [List.drop_take, Nat.sub_self, List.take_zero]
        rfl)
      rw [List.drop_take, Nat.sub_self, List.take_zero, List.append_nil, ← List.drop_drop, h] at closing
      exact closing
    · rename_i depth
      obtain ⟨found, hf, closing⟩ := closeIndexed_eq (drop_succ_of_drop later) depth ('>' :: '\x7d' :: before)
      refine ⟨found, step.trans ?_, closing.pair h fun _ => rfl⟩
      rw [if_neg (Nat.succ_ne_zero _)]
      exact hf
  · rename_i c rest opens closes
    have := lt_length_of_drop h
    obtain ⟨found, hf, closing⟩ := closeIndexed_eq (drop_succ_of_drop h) depth (c :: before)
    refine ⟨found, ?_, closing.plain h opens closes⟩
    rw [closeIndexed_cons h, if_neg (not_pair opens), if_neg (not_pair closes)]
    exact hf
  · refine ⟨none, ?_, .broken⟩
    rw [closeIndexed, if_neg (Nat.not_lt.mpr (length_le_of_drop_nil h))]
    rfl
termination_by cs.length - j

theorem le_of_closeIndexed {cs : List Char} {j k : Nat} (h : closeIndexed cs 1 j = some (some k)) : j ≤ k := by
  obtain ⟨found, hf, closing⟩ := closeIndexed_eq (Eq.refl (cs.drop j)) 0 []
  cases h.symm.trans hf
  generalize piecesInside 0 [] (cs.drop j) = pieces at closing
  cases closing with
  | closed le _ _ => exact le

/-- The pieces of an argument from a place outside tags on, after the literal characters `before`. -/
def piecesIndexed (cs before : List Char) (i : Nat) : Option (List Piece) :=
  if i < cs.length then
    match cs[i]? with
    | none => none
    | some c =>
      if c = '<' ∧ cs[i + 1]? = some '\x7b' then
        match h : closeIndexed cs 1 (i + 2) with
        | none => none
        | some none => some (Piece.ofLiteral before ++ [.broken])
        | some (some close) => do
          have := le_of_closeIndexed h
          let body ← slice? cs ⟨i + 2, close⟩
          return Piece.ofLiteral before ++ .body body :: (← piecesIndexed cs [] (close + 2))
      else piecesIndexed cs (c :: before) (i + 1)
  else some (Piece.ofLiteral before)
termination_by cs.length - i

theorem slice?_eq_some {cs : List α} {j k : Nat} (le : j ≤ k) (room : k ≤ cs.length) :
    slice? cs ⟨j, k⟩ = some ((cs.take k).drop j) :=
  if_pos ⟨le, room⟩

/-- No argument is looked at beyond its end for its pieces, and the body of no tag is cut out where it is not. -/
theorem piecesIndexed_eq {cs before rest : List Char} {i : Nat} (h : cs.drop i = rest) :
    piecesIndexed cs before i = some (piecesOutside before rest) := by
  unfold piecesOutside
  split
  · rename_i rest
    have := lt_length_of_drop h
    obtain ⟨found, hf, closing⟩ := closeIndexed_eq (drop_succ_of_drop (drop_succ_of_drop h)) 0 []
    rw [piecesIndexed, if_pos (lt_length_of_drop h), getElem?_of_drop h, getElem?_succ_of_drop h]
    dsimp only
    rw [if_pos ⟨rfl, rfl⟩]
    generalize piecesInside 0 [] rest = pieces at closing
    split
    · rename_i none_
      cases none_.symm.trans hf
    · rename_i open_
      cases open_.symm.trans hf
      cases closing with
      | broken => rfl
    · rename_i close closed
      cases closed.symm.trans hf
      cases closing with
      | closed le room _ =>
        rw [slice?_eq_some le (by omega), piecesIndexed_eq (i := close + 2) rfl]
        rfl
  · rename_i c rest opens
    have := lt_length_of_drop h
    rw [piecesIndexed, if_pos (lt_length_of_drop h), getElem?_of_drop h, getElem?_succ_of_drop h]
    dsimp only
    rw [if_neg (not_pair opens)]
    exact piecesIndexed_eq (drop_succ_of_drop h)
  · rw [piecesIndexed, if_neg (Nat.not_lt.mpr (length_le_of_drop_nil h))]
termination_by cs.length - i

/-- The body of a tag closes no more tags than it opens. -/
theorem nested_of_body_mem {before cs body : List Char} (h : .body body ∈ piecesOutside before cs) :
    nested 0 body = true := by
  have literal : .body body ∉ Piece.ofLiteral before := by cases before <;> simp [Piece.ofLiteral]
  unfold piecesOutside at h
  split at h
  · rename_i rest
    obtain ⟨found, -, closing⟩ := closeIndexed_eq (Eq.refl (rest.drop 0)) 0 []
    have inside := (List.mem_append.mp h).resolve_left literal
    rw [List.drop_zero] at closing
    generalize piecesInside 0 [] rest = pieces at closing inside
    cases closing with
    | broken => cases List.mem_singleton.mp inside
    | @closed k le room inner =>
      rcases List.mem_cons.mp inside with same | inside
      · cases same
        exact inner
      · have : (rest.drop (k + 2)).length ≤ rest.length := by simp
        exact nested_of_body_mem inside
  · exact nested_of_body_mem h
  · exact absurd h literal
termination_by cs.length

/-! ### Tags -/

/-- Cuts the body of a tag from a place on. Neither the count of brackets nor that of tags is lowered below zero. -/
def chainTextIndexed (cs : List Char) (brackets tags : Nat) (key : List Char) (before : List (List Char)) (i : Nat) :
    Option (Except ReadError ChainText) :=
  if i < cs.length then do
    let c ← cs[i]?
    let next := cs[i + 1]?
    if c = '<' ∧ next = some '\x7b' then
      chainTextIndexed cs brackets (tags + 1) ('\x7b' :: '<' :: key) before (i + 2)
    else if c = '\x7d' ∧ next = some '>' then
      chainTextIndexed cs brackets (← sub? tags 1) ('>' :: '\x7d' :: key) before (i + 2)
    else if c = '[' ∧ tags = 0 then chainTextIndexed cs (brackets + 1) tags ('[' :: key) before (i + 1)
    else if c = ']' ∧ tags = 0 then
      if brackets = 0 then return .error (.strayBracket (String.ofList cs))
      else chainTextIndexed cs (← sub? brackets 1) tags (']' :: key) before (i + 1)
    else if c = '.' ∧ brackets = 0 ∧ tags = 0 then
      chainTextIndexed cs brackets tags [] (key.reverse :: before) (i + 1)
    else if c = '|' ∧ (brackets = 0 ∧ tags = 0) ∧ next = some '|' then
      let fallback ← slice? cs ⟨i + 2, cs.length⟩
      return .ok ⟨(key.reverse :: before).reverse, some fallback⟩
    else chainTextIndexed cs brackets tags (c :: key) before (i + 1)
  else
    return if brackets = 0 then .ok ⟨(key.reverse :: before).reverse, none⟩
      else .error (.openBracket (String.ofList cs))
termination_by cs.length - i

section
variable {cs rest key : List Char} {c : Char} {brackets tags i : Nat} {before : List (List Char)}

theorem chainTextIndexed_cons (h : cs.drop i = c :: rest) : chainTextIndexed cs brackets tags key before i =
    if c = '<' ∧ rest.head? = some '\x7b' then
      chainTextIndexed cs brackets (tags + 1) ('\x7b' :: '<' :: key) before (i + 2)
    else if c = '\x7d' ∧ rest.head? = some '>' then
      (sub? tags 1).bind fun tags => chainTextIndexed cs brackets tags ('>' :: '\x7d' :: key) before (i + 2)
    else if c = '[' ∧ tags = 0 then chainTextIndexed cs (brackets + 1) tags ('[' :: key) before (i + 1)
    else if c = ']' ∧ tags = 0 then
      if brackets = 0 then some (.error (.strayBracket (String.ofList cs)))
      else (sub? brackets 1).bind fun brackets => chainTextIndexed cs brackets tags (']' :: key) before (i + 1)
    else if c = '.' ∧ brackets = 0 ∧ tags = 0 then
      chainTextIndexed cs brackets tags [] (key.reverse :: before) (i + 1)
    else if c = '|' ∧ (brackets = 0 ∧ tags = 0) ∧ rest.head? = some '|' then
      (slice? cs ⟨i + 2, cs.length⟩).bind fun fallback => some (.ok ⟨(key.reverse :: before).reverse, some fallback⟩)
    else chainTextIndexed cs brackets tags (c :: key) before (i + 1) := by
  rw [chainTextIndexed, if_pos (lt_length_of_drop h), getElem?_of_drop h, getElem?_succ_of_drop h,
    Option.bind_eq_bind, Option.bind_some]
  rfl

/-- One character of a tag that counts nothing and cuts nothing. -/
theorem chainTextIndexed_plain (h : cs.drop i = c :: rest) (opens : ¬(c = '<' ∧ rest.head? = some '\x7b'))
    (closes : ¬(c = '\x7d' ∧ rest.head? = some '>'))
    (opening : ¬(c = '[' ∧ tags = 0)) (closing : ¬(c = ']' ∧ tags = 0))
    (point : ¬(c = '.' ∧ brackets = 0 ∧ tags = 0))
    (bar : ¬(c = '|' ∧ (brackets = 0 ∧ tags = 0) ∧ rest.head? = some '|')) :
    chainTextIndexed cs brackets tags key before i = chainTextIndexed cs brackets tags (c :: key) before (i + 1) := by
  rw [chainTextIndexed_cons h, if_neg opens, if_neg closes, if_neg opening, if_neg closing, if_neg point, if_neg bar]

end

/-- The body of a tag is not looked at beyond its end. Where a count would go below zero, the text closes a tag that it
    does not open. -/
theorem chainTextIndexed_cases {cs rest key : List Char} {brackets tags i : Nat} {before : List (List Char)}
    (h : cs.drop i = rest) :
    chainTextIndexed cs brackets tags key before i = some (chainText cs brackets tags key before rest) ∨
      chainTextIndexed cs brackets tags key before i = none ∧ nested tags rest = false := by
  unfold chainText
  split
  · left
    rw [chainTextIndexed, if_neg (Nat.not_lt.mpr (length_le_of_drop_nil h))]
    rfl
  · rename_i rest
    have := lt_length_of_drop h
    rw [chainTextIndexed_cons h, if_pos ⟨rfl, rfl⟩]
    exact chainTextIndexed_cases (drop_succ_of_drop (drop_succ_of_drop h))
  · rename_i rest
    have := lt_length_of_drop h
    rw [chainTextIndexed_cons h, if_neg (by simp), if_pos ⟨rfl, rfl⟩]
    cases tags with
    | zero => exact Or.inr ⟨rfl, rfl⟩
    | succ tags =>
      have lower : ((tags + 1 : Nat) : Int) - 1 = (tags : Int) := by omega
      rw [sub?_eq_some (Nat.succ_pos _), lower]
      exact chainTextIndexed_cases (drop_succ_of_drop (drop_succ_of_drop h))
  · rename_i rest
    have := lt_length_of_drop h
    have same : nested tags ('[' :: rest) = nested tags rest := nested_cons tags (by simp) (by simp)
    rw [same]
    by_cases outside : tags = 0
    · rw [chainTextIndexed_cons h, if_neg (by simp), if_neg (by simp), if_pos ⟨rfl, outside⟩, if_pos (by omega)]
      exact chainTextIndexed_cases (drop_succ_of_drop h)
    · rw [chainTextIndexed_plain h (by simp) (by simp) (by simp [outside]) (by simp) (by simp) (by simp),
        if_neg (by omega)]
      exact chainTextIndexed_cases (drop_succ_of_drop h)
  · rename_i rest
    have := lt_length_of_drop h
    have same : nested tags (']' :: rest) = nested tags rest := nested_cons tags (by simp) (by simp)
    rw [same]
    by_cases outside : tags = 0
    · have top : ¬(tags : Int) ≠ 0 := by omega
      rw [chainTextIndexed_cons h, if_neg (by simp), if_neg (by simp), if_neg (by simp), if_pos ⟨rfl, outside⟩,
        if_neg top]
      cases brackets with
      | zero => exact Or.inl rfl
      | succ brackets =>
        rw [if_neg (Nat.succ_ne_zero brackets), sub?_eq_some (Nat.succ_pos brackets)]
        exact chainTextIndexed_cases (drop_succ_of_drop h)
    · rw [chainTextIndexed_plain h (by simp) (by simp) (by simp) (by simp [outside]) (by simp) (by simp),
        if_pos (by omega)]
      exact chainTextIndexed_cases (drop_succ_of_drop h)
  · rename_i rest
    have := lt_length_of_drop h
    have same : nested tags ('.' :: rest) = nested tags rest := nested_cons tags (by simp) (by simp)
    rw [same]
    by_cases top : brackets = 0 ∧ tags = 0
    · rw [chainTextIndexed_cons h, if_neg (by simp), if_neg (by simp), if_neg (by simp), if_neg (by simp),
        if_pos ⟨rfl, top⟩, if_pos (by omega)]
      exact chainTextIndexed_cases (drop_succ_of_drop h)
    · rw [chainTextIndexed_plain h (by simp) (by simp) (by simp) (by simp) (fun point => top point.2) (by simp),
        if_neg (by omega)]
      exact chainTextIndexed_cases (drop_succ_of_drop h)
  · rename_i rest
    have := lt_length_of_drop h
    have later := drop_succ_of_drop h
    have same : ∀ rest, nested tags ('|' :: rest) = nested tags rest :=
      fun rest => nested_cons tags (by simp) (by simp)
    rw [same, same]
    by_cases top : brackets = 0 ∧ tags = 0
    · have room := lt_length_of_drop later
      rw [chainTextIndexed_cons h, if_neg (by simp), if_neg (by simp), if_neg (by simp), if_neg (by simp),
        if_neg (by simp), if_pos ⟨rfl, top, rfl⟩, if_pos (by omega), slice?_eq_some (by omega) (Nat.le_refl _),
        List.take_length, ← drop_succ_of_drop later]
      exact Or.inl rfl
    · -- Inside brackets or tags two bars are two characters like others.
      rw [chainTextIndexed_plain h (by simp) (by simp) (by simp) (by simp) (by simp) (fun bar => top bar.2.1),
        chainTextIndexed_plain later (by simp) (by simp) (by simp) (by simp) (by simp) (fun bar => top bar.2.1),
        if_neg (by omega)]
      exact chainTextIndexed_cases (drop_succ_of_drop later)
  · rename_i c rest opens closes opening closing point bar
    have := lt_length_of_drop h
    rw [nested_cons tags opens closes, chainTextIndexed_plain h (not_pair opens) (not_pair closes)
      (fun h => opening h.1) (fun h => closing h.1) (fun h => point h.1) fun h => not_pair bar ⟨h.1, h.2.2⟩]
    exact chainTextIndexed_cases (drop_succ_of_drop h)
termination_by cs.length - i

/-- The whole body of a tag, which is not looked at beyond its end. -/
theorem chainTextIndexed_start (cs : List Char) :
    chainTextIndexed cs 0 0 [] [] 0 = some (chainText cs 0 0 [] [] cs) ∨
      chainTextIndexed cs 0 0 [] [] 0 = none ∧ nested 0 cs = false :=
  chainTextIndexed_cases (Eq.refl (cs.drop 0))

/-! ### Keys -/

/-- How many bytes a text has. -/
def byteLength : List Char → Nat
  | [] => 0
  | c :: cs => c.utf8Size + byteLength cs

/-- The byte at which a character first stands. -/
def findByte (c : Char) : List Char → Option Nat
  | [] => none
  | d :: rest => if d = c then some 0 else (findByte c rest).map (d.utf8Size + ·)

/-- What is left of a text after its first bytes, which end between two characters. -/
def dropBytes? : (n : Nat) → List Char → Option (List Char)
  | 0, cs => some cs
  | _ + 1, [] => none
  | n + 1, c :: cs => if c.utf8Size ≤ n + 1 then dropBytes? (n + 1 - c.utf8Size) cs else none

/-- The first bytes of a text, which end between two characters. -/
def takeBytes? : (n : Nat) → List Char → Option (List Char)
  | 0, _ => some []
  | _ + 1, [] => none
  | n + 1, c :: cs => if c.utf8Size ≤ n + 1 then (takeBytes? (n + 1 - c.utf8Size) cs).map (c :: ·) else none

/-- The bytes of a span of a text, which begins and ends between two characters. -/
def sliceBytes? (cs : List Char) (s : Span) : Option (List Char) :=
  if s.start ≤ s.stop then (dropBytes? s.start cs).bind (takeBytes? (s.stop - s.start)) else none

/-- Cuts a key from its parameter, at the bytes of its brackets. -/
def partTextIndexed (whole cs : List Char) : Option (Except ReadError PartText) :=
  match findByte '[' cs with
  | none => some (.ok ⟨trimChars cs, none⟩)
  | some open_ =>
    if cs.getLast? = some ']' then do
      let key ← sliceBytes? cs ⟨0, open_⟩
      let param ← sliceBytes? cs ⟨open_ + 1, ← sub? (byteLength cs) 1⟩
      return .ok ⟨trimChars key, some param⟩
    else some (.error (.textAfterBracket (String.ofList whole)))

theorem byteLength_append (a b : List Char) : byteLength (a ++ b) = byteLength a + byteLength b := by
  induction a with
  | nil => exact (Nat.zero_add _).symm
  | cons c a ih => rw [List.cons_append, byteLength, byteLength, ih, Nat.add_assoc]

theorem dropBytes?_append (a b : List Char) : dropBytes? (byteLength a) (a ++ b) = some b := by
  induction a with
  | nil => cases b <;> rfl
  | cons c a ih =>
    have pos := Char.utf8Size_pos c
    obtain ⟨n, hn⟩ : ∃ n, byteLength (c :: a) = n + 1 := ⟨byteLength (c :: a) - 1, by rw [byteLength]; omega⟩
    have left : n + 1 - c.utf8Size = byteLength a := by rw [← hn, byteLength]; omega
    rw [hn, List.cons_append, dropBytes?, if_pos (by rw [← hn, byteLength]; omega), left]
    exact ih

theorem takeBytes?_append (a b : List Char) : takeBytes? (byteLength a) (a ++ b) = some a := by
  induction a with
  | nil => cases b <;> rfl
  | cons c a ih =>
    have pos := Char.utf8Size_pos c
    obtain ⟨n, hn⟩ : ∃ n, byteLength (c :: a) = n + 1 := ⟨byteLength (c :: a) - 1, by rw [byteLength]; omega⟩
    have left : n + 1 - c.utf8Size = byteLength a := by rw [← hn, byteLength]; omega
    rw [hn, List.cons_append, takeBytes?, if_pos (by rw [← hn, byteLength]; omega), left, ih]
    rfl

/-- The bytes between those of two other texts. -/
theorem sliceBytes?_append (a b c : List Char) :
    sliceBytes? (a ++ (b ++ c)) ⟨byteLength a, byteLength a + byteLength b⟩ = some b := by
  rw [sliceBytes?, if_pos (Nat.le_add_right _ _), dropBytes?_append, Option.bind_some, Nat.add_sub_cancel_left]
  exact takeBytes?_append b c

theorem findByte_eq (c : Char) (cs : List Char) :
    findByte c cs = (splitFirst c cs).map fun parts => byteLength parts.1 := by
  induction cs with
  | nil => rfl
  | cons d rest ih =>
    rw [findByte, splitFirst]
    split
    · rfl
    · rw [ih]
      cases splitFirst c rest with
      | none => rfl
      | some parts => rfl

/-- A key is cut at bytes that are there, and between characters: the brackets are one byte each. -/
theorem partTextIndexed_eq (whole cs : List Char) : partTextIndexed whole cs = some (partText whole cs) := by
  unfold partTextIndexed partText
  rw [findByte_eq]
  cases hs : splitFirst '[' cs with
  | none => rfl
  | some parts =>
    obtain ⟨key, after⟩ := parts
    have split := (splitFirst_eq_some.mp hs).2
    have last : cs.getLast? = some ']' ↔ after.getLast? = some ']' := by
      rw [split, List.getLast?_append, List.getLast?_cons]
      cases after.getLast? <;> simp
    dsimp only [Option.map_some]
    by_cases closed : after.getLast? = some ']'
    · rw [if_pos (last.mpr closed), if_pos closed]
      have bracket : after = after.dropLast ++ [']'] := by
        obtain ⟨init, rfl⟩ := List.getLast?_eq_some_iff.mp closed
        rw [List.dropLast_concat]
      have whole : cs = key ++ ['['] ++ (after.dropLast ++ [']']) := by
        rw [List.append_assoc, ← bracket]
        exact split
      have size : byteLength cs = byteLength key + 1 + byteLength after.dropLast + 1 := by
        rw [whole, byteLength_append, byteLength_append, byteLength_append]
        rfl
      have first := sliceBytes?_append [] key ('[' :: after)
      have second := sliceBytes?_append (key ++ ['[']) after.dropLast [']']
      rw [← whole, byteLength_append] at second
      rw [List.nil_append, ← split] at first
      have start : byteLength ([] : List Char) = 0 := rfl
      have one : byteLength ['['] = 1 := rfl
      rw [start, Nat.zero_add] at first
      rw [one] at second
      rw [first, sub?_eq_some (by omega), size, Nat.add_sub_cancel]
      dsimp only [Option.bind_eq_bind, Option.bind_some]
      rw [second]
      rfl
    · rw [if_neg (fun h => closed (last.mp h)), if_neg closed]

end CommandScript
