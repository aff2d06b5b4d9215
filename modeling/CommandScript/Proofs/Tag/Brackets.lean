import CommandScript.Proofs.Tag.Rereading

/-! Parameters and the brackets around them. The text of a key is cut at its first opening bracket and has to end with a
    closing one, but these are a pair only where the first stands in no tag and the text has no second pair of brackets
    outside tags and other brackets: the brackets of the whole text balance in any case, those of the parameter need
    not. -/

namespace CommandScript
open Text

/-! ### Brackets outside tags -/

/-- How many brackets are open behind a character outside tags, or a gap there, if it closes none that is not open. -/
def bracketsBehind (brackets : Nat) : Option Char → Option Nat
  | some '[' => some (brackets + 1)
  | some ']' =>
    match brackets with
    | 0 => none
    | brackets + 1 => some brackets
  | _ => some brackets

/-- A text that, read from left to right outside tags, closes the brackets that it opens and no others. -/
def Matched (cs : List Char) : Prop :=
  (outsideTags 0 cs).foldlM bracketsBehind 0 = some 0

/-- How many brackets open where none is open, behind `brackets` open ones. -/
def bracketGroups (brackets : Nat) : List (Option Char) → Nat
  | [] => 0
  | some '[' :: rest => (if brackets = 0 then 1 else 0) + bracketGroups (brackets + 1) rest
  | some ']' :: rest => bracketGroups (brackets - 1) rest
  | _ :: rest => bracketGroups brackets rest

section
variable {brackets b b' : Nat} {x : Option Char} {xs : List (Option Char)}

theorem bracketsBehind_other (opening : x ≠ some '[') (closing : x ≠ some ']') :
    bracketsBehind brackets x = some brackets := by
  unfold bracketsBehind
  split <;> first | rfl | contradiction

theorem bracketGroups_other (opening : x ≠ some '[') (closing : x ≠ some ']') :
    bracketGroups brackets (x :: xs) = bracketGroups brackets xs := by
  rw [bracketGroups]
  · exact opening
  · exact closing

/-- Behind more open brackets, more are left open. -/
theorem foldlM_bracketsBehind_mono {c c' : Nat} (hb : xs.foldlM bracketsBehind b = some b')
    (hc : xs.foldlM bracketsBehind c = some c') (le : b ≤ c) : b' ≤ c' := by
  induction xs generalizing b c with
  | nil =>
    cases hb
    cases hc
    exact le
  | cons x xs ih =>
    by_cases opening : x = some '['
    · rw [opening] at hb hc
      exact ih hb hc (Nat.succ_le_succ le)
    by_cases closing : x = some ']'
    · rw [closing] at hb hc
      cases b with
      | zero => cases hb
      | succ b =>
        cases c with
        | zero => cases hc
        | succ c => exact ih hb hc (Nat.le_of_succ_le_succ le)
    · rw [List.foldlM_cons, bracketsBehind_other opening closing] at hb hc
      exact ih hb hc le

/-- Brackets that open nothing where none is open begin no group. -/
theorem bracketGroups_append (unopened : some '[' ∉ xs) (more : List (Option Char)) :
    bracketGroups 0 (xs ++ more) = bracketGroups 0 more := by
  induction xs with
  | nil => rfl
  | cons x xs ih =>
    obtain ⟨first, later⟩ := not_or.mp (List.mem_cons.not.mp unopened)
    rw [List.cons_append]
    by_cases closing : x = some ']'
    · rw [closing, bracketGroups]
      exact ih later
    · rw [bracketGroups_other (Ne.symm first) closing, ih later]

theorem bracketGroups_closing : bracketGroups b (xs ++ [some ']']) = bracketGroups b xs := by
  induction xs generalizing b with
  | nil => rfl
  | cons x xs ih =>
    rw [List.cons_append]
    by_cases opening : x = some '['
    · rw [opening, bracketGroups, bracketGroups, ih]
    by_cases closing : x = some ']'
    · rw [closing, bracketGroups, bracketGroups, ih]
    · rw [bracketGroups_other opening closing, bracketGroups_other opening closing, ih]

/-- Brackets that are left open where none was open before begin a group. -/
theorem bracketGroups_pos (h : xs.foldlM bracketsBehind 0 = some (b + 1)) : bracketGroups 0 xs ≠ 0 := by
  induction xs with
  | nil => cases h
  | cons x xs ih =>
    by_cases opening : x = some '['
    · rw [opening, bracketGroups]
      simp
    by_cases closing : x = some ']'
    · rw [closing] at h
      cases h
    · rw [List.foldlM_cons, bracketsBehind_other opening closing] at h
      rw [bracketGroups_other opening closing]
      exact ih h

/-- With one bracket more open before them, brackets begin no group exactly if they need not close it. -/
theorem bracketGroups_eq_zero (h : xs.foldlM bracketsBehind (b + 1) = some (b' + 1)) :
    bracketGroups (b + 1) xs = 0 ↔ xs.foldlM bracketsBehind b = some b' := by
  induction xs generalizing b with
  | nil =>
    cases h
    exact iff_of_true rfl rfl
  | cons x xs ih =>
    by_cases opening : x = some '['
    · rw [opening] at h ⊢
      rw [bracketGroups, if_neg (Nat.succ_ne_zero b), Nat.zero_add]
      exact ih h
    by_cases closing : x = some ']'
    · rw [closing] at h ⊢
      rw [bracketGroups]
      cases b with
      | zero => exact iff_of_false (bracketGroups_pos h) nofun
      | succ b => exact ih h
    · rw [List.foldlM_cons, bracketsBehind_other opening closing] at h
      rw [bracketGroups_other opening closing, List.foldlM_cons, bracketsBehind_other opening closing]
      exact ih h

end

/-! ### Glyphs outside tags -/

/-- What of a glyph behind the beginnings of `tags` tags stands outside tags. A tag that closes without being open is
    text. -/
def Glyph.shown : (tags : Nat) → Glyph → List (Option Char)
  | 0, .opens => [none]
  | 0, .closes => [some '\x7d', some '>']
  | 0, .bars => [some '|', some '|']
  | 0, .char c => [some c]
  | _ + 1, _ => []

section
variable {tags tags' : Nat} {k : Glyph} {u v rest : List Char}

theorem outsideTags_shown (h : k.Before rest) :
    outsideTags tags (k.chars ++ rest) = k.shown tags ++ outsideTags ((tagsBehind tags k).getD 0) rest := by
  cases tags with
  | succ tags =>
    rw [Glyph.shown, List.nil_append]
    cases k with
    | opens | closes => rfl
    | bars | char => exact outsideTags_glyph h rfl
  | zero =>
    cases k with
    | opens | closes => rfl
    | bars =>
      have bar : ∀ cs, outsideTags 0 ('|' :: cs) = some '|' :: outsideTags 0 cs := fun cs =>
        outsideTags_cons fun _ hc => absurd hc (by decide)
      show outsideTags 0 ('|' :: '|' :: rest) = _
      rw [bar, bar]
      rfl
    | char c =>
      refine outsideTags_cons fun rest' hc hr => ?_
      subst hc hr
      exact h _ rfl _ rfl .opens

theorem outsideTags_append (h : openBehind tags u = some tags') (apart : Apart u v) :
    outsideTags tags (u ++ v) = outsideTags tags u ++ outsideTags tags' v := by
  induction u using glyph_induction generalizing tags with
  | nil =>
    cases h
    rfl
  | glyph k rest own ih =>
    rw [openBehind_glyph own] at h
    obtain ⟨tags₁, behind, h⟩ := Option.bind_eq_some_iff.mp h
    rw [List.append_assoc, outsideTags_shown (apart.before own), outsideTags_shown own, behind, Option.getD_some,
      ih h apart.of_append, List.append_assoc]

theorem mem_of_mem_outsideTags {c : Char} (h : some c ∈ outsideTags tags u) : c ∈ u := by
  induction u using glyph_induction generalizing tags with
  | nil => cases h
  | glyph k rest own ih =>
    have shown : some c ∈ k.shown tags → c ∈ k.chars := by
      unfold Glyph.shown
      split <;> simp [Glyph.chars]
    rw [outsideTags_shown own] at h
    exact List.mem_append.mpr ((List.mem_append.mp h).imp shown ih)

end

/-! ### Brackets of keys -/

section
variable {n n' : Depths} {k : Glyph} {tags brackets b b' c c' : Nat} {cs rest : List Char}

/-- What a glyph shows outside tags opens and closes the brackets that the glyph does. -/
theorem foldlM_shown (h : n.behind k = some n') :
    (k.shown n.tags).foldlM bracketsBehind n.brackets = some n'.brackets := by
  obtain ⟨brackets, tags⟩ := n
  cases k with
  | opens =>
    cases h
    cases tags <;> rfl
  | closes =>
    cases tags <;> cases h
    rfl
  | bars =>
    rw [Depths.behind] at h
    split at h <;> cases h
    cases tags <;> rfl
  | char c =>
    rw [Depths.behind] at h
    cases tags with
    | succ tags =>
      cases h
      rfl
    | zero =>
      rw [if_neg (by simp)] at h
      show (bracketsBehind brackets (some c)).bind some = _
      split at h
      · rename_i opening
        cases h
        rw [opening]
        rfl
      split at h
      · rename_i closing
        rw [closing]
        cases brackets <;> cases h
        rfl
      · rename_i opening closing
        rw [bracketsBehind_other (by simpa using opening) (by simpa using closing)]
        split at h <;> cases h
        rfl

/-- The brackets of a text outside tags are those that open and close behind it. -/
theorem foldlM_outsideTags (h : n.behindText cs = some n') :
    (outsideTags n.tags cs).foldlM bracketsBehind n.brackets = some n'.brackets := by
  induction cs using glyph_induction generalizing n with
  | nil =>
    cases h
    rfl
  | glyph k rest own ih =>
    rw [Depths.behindText_glyph own] at h
    obtain ⟨n₁, behind, h⟩ := Option.bind_eq_some_iff.mp h
    rw [outsideTags_shown own, List.foldlM_append, foldlM_shown behind, tagsBehind_of_behind behind]
    exact ih h

/-- A text without an opening bracket opens none. -/
theorem brackets_le (h : n.behindText cs = some n') (unopened : '[' ∉ cs) : n'.brackets ≤ n.brackets := by
  induction cs using glyph_induction generalizing n with
  | nil =>
    cases h
    exact Nat.le_refl _
  | glyph k rest own ih =>
    rw [Depths.behindText_glyph own] at h
    obtain ⟨n₁, behind, h⟩ := Option.bind_eq_some_iff.mp h
    obtain ⟨first, later⟩ := not_or.mp (List.mem_append.not.mp unopened)
    refine Nat.le_trans (ih h later) ?_
    obtain ⟨brackets, tags⟩ := n
    cases k with
    | opens =>
      cases behind
      exact Nat.le_refl _
    | closes =>
      cases tags <;> cases behind
      exact Nat.le_refl _
    | bars =>
      rw [Depths.behind] at behind
      split at behind <;> cases behind
      exact Nat.le_refl _
    | char c =>
      have opening : c ≠ '[' := fun hc => first (by simp [Glyph.chars, hc])
      rw [Depths.behind, if_neg opening] at behind
      repeat' split at behind
      all_goals cases behind
      · exact Nat.le_refl _
      · rename_i more
        dsimp only at more ⊢
        omega
      · exact Nat.le_refl _

/-- Text from inside a tag that closes it leaves no fewer brackets open where it is read on its own. -/
theorem brackets_le_of_inside {outer : Nat} (h : Depths.behindText ⟨0, tags + outer + 1⟩ cs = some ⟨b', 0⟩)
    (scan : (outsideTags tags cs).foldlM bracketsBehind c = some c') : b' ≤ c' := by
  induction cs using glyph_induction generalizing tags outer c with
  | nil => cases h
  | glyph k rest own ih =>
    rw [outsideTags_shown own, List.foldlM_append] at scan
    obtain ⟨c₁, -, scan⟩ := Option.bind_eq_some_iff.mp scan
    rw [Depths.behindText_glyph own] at h
    cases behind : tagsBehind tags k with
    | some tags' =>
      rw [behind_of_tagsBehind behind] at h
      rw [behind] at scan
      exact ih h scan
    | none =>
      obtain ⟨rfl, rfl⟩ := tagsBehind_eq_none.mp behind
      rw [Nat.zero_add] at h
      cases outer with
      | zero => exact foldlM_bracketsBehind_mono (foldlM_outsideTags (n := .top) h) scan (Nat.zero_le _)
      | succ outer =>
        rw [← Nat.zero_add (outer + 1)] at h
        exact ih h scan

/-- The brackets in a parameter are a matter of their own exactly if the bracket before it stands in no tag and the key
    has no other group of brackets. -/
theorem matched_iff {key param : List Char} (unopened : '[' ∉ key)
    (single : SingleKey (key ++ '[' :: (param ++ [']']))) : Matched param ↔
      Balanced key ∧ bracketGroups 0 (outsideTags 0 (key ++ '[' :: (param ++ [']']))) = 1 := by
  have opening : Glyph.Before (.char '[') (param ++ [']']) := by
    rintro _ ⟨⟩ d _ ⟨⟩
  have single : Depths.top.behindText (key ++ '[' :: (param ++ [']'])) = some .top := single
  rw [Depths.behindText_append (apart_cons (by decide))] at single
  obtain ⟨n₁, behind_key, single⟩ := Option.bind_eq_some_iff.mp single
  have none_open : n₁.brackets = 0 := Nat.le_zero.mp (brackets_le behind_key unopened)
  have single : n₁.behindText (Glyph.chars (.char '[') ++ (param ++ [']'])) = some .top := single
  rw [Depths.behindText_glyph opening] at single
  obtain ⟨n₂, behind_opening, single⟩ := Option.bind_eq_some_iff.mp single
  rw [Depths.behindText_append (apart_cons (by decide))] at single
  obtain ⟨n₃, behind_param, closing⟩ := Option.bind_eq_some_iff.mp single
  have one_open : n₃ = ⟨1, 0⟩ := by
    obtain ⟨brackets, tags⟩ := n₃
    cases tags with
    | succ tags => cases closing
    | zero =>
      cases brackets with
      | zero => cases closing
      | succ brackets =>
        cases closing
        rfl
  subst one_open
  obtain ⟨brackets, tags⟩ := n₁
  obtain rfl : brackets = 0 := none_open
  cases tags with
  | zero =>
    cases behind_opening
    have balanced : openBehind 0 param = some 0 := openBehind_of_behindText behind_param
    have balanced_key : openBehind 0 key = some 0 := openBehind_of_behindText behind_key
    have one : (outsideTags 0 param).foldlM bracketsBehind 1 = some 1 := foldlM_outsideTags behind_param
    have groups : bracketGroups 0 (outsideTags 0 (key ++ '[' :: (param ++ [']']))) =
        1 + bracketGroups 1 (outsideTags 0 param) := by
      rw [outsideTags_append balanced_key (apart_cons (by decide)),
        bracketGroups_append fun h => unopened (mem_of_mem_outsideTags h),
        outsideTags_cons fun _ hc => absurd hc (by decide), outsideTags_append balanced (apart_cons (by decide)),
        bracketGroups, if_pos rfl]
      exact congrArg (1 + ·) bracketGroups_closing
    rw [groups, Matched, ← bracketGroups_eq_zero one]
    exact ⟨fun h => ⟨balanced_key, Nat.add_eq_left.mpr h⟩, fun h => Nat.add_eq_left.mp h.2⟩
  | succ tags =>
    cases behind_opening
    refine iff_of_false (fun matched => ?_) fun h => ?_
    · rw [← Nat.zero_add (tags + 1)] at behind_param
      exact absurd (brackets_le_of_inside behind_param matched) (by decide)
    · have inside : openBehind 0 key = some (tags + 1) := openBehind_of_behindText behind_key
      cases inside.symm.trans h.1

end

/-! ### Keys of an argument -/

/-- The part `q` is read from the text `key` of a key of a tag in an argument of the text `cs`. The tag may stand in the
    parameter of another key or in a fallback. -/
inductive KeyOf : (cs key : List Char) → (q : Part) → Prop
  | here {cs body key : List Char} {texts : ChainText} {q : Part} (tag : .body body ∈ argumentPieces cs)
    (cut : chainText body 0 0 [] [] body = .ok texts) (listed : key ∈ texts.parts)
    (read : readPart body key = .ok q) :
    KeyOf cs key q
  | param {cs body outer param key : List Char} {texts : ChainText} {text : PartText} {q : Part}
    (tag : .body body ∈ argumentPieces cs) (cut : chainText body 0 0 [] [] body = .ok texts)
    (listed : outer ∈ texts.parts) (own : partText body outer = .ok text) (given : text.param = some param)
    (inner : KeyOf param key q) : KeyOf cs key q
  | fallback {cs body fallback key : List Char} {texts : ChainText} {q : Part} (tag : .body body ∈ argumentPieces cs)
    (cut : chainText body 0 0 [] [] body = .ok texts) (given : texts.fallback = some fallback)
    (inner : KeyOf fallback key q) : KeyOf cs key q

/-- The parts of tags in a row are read from texts of keys of an argument. -/
def AllKeyed (cs : List Char) (tags : List Tag) : Prop :=
  ∀ t ∈ tags, ∀ q ∈ t.parts, ∃ key, KeyOf cs key q

mutual

/-- All parts of all tags in an argument are read from keys of its text. -/
theorem ReadsArgument.keyed {cs : List Char} {a : Argument} : ReadsArgument cs a → AllKeyed cs a.tagsWithin
  | @ReadsArgument.segments cs segments pieces => by
    cases segments with
    | nil => exact nofun
    | cons s rest => exact pieces.keyed fun _ => id

theorem ReadsPieces.keyed {cs : List Char} {pieces : List Piece} {segments : List Segment} :
    ReadsPieces pieces segments → (∀ body, .body body ∈ pieces → .body body ∈ argumentPieces cs) →
      AllKeyed cs (tagsInSegments segments)
  | .nil, _ => nofun
  | .literal later, within => later.keyed fun body hb => within body (List.mem_cons_of_mem _ hb)
  | .body _ tag later, within =>
    List.forall_mem_append.mpr ⟨tag.keyed (within _ List.mem_cons_self),
      later.keyed fun body hb => within body (List.mem_cons_of_mem _ hb)⟩

theorem ReadsTag.keyed {cs body : List Char} {t : Tag} : ReadsTag body t → .body body ∈ argumentPieces cs →
    AllKeyed cs (t :: t.tagsWithin)
  | .chain cut readsFallback readsParts, tag => by
    obtain ⟨own, inner⟩ := readsParts.keyed tag cut fun _ => id
    refine List.forall_mem_cons.mpr ⟨own, List.forall_mem_append.mpr ⟨inner, fun t ht q hq => ?_⟩⟩
    obtain ⟨text, key, given, found⟩ := readsFallback.keyed t ht q hq
    exact ⟨key, .fallback tag cut given found⟩

theorem ReadsParts.keyed {cs body : List Char} {texts : List (List Char)} {parts : List Part} {whole : ChainText} :
    ReadsParts body texts parts → .body body ∈ argumentPieces cs → chainText body 0 0 [] [] body = .ok whole →
      (∀ key ∈ texts, key ∈ whole.parts) →
        (∀ q ∈ parts, ∃ key, KeyOf cs key q) ∧ AllKeyed cs (tagsInParts parts)
  | .nil, _, _, _ => ⟨nofun, nofun⟩
  | @ReadsParts.cons _ own text param _ _ split readsParam later, tag, cut, within => by
    obtain ⟨keys, inner⟩ := later.keyed tag cut fun key hk => within key (List.mem_cons_of_mem _ hk)
    have listed := within own List.mem_cons_self
    refine ⟨List.forall_mem_cons.mpr ⟨⟨own, .here tag cut listed ?_⟩, keys⟩,
      List.forall_mem_append.mpr ⟨fun t ht q hq => ?_, inner⟩⟩
    · exact readPart_eq_ok.mpr ⟨text, param, split, readsParam.read, rfl⟩
    · obtain ⟨param, key, given, found⟩ := readsParam.keyed t ht q hq
      exact ⟨key, .param tag cut listed split given found⟩

theorem ReadsOptional.keyed {text : Option (List Char)} {a : Option Argument} : ReadsOptional text a →
    ∀ t ∈ tagsInOptional a, ∀ q ∈ t.parts, ∃ cs key, text = some cs ∧ KeyOf cs key q
  | .none => nofun
  | .some argument => fun t ht q hq => by
    obtain ⟨key, found⟩ := argument.keyed t ht q hq
    exact ⟨_, key, rfl, found⟩

end

/-- A key is the text of a single key, and its part is read from it. -/
theorem KeyOf.single {cs key : List Char} {q : Part} (h : KeyOf cs key q) :
    SingleKey key ∧ ∃ body, readPart body key = .ok q := by
  induction h with
  | here tag cut listed read =>
    exact ⟨((chainText_eq_ok (balanced_of_body_mem tag)).mp cut).1.single _ listed, _, read⟩
  | param _ _ _ _ _ _ ih => exact ih
  | fallback _ _ _ _ ih => exact ih

/-- In an argument that is read, the parts of all tags are read from texts of keys. A key with an opening bracket ends
    with a closing one, and what stands between them is read as its parameter; the two are a pair exactly if the first
    stands in no tag and no other brackets follow the pair. -/
theorem Argument.params_matched_iff {s : String} {a : Argument} (h : Argument.read s = .ok a) :
    (∀ t ∈ a.tagsWithin, ∀ q ∈ t.parts, ∃ text, KeyOf s.toList text q) ∧
      ∀ text q, KeyOf s.toList text q → ('[' ∉ text ∧ q.param = none) ∨
        ∃ key param b, text = key ++ '[' :: (param ++ [']']) ∧ '[' ∉ key ∧
          q = ⟨String.ofList (trimChars key), some b⟩ ∧ readArgument param = .ok b ∧
          (Matched param ↔ Balanced key ∧ bracketGroups 0 (outsideTags 0 text) = 1) := by
  refine ⟨(readArgument_eq_ok.mp h).keyed, fun text q found => ?_⟩
  obtain ⟨single, body, read⟩ := found.single
  obtain ⟨cut, param, split, readParam, rfl⟩ := readPart_eq_ok.mp read
  rw [partText] at split
  cases first : splitFirst '[' text with
  | none =>
    rw [first] at split
    cases split
    cases readParam
    exact Or.inl ⟨splitFirst_eq_none.mp first, rfl⟩
  | some cuts =>
    obtain ⟨key, after⟩ := cuts
    obtain ⟨unopened, rfl⟩ := splitFirst_eq_some.mp first
    rw [first] at split
    dsimp only at split
    split at split <;> cases split
    rename_i last
    obtain ⟨b, hb, rfl⟩ := map_eq_ok.mp readParam
    have closed : after = after.dropLast ++ [']'] := (List.dropLast_append_getLast? _ last).symm
    have text : key ++ '[' :: after = key ++ '[' :: (after.dropLast ++ [']']) := by rw [← closed]
    rw [text] at single ⊢
    exact Or.inr ⟨key, after.dropLast, b, rfl, unopened, rfl, hb, matched_iff unopened single⟩

theorem Argument.params_matched_iff_nested : ∃ a, Argument.read "<{a[[x]<{b[c]}>||<{d[]}>].e}>" = .ok a ∧
    (∀ t ∈ a.tagsWithin, ∀ q ∈ t.parts, ∃ text, KeyOf "<{a[[x]<{b[c]}>||<{d[]}>].e}>".toList text q) ∧
      ∀ text q, KeyOf "<{a[[x]<{b[c]}>||<{d[]}>].e}>".toList text q → ('[' ∉ text ∧ q.param = none) ∨
        ∃ key param b, text = key ++ '[' :: (param ++ [']']) ∧ '[' ∉ key ∧
          q = ⟨String.ofList (trimChars key), some b⟩ ∧ readArgument param = .ok b ∧
          (Matched param ↔ Balanced key ∧ bracketGroups 0 (outsideTags 0 text) = 1) :=
  ⟨⟨[.tag ⟨[⟨"a", some ⟨[.text "[x]", .tag ⟨[⟨"b", some ⟨[.text "c"], false⟩⟩], none⟩, .text "||",
      .tag ⟨[⟨"d", some ⟨[.text ""], false⟩⟩], none⟩], false⟩⟩, ⟨"e", none⟩], none⟩], false⟩,
    by cbv, Argument.params_matched_iff (by cbv)⟩

/-- A second group of brackets is read into the parameter of the first: its end is taken for the end of the key. -/
theorem Argument.param_joins_groups : ∃ a, Argument.read "<{text[a][b]}>" = .ok a ∧
    KeyOf "<{text[a][b]}>".toList "text[a][b]".toList ⟨"text", some ⟨[.text "a][b"], false⟩⟩ ∧
    readArgument "a][b".toList = .ok ⟨[.text "a][b"], false⟩ ∧ ¬Matched "a][b".toList := by
  have pieces : argumentPieces "<{text[a][b]}>".toList = [.body "text[a][b]".toList] := by cbv
  have scan : (outsideTags 0 "a][b".toList).foldlM bracketsBehind 0 = none := by cbv
  refine ⟨⟨[.tag ⟨[⟨"text", some ⟨[.text "a][b"], false⟩⟩], none⟩], false⟩, by cbv, ?_, by cbv, fun matched => ?_⟩
  · have texts : chainText "text[a][b]".toList 0 0 [] [] "text[a][b]".toList = .ok ⟨["text[a][b]".toList], none⟩ := by
      cbv
    exact .here (by rw [pieces]; exact List.mem_cons_self) texts List.mem_cons_self (by cbv)
  · cases scan.symm.trans matched

end CommandScript
