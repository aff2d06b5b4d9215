import CommandScript.Proofs.Regexes.Moving

/-! How the reader moves over the parts of a pattern. A class ends behind a closing bracket that no backslash escapes,
    whatever escapes, named classes and classes of its own it holds. Repetitions, what opens a group, and single
    characters hold no escapes. -/

namespace CommandScript.Pattern

/-! ### Classes -/

/-- A reader right behind a closing bracket that is not escaped, unless it has noted a fault of meaning. -/
structure Closes (chars : Array Char) (origin : Nat) (s : ReaderState) : Prop where
  chars_eq : s.chars = chars
  behind : ∃ k, s.pos = k + 1 ∧ origin ≤ k ∧ chars[k]? = some ']' ∧
    (s.doubt = none → dangles (chars.toList.take k) = false)

section
variable {chars : Array Char} {origin : Nat} {s : ReaderState}

theorem Closes.stands (h : Closes chars origin s) : Stands chars (origin + 1) s := by
  obtain ⟨k, hk, from_, bracket, _⟩ := h.behind
  refine ⟨h.chars_eq, ?_⟩
  rw [hk]
  exact spot_behind bracket (fun _ => by decide) (Nat.succ_le_succ from_)

theorem Closes.doubted {e : RegexError} (h : Closes chars origin s) :
    Closes chars origin { s with doubt := s.doubt <|> some e } := by
  obtain ⟨k, hk, from_, bracket, settled⟩ := h.behind
  refine ⟨h.chars_eq, k, hk, from_, bracket, fun none_ => ?_⟩
  cases hd : s.doubt <;> simp [hd] at none_

end

namespace Reading

section
variable {chars : Array Char} {origin : Nat} {c : Char}

/-- A named class ends behind its closing bracket. Where there is none, the reader stays. -/
theorem leads_asciiClass? {s : ReaderState} (hs : Stands chars origin s) :
    Leads (· = s) asciiClass? fun m s' => Stands chars origin s' ∧ (m = none → s' = s) := by
  rw [asciiClass?]
  have stay : Leads (· = s) (return none : Reading (Option Member)) fun m s' =>
      Stands chars origin s' ∧ (m = none → s' = s) := by
    refine .pure fun _ h => ?_
    rw [h]
    exact ⟨hs, fun _ => rfl⟩
  refine .known (f := fun s => s.chars[s.pos + 1]?) (fun _ => rfl) (.either stay ?_)
  refine .known (f := id) (fun _ => rfl) ?_
  extract_lets rest
  have behind : rest = chars.toList.drop s.pos := by
    show (s.chars.extract s.pos s.chars.size).toList = _
    rw [Array.toList_extract, List.extract_eq_take_drop, hs.chars_eq, List.take_of_length_le (by simp)]
  clear_value rest
  split
  · rename_i tail
    split
    rename_i negated unsigned pair
    have sign : tail = (if negated then ['^'] else []) ++ unsigned := by
      split at pair <;> cases pair <;> rfl
    have name := List.takeWhile_append_dropWhile (p := fun c => decide (c ≠ ':')) (l := unsigned)
    dsimp only [id]
    split
    · rename_i more closing
      rw [closing] at name
      split
      · exact stay
      · have stands : chars.toList.drop s.pos = ('[' :: ':' :: (if negated then ['^'] else []) ++
            unsigned.takeWhile (· ≠ ':') ++ [':']) ++ ']' :: more := by
          rw [← behind, sign]
          conv => lhs; rw [← name]
          simp only [List.cons_append, List.append_assoc, List.nil_append]
        have whole := leads_skip_text hs stands (by decide)
        refine .bind (Q := fun _ => Stands chars origin) ?_ fun _ => .glance (fun _ => rfl) fun stop => ?_
        · refine (congrArg (fun n => Leads (· = s) (skip n) fun _ => Stands chars origin) ?_).mp whole
          cases negated <;> simp <;> omega
        · refine (leads_checked _ stop _ fun _ _ h => h.doubted).bind fun _ => .pure fun _ h => ⟨h, nofun⟩
    · exact stay
  · exact stay

theorem leads_leadingHyphens (start : Nat) (ms : List Member) (fuel : Nat) :
    Leads (Stands chars origin) (leadingHyphens start ms fuel) fun _ => Stands chars origin := by
  induction fuel generalizing ms with
  | zero => exact .pure fun _ h => h
  | succ fuel ih =>
    rw [leadingHyphens]
    refine .peek fun next => ?_
    dsimp only
    split
    · exact .pure fun _ h => h.1
    · rename_i hyphen
      obtain rfl := Classical.not_not.mp hyphen
      refine .glance (fun _ => rfl) fun place => leads_advance_over (by decide) fun more => ?_
      exact .guarded (fun _ => ⟨_, rfl⟩) fun _ => ih _

theorem leads_classStart : Leads (Leaves chars origin) classStart fun _ => Stands chars origin := by
  rw [classStart]
  refine .glance (fun _ => rfl) fun start => leads_advance.bind fun more => .guarded (fun _ => ⟨_, rfl⟩) fun _ => ?_
  have rest (negated : Bool) : Leads (Stands chars origin) (do
      let inner ← here
      let ms ← leadingHyphens start [] (← rounds)
      let ms ←
        if ms.isEmpty && (← peek?) == some ']' then do
          if !(← advance) then fail start (← here) .openClass
          pure [memberAt inner ']']
        else pure ms
      return (⟨negated, ms, inner, ⟨start, ← here⟩⟩ : ClassOpening)) fun _ => Stands chars origin := by
    refine .glance (fun _ => rfl) fun inner => leads_rounds (fun _ h => h.chars_eq) fun fuel _ => ?_
    refine (leads_leadingHyphens start [] fuel).bind fun ms => .peek fun next => ?_
    dsimp only
    split
    · rename_i bracket
      obtain rfl := eq_of_beq (Bool.and_eq_true_iff.mp bracket).2
      refine leads_advance_over (by decide) fun more => .guarded (fun _ => ⟨_, rfl⟩) fun _ => ?_
      exact .glance (fun _ => rfl) fun ms => .glance (fun _ => rfl) fun stop => .pure fun _ h => h
    · exact .glance (fun _ => rfl) fun ms => .glance (fun _ => rfl) fun stop => .pure fun _ h => h.1
  refine .peek fun next => ?_
  dsimp only
  split
  · rename_i caret
    obtain rfl := eq_of_beq caret
    exact leads_advance_over (by decide) fun more => .guarded (fun _ => ⟨_, rfl⟩) fun _ => rest _
  · exact (rest _).pre fun _ h => h.1

theorem leads_classAtom : Leads (Stands chars origin) classAtom fun _ => Stands chars origin := by
  rw [classAtom]
  refine .glance (fun _ => rfl) fun start => .peek fun next => ?_
  split
  · refine .bind (Q := fun _ => Stands chars origin) (.of_state fun s hs => ?_) fun atom =>
      .glance (fun _ => rfl) fun stop => .pure fun _ h => h
    exact (leads_escape hs.1 hs.2).post fun _ _ h => h.mono (Nat.le_add_right_of_le hs.1.spot.le)
  · rename_i c other
    exact leads_skip_over other (.pure fun _ h => h)
  · exact .never fun _ => ⟨_, rfl⟩

theorem leads_classChar (place : Stretch) (c : Char) :
    Leads (Stands chars origin) (classChar place c) fun _ => Stands chars origin := by
  rw [classChar]
  refine .glance (fun _ => rfl) fun flags => .either ?_ (.pure fun _ h => h)
  exact (leads_doubt fun _ _ h => h.doubted).bind fun _ => .pure fun _ h => h

theorem leads_rangeEnd (atom : Atom) (place : Stretch) :
    Leads (Stands chars origin) (rangeEnd atom place) fun _ => Stands chars origin := by
  rw [rangeEnd.eq_def]
  split
  · exact .pure fun _ h => h
  · exact .never fun _ => ⟨_, rfl⟩

theorem leads_peekSolid? {P : ReaderState → Prop} {Q : α → ReaderState → Prop} {k : Option Char → Reading α}
    (hk : ∀ after, Leads P (k after) Q) : Leads P (peekSolid? >>= k) Q := by
  refine .glance (f := fun s =>
    if s.flags.spaced then firstSolid? false (s.chars.toList.drop (s.pos + 1)) <|> s.chars[s.pos + 1]?
    else s.chars[s.pos + 1]?) (fun s => ?_) hk
  cases spaced : s.flags.spaced <;> simp [peekSolid?, spaced] <;> rfl

theorem leads_classRange (opened : Stretch) :
    Leads (Stands chars origin) (classRange opened) fun _ => Stands chars origin := by
  rw [classRange]
  refine leads_classAtom.bind fun ⟨first, place⟩ => leads_skipSpace.bind fun _ => ?_
  dsimp only
  refine .peek fun next => ?_
  split
  · exact .never fun _ => ⟨_, rfl⟩
  · rename_i c
    refine leads_peekSolid? fun after => ?_
    split
    · refine Leads.pre (P := Stands chars origin) ?_ fun _ h => h.1
      split
      · exact (leads_classChar _ _).bind fun _ => .pure fun _ h => h
      · exact .pure fun _ h => h
      · exact .never fun _ => ⟨_, rfl⟩
    · rename_i ranges
      have hyphen : c = '-' := Classical.not_not.mp fun ne => ranges (.inl ne)
      refine leads_advance_over (hyphen ▸ by decide) fun more => ?_
      refine .guarded (fun _ => ⟨_, rfl⟩) fun _ => leads_classAtom.bind fun ⟨last, place'⟩ => ?_
      refine (leads_rangeEnd _ _).bind fun low => (leads_rangeEnd _ _).bind fun high => ?_
      refine .guarded (fun _ => ⟨_, rfl⟩) fun _ => ?_
      exact (leads_classChar _ _).bind fun _ => (leads_classChar _ _).bind fun _ => .pure fun _ h => h

theorem leads_setOp? : Leads (Stands chars origin) setOp? fun _ => Stands chars origin := by
  rw [setOp?]
  refine .bind (leads_take? ['&'] '&' (by decide) (by decide)) fun inter => .either (.pure fun _ h => h) ?_
  refine .bind (leads_take? ['-'] '-' (by decide) (by decide)) fun diff => .either (.pure fun _ h => h) ?_
  refine .bind (leads_take? ['~'] '~' (by decide) (by decide)) fun symmetric => ?_
  exact .either (.pure fun _ h => h) (.pure fun _ h => h)

theorem leads_class (fuel : Nat) :
    Leads (Leaves chars origin) (bracketed fuel) (fun _ => Closes chars origin) ∧
      ∀ opened pending start ms, Leads (Stands chars origin) (classRest opened pending start ms fuel) fun _ =>
        Closes chars origin := by
  induction fuel generalizing origin with
  | zero => exact ⟨.never fun _ => ⟨_, rfl⟩, fun _ _ _ _ => .never fun _ => ⟨_, rfl⟩⟩
  | succ fuel ih =>
    refine ⟨?_, fun opened pending start ms => ?_⟩
    · rw [bracketed]
      refine leads_classStart.bind fun opening => (ih.2 _ _ _ _).bind fun inner => ?_
      refine .glance (fun _ => rfl) fun flags => ?_
      dsimp only
      refine .glance (fun _ => rfl) fun stop => ?_
      exact (leads_checked _ _ _ fun _ _ h => h.doubted).bind fun _ => .pure fun _ h => h
    · rw [classRest]
      refine leads_skipSpace.bind fun _ => .glance (fun _ => rfl) fun flags => .peek fun next => ?_
      split
      · exact .never fun _ => ⟨_, rfl⟩
      · refine .of_state fun s hs => .bind (leads_asciiClass? hs.1) fun named => ?_
        split
        · exact (ih.2 _ _ _ _).pre fun s' hs' => hs'.1
        · refine .bind (Q := fun _ => Closes chars origin) (ih.1.pre fun s' hs' => ?_) fun m => ?_
          · rw [hs'.2 rfl]
            exact hs.1.leaves_of hs.2 (by decide)
          · exact (ih.2 _ _ _ _).pre fun s' hs' => hs'.stands.mono (Nat.le_succ _)
      · refine .bind (Q := fun _ => Closes chars origin) ?_ fun _ => .pure fun _ h => h
        refine .modify (fun _ none_ => none_) ?_
        rintro s ⟨hs, here⟩
        rw [hs.chars_eq] at here
        have inside := (Array.getElem?_eq_some_iff.mp here).1
        refine ⟨hs.chars_eq, s.pos, ?_, hs.spot.le, here, fun none_ => hs.spot.settled none_ inside⟩
        show min (s.pos + 1) s.chars.size = s.pos + 1
        rw [hs.chars_eq, Nat.min_eq_left inside]
      · refine .bind (leads_setOp?.pre fun s hs => hs.1) fun op => ?_
        split
        · exact .glance (fun _ => rfl) fun start => ih.2 _ _ _ _
        · exact (leads_classRange _).bind fun m => ih.2 _ _ _ _

/-! ### Repetition -/

theorem leads_skipBlanks (fuel : Nat) :
    Leads (Stands chars origin) (skipBlanks fuel) fun _ => Stands chars origin := by
  induction fuel with
  | zero => exact .pure fun _ h => h
  | succ fuel ih =>
    rw [skipBlanks]
    refine .peek fun next => ?_
    split
    · rename_i blank
      cases next with
      | none => cases blank
      | some c =>
        refine leads_skip_over (fun heq => ?_) ih
        subst heq
        exact absurd blank (by decide)
    · exact .pure fun _ h => h.1

theorem leads_digits (read : List Char) (fuel : Nat) :
    Leads (Stands chars origin) (digits read fuel) fun _ => Stands chars origin := by
  induction fuel generalizing read with
  | zero => exact .pure fun _ h => h
  | succ fuel ih =>
    rw [digits]
    refine .peek fun next => ?_
    split
    · split
      · rename_i digit
        refine leads_advance_over (fun heq => ?_) fun _ => ih _
        subst heq
        exact absurd digit (by decide)
      · exact .pure fun _ h => h.1
    · exact .pure fun _ h => h.1

theorem leads_count : Leads (Stands chars origin) count fun _ => Stands chars origin := by
  rw [count]
  refine leads_rounds (fun _ h => h.chars_eq) fun fuel _ => (leads_skipBlanks fuel).bind fun _ => ?_
  refine .glance (fun _ => rfl) fun start => leads_rounds (fun _ h => h.chars_eq) fun fuel _ => ?_
  refine (leads_digits [] fuel).bind fun read => .glance (fun _ => rfl) fun stop => ?_
  refine leads_rounds (fun _ h => h.chars_eq) fun fuel _ => (leads_skipBlanks fuel).bind fun _ => ?_
  exact .either (.pure fun _ h => h) (.either (.pure fun _ h => h) (.pure fun _ h => h))

theorem leads_takeLazy : Leads (Stands chars origin) takeLazy fun _ => Stands chars origin := by
  rw [takeLazy]
  exact (leads_take? [] '?' (by decide) (by decide)).bind fun _ => .glance (fun _ => rfl) fun _ => .pure fun _ h => h

theorem leads_countEnd (start : Nat) (range : Nat × Option Nat) :
    Leads (Stands chars origin) (do
      if (← peek?) ≠ some '\x7d' then do fail start (← here) .openCount
      else
        let _ ← advance
        let lazy ← takeLazy
        match range with
        | (low, some high) =>
          if high < low then fail start (← here) .badCountRange
          return (⟨low, some high, lazy⟩ : Count)
        | (low, none) => return ⟨low, none, lazy⟩) fun _ => Stands chars origin := by
  refine .peek fun next => .guarded (fun _ => ⟨_, rfl⟩) fun closed => ?_
  obtain rfl := Classical.not_not.mp closed
  refine leads_advance_over (by decide) fun _ => leads_takeLazy.bind fun lazy => ?_
  split
  · exact .guarded (fun _ => ⟨_, rfl⟩) fun _ => .pure fun _ h => h
  · exact .pure fun _ h => h

theorem leads_braces : Leads (Leaves chars origin) braces fun _ => Stands chars origin := by
  rw [braces]
  refine .glance (fun _ => rfl) fun start => leads_advance.bind fun more => .guarded (fun _ => ⟨_, rfl⟩) fun _ => ?_
  refine leads_count.bind fun low => .peek fun next => ?_
  split
  · exact .never fun _ => ⟨_, rfl⟩
  · rename_i c
    dsimp only
    split
    · rename_i comma
      subst comma
      refine leads_advance_over (by decide) fun more => .guarded (fun _ => ⟨_, rfl⟩) fun _ => .peek fun next => ?_
      split
      · refine .bind Leads.lift fun low => ?_
        refine .bind (leads_count.pre fun _ h => h.1) fun high => .bind Leads.lift fun high => ?_
        exact .glance (fun _ => rfl) fun range => leads_countEnd start range
      · exact .bind Leads.lift fun low => .glance (fun _ => rfl) fun range =>
          (leads_countEnd start range).pre fun _ h => h.1
    · exact .bind Leads.lift fun low => .glance (fun _ => rfl) fun range =>
        (leads_countEnd start range).pre fun _ h => h.1

/-! ### Groups -/

theorem leads_flagLetters (on : Bool) (seen : List (Char × Nat)) (flags : Flags) (fuel : Nat) :
    Leads (Stands chars origin) (flagLetters on seen flags fuel) fun _ s =>
      Stands chars origin s ∧ (chars[s.pos]? = some ':' ∨ chars[s.pos]? = some ')') := by
  induction fuel generalizing on seen flags with
  | zero => exact .never fun _ => ⟨_, rfl⟩
  | succ fuel ih =>
    rw [flagLetters.eq_def]
    dsimp only
    refine .glance (fun _ => rfl) fun place => .peek fun next => ?_
    split
    · exact .never fun _ => ⟨_, rfl⟩
    · rename_i c
      split
      · rename_i ends
        split
        · exact .never fun _ => ⟨_, rfl⟩
        · refine .pure fun s hs => ⟨hs.1, ?_⟩
          rw [← hs.1.chars_eq, hs.2]
          exact ends.imp (congrArg some) (congrArg some)
      · split
        · exact .never fun _ => ⟨_, rfl⟩
        · rename_i on flags known
          split
          · exact .never fun _ => ⟨_, rfl⟩
          · refine leads_skip_over (fun heq => ?_) ?_
            · subst heq
              cases known
            · exact .peek fun next => .guarded (fun _ => ⟨_, rfl⟩) fun _ => (ih _ _ _).pre fun _ h => h.1

theorem leads_nameChars {fuel : Nat} (enough : chars.size < origin + fuel) (name : List Char) :
    Leads (Stands chars origin) (nameChars name fuel) fun _ s => Stands chars origin s ∧ EndsAt chars '>' s := by
  induction fuel generalizing origin name with
  | zero =>
    intro s hs
    have := hs.spot.le
    have := hs.spot.inside
    omega
  | succ fuel ih =>
    rw [nameChars]
    refine .glance (fun _ => rfl) fun place => .peek fun next => ?_
    split
    · exact .pure fun _ h => ⟨h.1, .inl (h.1.chars_eq ▸ h.2)⟩
    · exact .pure fun _ h => ⟨h.1, .inr (h.1.chars_eq ▸ h.2)⟩
    · split
      · rename_i c _ named
        refine .of_state fun s hs => ?_
        have le := hs.1.spot.le
        refine .bind (Q := fun _ => Stands chars (s.pos + 1)) (leads_skip.pre ?_) fun _ => ?_
        · rintro _ rfl
          refine leaves_behind hs.1.chars_eq hs.2 fun _ heq => ?_
          subst heq
          cases hn : name.isEmpty with
          | true => exact absurd (hn ▸ named) (by decide)
          | false => exact absurd (hn ▸ named) (by decide)
        · exact (ih (by omega) _).post fun _ _ h => ⟨h.1.mono (Nat.le_succ_of_le le), h.2⟩
      · exact .never fun _ => ⟨_, rfl⟩

theorem leads_groupName : Leads (Stands chars origin) groupName fun _ => Stands chars origin := by
  rw [groupName]
  refine .glance (fun _ => rfl) fun start => .peek fun next => .guarded (fun _ => ⟨_, rfl⟩) fun _ => ?_
  refine leads_rounds (fun _ h => h.1.chars_eq) fun fuel enough => ?_
  refine .bind ((leads_nameChars (Nat.lt_add_left origin enough) []).pre fun _ h => h.1) fun name => ?_
  refine .glance (fun _ => rfl) fun stop => .peek fun next => .guarded (fun _ => ⟨_, rfl⟩) fun _ => ?_
  refine .bind (leads_skip.pre fun s hs => hs.1.2.leaves hs.1.1 (by decide)) fun _ => ?_
  refine .guarded (fun _ => ⟨_, rfl⟩) fun _ => .glance (fun _ => rfl) fun names => ?_
  split
  · exact .never fun _ => ⟨_, rfl⟩
  · exact .modify (fun _ none_ => none_) fun _ h => ⟨h.chars_eq, h.spot⟩

theorem leads_numbered : Leads (Stands chars origin) numbered fun _ => Stands chars origin := by
  rw [numbered]
  refine .bind (Q := fun _ => Stands chars origin) ?_ fun _ => ?_
  · exact .modify (fun _ none_ => none_) fun _ h => ⟨h.chars_eq, h.spot⟩
  exact .glance (fun _ => rfl) fun groups => .pure fun _ h => h

theorem leads_opening : Leads (Leaves chars origin) opening fun _ => Stands chars origin := by
  rw [opening]
  refine .glance (fun _ => rfl) fun start => leads_skip.bind fun _ => leads_skipSpace.bind fun _ => ?_
  refine .bind (.forIn fun look hl => ?_) fun _ => ?_
  · obtain ⟨before, c, ends, ne⟩ : ∃ before c, look.toList = before ++ [c] ∧ c ≠ '\\' := by
      revert look
      simp only [List.forall_mem_cons]
      exact ⟨⟨['?'], '=', by decide⟩, ⟨['?'], '!', by decide⟩, ⟨['?', '<'], '=', by decide⟩,
        ⟨['?', '<'], '!', by decide⟩, nofun⟩
    refine (leads_take? before c ends ne).bind fun _ => .guarded (fun _ => ⟨_, rfl⟩) fun _ => .pure fun _ h => h
  refine .glance (fun _ => rfl) fun inner => .bind (leads_take? ['?', 'P'] '<' (by decide) (by decide)) fun _ => ?_
  refine .either (leads_groupName.bind fun _ => leads_numbered) ?_
  refine .bind (leads_take? ['?'] '<' (by decide) (by decide)) fun _ => ?_
  refine .either (leads_groupName.bind fun _ => leads_numbered) ?_
  refine .bind (leads_take? [] '?' (by decide) (by decide)) fun _ => .either ?_ leads_numbered
  refine .peek fun next => .guarded (fun _ => ⟨_, rfl⟩) fun _ => .glance (fun _ => rfl) fun flags => ?_
  refine leads_rounds (fun _ h => h.1.chars_eq) fun fuel _ => ?_
  refine .bind ((leads_flagLetters _ _ _ fuel).pre fun _ h => h.1) fun ⟨flags, any⟩ => .peek fun last => ?_
  dsimp only
  refine .bind (leads_skip.pre fun s hs => hs.1.1.leaves fun heq => ?_) fun _ => ?_
  · rw [heq] at hs
    cases hs.1.2 <;> contradiction
  · refine .either (.guarded (fun _ => ⟨_, rfl⟩) fun _ => ?_) ?_
    all_goals exact .bind (.modify (fun _ none_ => none_) fun _ h => ⟨h.chars_eq, h.spot⟩) fun _ => .pure fun _ h => h

/-! ### Parts -/

theorem leads_atomPart (place : Stretch) (atom : Atom) :
    Leads (Stands chars origin) (atomPart place atom) fun _ => Stands chars origin := by
  rw [atomPart]
  refine .glance (fun _ => rfl) fun flags => ?_
  dsimp only
  split
  · exact .either ((leads_doubt fun _ _ h => h.doubted).bind fun _ => .pure fun _ h => h) (.pure fun _ h => h)
  · exact .pure fun _ h => h

end
end Reading
end CommandScript.Pattern
