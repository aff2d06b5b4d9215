import CommandScript.Pattern.RegexReader
import CommandScript.Proofs.Regexes.PropertyNames

/-! How the reader of regular expressions moves. It never goes back behind the place where it begins, and between the
    parts that it reads it stands at places where no backslash is in force: an escape is a part of its own. Only a
    comment that ends with the pattern may end in a backslash. -/

namespace CommandScript.Pattern

/-! ### Places -/

/-- Whether a text ends in a backslash that escapes what follows. -/
def dangles (cs : List Char) : Bool :=
  cs.foldl (fun escaped c => !escaped && c == '\\') false

@[simp]
theorem dangles_concat (cs : List Char) (c : Char) : dangles (cs ++ [c]) = (!dangles cs && c == '\\') := by
  rw [dangles, List.foldl_append]
  rfl

section
variable {chars : Array Char} {origin pos : Nat} {c : Char}

theorem take_succ_of_getElem? (h : chars[pos]? = some c) :
    chars.toList.take (pos + 1) = chars.toList.take pos ++ [c] := by
  rw [List.take_add_one, Array.getElem?_toList, h, Option.toList_some]

/-- A place of a pattern, from `origin` on, where no backslash is in force if the reading so far is `sure`. -/
structure Spot (chars : Array Char) (origin : Nat) (sure : Prop) (pos : Nat) : Prop where
  le : origin ≤ pos
  inside : pos ≤ chars.size
  settled : sure → pos < chars.size → dangles (chars.toList.take pos) = false

variable {sure : Prop}

theorem Spot.mono {origin' : Nat} (h : Spot chars origin sure pos) (le : origin' ≤ origin) :
    Spot chars origin' sure pos :=
  ⟨Nat.le_trans le h.le, h.inside, h.settled⟩

/-- Behind a character there is a spot if it is no backslash. -/
theorem spot_behind (h : chars[pos]? = some c) (ne : sure → c ≠ '\\') (le : origin ≤ pos + 1) :
    Spot chars origin sure (pos + 1) := by
  refine ⟨le, (Array.getElem?_eq_some_iff.mp h).1, fun yes _ => ?_⟩
  rw [take_succ_of_getElem? h, dangles_concat, beq_eq_false_iff_ne.mpr (ne yes), Bool.and_false]

/-- Behind a text that does not end in a backslash there is a spot. -/
theorem spot_behind_text {before more : List Char} (h : chars.toList.drop pos = before ++ c :: more) (ne : c ≠ '\\')
    (le : origin ≤ pos + before.length + 1) : Spot chars origin sure (pos + before.length + 1) := by
  have here : chars[pos + before.length]? = some c := by
    rw [← Array.getElem?_toList, ← List.getElem?_drop, h, List.getElem?_append_right (Nat.le_refl _), Nat.sub_self]
    rfl
  exact spot_behind here (fun _ => ne) le

end

/-- A reader at a spot. Whether the reading is `sure` may depend on the fault of meaning that it has noted. -/
structure StandsIf (sure : Option RegexError → Prop) (chars : Array Char) (origin : Nat) (s : ReaderState) :
    Prop where
  chars_eq : s.chars = chars
  spot : Spot chars origin (sure s.doubt) s.pos

/-- A reader that comes to a spot when it moves on by a character. -/
structure LeavesIf (sure : Option RegexError → Prop) (chars : Array Char) (origin : Nat) (s : ReaderState) :
    Prop where
  chars_eq : s.chars = chars
  spot : Spot chars origin (sure s.doubt) (min (s.pos + 1) chars.size)

/-- A reader at a spot, unless it has noted a fault of meaning. -/
abbrev Stands := StandsIf (· = none)

/-- A reader that comes to a spot when it moves on by a character, unless it has noted a fault of meaning. -/
abbrev Leaves := LeavesIf (· = none)

section
variable {sure sure' : Option RegexError → Prop} {chars : Array Char} {origin : Nat} {s : ReaderState} {c : Char}

theorem StandsIf.imp (h : StandsIf sure chars origin s) (le : ∀ d, sure' d → sure d) :
    StandsIf sure' chars origin s :=
  ⟨h.chars_eq, h.spot.le, h.spot.inside, fun yes => h.spot.settled (le _ yes)⟩

theorem LeavesIf.imp (h : LeavesIf sure chars origin s) (le : ∀ d, sure' d → sure d) :
    LeavesIf sure' chars origin s :=
  ⟨h.chars_eq, h.spot.le, h.spot.inside, fun yes => h.spot.settled (le _ yes)⟩

theorem StandsIf.mono {origin' : Nat} (h : StandsIf sure chars origin s) (le : origin' ≤ origin) :
    StandsIf sure chars origin' s :=
  ⟨h.chars_eq, h.spot.mono le⟩

theorem StandsIf.here (h : StandsIf sure chars origin s) : StandsIf sure chars s.pos s :=
  ⟨h.chars_eq, Nat.le_refl _, h.spot.inside, h.spot.settled⟩

/-- After a fault of meaning the reading is not sure. -/
theorem StandsIf.doubted {e : RegexError} (h : StandsIf sure chars origin s) :
    Stands chars origin { s with doubt := s.doubt <|> some e } := by
  refine ⟨h.chars_eq, h.spot.le, h.spot.inside, fun none_ => ?_⟩
  cases hd : s.doubt <;> simp [hd] at none_

theorem StandsIf.leaves (h : StandsIf sure chars origin s) (ne : chars[s.pos]? ≠ some '\\') :
    LeavesIf sure chars origin s := by
  refine ⟨h.chars_eq, ?_⟩
  rcases Nat.lt_or_ge s.pos chars.size with lt | ge
  · rw [Nat.min_eq_left lt]
    have here : chars[s.pos]? = some chars[s.pos] := Array.getElem?_eq_getElem lt
    exact spot_behind here (fun _ heq => ne (heq ▸ here)) (Nat.le_succ_of_le h.spot.le)
  · rw [Nat.min_eq_right (Nat.le_succ_of_le ge)]
    exact Nat.le_antisymm ge h.spot.inside ▸ h.spot

theorem StandsIf.leaves_of (h : StandsIf sure chars origin s) (here : s.chars[s.pos]? = some c) (ne : c ≠ '\\') :
    LeavesIf sure chars origin s :=
  h.leaves fun heq => ne (Option.some.inj ((h.chars_eq ▸ here).symm.trans heq))

/-- A reader before a character leaves the place of this character behind. -/
theorem leaves_behind (chars_eq : s.chars = chars) (here : s.chars[s.pos]? = some c) (ne : sure s.doubt → c ≠ '\\') :
    LeavesIf sure chars (s.pos + 1) s := by
  rw [chars_eq] at here
  refine ⟨chars_eq, ?_⟩
  rw [Nat.min_eq_left (Array.getElem?_eq_some_iff.mp here).1]
  exact spot_behind here ne (Nat.le_refl _)

end

/-- A reader at the end of the pattern, or before a character that closes what has been read. -/
def EndsAt (chars : Array Char) (close : Char) (s : ReaderState) : Prop :=
  chars[s.pos]? = none ∨ chars[s.pos]? = some close

theorem EndsAt.leaves {sure : Option RegexError → Prop} {chars : Array Char} {origin : Nat} {close : Char}
    {s : ReaderState} (ends : EndsAt chars close s) (h : StandsIf sure chars origin s) (ne : close ≠ '\\') :
    LeavesIf sure chars origin s := by
  refine h.leaves fun heq => ?_
  rcases ends with gone | here
  · rw [gone] at heq
    cases heq
  · exact ne (Option.some.inj (here.symm.trans heq))

namespace Reading

/-! ### Reading in steps -/

/-- What succeeds has come to a state between its two parts. -/
theorem run_bind_ok {x : Reading α} {f : α → Reading β} {s : ReaderState} {p : β × ReaderState}
    (run : (x >>= f).run s = .ok p) : ∃ a t, x.run s = .ok (a, t) ∧ (f a).run t = .ok p := by
  rw [StateT.run_bind] at run
  cases hr : x.run s with
  | error e =>
    rw [hr] at run
    cases run
  | ok q =>
    rw [hr] at run
    exact ⟨q.1, q.2, rfl, run⟩

/-- Reading that leads from a state with `P` to a value and a state with `Q`, if it does not fail, and that forgets no
    fault of meaning. -/
def Leads (P : ReaderState → Prop) (x : Reading α) (Q : α → ReaderState → Prop) : Prop :=
  ∀ s, P s → ∀ a s', x.run s = .ok (a, s') → Q a s' ∧ (s'.doubt = none → s.doubt = none)

namespace Leads
variable {P P' : ReaderState → Prop} {Q Q' : α → ReaderState → Prop} {R : β → ReaderState → Prop}

theorem pure {a : α} (h : ∀ s, P s → Q a s) : Leads P (pure a : Reading α) Q := by
  intro s hs b s' run
  cases run
  exact ⟨h s hs, fun none_ => none_⟩

theorem bind {x : Reading α} {f : α → Reading β} (hx : Leads P x Q) (hf : ∀ a, Leads (Q a) (f a) R) :
    Leads P (x >>= f) R := by
  intro s hs b s' run
  obtain ⟨a, t, first, second⟩ := run_bind_ok run
  obtain ⟨between, before⟩ := hx s hs a t first
  obtain ⟨after, same⟩ := hf a t between b s' second
  exact ⟨after, fun none_ => before (same none_)⟩

theorem pre {x : Reading α} (hx : Leads P x Q) (h : ∀ s, P' s → P s) : Leads P' x Q :=
  fun s hs => hx s (h s hs)

theorem post {x : Reading α} (hx : Leads P x Q) (h : ∀ a s, Q a s → Q' a s) : Leads P x Q' := by
  intro s hs a s' run
  obtain ⟨after, same⟩ := hx s hs a s' run
  exact ⟨h a s' after, same⟩

/-- What holds unless a fault of meaning has been noted still does so later. -/
theorem carry {x : Reading α} (hx : Leads P x Q) (fact : Prop) :
    Leads (fun s => P s ∧ (s.doubt = none → fact)) x fun a s => Q a s ∧ (s.doubt = none → fact) := by
  intro s hs a s' run
  obtain ⟨after, same⟩ := hx s hs.1 a s' run
  exact ⟨⟨after, fun none_ => hs.2 (same none_)⟩, same⟩

/-- Looking at the state without a change of it. -/
theorem look {x : Reading α} {f : ReaderState → α} (hx : ∀ s, x.run s = .ok (f s, s)) {k : α → Reading β}
    (hk : ∀ a, Leads (fun s => P s ∧ f s = a) (k a) R) : Leads P (x >>= k) R := by
  refine bind (Q := fun a s => P s ∧ f s = a) (fun s hs a s' run => ?_) hk
  rw [hx] at run
  cases run
  exact ⟨⟨hs, rfl⟩, fun none_ => none_⟩

/-- Reading that always fails leads anywhere. -/
theorem never {x : Reading α} (hx : ∀ s, ∃ e, x.run s = .error e) : Leads P x Q := by
  intro s _ a s' run
  obtain ⟨e, he⟩ := hx s
  rw [he] at run
  cases run

theorem either {c : Prop} [Decidable c] {x y : Reading α} (hx : Leads P x Q) (hy : Leads P y Q) :
    Leads P (if c then x else y) Q := by
  split
  · exact hx
  · exact hy

/-- Reading that only goes on where nothing is wrong. -/
theorem guarded {c : Prop} [Decidable c] {x y : Reading α} (hx : ∀ s, ∃ e, x.run s = .error e)
    (hy : ¬c → Leads P y Q) : Leads P (if c then x else y) Q := by
  split
  · exact never hx
  · rename_i h
    exact hy h

/-- Reading that goes on in one way after either of two beginnings. -/
theorem branch {c : Prop} [Decidable c] {x y : Reading α} {k : α → Reading β} (hx : c → Leads P x Q)
    (hy : ¬c → Leads P y Q) (hk : ∀ a, Leads (Q a) (k a) R) : Leads P (if c then x >>= k else y >>= k) R := by
  split
  · rename_i h
    exact (hx h).bind hk
  · rename_i h
    exact (hy h).bind hk

theorem lift {r : Except RegexError α} : Leads P (liftM r : Reading α) fun _ => P := by
  intro s hs a s' run
  cases r <;> cases run
  exact ⟨hs, fun none_ => none_⟩

theorem modify {f : ReaderState → ReaderState} {Q : ReaderState → Prop}
    (keep : ∀ s, (f s).doubt = none → s.doubt = none) (h : ∀ s, P s → Q (f s)) : Leads P (modify f) fun _ => Q := by
  intro s hs a s' run
  cases run
  exact ⟨h s hs, keep s⟩

theorem forIn {l : List γ} {f : γ → PUnit → Reading (ForInStep PUnit)} (h : ∀ a ∈ l, Leads P (f a ⟨⟩) fun _ => P) :
    Leads P (forIn l ⟨⟩ f) fun _ => P := by
  induction l with
  | nil => exact .pure fun _ hs => hs
  | cons a l ih =>
    rw [List.forall_mem_cons] at h
    rw [List.forIn_cons]
    refine h.1.bind fun step => ?_
    cases step with
    | done => exact .pure fun _ hs => hs
    | yield => exact ih h.2

theorem peek {k : Option Char → Reading β} (hk : ∀ r, Leads (fun s => P s ∧ s.chars[s.pos]? = r) (k r) R) :
    Leads P (peek? >>= k) R :=
  look (fun _ => rfl) hk

/-- What leads from each state leads from all. -/
theorem of_state {x : Reading α} (h : ∀ s, P s → Leads (· = s) x Q) : Leads P x Q :=
  fun s hs => h s hs s rfl

/-- Looking at a state that is known. -/
theorem known {s : ReaderState} {x : Reading α} {f : ReaderState → α} (hx : ∀ s, x.run s = .ok (f s, s))
    {k : α → Reading β} (hk : Leads (· = s) (k (f s)) R) : Leads (· = s) (x >>= k) R := by
  rintro s rfl b s' h
  rw [StateT.run_bind, hx] at h
  exact hk s rfl b s' h

/-- Looking at what the rest of the reading does not depend on. -/
theorem glance {x : Reading α} {f : ReaderState → α} (hx : ∀ s, x.run s = .ok (f s, s)) {k : α → Reading β}
    (hk : ∀ a, Leads P (k a) R) : Leads P (x >>= k) R :=
  look hx fun a => (hk a).pre fun _ h => h.1

end Leads

/-! ### Moving on -/

section
variable {sure : Option RegexError → Prop} {chars : Array Char} {origin : Nat} {c : Char}

theorem leads_skip : Leads (LeavesIf sure chars origin) (skip 1) fun _ => StandsIf sure chars origin :=
  .modify (fun _ none_ => none_) fun _ hs => ⟨hs.chars_eq, hs.chars_eq.symm ▸ hs.spot⟩

theorem leads_doubt {start stop : Nat} {fault : RegexFault} {P Q : ReaderState → Prop}
    (h : ∀ s e, P s → Q { s with doubt := s.doubt <|> some e }) : Leads P (doubt start stop fault) fun _ => Q :=
  .modify (fun s none_ => (by cases hd : s.doubt <;> simp [hd] at none_ ⊢)) fun s hs => h s _ hs

/-- Blanks and comments end at a spot. In a comment a backslash may be in force, but not behind its line. -/
theorem spot_spaceEnd {sure : Prop} {comment : Bool} {pos fuel : Nat} (le : origin ≤ pos) (inside : pos ≤ chars.size)
    (enough : chars.size ≤ pos + fuel) (settled : comment = false → Spot chars origin sure pos) :
    Spot chars origin sure (spaceEnd chars comment pos fuel) := by
  induction fuel generalizing comment pos with
  | zero =>
    rw [spaceEnd]
    exact ⟨le, inside, fun _ lt => absurd lt (by omega)⟩
  | succ fuel ih =>
    rw [spaceEnd]
    cases hc : chars[pos]? with
    | none => exact ⟨le, inside, fun _ lt => absurd lt (Nat.not_lt.mpr (Array.getElem?_eq_none_iff.mp hc))⟩
    | some c =>
      have lt := (Array.getElem?_eq_some_iff.mp hc).1
      dsimp only
      split
      · refine ih (Nat.le_succ_of_le le) lt (by omega) fun ends => ?_
        refine spot_behind hc (fun _ heq => ?_) (Nat.le_succ_of_le le)
        subst heq
        cases ends
      · rename_i outside
        have here := settled (Bool.eq_false_iff.mpr outside)
        split
        · rename_i blank
          refine ih (Nat.le_succ_of_le le) lt (by omega) fun _ => ?_
          refine spot_behind hc (fun _ heq => ?_) (Nat.le_succ_of_le le)
          subst heq
          exact absurd blank (by decide)
        · split
          · exact ih (Nat.le_succ_of_le le) lt (by omega) fun h => (by cases h)
          · exact here

theorem leads_skipSpace : Leads (StandsIf sure chars origin) skipSpace fun _ => StandsIf sure chars origin := by
  refine .modify (fun s none_ => ?_) fun s hs => ?_
  · split at none_ <;> exact none_
  split
  · refine ⟨hs.chars_eq, ?_⟩
    show Spot chars origin (sure s.doubt) (spaceEnd s.chars false s.pos s.chars.size)
    rw [hs.chars_eq]
    exact spot_spaceEnd hs.spot.le hs.spot.inside (Nat.le_add_left _ _) fun _ => hs.spot
  · exact hs

theorem leads_advance_end : Leads (LeavesIf sure chars origin) advance fun more s =>
    StandsIf sure chars origin s ∧ (more = false → chars[s.pos]? = none) := by
  refine leads_skip.bind fun _ => leads_skipSpace.bind fun _ => .peek fun next => ?_
  refine .pure fun s hs => ⟨hs.1, fun ends => ?_⟩
  rw [← hs.1.chars_eq, hs.2]
  exact Option.isNone_iff_eq_none.mp (Option.isSome_eq_false_iff.mp ends)

theorem leads_advance : Leads (LeavesIf sure chars origin) advance fun _ => StandsIf sure chars origin :=
  leads_advance_end.post fun _ _ h => h.1

/-- Reading on behind a character that is no backslash. -/
theorem leads_advance_over {k : Bool → Reading β} {R : β → ReaderState → Prop} (ne : c ≠ '\\')
    (hk : ∀ more, Leads (Stands chars origin) (k more) R) :
    Leads (fun s => Stands chars origin s ∧ s.chars[s.pos]? = some c) (advance >>= k) R :=
  (leads_advance.pre fun _ hs => hs.1.leaves_of hs.2 ne).bind hk

theorem leads_skip_over {k : Unit → Reading β} {R : β → ReaderState → Prop} (ne : c ≠ '\\')
    (hk : Leads (Stands chars origin) (k ()) R) :
    Leads (fun s => Stands chars origin s ∧ s.chars[s.pos]? = some c) (skip 1 >>= k) R :=
  (leads_skip.pre fun _ hs => hs.1.leaves_of hs.2 ne).bind fun _ => hk

/-- Moving over a text that stands at the reader and does not end in a backslash. -/
theorem leads_skip_text {s : ReaderState} {before more : List Char} (hs : Stands chars origin s)
    (stands : chars.toList.drop s.pos = before ++ c :: more) (ne : c ≠ '\\') :
    Leads (· = s) (skip (before.length + 1)) fun _ => Stands chars origin := by
  have behind : Spot chars origin (s.doubt = none) (s.pos + before.length + 1) :=
    spot_behind_text stands ne (by have := hs.spot.le; omega)
  refine .modify (fun _ none_ => none_) fun s heq => ?_
  subst heq
  refine ⟨hs.chars_eq, ?_⟩
  show Spot chars origin (s.doubt = none) (min (s.pos + (before.length + 1)) s.chars.size)
  rw [hs.chars_eq, ← Nat.add_assoc, Nat.min_eq_left behind.inside]
  exact behind

theorem leads_take? {text : String} (before : List Char) (c : Char) (ends : text.toList = before ++ [c])
    (ne : c ≠ '\\') : Leads (Stands chars origin) (take? text) fun _ => Stands chars origin := by
  refine .of_state fun s hs => .known (f := id) (fun _ => rfl) ?_
  dsimp only [id]
  split
  · rename_i same
    have stands := eq_of_beq same
    rw [Array.toList_extract, List.extract_eq_take_drop, Nat.add_sub_cancel_left, ends] at stands
    have rest := List.take_append_drop (before ++ [c]).length (s.chars.toList.drop s.pos)
    rw [stands, hs.chars_eq, List.append_assoc] at rest
    rw [ends, List.length_append]
    exact (leads_skip_text hs rest.symm ne).bind fun _ => .pure fun _ h => h
  · exact .pure fun _ h => h ▸ hs

/-- The rounds that a loop over the rest of the pattern may need are enough. -/
theorem leads_rounds {P : ReaderState → Prop} {k : Nat → Reading β} {R : β → ReaderState → Prop}
    (hP : ∀ s, P s → s.chars = chars) (hk : ∀ n, chars.size < n → Leads P (k n) R) : Leads P (rounds >>= k) R :=
  .look (f := fun s => s.chars.size + 1) (fun _ => rfl) fun n s hs =>
    hk n (by rw [← hs.2, hP s hs.1]; exact Nat.lt_succ_self _) s hs.1

/-! ### Escapes -/

theorem ne_backslash_of_hexDigit? {d : Nat} (h : Text.hexDigit? c = some d) : c ≠ '\\' := by
  rintro rfl
  have none_ : Text.hexDigit? '\\' = none := by decide
  rw [none_] at h
  cases h

theorem leads_hexDigits (first : Bool) (high count : Nat) (some_ : first = true → count ≠ 0) :
    Leads (fun s => if first then Stands chars origin s else Leaves chars origin s) (hexDigits first high count)
      fun _ => Stands chars origin := by
  induction count generalizing first high with
  | zero =>
    obtain rfl : first = false := Bool.eq_false_iff.mpr fun h => some_ h rfl
    exact leads_advance.bind fun _ => .pure fun _ h => h
  | succ count ih =>
    rw [hexDigits]
    refine .branch (Q := fun _ => Stands chars origin) (fun yes => .pure fun s hs => ?_) (fun no => ?_) fun more =>
      .glance (fun _ => rfl) fun place => ?_
    · rwa [if_pos yes] at hs
    · exact leads_advance.pre fun s hs => by rwa [if_neg no] at hs
    · refine .guarded (fun _ => ⟨_, rfl⟩) fun _ => .peek fun next => ?_
      cases next with
      | none => exact .never fun _ => ⟨_, rfl⟩
      | some c =>
        dsimp only
        cases hd : Text.hexDigit? c with
        | none => exact .never fun _ => ⟨_, rfl⟩
        | some d => exact (ih false _ nofun).pre fun s hs => hs.1.leaves_of hs.2 (ne_backslash_of_hexDigit? hd)

theorem leads_bracedDigits {fuel : Nat} (enough : chars.size < origin + fuel) (count value : Nat) :
    Leads (Leaves chars origin) (bracedDigits count value fuel) fun _ s =>
      Stands chars origin s ∧ EndsAt chars '\x7d' s := by
  induction fuel generalizing origin count value with
  | zero =>
    intro s hs
    have := hs.spot.le
    omega
  | succ fuel ih =>
    rw [bracedDigits]
    refine leads_advance_end.bind fun more => ?_
    split
    · rename_i ends
      exact .pure fun s hs => ⟨hs.1, .inl (hs.2 (by simpa using ends))⟩
    · refine .glance (fun _ => rfl) fun place => .peek fun next => ?_
      split
      · exact .pure fun s hs => ⟨hs.1.1, .inr (hs.1.1.chars_eq ▸ hs.2)⟩
      · rename_i c _
        cases hd : Text.hexDigit? c with
        | none => exact .never fun _ => ⟨_, rfl⟩
        | some d =>
          refine .of_state fun s hs => ?_
          have le := hs.1.1.spot.le
          have further := @ih (s.pos + 1) (by omega) (count + 1) (16 * value + d)
          refine (further.pre ?_).post fun _ _ h => ⟨h.1.mono (Nat.le_succ_of_le le), h.2⟩
          rintro _ rfl
          exact leaves_behind hs.1.1.chars_eq hs.2 fun _ => ne_backslash_of_hexDigit? hd
      · exact .pure fun s hs => ⟨hs.1.1, .inl (hs.1.1.chars_eq ▸ hs.2)⟩

theorem leads_hexCode (opened : Nat) {width : Nat} (some_ : width ≠ 0) :
    Leads (Leaves chars origin) (hexCode opened width) fun _ => Stands chars origin := by
  rw [hexCode]
  refine leads_advance.bind fun more => ?_
  refine .guarded (fun _ => ⟨_, rfl⟩) fun _ => .glance (fun _ => rfl) fun start => .peek fun next => ?_
  split
  · rename_i brace
    refine leads_rounds (fun s hs => hs.1.chars_eq) fun fuel enough => ?_
    refine .bind (Q := fun _ s => Stands chars origin s ∧ EndsAt chars '\x7d' s) ?_ fun ⟨count, value⟩ => ?_
    · refine ((leads_bracedDigits (Nat.lt_add_left origin enough) 0 0).pre fun s hs => ?_)
      exact hs.1.leaves_of (hs.2.trans (eq_of_beq brace)) (by decide)
    · dsimp only
      refine .peek fun next => .guarded (fun _ => ⟨_, rfl⟩) fun _ => .glance (fun _ => rfl) fun stop => ?_
      refine .bind (leads_advance.pre fun s hs => hs.1.2.leaves hs.1.1 (by decide)) fun _ => ?_
      refine .guarded (fun _ => ⟨_, rfl⟩) fun _ => ?_
      split
      · exact .pure fun _ h => h
      · exact .never fun _ => ⟨_, rfl⟩
  · refine .bind (Q := fun _ => Stands chars origin) ?_ fun value => ?_
    · exact (leads_hexDigits true 0 width fun _ => some_).pre fun s hs => hs.1
    · refine .glance (fun _ => rfl) fun flags => ?_
      refine .either (.glance (fun _ => rfl) fun stop => (leads_doubt fun _ _ h => h.doubted).bind fun _ => ?_) ?_
      all_goals
        split
        · exact .pure fun _ h => h
        · exact .never fun _ => ⟨_, rfl⟩

/-- Where the text of a property holds a backslash, the reading is not sure, since there is no such property. -/
theorem leads_propertyText {fuel : Nat} (enough : chars.size < origin + fuel) (read : List Char) :
    Leads (LeavesIf (fun d => d = none ∧ '\\' ∉ read) chars origin) (propertyText read fuel) fun text s =>
      StandsIf (fun d => d = none ∧ '\\' ∉ text) chars origin s ∧ EndsAt chars '\x7d' s := by
  induction fuel generalizing origin read with
  | zero =>
    intro s hs
    have := hs.spot.le
    have := hs.spot.inside
    omega
  | succ fuel ih =>
    rw [propertyText]
    refine leads_advance_end.bind fun more => ?_
    split
    · rename_i ends
      refine .pure fun s hs => ⟨?_, .inl (hs.2 (by simpa using ends))⟩
      simpa only [List.mem_reverse] using hs.1
    · refine .peek fun next => ?_
      split
      · refine .pure fun s hs => ⟨?_, .inr (hs.1.1.chars_eq ▸ hs.2)⟩
        simpa only [List.mem_reverse] using hs.1.1
      · rename_i c _
        refine .of_state fun s hs => ?_
        have le := hs.1.1.spot.le
        have further := @ih (s.pos + 1) (by omega) (c :: read)
        refine (further.pre ?_).post fun _ _ h => ⟨h.1.mono (Nat.le_succ_of_le le), h.2⟩
        rintro _ rfl
        refine leaves_behind hs.1.1.chars_eq hs.2 fun yes heq => yes.2 ?_
        rw [heq]
        exact List.mem_cons_self
      · refine .pure fun s hs => ⟨?_, .inl (hs.1.1.chars_eq ▸ hs.2)⟩
        simpa only [List.mem_reverse] using hs.1.1

/-- Behind a property that is known the reader stands. One that is not known is a fault of meaning, after which nothing
    is left to show. -/
theorem leads_foundSet (negated : Bool) (start : Nat) (found : Except RegexFault CharSet) :
    Leads (StandsIf (fun d => d = none ∧ ∃ s, found = .ok s) chars origin) (do
      let flags := (← get).flags
      match if flags.ascii then Except.error .unicodeRefused else found with
      | .ok s => return if negated then (flags.fold s).complement else flags.fold s
      | .error fault =>
        doubt start (← here) fault
        return CharSet.empty) fun _ => Stands chars origin := by
  refine .glance (fun _ => rfl) fun flags => ?_
  dsimp only
  split
  · rename_i s hs
    have known : found = .ok s := by
      split at hs
      · cases hs
      · exact hs
    exact .pure fun _ h => h.imp fun _ none_ => ⟨none_, s, known⟩
  · exact .glance (fun _ => rfl) fun stop => (leads_doubt fun _ _ h => h.doubted).bind fun _ => .pure fun _ h => h

theorem leads_property (negated : Bool) (start : Nat) :
    Leads (Leaves chars origin) (property negated start) fun _ => Stands chars origin := by
  rw [property]
  refine leads_advance.bind fun more => ?_
  refine .guarded (fun _ => ⟨_, rfl⟩) fun _ => .peek fun first => ?_
  dsimp only
  split
  · rename_i brace
    refine leads_rounds (fun s hs => hs.1.chars_eq) fun fuel enough => ?_
    refine .bind ((leads_propertyText (Nat.lt_add_left origin enough) []).pre fun s hs => ?_) fun text => ?_
    · refine (hs.1.leaves_of (hs.2.trans (eq_of_beq brace)) (by decide)).imp fun _ h => h.1
    · refine .peek fun next => .guarded (fun _ => ⟨_, rfl⟩) fun _ => ?_
      refine .bind (leads_skip.pre fun s hs => hs.1.2.leaves hs.1.1 (by decide)) fun _ => ?_
      refine (leads_foundSet negated start (CharSet.property text)).pre fun s hs => hs.imp fun _ h => ?_
      obtain ⟨none_, found, known⟩ := h
      exact ⟨none_, plain_of_property known⟩
  · refine .glance (fun _ => rfl) fun place => .guarded (fun _ => ⟨_, rfl⟩) fun other => ?_
    refine .bind (leads_advance.pre fun s hs => hs.1.leaves fun heq => ?_) fun _ => ?_
    · rw [hs.1.chars_eq, heq] at hs
      exact other (beq_iff_eq.mpr hs.2.symm)
    · exact (leads_foundSet negated start (CharSet.named first.toList)).pre fun s hs => hs.imp fun _ h => h.1

theorem leads_boundaryName (name : List Char) (fuel : Nat) :
    Leads (Stands chars origin) (boundaryName name fuel) fun _ => Stands chars origin := by
  induction fuel generalizing name with
  | zero => exact .pure fun _ h => h
  | succ fuel ih =>
    rw [boundaryName]
    refine .peek fun next => ?_
    split
    · rename_i c
      split
      · rename_i boundary
        refine leads_advance_over (fun heq => ?_) fun _ => ih _
        subst heq
        exact absurd boundary (by decide)
      · exact .pure fun _ h => h.1
    · exact .pure fun _ h => h.1

theorem leads_wordBoundary (start : Nat) :
    Leads (Stands chars origin) (wordBoundary start) fun _ => Stands chars origin := by
  rw [wordBoundary]
  refine .peek fun next => ?_
  dsimp only
  split
  · exact .pure fun _ h => h.1
  · rename_i brace
    obtain rfl := Classical.not_not.mp brace
    refine .of_state fun s hs => .known (f := (·.pos)) (fun _ => rfl) ?_
    -- where no name follows, the reader goes back to the brace, which is a spot still
    have forward : Leads (· = s) advance fun _ s' =>
        Stands chars origin s' ∧ (s'.doubt = none → Spot chars origin True s.pos) := by
      refine (leads_advance.carry _).pre ?_
      rintro s rfl
      refine ⟨hs.1.leaves_of hs.2 (by decide), fun none_ => ⟨hs.1.spot.le, hs.1.spot.inside, fun _ => ?_⟩⟩
      exact hs.1.spot.settled none_
    refine forward.bind fun more => ?_
    refine .guarded (fun _ => ⟨_, rfl⟩) fun _ => .glance (fun _ => rfl) fun inner => .peek fun first => ?_
    split
    · refine .bind (.modify (fun _ none_ => none_) fun s' hs' => ?_) fun _ => .pure fun _ h => h
      exact ⟨hs'.1.1.chars_eq, hs.1.spot.le, hs.1.spot.inside, fun none_ => (hs'.1.2 none_).settled trivial⟩
    · refine leads_rounds (fun s hs => hs.1.1.chars_eq) fun fuel _ => ?_
      refine .bind ((leads_boundaryName [] fuel).pre fun s hs => hs.1.1) fun name => .peek fun close => ?_
      refine .guarded (fun _ => ⟨_, rfl⟩) fun closed => .glance (fun _ => rfl) fun stop => ?_
      obtain rfl := Classical.not_not.mp closed
      refine leads_skip_over (by decide) ?_
      split <;> first | exact .pure fun _ h => h | exact .never fun _ => ⟨_, rfl⟩

theorem leads_checked (start stop : Nat) (set : CharSet) {P : ReaderState → Prop}
    (h : ∀ s e, P s → P { s with doubt := s.doubt <|> some e }) : Leads P (checked start stop set) fun _ => P := by
  rw [checked]
  refine .glance (fun _ => rfl) fun flags => .either ?_ (.pure fun _ h => h)
  exact (leads_doubt h).bind fun _ => .pure fun _ h => h

/-- Behind the backslash of an escape, any character leads to a spot. -/
theorem leaves_escaped {s : ReaderState} (hs : Stands chars origin s) (here : s.chars[s.pos]? = some '\\')
    (next : s.chars[s.pos + 1]? = some c) : Leaves chars (s.pos + 2) { s with pos := s.pos + 1 } := by
  rw [hs.chars_eq] at here next
  have inside := (Array.getElem?_eq_some_iff.mp next).1
  refine ⟨hs.chars_eq, ?_⟩
  show Spot chars (s.pos + 2) (s.doubt = none) (min (s.pos + 2) chars.size)
  rw [Nat.min_eq_left inside]
  refine ⟨Nat.le_refl _, inside, fun none_ _ => ?_⟩
  rw [take_succ_of_getElem? next, take_succ_of_getElem? here, dangles_concat, dangles_concat,
    hs.spot.settled none_ (Nat.lt_of_succ_lt inside)]
  rfl

/-- An escape has two characters at least. -/
theorem leads_escape {s : ReaderState} (hs : Stands chars origin s) (here : s.chars[s.pos]? = some '\\') :
    Leads (· = s) escape fun _ => Stands chars (s.pos + 2) := by
  rw [escape]
  refine .glance (fun _ => rfl) fun start => ?_
  refine .bind (Q := fun _ s' => s' = { s with pos := s.pos + 1 }) ?_ fun _ => .peek fun next => ?_
  · refine .modify (fun _ none_ => none_) fun s₀ heq => ?_
    rw [heq, Nat.min_eq_left (Array.getElem?_eq_some_iff.mp here).1]
  cases next with
  | none => exact .never fun _ => ⟨_, rfl⟩
  | some c =>
    refine Leads.pre (P := Leaves chars (s.pos + 2)) ?_ ?_
    · refine .guarded (fun _ => ⟨_, rfl⟩) fun _ => .glance (fun _ => rfl) fun flags => ?_
      dsimp only
      split
      · exact (leads_hexCode start (by decide)).bind fun _ => .pure fun _ h => h
      · exact (leads_hexCode start (by decide)).bind fun _ => .pure fun _ h => h
      · exact (leads_hexCode start (by decide)).bind fun _ => .pure fun _ h => h
      · exact (leads_property _ start).bind fun _ => .pure fun _ h => h
      · exact (leads_property _ start).bind fun _ => .pure fun _ h => h
      · refine leads_skip.bind fun _ => ?_
        split
        · refine .glance (fun _ => rfl) fun stop => ?_
          exact (leads_checked start stop _ fun _ _ h => h.doubted).bind fun _ => .pure fun _ h => h
        · split
          case h_9 => exact (leads_wordBoundary start).bind fun _ => .pure fun _ h => h
          case h_13 => exact .either (.pure fun _ h => h) (.never fun _ => ⟨_, rfl⟩)
          all_goals exact .pure fun _ h => h
    · rintro _ ⟨rfl, next⟩
      exact leaves_escaped hs here next

end
end Reading
end CommandScript.Pattern
