import CommandScript.Proofs.Regexes.Parts

/-! The classes and escapes of a regular expression: where its reader, with all that belongs to it, meets a bracketed
    class or an escape outside classes. They stand in order and apart from each other. -/

namespace CommandScript.Pattern
namespace Reading

/-- The stretches of the classes and escapes in the rest of a group, which began at `opened`, or of the whole pattern.
    With the flag for blanks and comments, those behind an escape of several digits belong to it. -/
def asides (opened : Option Stretch) : (fuel : Nat) → Reading (List Stretch)
  | 0 => return []
  | fuel + 1 => do
    skipSpace
    let flags := (← get).flags
    let start ← here
    match ← peek? with
    | none =>
      match opened with
      | some s => fail s.start s.stop .openGroup
      | none => return []
    | some c =>
      match c with
      | '(' =>
        match ← opening with
        | .flags => asides opened fuel
        | .group _ =>
          let inner ← asides (some ⟨start, start + 1⟩) fuel
          modify fun s => { s with flags := flags }
          return inner ++ (← asides opened fuel)
      | ')' =>
        match opened with
        | none => fail start (start + 1) .strayParenthesis
        | some _ =>
          skip 1
          return []
      | '|' =>
        skip 1
        asides opened fuel
      | '[' =>
        let _ ← bracketed (← rounds)
        let place : Stretch := ⟨start, ← here⟩
        return place :: (← asides opened fuel)
      | '?' | '*' | '+' =>
        skip 1
        let _ ← takeLazy
        asides opened fuel
      | '\x7b' =>
        let _ ← braces
        asides opened fuel
      | '\\' =>
        let atom ← escape
        let place : Stretch := ⟨start, ← here⟩
        let _ ← atomPart place atom
        return place :: (← asides opened fuel)
      | _ =>
        skip 1
        let _ ← atomPart ⟨start, start + 1⟩ (.ofChar flags c)
        asides opened fuel

/-! ### Following the reader -/

/-- Where `x` succeeds, `y` does so too and comes to the same state. -/
def Follows (x : Reading α) (y : Reading β) : Prop :=
  ∀ s a s', x.run s = .ok (a, s') → ∃ b, y.run s = .ok (b, s')

namespace Follows

theorem pure {a : α} {b : β} : Follows (pure a : Reading α) (pure b : Reading β) := by
  rintro s _ s' ⟨⟩
  exact ⟨b, rfl⟩

theorem bind {x : Reading α} {y : Reading β} {f : α → Reading γ} {g : β → Reading δ} (hx : Follows x y)
    (hf : ∀ a b, Follows (f a) (g b)) : Follows (x >>= f) (y >>= g) := by
  intro s c s' run
  obtain ⟨a, t, first, second⟩ := run_bind_ok run
  obtain ⟨b, hb⟩ := hx s a t first
  rw [StateT.run_bind, hb]
  exact hf a b t c s' second

/-- The same reading before what follows. -/
theorem on {x : Reading α} {f : α → Reading β} {g : α → Reading γ} (hf : ∀ a, Follows (f a) (g a)) :
    Follows (x >>= f) (x >>= g) := by
  intro s c s' run
  obtain ⟨a, t, first, second⟩ := run_bind_ok run
  rw [StateT.run_bind, first]
  exact hf a t c s' second

/-- What changes no state need not be followed. -/
theorem past {x : Reading α} {f : α → Reading β} {y : Reading γ} (hx : ∀ s a s', x.run s = .ok (a, s') → s' = s)
    (hf : ∀ a, Follows (f a) y) : Follows (x >>= f) y := by
  intro s c s' run
  obtain ⟨a, t, first, second⟩ := run_bind_ok run
  exact hf a s c s' (hx s a t first ▸ second)

theorem past_here {f : Nat → Reading β} {y : Reading γ} (hf : ∀ n, Follows (f n) y) : Follows (here >>= f) y :=
  past (by rintro s a s' ⟨⟩; rfl) hf

/-- What follows may look where it is. -/
theorem then_here {x : Reading α} {g : Nat → Reading β} (hg : ∀ n, Follows x (g n)) : Follows x (here >>= g) :=
  fun s a s' run => hg s.pos s a s' run

theorem map {x : Reading α} {y : Reading β} (h : Follows x y) (f : β → γ) :
    Follows x (y >>= fun b => Pure.pure (f b)) := by
  intro s a s' run
  obtain ⟨b, hb⟩ := h s a s' run
  refine ⟨f b, ?_⟩
  rw [StateT.run_bind, hb]
  rfl

theorem never {x : Reading α} {y : Reading β} (hx : ∀ s, ∃ e, x.run s = .error e) : Follows x y := by
  intro s a s' run
  obtain ⟨e, he⟩ := hx s
  rw [he] at run
  cases run

end Follows

theorem needOperand_state (parts : List Part) (s : ReaderState) (u : Unit) (s' : ReaderState)
    (h : (needOperand parts).run s = .ok (u, s')) : s' = s := by
  rw [needOperand.eq_def] at h
  split at h <;> cases h
  rfl

theorem body_follows (opened : Option Stretch) (d : Draft) (fuel : Nat) :
    Follows (body opened d fuel) (asides opened fuel) := by
  induction fuel generalizing opened d with
  | zero => exact .pure
  | succ fuel ih =>
    rw [body.eq_def, asides.eq_def]
    dsimp only
    refine .on fun _ => .on fun flags => .on fun start => .on fun next => ?_
    cases next with
    | none =>
      dsimp only
      split
      · exact .never fun _ => ⟨_, rfl⟩
      · exact .pure
    | some c =>
      by_cases special : c ∈ ['(', ')', '|', '[', '?', '*', '+', '\x7b', '\\']
      · simp only [List.mem_cons, List.not_mem_nil, or_false] at special
        obtain rfl | rfl | rfl | rfl | rfl | rfl | rfl | rfl | rfl := special <;> dsimp only
        · refine .on fun opened' => ?_
          cases opened' with
          | flags => exact .past_here fun stop => ih _ _
          | group number =>
            refine .past_here fun inside => .bind (ih _ _) fun inner ms => .on fun _ => .past_here fun stop => ?_
            exact (ih _ _).map _
        · cases opened with
          | none => exact .never fun _ => ⟨_, rfl⟩
          | some _ => exact .on fun _ => .pure
        · exact .on fun _ => ih _ _
        · exact .on fun fuel => .on fun m => .then_here fun stop => (ih _ _).map _
        · refine .past (needOperand_state _) fun _ => .on fun _ => .on fun lazy => .past_here fun stop => ih _ _
        · refine .past (needOperand_state _) fun _ => .on fun _ => .on fun lazy => .past_here fun stop => ih _ _
        · refine .past (needOperand_state _) fun _ => .on fun _ => .on fun lazy => .past_here fun stop => ih _ _
        · refine .past (needOperand_state _) fun _ => .on fun count => .past_here fun stop => ih _ _
        · exact .on fun atom => .on fun stop => .on fun _ => (ih _ _).map _
      · simp only [List.mem_cons, List.not_mem_nil, or_false, not_or] at special
        obtain ⟨_, _, _, _, _, _, _, _, _⟩ := special
        simp only
        exact .on fun _ => .on fun _ => ih _ _

end Reading

/-! ### Stretches of a text -/

/-- The characters of a text at a stretch. -/
def Stretch.cut (place : Stretch) (cs : List Char) : List Char :=
  (cs.drop place.start).take (place.stop - place.start)

namespace Stretch
variable {cs : List Char} {i j k : Nat} {c : Char}

theorem mem_cut {place : Stretch} : c ∈ place.cut cs ↔ ∃ i, place.start ≤ i ∧ i < place.stop ∧ cs[i]? = some c := by
  rw [cut, List.mem_iff_getElem?]
  constructor
  · rintro ⟨n, hn⟩
    rw [List.getElem?_take] at hn
    split at hn
    · rw [List.getElem?_drop] at hn
      exact ⟨place.start + n, Nat.le_add_right _ _, by omega, hn⟩
    · cases hn
  · rintro ⟨i, le, lt, hi⟩
    refine ⟨i - place.start, ?_⟩
    rw [List.getElem?_take, if_pos (by omega), List.getElem?_drop, Nat.add_sub_cancel' le, hi]

theorem cut_append (hij : i ≤ j) (hjk : j ≤ k) : cut ⟨i, k⟩ cs = cut ⟨i, j⟩ cs ++ cut ⟨j, k⟩ cs := by
  have sum : k - i = (j - i) + (k - j) := by omega
  rw [cut, cut, cut, sum, List.take_add, List.drop_drop, Nat.add_sub_cancel' hij]

theorem cut_one (h : cs[i]? = some c) : cut ⟨i, i + 1⟩ cs = [c] := by
  rw [cut, Nat.add_sub_cancel_left, List.take_one, List.head?_drop, h]
  rfl

theorem head?_cut {place : Stretch} (lt : place.start < place.stop) : (place.cut cs).head? = cs[place.start]? := by
  rw [cut, List.head?_take, if_neg (by omega), List.head?_drop]

theorem cut_drop {place : Stretch} {n : Nat} : (place.cut cs).drop n = cut ⟨place.start + n, place.stop⟩ cs := by
  rw [cut, cut, List.drop_take, List.drop_drop, Nat.sub_sub]

theorem cut_zero : cut ⟨0, j⟩ cs = cs.take j := by
  rw [cut, List.drop_zero, Nat.sub_zero]

end Stretch

/-! ### Classes and escapes in order -/

/-- A class with its brackets, the closing one of which no backslash escapes, or an escape. -/
inductive Aside (cs : List Char) (place : Stretch) : Prop where
  | bracketed {inner : List Char} (cut : place.cut cs = '[' :: (inner ++ [']'])) (unescaped : dangles inner = false)
  | escape {c : Char} {more : List Char} (cut : place.cut cs = '\\' :: c :: more)

theorem Aside.lt {cs : List Char} {place : Stretch} (aside : Aside cs place) : place.start < place.stop := by
  refine Nat.lt_of_not_le fun ge => ?_
  have nothing : place.cut cs = [] := by rw [Stretch.cut, Nat.sub_eq_zero_of_le ge, List.take_zero]
  cases aside with
  | bracketed cut => rw [nothing] at cut; cases cut
  | escape cut => rw [nothing] at cut; cases cut

/-- The brackets of a class that no backslash escapes in the text before. -/
theorem aside_of_brackets {cs : List Char} {first last : Nat} (opens : cs[first]? = some '[')
    (closes : cs[last]? = some ']') (order : first < last) (settled : dangles (cs.take first) = false)
    (unescaped : dangles (cs.take last) = false) : Aside cs ⟨first, last + 1⟩ := by
  have parts : cs.take last = cs.take first ++ '[' :: Stretch.cut ⟨first + 1, last⟩ cs := by
    rw [← Stretch.cut_zero, Stretch.cut_append (Nat.zero_le _) (Nat.le_of_lt order),
      Stretch.cut_append (Nat.le_succ first) order, Stretch.cut_one opens, Stretch.cut_zero]
    rfl
  refine @Aside.bracketed _ _ (Stretch.cut ⟨first + 1, last⟩ cs) ?_ ?_
  · rw [Stretch.cut_append (Nat.le_succ first) (Nat.le_succ_of_le order), Stretch.cut_one opens,
      Stretch.cut_append order (Nat.le_succ last), Stretch.cut_one closes]
    rfl
  · rw [parts, dangles, List.foldl_append] at unescaped
    rw [dangles] at settled
    rw [settled] at unescaped
    exact unescaped

/-- An escape takes its meaning from one character at least. -/
theorem aside_of_backslash {cs : List Char} {place : Stretch} (opens : cs[place.start]? = some '\\')
    (order : place.start + 2 ≤ place.stop) (inside : place.stop ≤ cs.length) : Aside cs place := by
  obtain ⟨c, next⟩ : ∃ c, cs[place.start + 1]? = some c := ⟨_, List.getElem?_eq_getElem (by omega)⟩
  refine @Aside.escape _ _ c (Stretch.cut ⟨place.start + 2, place.stop⟩ cs) ?_
  have parts := @Stretch.cut_append cs _ _ _ (Nat.le_add_right place.start 2) order
  rw [Stretch.cut_append (Nat.le_succ place.start) (Nat.le_succ _), Stretch.cut_one opens,
    Stretch.cut_one next] at parts
  exact parts

/-- Classes and escapes one after the other, between two places. -/
inductive Apart (cs : List Char) : Nat → List Stretch → Nat → Prop where
  | nil {i j : Nat} (le : i ≤ j) : Apart cs i [] j
  | cons {i j : Nat} {place : Stretch} {ms : List Stretch} (le : i ≤ place.start) (aside : Aside cs place)
      (rest : Apart cs place.stop ms j) : Apart cs i (place :: ms) j

namespace Apart
variable {cs : List Char} {i j k : Nat} {ms ms' : List Stretch}

theorem mono (h : Apart cs i ms j) (le : k ≤ i) : Apart cs k ms j := by
  cases h with
  | nil le' => exact .nil (Nat.le_trans le le')
  | cons le' aside rest => exact .cons (Nat.le_trans le le') aside rest

theorem append (h : Apart cs i ms j) (h' : Apart cs j ms' k) : Apart cs i (ms ++ ms') k := by
  induction h with
  | nil le => exact h'.mono le
  | cons le aside _ ih => exact .cons le aside (ih h')

end Apart

namespace Reading

/-- The asides between `origin` and the reader, which is at a spot; the whole pattern has been read if `whole`. -/
structure Collected (chars : Array Char) (whole : Prop) (origin : Nat) (ms : List Stretch) (s : ReaderState) :
    Prop where
  stands : Stands chars origin s
  apart : s.doubt = none → Apart chars.toList origin ms s.pos
  done : whole → s.pos = chars.size

section
variable {chars : Array Char} {whole : Prop} {origin : Nat} {ms : List Stretch} {s : ReaderState}

theorem Collected.mono {origin' : Nat} (h : Collected chars whole origin ms s) (le : origin' ≤ origin) :
    Collected chars whole origin' ms s :=
  ⟨h.stands.mono le, fun none_ => (h.apart none_).mono le, h.done⟩

theorem leads_cons {place : Stretch} {rest : Reading (List Stretch)}
    (aside : s.doubt = none → Aside chars.toList place)
    (from_ : origin ≤ place.start) (further : place.start ≤ place.stop)
    (hr : Leads (· = s) rest (Collected chars whole place.stop)) :
    Leads (· = s) (rest >>= fun ms => pure (place :: ms)) (Collected chars whole origin) := by
  refine .bind ((hr.carry (Aside chars.toList place)).pre ?_) fun ms => .pure fun s' hs => ?_
  · rintro s rfl
    exact ⟨rfl, aside⟩
  · exact ⟨hs.1.stands.mono (Nat.le_trans from_ further), fun none_ => .cons from_ (hs.2 none_) (hs.1.apart none_),
      hs.1.done⟩

/-- Reading that collects what stands behind a place. -/
def Collects (chars : Array Char) (whole : Prop) (behind : Nat) (rest : Reading (List Stretch)) : Prop :=
  ∀ origin, behind < origin → Leads (Stands chars origin) rest (Collected chars whole origin)

theorem leads_class_then {rest : Reading (List Stretch)} (hs : Stands chars origin s)
    (opens : s.chars[s.pos]? = some '[') (hr : Collects chars whole s.pos rest) :
    Leads (· = s) (do
      let _ ← bracketed (← rounds)
      let place : Stretch := ⟨s.pos, ← here⟩
      return place :: (← rest)) (Collected chars whole origin) := by
  refine leads_rounds (fun s' same => same ▸ hs.chars_eq) fun n _ => ?_
  have closes : Leads (· = s) (bracketed n) fun _ s' =>
      Closes chars (s.pos + 1) s' ∧ (s'.doubt = none → dangles (chars.toList.take s.pos) = false) := by
    refine ((leads_class n).1.carry _).pre ?_
    rintro s rfl
    refine ⟨leaves_behind hs.chars_eq opens fun _ => by decide, fun none_ => hs.spot.settled none_ ?_⟩
    exact (Array.getElem?_eq_some_iff.mp (hs.chars_eq ▸ opens)).1
  refine closes.bind fun m => .of_state fun s' hs' => .known (f := (·.pos)) (fun _ => rfl) ?_
  have after := hs'.1.stands
  have further : s.pos < s'.pos := Nat.lt_of_succ_lt after.spot.le
  refine leads_cons (fun none_ => ?_) hs.spot.le (Nat.le_of_lt further) ((hr s'.pos further).pre ?_)
  · obtain ⟨last, ends, order, bracket, unescaped⟩ := hs'.1.behind
    rw [ends]
    rw [hs.chars_eq, ← Array.getElem?_toList] at opens
    rw [← Array.getElem?_toList] at bracket
    exact aside_of_brackets opens bracket order (hs'.2 none_) (unescaped none_)
  · rintro s' rfl
    exact after.here

theorem leads_escape_then {rest : Reading (List Stretch)} (hs : Stands chars origin s)
    (opens : s.chars[s.pos]? = some '\\') (hr : Collects chars whole s.pos rest) :
    Leads (· = s) (do
      let atom ← escape
      let place : Stretch := ⟨s.pos, ← here⟩
      let _ ← atomPart place atom
      return place :: (← rest)) (Collected chars whole origin) := by
  refine .bind (leads_escape hs opens) fun atom => .of_state fun s' after => .known (f := (·.pos)) (fun _ => rfl) ?_
  have further : s.pos < s'.pos := Nat.lt_of_succ_lt after.spot.le
  have part : Leads (· = s') (atomPart ⟨s.pos, s'.pos⟩ atom) fun _ => Stands chars s'.pos := by
    refine (leads_atomPart _ _).pre ?_
    rintro s' rfl
    exact after.here
  refine part.bind fun _ => .of_state fun s'' hs'' => ?_
  refine leads_cons (fun _ => ?_) hs.spot.le (Nat.le_of_lt further) ((hr s'.pos further).pre ?_)
  · rw [hs.chars_eq, ← Array.getElem?_toList] at opens
    exact aside_of_backslash opens after.spot.le after.spot.inside
  · rintro s'' rfl
    exact hs''

/-- Behind a group the flags from before it are in force again. -/
theorem leads_group_then {inner rest : Reading (List Stretch)} {flags : Flags} {before : Nat} (le : origin ≤ before)
    (hi : Leads (Stands chars (before + 1)) inner (Collected chars False (before + 1)))
    (hr : Collects chars whole before rest) :
    Leads (Stands chars (before + 1)) (do
      let ms ← inner
      modify fun s => { s with flags := flags }
      return ms ++ (← rest)) (Collected chars whole origin) := by
  refine hi.bind fun ms => .bind (Q := fun _ => Collected chars False (before + 1) ms) ?_ fun _ => ?_
  · exact .modify (fun _ none_ => none_) fun s hs => ⟨⟨hs.stands.chars_eq, hs.stands.spot⟩, hs.apart, nofun⟩
  refine .of_state fun s hs => ?_
  have further : before < s.pos := hs.stands.spot.le
  refine .bind (((hr s.pos further).carry (Apart chars.toList origin ms s.pos)).pre ?_) fun ms' =>
    .pure fun s' hs' => ?_
  · rintro s rfl
    exact ⟨hs.stands.here, fun none_ => (hs.apart none_).mono (Nat.le_succ_of_le le)⟩
  · refine ⟨hs'.1.stands.mono (Nat.le_trans le (Nat.le_of_lt further)), fun none_ => ?_, hs'.1.done⟩
    exact (hs'.2 none_).append (hs'.1.apart none_)

/-- Each round passes at least one character, so that all of the pattern is read. -/
theorem leads_asides {fuel : Nat} (enough : chars.size < origin + fuel) (opened : Option Stretch) :
    Leads (Stands chars origin) (asides opened fuel) (Collected chars (opened = none) origin) := by
  induction fuel generalizing origin opened with
  | zero =>
    intro s hs
    have := hs.spot.le
    have := hs.spot.inside
    omega
  | succ fuel ih =>
    rw [asides.eq_def]
    dsimp only
    refine leads_skipSpace.bind fun _ => .glance (fun _ => rfl) fun flags => .of_state fun s hs => ?_
    refine .known (f := (·.pos)) (fun _ => rfl) (.known (f := fun s => s.chars[s.pos]?) (fun _ => rfl) ?_)
    have le := hs.spot.le
    have collects (opened : Option Stretch) : Collects chars (opened = none) s.pos (asides opened fuel) :=
      fun origin' further => ih (by omega) opened
    have onward : Leads (Stands chars (s.pos + 1)) (asides opened fuel) (Collected chars (opened = none) origin) :=
      (collects opened (s.pos + 1) (Nat.lt_succ_self _)).post fun _ _ h => h.mono (Nat.le_succ_of_le le)
    split
    · rename_i ends
      rw [hs.chars_eq] at ends
      split
      · exact .never fun _ => ⟨_, rfl⟩
      · refine .pure ?_
        rintro s rfl
        exact ⟨hs, fun _ => .nil le, fun _ => Nat.le_antisymm hs.spot.inside (Array.getElem?_eq_none_iff.mp ends)⟩
    · rename_i c here
      have leaves (ne : c ≠ '\\') (s' : ReaderState) (same : s' = s) : Leaves chars (s.pos + 1) s' := by
        rw [same]
        exact leaves_behind hs.chars_eq here fun _ => ne
      split
      · refine .bind (leads_opening.pre (leaves (by decide))) fun opened' => ?_
        split
        · exact onward
        · refine leads_group_then le ?_ (collects opened)
          exact (collects _ _ (Nat.lt_succ_self _)).post fun _ _ h => ⟨h.stands, h.apart, nofun⟩
      · split
        · exact .never fun _ => ⟨_, rfl⟩
        · refine .bind (leads_skip.pre (leaves (by decide))) fun _ => .pure fun s' hs' => ?_
          have here := hs'.mono (Nat.le_succ_of_le le)
          exact ⟨here, fun _ => .nil here.spot.le, nofun⟩
      · exact .bind (leads_skip.pre (leaves (by decide))) fun _ => onward
      · exact leads_class_then hs here (collects opened)
      · exact .bind (leads_skip.pre (leaves (by decide))) fun _ => leads_takeLazy.bind fun _ => onward
      · exact .bind (leads_skip.pre (leaves (by decide))) fun _ => leads_takeLazy.bind fun _ => onward
      · exact .bind (leads_skip.pre (leaves (by decide))) fun _ => leads_takeLazy.bind fun _ => onward
      · exact .bind (leads_braces.pre (leaves (by decide))) fun _ => onward
      · exact leads_escape_then hs here (collects opened)
      · refine .bind (leads_skip.pre (leaves ?_)) fun _ => (leads_atomPart _ _).bind fun _ => onward
        assumption

end
end Reading

/-! ### Whole patterns -/

/-- The stretches of the classes and escapes of a pattern, in order. -/
def asides (caseless : Bool) (pattern : String) : List Stretch :=
  match (Reading.asides none (pattern.length + 1)).run (.start caseless pattern) with
  | .ok (ms, _) => ms
  | .error _ => []

theorem body_of_read {caseless : Bool} {pattern : String} {r : Regex}
    (accepted : Regex.read caseless pattern = .ok r) :
    ∃ whole final, final.doubt = none ∧
      (Reading.body none { start := 0 } (pattern.length + 1)).run (.start caseless pattern) = .ok (whole, final) := by
  unfold Regex.read at accepted
  cases run : (Reading.body none { start := 0 } (pattern.length + 1)).run (.start caseless pattern) with
  | error e =>
    rw [run] at accepted
    cases accepted
  | ok p =>
    rw [run] at accepted
    dsimp only [bind, Except.bind] at accepted
    split at accepted
    · cases accepted
    · split at accepted
      · cases accepted
      · rename_i none_
        exact ⟨p.1, p.2, none_, rfl⟩

/-- The classes and escapes of a pattern that is accepted stand apart from each other. -/
theorem apart_asides {caseless : Bool} {pattern : String} {r : Regex}
    (accepted : Regex.read caseless pattern = .ok r) :
    Apart pattern.toList 0 (asides caseless pattern) pattern.length := by
  obtain ⟨whole, final, none_, run⟩ := body_of_read accepted
  obtain ⟨ms, run⟩ := Reading.body_follows none _ _ _ _ _ run
  have size : pattern.toList.toArray.size = pattern.length := by simp [String.length_toList]
  have start : Stands pattern.toList.toArray 0 (.start caseless pattern) :=
    ⟨rfl, Nat.le_refl _, Nat.zero_le _, fun _ _ => rfl⟩
  have enough : pattern.toList.toArray.size < 0 + (pattern.length + 1) := by omega
  obtain ⟨collected, _⟩ := Reading.leads_asides enough none _ start _ _ run
  have apart := collected.apart none_
  rw [collected.done rfl, size] at apart
  rw [asides, run]
  exact apart

end CommandScript.Pattern
