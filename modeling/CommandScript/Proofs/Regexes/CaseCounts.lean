import CommandScript.Pattern
import CommandScript.Proofs.Regexes.Asides

/-! Where case counts in a regular expression. The scan for upper-case letters takes a class to end at its first closing
    bracket and an escape to be two characters long. It finds each upper-case letter outside the classes and escapes of
    the pattern, and besides what it takes to stand behind a class or an escape that goes on. -/

namespace CommandScript.Pattern

/-! ### The scan -/

/-- What the scan for upper-case letters has found of the text so far: whether a backslash is in force, and whether it
    takes itself to be in a class. -/
structure Scan where
  escaped : Bool := false
  inClass : Bool := false

/-- A scan after one character more. -/
def Scan.step (s : Scan) (c : Char) : Scan :=
  if s.escaped then { s with escaped := false }
  else if c = '\\' then { s with escaped := true }
  else if c = ']' then {}
  else if c = '[' then { inClass := true }
  else s

/-- Whether a scan finds an upper-case letter in what follows. -/
def Scan.finds (s : Scan) (cs : List Char) : Bool :=
  holdsUpper s.escaped s.inClass cs

namespace Scan

theorem finds_cons (s : Scan) (c : Char) (cs : List Char) :
    s.finds (c :: cs) = (!s.escaped && !s.inClass && Text.isUpper c || (s.step c).finds cs) := by
  obtain ⟨escaped, inClass⟩ := s
  rw [finds, holdsUpper, step]
  cases escaped with
  | true => rfl
  | false =>
    by_cases backslash : c = '\\'
    · subst backslash
      cases inClass <;> rfl
    by_cases closing : c = ']'
    · subst closing
      cases inClass <;> rfl
    by_cases opening : c = '['
    · subst opening
      cases inClass <;> rfl
    cases inClass <;> cases Text.isUpper c <;> simp [finds, backslash, closing, opening]

theorem finds_append (s : Scan) (as bs : List Char) :
    s.finds (as ++ bs) = (s.finds as || (as.foldl step s).finds bs) := by
  induction as generalizing s with
  | nil => rfl
  | cons c as ih => rw [List.cons_append, finds_cons, ih, finds_cons, Bool.or_assoc, List.foldl_cons]

theorem exists_upper_of_finds {s : Scan} {cs : List Char} (h : s.finds cs = true) :
    ∃ c ∈ cs, Text.isUpper c = true := by
  induction cs generalizing s with
  | nil => cases h
  | cons c cs ih =>
    rw [finds_cons, Bool.or_eq_true, Bool.and_eq_true] at h
    rcases h with upper | further
    · exact ⟨c, List.mem_cons_self, upper.2⟩
    · obtain ⟨d, hd, upper⟩ := ih further
      exact ⟨d, List.mem_cons_of_mem _ hd, upper⟩

theorem step_escaped (s : Scan) (c : Char) : (s.step c).escaped = (!s.escaped && c == '\\') := by
  obtain ⟨escaped, inClass⟩ := s
  rw [step]
  cases escaped with
  | true => rfl
  | false =>
    by_cases backslash : c = '\\'
    · simp [backslash]
    · rw [beq_eq_false_iff_ne.mpr backslash]
      simp only [Bool.false_eq_true, backslash, if_false]
      split
      · rfl
      · split <;> rfl

theorem foldl_escaped (s : Scan) (cs : List Char) :
    (cs.foldl step s).escaped = cs.foldl (fun escaped c => !escaped && c == '\\') s.escaped := by
  induction cs generalizing s with
  | nil => rfl
  | cons c cs ih => rw [List.foldl_cons, ih, List.foldl_cons, step_escaped]

/-- Behind a closing bracket that is not escaped the scan takes itself to be outside classes. -/
theorem step_closing {s : Scan} (h : s.escaped = false) : s.step ']' = {} := by
  simp [step, h]

/-- Text without brackets and backslashes is all outside. -/
theorem plain_text {cs : List Char} (plain : ∀ c ∈ cs, c ≠ '[' ∧ c ≠ '\\') :
    cs.foldl step {} = {} ∧ (({} : Scan).finds cs = true ↔ ∃ c ∈ cs, Text.isUpper c = true) := by
  induction cs with
  | nil => exact ⟨rfl, by simp [finds, holdsUpper]⟩
  | cons c cs ih =>
    rw [List.forall_mem_cons] at plain
    have stays : ({} : Scan).step c = {} := by simp [step, plain.1.1, plain.1.2]
    obtain ⟨end_, found⟩ := ih plain.2
    rw [List.foldl_cons, stays, finds_cons, stays]
    refine ⟨end_, ?_⟩
    rw [Bool.or_eq_true, found]
    simp

end Scan

/-! ### Classes and escapes in the scan -/

/-- Behind a class or an escape the scan takes itself to be outside classes, if no bracket and no backslash stands in
    the escape behind its second character. -/
theorem Aside.foldl_step {cs : List Char} {place : Stretch} (aside : Aside cs place)
    (plain : (place.cut cs).head? = some '[' ∨ ∀ c ∈ (place.cut cs).drop 2, c ≠ '[' ∧ c ≠ '\\') :
    (place.cut cs).foldl Scan.step {} = {} := by
  cases aside with
  | @bracketed inner cut unescaped =>
    rw [cut, List.foldl_cons, List.foldl_append]
    refine Scan.step_closing ?_
    rw [Scan.foldl_escaped]
    exact unescaped
  | @escape c more cut =>
    rw [cut] at plain ⊢
    exact (Scan.plain_text (plain.resolve_left (by simp))).1

/-- A place outside some stretches. -/
def Outside (ms : List Stretch) (i : Nat) : Prop :=
  ∀ place ∈ ms, i < place.start ∨ place.stop ≤ i

/-- Brackets and backslashes from one place of a text to another stand in classes or are the first two characters of
    escapes, where `ms` are the classes and escapes. -/
def ClearFrom (cs : List Char) (i j : Nat) (ms : List Stretch) : Prop :=
  ∀ k c, i ≤ k → k < j → cs[k]? = some c → c = '[' ∨ c = '\\' →
    ∃ place ∈ ms, place.start ≤ k ∧ k < place.stop ∧ (cs[place.start]? = some '[' ∨ k < place.start + 2)

theorem finds_plain {cs : List Char} {i j : Nat}
    (plain : ∀ k c, i ≤ k → k < j → cs[k]? = some c → ¬(c = '[' ∨ c = '\\')) :
    (Stretch.cut ⟨i, j⟩ cs).foldl Scan.step {} = {} ∧ (({} : Scan).finds (Stretch.cut ⟨i, j⟩ cs) = true ↔
      ∃ k c, i ≤ k ∧ k < j ∧ cs[k]? = some c ∧ Text.isUpper c = true) := by
  obtain ⟨end_, found⟩ := @Scan.plain_text (Stretch.cut ⟨i, j⟩ cs) fun c hc => by
    obtain ⟨k, le, lt, hk⟩ := Stretch.mem_cut.mp hc
    exact not_or.mp (plain k c le lt hk)
  refine ⟨end_, found.trans ⟨?_, ?_⟩⟩
  · rintro ⟨c, hc, upper⟩
    obtain ⟨k, le, lt, hk⟩ := Stretch.mem_cut.mp hc
    exact ⟨k, c, le, lt, hk, upper⟩
  · rintro ⟨k, c, le, lt, hk, upper⟩
    exact ⟨c, Stretch.mem_cut.mpr ⟨k, le, lt, hk⟩, upper⟩

namespace Apart
variable {cs : List Char} {i j : Nat} {place : Stretch} {ms : List Stretch}

theorem le (h : Apart cs i ms j) : i ≤ j := by
  induction h with
  | nil le => exact le
  | cons le aside _ ih => exact Nat.le_trans le (Nat.le_trans (Nat.le_of_lt aside.lt) ih)

theorem aside_of_mem (h : Apart cs i ms j) (hp : place ∈ ms) : Aside cs place := by
  induction h with
  | nil le => cases hp
  | cons _ aside _ ih =>
    rcases List.mem_cons.mp hp with rfl | hp
    · exact aside
    · exact ih hp

theorem le_of_mem (h : Apart cs i ms j) (hp : place ∈ ms) : i ≤ place.start := by
  induction h with
  | nil le => cases hp
  | cons le aside _ ih =>
    rcases List.mem_cons.mp hp with rfl | hp
    · exact le
    · exact Nat.le_trans le (Nat.le_trans (Nat.le_of_lt aside.lt) (ih hp))

/-- A place before those behind a class or an escape is outside them. -/
theorem outside_of_lt (h : Apart cs i ms j) {k : Nat} (lt : k < i) : Outside ms k :=
  fun _ hp => .inl (Nat.lt_of_lt_of_le lt (h.le_of_mem hp))

/-- The scan finds the upper-case letters outside the classes and escapes, and those that it finds in a class or escape
    taken by itself. -/
theorem finds_iff (h : Apart cs i ms j) (clear : ClearFrom cs i j ms) :
    ({} : Scan).finds (Stretch.cut ⟨i, j⟩ cs) = true ↔
      (∃ k c, i ≤ k ∧ k < j ∧ cs[k]? = some c ∧ Text.isUpper c = true ∧ Outside ms k) ∨
        ∃ place ∈ ms, ({} : Scan).finds (place.cut cs) = true := by
  induction h with
  | @nil i j le =>
    have gap := @finds_plain cs i j fun k c le lt hk bracket => by
      obtain ⟨place, hp, _⟩ := clear k c le lt hk bracket
      cases hp
    simp [gap.2, Outside]
  | @cons i j place ms le aside rest ih =>
    have further := rest.le
    have order := Nat.le_of_lt aside.lt
    -- what holds a bracket or a backslash is this class or escape, or one of those behind it
    have split_ (k : Nat) (c : Char) (from_ : i ≤ k) (lt : k < j) (hk : cs[k]? = some c)
        (bracket : c = '[' ∨ c = '\\') :
        place.start ≤ k ∧ k < place.stop ∧ (cs[place.start]? = some '[' ∨ k < place.start + 2) ∨ place.stop ≤ k := by
      obtain ⟨place', hp, held⟩ := clear k c from_ lt hk bracket
      rcases List.mem_cons.mp hp with rfl | hp
      · exact .inl held
      · exact .inr (Nat.le_trans (rest.le_of_mem hp) held.1)
    have gap := @finds_plain cs i place.start fun k c le lt hk bracket => by
      rcases split_ k c le (by omega) hk bracket with held | behind <;> omega
    have mid : (place.cut cs).foldl Scan.step {} = {} := by
      refine aside.foldl_step (Classical.or_iff_not_imp_left.mpr fun escape c hc => ?_)
      rw [Stretch.head?_cut aside.lt] at escape
      rw [Stretch.cut_drop] at hc
      obtain ⟨k, from_, lt, hk⟩ := Stretch.mem_cut.mp hc
      dsimp only at from_ lt
      refine not_or.mp fun bracket => ?_
      rcases split_ k c (by omega) (by omega) hk bracket with ⟨_, _, opens | near⟩ | behind
      · exact escape opens
      · omega
      · omega
    have tail := ih fun k c from_ lt hk bracket => by
      obtain ⟨place', hp, held⟩ := clear k c (by omega) lt hk bracket
      rcases List.mem_cons.mp hp with rfl | hp
      · omega
      · exact ⟨place', hp, held⟩
    rw [Stretch.cut_append le (Nat.le_trans order further), Stretch.cut_append order further,
      Scan.finds_append, gap.1, Scan.finds_append]
    show (_ || (({} : Scan).finds (place.cut cs) || ((place.cut cs).foldl Scan.step {}).finds _)) = true ↔ _
    rw [mid, Bool.or_eq_true, Bool.or_eq_true, gap.2, tail]
    constructor
    · rintro (⟨k, c, from_, lt, hk, upper⟩ | inside | ⟨k, c, from_, lt, hk, upper, outside⟩ | ⟨place', hp, inside⟩)
      · refine .inl ⟨k, c, from_, by omega, hk, upper, List.forall_mem_cons.mpr ⟨.inl lt, ?_⟩⟩
        exact rest.outside_of_lt (Nat.lt_of_lt_of_le lt order)
      · exact .inr ⟨place, List.mem_cons_self, inside⟩
      · exact .inl ⟨k, c, by omega, lt, hk, upper, List.forall_mem_cons.mpr ⟨.inr from_, outside⟩⟩
      · exact .inr ⟨place', List.mem_cons_of_mem _ hp, inside⟩
    · rintro (⟨k, c, from_, lt, hk, upper, outside⟩ | ⟨place', hp, inside⟩)
      · obtain ⟨before | behind, outside⟩ := List.forall_mem_cons.mp outside
        · exact .inl ⟨k, c, from_, before, hk, upper⟩
        · exact .inr (.inr (.inl ⟨k, c, behind, lt, hk, upper, outside⟩))
      · rcases List.mem_cons.mp hp with rfl | hp
        · exact .inr (.inl inside)
        · exact .inr (.inr (.inr ⟨place', hp, inside⟩))

end Apart

/-! ### Patterns -/

/-- An upper-case letter stands outside the classes and escapes `ms` of a pattern. -/
def UpperOutside (cs : List Char) (ms : List Stretch) : Prop :=
  ∃ i, ∃ h : i < cs.length, Text.isUpper cs[i] = true ∧ Outside ms i

/-- Brackets and backslashes of a pattern stand in its classes or are the first two characters of its escapes. None
    stands in a comment or in the name of a group. -/
def Clear (cs : List Char) (ms : List Stretch) : Prop :=
  ∀ i, (h : i < cs.length) → cs[i] = '[' ∨ cs[i] = '\\' →
    ∃ place ∈ ms, place.start ≤ i ∧ i < place.stop ∧ (cs[place.start]? = some '[' ∨ i < place.start + 2)

instance (ms : List Stretch) (i : Nat) : Decidable (Outside ms i) :=
  inferInstanceAs (Decidable (∀ place ∈ ms, i < place.start ∨ place.stop ≤ i))

instance (cs : List Char) (ms : List Stretch) : Decidable (UpperOutside cs ms) :=
  inferInstanceAs (Decidable (∃ i, ∃ h : i < cs.length, Text.isUpper cs[i] = true ∧ Outside ms i))

instance (cs : List Char) (ms : List Stretch) : Decidable (Clear cs ms) :=
  inferInstanceAs (Decidable (∀ i, (h : i < cs.length) → cs[i] = '[' ∨ cs[i] = '\\' →
    ∃ place ∈ ms, place.start ≤ i ∧ i < place.stop ∧ (cs[place.start]? = some '[' ∨ i < place.start + 2)))

/-- What stands behind the first closing bracket that is not escaped. -/
def behindBracket (escaped : Bool) : List Char → List Char
  | [] => []
  | c :: rest =>
    if escaped then behindBracket false rest
    else if c = ']' then rest
    else behindBracket (c == '\\') rest

/-- What the scan takes to stand behind a class or an escape, though it still belongs to it. -/
def leftover : List Char → List Char
  | '[' :: rest => behindBracket false rest
  | cs => cs.drop 2

theorem Scan.finds_behindBracket (escaped : Bool) (cs : List Char) :
    Scan.finds ⟨escaped, true⟩ cs = ({} : Scan).finds (behindBracket escaped cs) := by
  induction cs generalizing escaped with
  | nil => rfl
  | cons c rest ih =>
    rw [finds_cons, Bool.not_true, Bool.and_false, Bool.false_and, Bool.false_or, behindBracket, step]
    cases escaped with
    | true => exact ih false
    | false =>
      by_cases closing : c = ']'
      · subst closing
        rfl
      by_cases backslash : c = '\\'
      · subst backslash
        exact ih true
      · rw [beq_eq_false_iff_ne.mpr backslash]
        simp only [Bool.false_eq_true, closing, backslash, if_false]
        split <;> exact ih false

theorem Aside.finds_leftover {cs : List Char} {place : Stretch} (aside : Aside cs place) :
    ({} : Scan).finds (place.cut cs) = ({} : Scan).finds (leftover (place.cut cs)) := by
  cases aside with
  | bracketed cut =>
    rw [cut, Scan.finds_cons]
    exact Scan.finds_behindBracket false _
  | escape cut =>
    rw [cut, Scan.finds_cons, Scan.finds_cons]
    rfl

/-! ### Grammars -/

/-- A grammar of regular expressions: which patterns it accepts, and where these have bracketed classes, and escapes
    outside of them. -/
structure Grammar where
  accepts : String → Prop
  asides : String → List Stretch

/-- What the scan relies on in a grammar. -/
structure Grammar.Lawful (G : Grammar) : Prop where
  /-- Classes and escapes stand one behind the other. -/
  ordered {pattern : String} (accepted : G.accepts pattern) : (G.asides pattern).Pairwise fun a b => a.stop ≤ b.start
  /-- They end within the pattern. -/
  inside {pattern : String} (accepted : G.accepts pattern) : ∀ place ∈ G.asides pattern, place.stop ≤ pattern.length
  /-- A class ends with a bracket that is not escaped, and a backslash escapes at least one character. -/
  shaped {pattern : String} (accepted : G.accepts pattern) : ∀ place ∈ G.asides pattern, Aside pattern.toList place

/-- The grammar of the reader. -/
def Grammar.ofReader (caseless : Bool) : Grammar where
  accepts pattern := (Regex.read caseless pattern).isOk
  asides := Pattern.asides caseless

theorem Apart.ordered {cs : List Char} {i j : Nat} {ms : List Stretch} (h : Apart cs i ms j) :
    ms.Pairwise fun a b => a.stop ≤ b.start := by
  induction h with
  | nil _ => exact .nil
  | cons _ _ rest ih => exact .cons (fun _ hp => rest.le_of_mem hp) ih

theorem Apart.stop_le {cs : List Char} {i j : Nat} {ms : List Stretch} (h : Apart cs i ms j) :
    ∀ place ∈ ms, place.stop ≤ j := by
  induction h with
  | nil _ => exact List.forall_mem_nil _
  | cons _ _ rest ih => exact List.forall_mem_cons.mpr ⟨rest.le, ih⟩

theorem apart_of_ordered {cs : List Char} {i j : Nat} {ms : List Stretch} (le : i ≤ j)
    (from_ : ∀ place ∈ ms, i ≤ place.start) (ordered : ms.Pairwise fun a b => a.stop ≤ b.start)
    (inside : ∀ place ∈ ms, place.stop ≤ j) (shaped : ∀ place ∈ ms, Aside cs place) : Apart cs i ms j := by
  induction ms generalizing i with
  | nil => exact .nil le
  | cons place ms ih =>
    obtain ⟨behind, ordered⟩ := List.pairwise_cons.mp ordered
    obtain ⟨first, inside⟩ := List.forall_mem_cons.mp inside
    obtain ⟨aside, shaped⟩ := List.forall_mem_cons.mp shaped
    exact .cons (from_ place List.mem_cons_self) aside (ih first behind ordered inside shaped)

theorem Grammar.Lawful.apart {G : Grammar} (lawful : G.Lawful) {pattern : String} (accepted : G.accepts pattern) :
    Apart pattern.toList 0 (G.asides pattern) pattern.toList.length :=
  apart_of_ordered (Nat.zero_le _) (fun _ _ => Nat.zero_le _) (lawful.ordered accepted)
    (String.length_toList ▸ lawful.inside accepted) (lawful.shaped accepted)

theorem Grammar.lawful_ofReader (caseless : Bool) : (Grammar.ofReader caseless).Lawful := by
  have apart {pattern : String} (accepted : (Grammar.ofReader caseless).accepts pattern) :
      Apart pattern.toList 0 (Pattern.asides caseless pattern) pattern.length := by
    cases read : Regex.read caseless pattern with
    | error e =>
      have refused : (Regex.read caseless pattern).isOk = true := accepted
      rw [read] at refused
      cases refused
    | ok r => exact apart_asides read
  exact ⟨fun h => (apart h).ordered, fun h => (apart h).stop_le, fun h _ hp => (apart h).aside_of_mem hp⟩

section
variable {G : Grammar} {pattern : String}

/-- In a pattern that a grammar accepts, without brackets and backslashes in comments and in the names of groups, case
    counts exactly if an upper-case letter stands outside its classes and escapes, or if the scan finds one in what is
    left of a class behind its first closing bracket, or of an escape behind its second character. So where all of that
    is without upper-case letters, case counts exactly if one stands outside the classes and escapes. -/
theorem caseCounts_iff (lawful : G.Lawful) (accepted : G.accepts pattern)
    (clear : Clear pattern.toList (G.asides pattern)) :
    (caseCounts pattern = true ↔ UpperOutside pattern.toList (G.asides pattern) ∨
      ∃ place ∈ G.asides pattern, holdsUpper false false (leftover (place.cut pattern.toList)) = true) ∧
    ((∀ place ∈ G.asides pattern, ∀ c ∈ leftover (place.cut pattern.toList), Text.isUpper c = false) →
      (caseCounts pattern = true ↔ UpperOutside pattern.toList (G.asides pattern))) := by
  have apart := lawful.apart accepted
  have found := apart.finds_iff fun k c _ lt hk bracket => by
    obtain ⟨h, rfl⟩ := List.getElem?_eq_some_iff.mp hk
    exact clear k h bracket
  rw [Stretch.cut_zero, List.take_length] at found
  have exact_ : caseCounts pattern = true ↔ UpperOutside pattern.toList (G.asides pattern) ∨
      ∃ place ∈ G.asides pattern, holdsUpper false false (leftover (place.cut pattern.toList)) = true := by
    refine found.trans (or_congr ?_ (exists_congr fun place => and_congr_right fun hp => ?_))
    · constructor
      · rintro ⟨k, c, _, lt, hk, upper, outside⟩
        obtain ⟨h, rfl⟩ := List.getElem?_eq_some_iff.mp hk
        exact ⟨k, h, upper, outside⟩
      · rintro ⟨k, h, upper, outside⟩
        exact ⟨k, _, Nat.zero_le _, h, List.getElem?_eq_getElem h, upper, outside⟩
    · rw [(apart.aside_of_mem hp).finds_leftover]
      rfl
  refine ⟨exact_, fun plain => exact_.trans (or_iff_left ?_)⟩
  rintro ⟨place, hp, finds⟩
  obtain ⟨c, hc, upper⟩ := Scan.exists_upper_of_finds (s := {}) finds
  rw [plain place hp c hc] at upper
  cases upper

end

/-- A class with a named class in it, an escape of four characters, and an upper-case letter in a group with a name. -/
theorem caseCounts_iff_namedGroup :
    let pattern := "[^B[:alpha:]]\\x41(?<n>C)"
    let G := Grammar.ofReader true
    G.Lawful ∧ G.accepts pattern ∧ Clear pattern.toList (G.asides pattern) ∧
      (∀ place ∈ G.asides pattern, ∀ c ∈ leftover (place.cut pattern.toList), Text.isUpper c = false) ∧
      (caseCounts pattern = true ↔ UpperOutside pattern.toList (G.asides pattern)) := by
  intro pattern G
  have accepted : G.accepts pattern := by
    show (Regex.read true pattern).isOk = true
    decide +kernel
  have clear : Clear pattern.toList (G.asides pattern) := by
    show Clear pattern.toList (asides true pattern)
    decide +kernel
  have plain : ∀ place ∈ G.asides pattern, ∀ c ∈ leftover (place.cut pattern.toList), Text.isUpper c = false := by
    have all_plain : ((asides true pattern).all fun place =>
        (leftover (place.cut pattern.toList)).all fun c => !Text.isUpper c) = true := by
      decide +kernel
    intro place hp c hc
    have here := List.all_eq_true.mp (List.all_eq_true.mp all_plain place hp) c hc
    exact (Bool.not_eq_true' _).mp here
  have lawful := Grammar.lawful_ofReader true
  exact ⟨lawful, accepted, clear, plain, (caseCounts_iff lawful accepted clear).2 plain⟩

/-- The scan finds upper-case letters in a class that holds a closing bracket and among the digits of an escape, and
    misses one behind a bracket in the name of a group. -/
theorem caseCounts_not_upperOutside :
    ((Regex.read true "[]A]").isOk = true ∧ caseCounts "[]A]" = true ∧
      ¬UpperOutside "[]A]".toList (asides true "[]A]")) ∧
    ((Regex.read true "\\x4A").isOk = true ∧ caseCounts "\\x4A" = true ∧
      ¬UpperOutside "\\x4A".toList (asides true "\\x4A")) ∧
    (Regex.read true "(?<a[>A)").isOk = true ∧ caseCounts "(?<a[>A)" = false ∧
      UpperOutside "(?<a[>A)".toList (asides true "(?<a[>A)") := by
  decide

end CommandScript.Pattern
