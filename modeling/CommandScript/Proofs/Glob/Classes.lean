import CommandScript.Pattern.Glob

/-! The classes of a glob. A class is a list of members, perhaps negated, and what stands in it is settled without the
    character that it is asked for. Where it ends is settled by its own text, so what follows it does not matter. -/

namespace CommandScript.Pattern.Glob

/-! ### Members -/

/-- A member of a class. -/
inductive Member where
  | single (c : Char)
  | range (low high : Char)
  deriving DecidableEq

namespace Member

/-- The characters of a member. -/
def chars : Member → List Char
  | single c => [c]
  | range low high => [low, '-', high]

/-- The first character of a member. -/
def first : Member → Char
  | single c => c
  | range low _ => low

/-- Whether a member accepts a character. -/
def takes : Member → Char → Bool
  | single m, c => Text.eqIgnoreCase m c
  | range low high, c => inRange low high c

/-- What follows a single character does not make a range of it, and a range does not end with a closing bracket. -/
def Fits : Member → List Char → Prop
  | single _, after => ∀ high rest, after = '-' :: high :: rest → high = ']'
  | range _ high, _ => high ≠ ']'

theorem chars_append (m : Member) (after : List Char) : ∃ more, m.chars ++ after = m.first :: more := by
  cases m <;> exact ⟨_, rfl⟩

theorem member?_chars {m : Member} {after : List Char} (fits : m.Fits after) (c : Char) :
    member? c (m.chars ++ after) = some (m.takes c, after) := by
  cases m with
  | range low high => exact if_neg fits
  | single m =>
    show member? c (m :: after) = _
    unfold member?
    split
    · rename_i heq
      cases heq
    · rename_i heq
      cases heq
      rw [if_pos (fits _ _ rfl)]
      rfl
    · rename_i heq
      cases heq
      rfl

theorem exists_of_member? {c : Char} {b : Bool} {cs after : List Char} (h : member? c cs = some (b, after)) :
    ∃ m : Member, cs = m.chars ++ after ∧ m.Fits after ∧ b = m.takes c := by
  unfold member? at h
  split at h
  · cases h
  · rename_i low high rest
    split at h
    · rename_i closing
      cases h
      exact ⟨single low, rfl, fun _ _ heq => by cases heq; exact closing, rfl⟩
    · rename_i inside
      cases h
      exact ⟨range low high, rfl, inside, rfl⟩
  · rename_i m rest none_
    cases h
    exact ⟨single m, rfl, fun high rest heq => (none_ high rest heq).elim, rfl⟩

end Member

/-! ### Lists of members -/

/-- A text that lists members up to a closing bracket, and what follows that. -/
inductive Lists : List Member → List Char → List Char → Prop
  | close {after : List Char} : Lists [] (']' :: after) after
  | next {m : Member} {ms : List Member} {more after : List Char} (open_ : m.first ≠ ']')
    (fits : m.Fits more) (later : Lists ms more after) : Lists (m :: ms) (m.chars ++ more) after

theorem Lists.members?_eq {ms : List Member} {cs after : List Char} (l : Lists ms cs after) (c : Char)
    (found : Bool) :
    members? c found cs = some (found || ms.any (·.takes c), after) := by
  induction l generalizing found with
  | close => simp [members?]
  | next open_ fits _ ih =>
    rw [members?]
    · split
      · rename_i none_
        cases none_.symm.trans (Member.member?_chars fits c)
      · rename_i h
        cases h.symm.trans (Member.member?_chars fits c)
        rw [ih, List.any_cons, Bool.or_assoc]
    · intro rest heq
      obtain ⟨more, chars⟩ := Member.chars_append _ _
      exact open_ (List.cons.inj (chars.symm.trans heq)).1

theorem exists_of_members? {c : Char} {found b : Bool} {cs after : List Char}
    (h : members? c found cs = some (b, after)) : ∃ ms, Lists ms cs after := by
  fun_induction members? c found cs with
  | case1 =>
    cases h
    exact ⟨[], .close⟩
  | case2 => cases h
  | case3 found cs open_ _ _ hm _ ih =>
    obtain ⟨m, rfl, fits, -⟩ := Member.exists_of_member? hm
    obtain ⟨ms, later⟩ := ih h
    obtain ⟨more, chars⟩ := m.chars_append _
    refine ⟨m :: ms, .next (fun closing => open_ more ?_) fits later⟩
    rw [chars, closing]

/-- What fits in front of a text with a closing bracket fits there whatever follows the bracket. -/
theorem Member.Fits.of_append {m : Member} {cls after : List Char} (closed : cls.getLast? = some ']')
    (fits : m.Fits (cls ++ after)) (other : List Char) : m.Fits (cls ++ other) := by
  cases m with
  | range low high => exact fits
  | single m =>
    intro high rest heq
    match cls, closed with
    | [c], closed =>
      cases closed
      cases heq
    | _ :: d :: more, _ =>
      cases heq
      exact fits _ _ rfl

theorem Lists.exists_text {ms : List Member} {cs after : List Char} (l : Lists ms cs after) :
    ∃ cls, cs = cls ++ after ∧ cls.getLast? = some ']' ∧ ∀ other, Lists ms (cls ++ other) other := by
  induction l with
  | close => exact ⟨[']'], rfl, rfl, fun _ => .close⟩
  | @next m _ _ _ open_ fits _ ih =>
    obtain ⟨cls, rfl, closed, lists⟩ := ih
    refine ⟨m.chars ++ cls, (List.append_assoc ..).symm, ?_, fun other => ?_⟩
    · rw [List.getLast?_append, closed]
      rfl
    · rw [List.append_assoc]
      exact .next open_ (fits.of_append closed other) (lists other)

/-! ### Classes -/

/-- A text that writes a class behind its opening bracket, and what follows the class. The first member may be a
    closing bracket. -/
inductive WritesClass : (negated : Bool) → List Member → List Char → List Char → Prop
  | plain {m : Member} {ms : List Member} {more after : List Char} (caret : m.first ≠ '^')
    (fits : m.Fits more) (later : Lists ms more after) : WritesClass false (m :: ms) (m.chars ++ more) after
  | negated {m : Member} {ms : List Member} {more after : List Char} (fits : m.Fits more)
    (later : Lists ms more after) : WritesClass true (m :: ms) ('^' :: (m.chars ++ more)) after

theorem class?_chars {m : Member} {ms : List Member} {more after : List Char} (fits : m.Fits more)
    (later : Lists ms more after) (c : Char) :
    class? c (m.chars ++ more) = some ((m :: ms).any (·.takes c), after) := by
  rw [class?, Member.member?_chars fits c, List.any_cons]
  exact later.members?_eq c _

/-- A class accepts what one of its members accepts, or if it is negated what none does. -/
theorem WritesClass.classAccepts?_eq {negated : Bool} {ms : List Member} {cs after : List Char}
    (w : WritesClass negated ms cs after) (c : Char) :
    classAccepts? c cs = some (ms.any (·.takes c) != negated, after) := by
  cases w with
  | plain caret fits later =>
    unfold classAccepts?
    split
    · rename_i heq
      obtain ⟨more, chars⟩ := Member.chars_append _ _
      exact absurd (List.cons.inj (chars.symm.trans heq)).1 caret
    · rw [class?_chars fits later c, Bool.bne_false]
  | negated fits later =>
    show (class? c _).map _ = _
    rw [class?_chars fits later c, Bool.bne_true]
    rfl

theorem exists_of_class? {c : Char} {b : Bool} {cs after : List Char} (h : class? c cs = some (b, after)) :
    ∃ (m : Member) (ms : List Member) (more : List Char),
      cs = m.chars ++ more ∧ m.Fits more ∧ Lists ms more after := by
  obtain ⟨⟨first, more⟩, hm, hl⟩ := Option.bind_eq_some_iff.mp h
  obtain ⟨m, rfl, fits, -⟩ := Member.exists_of_member? hm
  obtain ⟨ms, later⟩ := exists_of_members? hl
  exact ⟨m, ms, more, rfl, fits, later⟩

theorem exists_of_classAccepts? {c : Char} {b : Bool} {cs after : List Char}
    (h : classAccepts? c cs = some (b, after)) : ∃ negated ms, WritesClass negated ms cs after := by
  unfold classAccepts? at h
  split at h
  · obtain ⟨⟨found, rest⟩, hc, heq⟩ := Option.map_eq_some_iff.mp h
    cases heq
    obtain ⟨m, ms, more, rfl, fits, later⟩ := exists_of_class? hc
    exact ⟨true, m :: ms, .negated fits later⟩
  · rename_i caret
    obtain ⟨m, ms, more, rfl, fits, later⟩ := exists_of_class? h
    obtain ⟨rest, chars⟩ := m.chars_append more
    refine ⟨false, m :: ms, .plain (fun first => caret rest ?_) fits later⟩
    rw [chars, first]

theorem WritesClass.exists_text {negated : Bool} {ms : List Member} {cs after : List Char}
    (w : WritesClass negated ms cs after) :
    ∃ cls, cs = cls ++ after ∧ ∀ other, WritesClass negated ms (cls ++ other) other := by
  cases w with
  | @plain m _ _ _ caret fits later =>
    obtain ⟨cls, rfl, closed, lists⟩ := later.exists_text
    refine ⟨m.chars ++ cls, (List.append_assoc ..).symm, fun other => ?_⟩
    rw [List.append_assoc]
    exact .plain caret (fits.of_append closed other) (lists other)
  | @negated m _ _ _ fits later =>
    obtain ⟨cls, rfl, closed, lists⟩ := later.exists_text
    refine ⟨'^' :: (m.chars ++ cls), by simp, fun other => ?_⟩
    rw [List.cons_append, List.append_assoc]
    exact .negated (fits.of_append closed other) (lists other)

/-- A text that is a class behind its opening bracket, with its closing bracket at the end. -/
def IsClass (cls : List Char) : Prop :=
  ∃ c b, classAccepts? c cls = some (b, [])

/-- A class is the same whatever follows it. -/
theorem IsClass.classAccepts?_append {cls : List Char} (h : IsClass cls) (c : Char) (after : List Char) :
    classAccepts? c (cls ++ after) = some (classAccepts? c cls == some (true, []), after) := by
  obtain ⟨d, b, hd⟩ := h
  obtain ⟨negated, ms, w⟩ := exists_of_classAccepts? hd
  obtain ⟨cls', same, writes⟩ := w.exists_text
  rw [List.append_nil] at same
  subst same
  rw [(writes after).classAccepts?_eq, w.classAccepts?_eq]
  cases (ms.any (·.takes c) != negated) <;> rfl

/-- Where a class is read, its text stands. -/
theorem exists_isClass {c : Char} {b : Bool} {cs after : List Char} (h : classAccepts? c cs = some (b, after)) :
    ∃ cls, IsClass cls ∧ cs = cls ++ after := by
  obtain ⟨negated, ms, w⟩ := exists_of_classAccepts? h
  obtain ⟨cls, same, writes⟩ := w.exists_text
  have alone := writes []
  rw [List.append_nil] at alone
  exact ⟨cls, ⟨c, _, alone.classAccepts?_eq c⟩, same⟩

end CommandScript.Pattern.Glob
