import CommandScript.Text.Case

/-! Glob patterns: `*` stands for any run of characters, `?` for any character, `[…]` for one of a class, a backslash
    takes the meaning from the character after it, and every other character stands for itself up to case.

    The match goes from star to star. What follows a star is tried at every place of the text in turn, and once it
    reaches the next star, earlier places need not be tried again. -/

namespace CommandScript.Pattern.Glob

/-- What is wrong with a glob. -/
inductive Fault where
  | loneBackslash
  | openClass
  deriving DecidableEq

/-- What is said of a fault. -/
def Fault.message : Fault → String
  | loneBackslash => "pattern ends with a lone '\\'"
  | openClass => "unmatched '['"

/-- Whether `c` lies between two characters, both included, up to the case of ASCII letters. -/
def inRange (low high c : Char) : Bool :=
  low.toLower ≤ c.toLower && c.toLower ≤ high.toLower

/-- Reads a character or a range of a class. Says whether it accepts `c`, and what follows it. -/
def member? (c : Char) : List Char → Option (Bool × List Char)
  | [] => none
  | low :: '-' :: high :: rest =>
    if high = ']' then some (Text.eqIgnoreCase low c, '-' :: high :: rest) else some (inRange low high c, rest)
  | m :: rest => some (Text.eqIgnoreCase m c, rest)

theorem length_of_member {c : Char} {cs rest : List Char} {b : Bool} (h : member? c cs = some (b, rest)) :
    rest.length < cs.length := by
  unfold member? at h
  split at h
  · cases h
  · split at h
    · cases h
      simp
    · cases h
      simp only [List.length_cons]
      omega
  · cases h
    simp

/-- Reads members of a class up to its closing bracket. Says whether one of them, or one before, accepts `c`, and
    what follows the class. -/
def members? (c : Char) (found : Bool) (cs : List Char) : Option (Bool × List Char) :=
  match cs with
  | ']' :: rest => some (found, rest)
  | cs =>
    match h : member? c cs with
    | none => none
    | some (b, rest) =>
      have := length_of_member h
      members? c (found || b) rest
termination_by cs.length

theorem length_of_members {c : Char} {found b : Bool} {cs rest : List Char}
    (h : members? c found cs = some (b, rest)) : rest.length < cs.length := by
  fun_induction members? c found cs with
  | case1 => cases h; simp
  | case2 => cases h
  | case3 found cs _ _ _ hm hlt ih => exact Nat.lt_trans (ih h) hlt

/-- Reads a class after its opening bracket and negation. A closing bracket that stands first is a member. -/
def class? (c : Char) (cs : List Char) : Option (Bool × List Char) := do
  let (b, rest) ← member? c cs
  members? c b rest

/-- Reads a class after its opening bracket. Says whether it accepts `c`, and what follows it. -/
def classAccepts? (c : Char) : List Char → Option (Bool × List Char)
  | '^' :: rest => (class? c rest).map fun (found, after) => (!found, after)
  | rest => class? c rest

theorem length_of_class {c : Char} {b : Bool} {cs rest : List Char} (h : class? c cs = some (b, rest)) :
    rest.length < cs.length := by
  simp only [class?, Option.bind_eq_bind, Option.bind_eq_some_iff, Prod.exists] at h
  obtain ⟨b', rest', hm, hr⟩ := h
  exact Nat.lt_trans (length_of_members hr) (length_of_member hm)

/-- What follows a class is shorter than the class with what follows it. -/
theorem length_of_classAccepts {c : Char} {b : Bool} {cs rest : List Char}
    (h : classAccepts? c cs = some (b, rest)) : rest.length < cs.length := by
  unfold classAccepts? at h
  split at h
  · simp only [Option.map_eq_some_iff, Prod.exists, Prod.mk.injEq] at h
    obtain ⟨_, _, hc, -, rfl⟩ := h
    have := length_of_class hc
    simp only [List.length_cons]
    omega
  · exact length_of_class h

/-- What is left of a pattern after its first element, if that accepts `c`. -/
def element? (c : Char) : List Char → Option (List Char)
  | [] => none
  | '?' :: rest => some rest
  | '[' :: rest =>
    match classAccepts? c rest with
    | some (true, after) => some after
    | _ => none
  | '\\' :: m :: rest => if Text.eqIgnoreCase m c then some rest else none
  | m :: rest => if Text.eqIgnoreCase m c then some rest else none

/-- How far elements match one character each. -/
inductive Stage where
  /-- The text ended, with this rest of the pattern. -/
  | ended (pattern : List Char)
  /-- A star came up, with this pattern after it and this text. -/
  | star (pattern text : List Char)
  | failed

theorem length_of_element {c : Char} {p rest : List Char} (h : element? c p = some rest) :
    rest.length < p.length := by
  unfold element? at h
  split at h
  · cases h
  · cases h
    simp
  · split at h
    · rename_i hc
      cases h
      have := length_of_classAccepts hc
      simp only [List.length_cons]
      omega
    · cases h
  · split at h
    · cases h
      simp only [List.length_cons]
      omega
    · cases h
  · split at h
    · cases h
      simp
    · cases h

/-- Matches elements against one character each, up to a star or the end of the text. -/
def stage : (pattern text : List Char) → Stage
  | p, [] => .ended p
  | '*' :: p, c :: t => .star p (c :: t)
  | p, c :: t =>
    match element? c p with
    | some p' => stage p' t
    | none => .failed

/-- A star is reached with less pattern, and no more text than there was. -/
theorem length_of_star {p t p' t' : List Char} (h : stage p t = .star p' t') :
    p'.length < p.length ∧ t'.length ≤ t.length := by
  fun_induction stage p t with
  | case1 => cases h
  | case2 p c t => cases h; simp
  | case3 p c t _ q hq ih =>
    have := ih h
    have := length_of_element hq
    simp only [List.length_cons]
    omega
  | case4 => cases h

/-- Whether only stars are left of a pattern. -/
def onlyStars (pattern : List Char) : Bool :=
  pattern.all (· == '*')

/-- Whether what follows a star in a pattern matches at some place of the text. -/
def afterStar (p t : List Char) : Bool :=
  match h : stage p t with
  | .ended rest => onlyStars rest
  | .star p' t' =>
    have := length_of_star h
    afterStar p' t'
  | .failed =>
    match t with
    | [] => false
    | _ :: t => afterStar p t
termination_by p.length + t.length

/-- Whether a glob matches the whole of a text. -/
def accepts (p t : List Char) : Bool :=
  match stage p t with
  | .ended rest => onlyStars rest
  | .star p' t' => afterStar p' t'
  | .failed => false

/-- What is wrong with a glob: a backslash at its end, or a class without end. -/
def fault? (p : List Char) : Option Fault :=
  match p with
  | [] => none
  | '\\' :: rest =>
    match rest with
    | [] => some .loneBackslash
    | _ :: rest => fault? rest
  | '[' :: rest =>
    match h : classAccepts? '\x00' rest with
    | none => some .openClass
    | some (_, after) =>
      have := length_of_classAccepts h
      fault? after
  | _ :: rest => fault? rest
termination_by p.length

end CommandScript.Pattern.Glob
