import CommandScript.Tag.Types
import Mathlib.Data.Finset.Card
import Mathlib.Logic.Relation

/-! Types and their parents. Parents may form a cycle, or not be registered. A walk up the parents is walked in a
    bounded number of steps all the same, since it meets nothing new once it has met all types. So the sub-tag that is
    found is that of the nearest type that has it, and descending from a type is following the names of parents. -/

namespace CommandScript

/-! ### Walks -/

section
variable {α : Type} {next : α → Option α}

/-- What a walk from `start` meets after `n` steps, if it goes on for so long. -/
def walk (next : α → Option α) (start : Option α) : Nat → Option α
  | 0 => start
  | n + 1 => (walk next start n).bind next

@[simp]
theorem walk_none (n : Nat) : walk next none n = none := by
  induction n with
  | zero => rfl
  | succ n ih => rw [walk, ih, Option.bind_none]

theorem walk_succ (start : Option α) (n : Nat) : walk next start (n + 1) = walk next (start.bind next) n := by
  induction n with
  | zero => rfl
  | succ n ih => rw [walk, ih, walk]

/-- Where a walk meets the same twice, it goes on in the same way. -/
theorem walk_add_eq {start : Option α} {i j : Nat} (h : walk next start i = walk next start j) (k : Nat) :
    walk next start (i + k) = walk next start (j + k) := by
  induction k with
  | zero => exact h
  | succ k ih => rw [← Nat.add_assoc, ← Nat.add_assoc, walk, walk, ih]

theorem walk_isSome_of_le {start : Option α} {n : Nat} (h : (walk next start n).isSome) {i : Nat} (le : i ≤ n) :
    (walk next start i).isSome := by
  induction n with
  | zero =>
    obtain rfl := Nat.le_zero.mp le
    exact h
  | succ n ih =>
    rcases Nat.le_succ_iff.mp le with le | rfl
    · exact ih (Option.isSome_of_isSome_bind h) le
    · exact h

/-- A walk within a list that is as long as the list has met something twice. -/
theorem exists_walk_eq {l : List α} {start : Option α} (inside : ∀ n a, walk next start n = some a → a ∈ l) {n : Nat}
    (long : l.length ≤ n) (h : (walk next start n).isSome) :
    ∃ i j, i < j ∧ j ≤ n ∧ walk next start i = walk next start j := by
  classical
  have few : (l.map some).toFinset.card < (Finset.range (n + 1)).card := by
    have := List.toFinset_card_le (l.map some)
    rw [List.length_map] at this
    rw [Finset.card_range]
    omega
  have met : ∀ i ∈ Finset.range (n + 1), walk next start i ∈ (l.map some).toFinset := by
    intro i hi
    obtain ⟨a, ha⟩ := Option.isSome_iff_exists.mp (walk_isSome_of_le h (Nat.le_of_lt_succ (Finset.mem_range.mp hi)))
    rw [List.mem_toFinset, ha]
    exact List.mem_map_of_mem (inside i a ha)
  obtain ⟨i, hi, j, hj, ne, same⟩ := Finset.exists_ne_map_eq_of_card_lt_of_maps_to few met
  rw [Finset.mem_range] at hi hj
  rcases Nat.lt_or_gt_of_ne ne with lt | gt
  · exact ⟨i, j, lt, by omega, same⟩
  · exact ⟨j, i, gt, by omega, same.symm⟩

/-- What a walk within a list meets, it meets in fewer steps than the list is long. -/
theorem exists_walk_lt {l : List α} {start : Option α} (inside : ∀ n a, walk next start n = some a → a ∈ l) {n : Nat}
    {a : α} (h : walk next start n = some a) : ∃ m < l.length, walk next start m = some a := by
  induction n using Nat.strongRecOn with
  | _ n ih =>
    rcases Nat.lt_or_ge n l.length with short | long
    · exact ⟨n, short, h⟩
    · -- what lies between two equal places can be left out
      obtain ⟨i, j, lt, le, same⟩ := exists_walk_eq inside long (by rw [h]; rfl)
      have shorter := walk_add_eq same (n - j)
      rw [Nat.add_sub_cancel' le, h] at shorter
      exact ih (i + (n - j)) (by omega) shorter

end

/-! ### Parents -/

namespace TypeRegistry

/-- A type on the parent chain of a name: the type of this name, or one on the chain of its parent. -/
inductive OnChain (r : TypeRegistry) : String → TagType → Prop
  | self {name : String} {t : TagType} : r.get? name = some t → OnChain r name t
  | parent {name parent : String} {t ancestor : TagType} : r.get? name = some t → t.parent = some parent →
    OnChain r parent ancestor → OnChain r name ancestor

variable {r : TypeRegistry}

/-- The parent of a type, if it has one that is registered. -/
def parent? (r : TypeRegistry) (t : TagType) : Option TagType :=
  t.parent.bind r.get?

theorem onChain_iff {name : String} {t : TagType} :
    r.OnChain name t ↔ ∃ n, walk r.parent? (r.get? name) n = some t := by
  constructor
  · intro h
    induction h with
    | self h => exact ⟨0, h⟩
    | parent h hparent _ ih =>
      obtain ⟨n, hn⟩ := ih
      refine ⟨n + 1, ?_⟩
      rw [walk_succ, h, Option.bind_some, parent?, hparent]
      exact hn
  · rintro ⟨n, hn⟩
    induction n generalizing name with
    | zero => exact .self hn
    | succ n ih =>
      rw [walk_succ] at hn
      cases h : r.get? name with
      | none => simp [h] at hn
      | some t' =>
        rw [h, Option.bind_some, parent?] at hn
        cases hparent : t'.parent with
        | none => simp [hparent] at hn
        | some parent =>
          rw [hparent] at hn
          exact .parent h hparent (ih hn)

theorem resolveFrom_eq_none_iff {key : String} {steps : Nat} {start : Option TagType} :
    r.resolveFrom key steps start = none ↔
      ∀ n < steps, ∀ t, walk r.parent? start n = some t → t.subTag? key = none := by
  induction steps generalizing start with
  | zero => simp [resolveFrom]
  | succ steps ih =>
    cases start with
    | none => simp [resolveFrom]
    | some t =>
      rw [resolveFrom]
      cases hs : t.subTag? key with
      | some found =>
        refine ⟨fun h => (by cases h), fun h => ?_⟩
        have := h 0 (Nat.succ_pos _) t rfl
        rw [hs] at this
        cases this
      | none =>
        dsimp only
        rw [show t.parent.bind r.get? = r.parent? t from rfl, ih]
        constructor
        · intro h n hn t' ht'
          cases n with
          | zero =>
            cases ht'
            exact hs
          | succ n =>
            rw [walk_succ] at ht'
            exact h n (Nat.lt_of_succ_lt_succ hn) t' ht'
        · intro h n hn t' ht'
          exact h (n + 1) (Nat.succ_lt_succ hn) t' (by rw [walk_succ]; exact ht')

theorem walk_mem {name : String} (n : Nat) (t : TagType) (h : walk r.parent? (r.get? name) n = some t) :
    t ∈ r.types := by
  cases n with
  | zero => exact List.mem_of_find?_eq_some h
  | succ n =>
    obtain ⟨child, -, hparent⟩ := Option.bind_eq_some_iff.mp h
    obtain ⟨parent, -, ht⟩ := Option.bind_eq_some_iff.mp hparent
    exact List.mem_of_find?_eq_some ht

/-- A sub-tag is not found exactly if no type on the parent chain has it, whatever the parents are. -/
theorem resolve?_eq_none_iff {name key : String} :
    r.resolve? name key = none ↔ ∀ t, r.OnChain name t → t.subTag? key = none := by
  rw [resolve?, resolveFrom_eq_none_iff]
  constructor
  · intro h t ht
    obtain ⟨n, hn⟩ := onChain_iff.mp ht
    obtain ⟨m, lt, hm⟩ := exists_walk_lt walk_mem hn
    exact h m (Nat.lt_succ_of_lt lt) t hm
  · intro h n _ t ht
    exact h t (onChain_iff.mpr ⟨n, ht⟩)

/-! ### The nearest type with a sub-tag -/

/-- The sub-tag of the first type with one of the name `key`, on the way from a name up the parents, with that type. -/
inductive Nearest (r : TypeRegistry) (key : String) : String → TagType → SubTag → Prop
  | here {name : String} {t : TagType} {s : SubTag} : r.get? name = some t → t.subTag? key = some s →
    Nearest r key name t s
  | above {name parent : String} {t owner : TagType} {s : SubTag} : r.get? name = some t → t.subTag? key = none →
    t.parent = some parent → Nearest r key parent owner s → Nearest r key name owner s

theorem Nearest.onChain {key name : String} {owner : TagType} {s : SubTag} (h : r.Nearest key name owner s) :
    r.OnChain name owner ∧ owner.subTag? key = some s := by
  induction h with
  | here h found => exact ⟨.self h, found⟩
  | above h _ hparent _ ih => exact ⟨.parent h hparent ih.1, ih.2⟩

/-- More steps find the same. -/
theorem resolveFrom_le {key : String} {steps more : Nat} (le : steps ≤ more) {start : Option TagType}
    {x : TagType × SubTag} (h : r.resolveFrom key steps start = some x) : r.resolveFrom key more start = some x := by
  induction steps generalizing more start with
  | zero => cases h
  | succ steps ih =>
    obtain ⟨more, rfl⟩ := Nat.exists_eq_add_one_of_ne_zero (Nat.ne_of_gt (Nat.lt_of_lt_of_le (Nat.succ_pos _) le))
    cases start with
    | none => cases h
    | some t =>
      rw [resolveFrom] at h ⊢
      cases hs : t.subTag? key with
      | some s =>
        rw [hs] at h
        exact h
      | none =>
        rw [hs] at h
        exact ih (Nat.le_of_succ_le_succ le) h

/-- What is found is nearest, and what is nearest is found in some number of steps. -/
theorem nearest_iff {key name : String} {owner : TagType} {s : SubTag} :
    r.Nearest key name owner s ↔ ∃ steps, r.resolveFrom key steps (r.get? name) = some (owner, s) := by
  constructor
  · intro h
    induction h with
    | here h found => exact ⟨1, by rw [h, resolveFrom, found]⟩
    | above h missing hparent _ ih =>
      obtain ⟨steps, hsteps⟩ := ih
      exact ⟨steps + 1, by rw [h, resolveFrom, missing, hparent]; exact hsteps⟩
  · rintro ⟨steps, h⟩
    induction steps generalizing name with
    | zero => cases h
    | succ steps ih =>
      cases hname : r.get? name with
      | none =>
        rw [hname] at h
        cases h
      | some t =>
        rw [hname, resolveFrom] at h
        cases hs : t.subTag? key with
        | some s' =>
          rw [hs] at h
          cases h
          exact .here hname hs
        | none =>
          rw [hs] at h
          dsimp only at h
          cases hparent : t.parent with
          | none =>
            rw [hparent] at h
            cases steps <;> cases h
          | some parent =>
            rw [hparent] at h
            exact .above hname hs hparent (ih h)

/-- No number of steps finds more than the one that is taken. -/
theorem resolve?_eq_some_iff {name key : String} {owner : TagType} {s : SubTag} :
    r.resolve? name key = some (owner, s) ↔ r.Nearest key name owner s := by
  refine ⟨fun h => nearest_iff.mpr ⟨_, h⟩, fun h => ?_⟩
  obtain ⟨steps, hsteps⟩ := nearest_iff.mp h
  cases found : r.resolve? name key with
  | none =>
    have missing := resolve?_eq_none_iff.mp found owner h.onChain.1
    rw [h.onChain.2] at missing
    cases missing
  | some x =>
    have most := resolveFrom_le (Nat.le_max_left steps (r.types.length + 1)) hsteps
    rw [resolveFrom_le (Nat.le_max_right steps _) found] at most
    exact most

/-! ### Descent -/

/-- The name of the parent of a type, if it is registered and has one. -/
def parentName? (r : TypeRegistry) (name : String) : Option String :=
  (r.get? name).bind (·.parent)

/-- A name that leads to another by the names of parents, any number of times. -/
def Descends (r : TypeRegistry) : String → String → Prop :=
  Relation.ReflTransGen fun child parent => r.parentName? child = some parent

theorem descends_iff {child ancestor : String} :
    r.Descends child ancestor ↔ ∃ n, walk r.parentName? (some child) n = some ancestor := by
  constructor
  · intro h
    induction h with
    | refl => exact ⟨0, rfl⟩
    | tail _ hparent ih =>
      obtain ⟨n, hn⟩ := ih
      exact ⟨n + 1, by rw [walk, hn, Option.bind_some, hparent]⟩
  · rintro ⟨n, hn⟩
    induction n generalizing ancestor with
    | zero =>
      cases hn
      exact .refl
    | succ n ih =>
      obtain ⟨name, hname, hparent⟩ := Option.bind_eq_some_iff.mp hn
      exact (ih hname).tail hparent

theorem isAFrom_iff {ancestor : String} {steps : Nat} {start : Option String} :
    r.isAFrom ancestor steps start = true ↔ ∃ n < steps, walk r.parentName? start n = some ancestor := by
  induction steps generalizing start with
  | zero => simp [isAFrom]
  | succ steps ih =>
    cases start with
    | none => simp [isAFrom]
    | some name =>
      rw [isAFrom, Bool.or_eq_true, beq_iff_eq, show (r.get? name).bind (·.parent) = r.parentName? name from rfl, ih]
      constructor
      · rintro (rfl | ⟨n, hn, h⟩)
        · exact ⟨0, Nat.succ_pos _, rfl⟩
        · exact ⟨n + 1, Nat.succ_lt_succ hn, by rw [walk_succ]; exact h⟩
      · rintro ⟨n, hn, h⟩
        cases n with
        | zero =>
          cases h
          exact .inl rfl
        | succ n =>
          rw [walk_succ] at h
          exact .inr ⟨n, Nat.lt_of_succ_lt_succ hn, h⟩

/-- The names on the way are those of the parents of the types on the way. -/
theorem walk_parentName? (child : String) (n : Nat) :
    walk r.parentName? (some child) (n + 1) = (walk r.parent? (r.get? child) n).bind (·.parent) := by
  induction n with
  | zero => rfl
  | succ n ih =>
    rw [walk, ih, walk, Option.bind_assoc, Option.bind_assoc]
    congr 1
    funext t
    exact (Option.bind_assoc t.parent r.get? (·.parent)).symm

/-- Whatever the way leads to, it leads there in as many steps as there are types. The last name need not be that of
    a type, so the types before it are what is counted. -/
theorem Descends.exists_walk_le {child ancestor : String} (h : r.Descends child ancestor) :
    ∃ n ≤ r.types.length, walk r.parentName? (some child) n = some ancestor := by
  obtain ⟨n, hn⟩ := descends_iff.mp h
  cases n with
  | zero => exact ⟨0, Nat.zero_le _, hn⟩
  | succ n =>
    rw [walk_parentName?] at hn
    obtain ⟨t, ht, hparent⟩ := Option.bind_eq_some_iff.mp hn
    obtain ⟨m, lt, hm⟩ := exists_walk_lt walk_mem ht
    exact ⟨m + 1, lt, by rw [walk_parentName?, hm]; exact hparent⟩

theorem isA_iff {child ancestor : String} : r.isA child ancestor = true ↔ r.Descends child ancestor := by
  rw [isA, isAFrom_iff]
  constructor
  · rintro ⟨n, -, hn⟩
    exact descends_iff.mpr ⟨n, hn⟩
  · intro h
    obtain ⟨n, le, hn⟩ := h.exists_walk_le
    exact ⟨n, Nat.lt_succ_of_le le, hn⟩

/-- Whatever types there are, a sub-tag is that of the nearest type on the parent chain that has it, and is not found
    if none has it; a type is another exactly if the names of parents lead there. More steps would not find more. -/
theorem parentChain_exact (r : TypeRegistry) (name key ancestor : String) :
    (∀ owner s, r.resolve? name key = some (owner, s) ↔ r.Nearest key name owner s) ∧
      (r.resolve? name key = none ↔ ∀ t, r.OnChain name t → t.subTag? key = none) ∧
      (r.isA name ancestor = true ↔ r.Descends name ancestor) ∧
      ∀ steps, r.types.length < steps → r.resolveFrom key steps (r.get? name) = r.resolve? name key ∧
        r.isAFrom ancestor steps (some name) = r.isA name ancestor := by
  refine ⟨fun _ _ => resolve?_eq_some_iff, resolve?_eq_none_iff, isA_iff, fun steps enough => ⟨?_, ?_⟩⟩
  · cases found : r.resolve? name key with
    | some x => exact resolveFrom_le enough found
    | none =>
      cases more : r.resolveFrom key steps (r.get? name) with
      | none => rfl
      | some x =>
        have nearest := resolve?_eq_some_iff.mpr (nearest_iff.mpr ⟨steps, more⟩)
        rw [found] at nearest
        cases nearest
  · rw [Bool.eq_iff_iff, isA, isAFrom_iff, isAFrom_iff]
    constructor
    · rintro ⟨n, -, hn⟩
      exact isAFrom_iff.mp (isA_iff.mpr (descends_iff.mpr ⟨n, hn⟩))
    · rintro ⟨n, lt, hn⟩
      exact ⟨n, Nat.lt_of_lt_of_le lt enough, hn⟩

/-- Types in a cycle, with a parent that is not registered on another way. -/
example : let r : TypeRegistry := ⟨[⟨"a", some "b", id, []⟩, ⟨"b", some "a", id, []⟩, ⟨"c", some "d", id, []⟩]⟩
    r.isA "a" "b" = true ∧ r.isA "a" "c" = false ∧ r.isA "c" "d" = true ∧ (r.resolve? "a" "x").isNone = true := by
  decide

end TypeRegistry

end CommandScript
