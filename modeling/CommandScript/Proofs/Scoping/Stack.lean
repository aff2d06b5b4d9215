import CommandScript.Proofs.Scoping.Visible

/-! The scopes of the compiler. The stack of them holds one scope for each block around the place at hand and one for
    the top level, each with the variables that belong there. What it finds, from the innermost scope outwards, is the
    latest variable in sight. -/

namespace CommandScript

/-! ### Maps of names -/

section
variable {κ α : Type} [BEq κ]

theorem mem_keys_setKey {key other : κ} {value : α} {pairs : List (κ × α)}
    (h : other ∈ (setKey key value pairs).map (·.1)) : other = key ∨ other ∈ pairs.map (·.1) := by
  obtain ⟨pair, hpair, rfl⟩ := List.mem_map.mp h
  rcases mem_setKey hpair with rfl | hpair
  · exact Or.inl rfl
  · exact Or.inr (List.mem_map_of_mem hpair)

variable [LawfulBEq κ]

theorem nodup_setKey (key : κ) (value : α) {pairs : List (κ × α)} (h : (pairs.map (·.1)).Nodup) :
    ((setKey key value pairs).map (·.1)).Nodup := by
  induction pairs with
  | nil => exact List.nodup_cons.mpr ⟨List.not_mem_nil, List.nodup_nil⟩
  | cons pair rest ih =>
    obtain ⟨k, v⟩ := pair
    rw [List.map_cons, List.nodup_cons] at h
    rw [setKey]
    split
    · rename_i hk
      cases eq_of_beq hk
      exact List.nodup_cons.mpr h
    · rename_i hk
      refine List.nodup_cons.mpr ⟨fun hmem => ?_, ih h.2⟩
      rcases mem_keys_setKey hmem with rfl | hmem
      · exact hk (beq_self_eq_true _)
      · exact h.1 hmem

/-- Setting the pairs of a map one by one puts it in front of another. -/
theorem lookup_foldl_setKey {names : List (κ × α)} (distinct : (names.map (·.1)).Nodup) (base : List (κ × α))
    (name : κ) : (names.foldl (fun names (name, slot) => setKey name slot names) base).lookup name =
      (names.lookup name).or (base.lookup name) := by
  induction names generalizing base with
  | nil => rfl
  | cons pair rest ih =>
    obtain ⟨k, v⟩ := pair
    rw [List.map_cons, List.nodup_cons] at distinct
    rw [List.foldl_cons, ih distinct.2, List.lookup_cons]
    by_cases hk : name = k
    · subst hk
      have absent : rest.lookup name = none := List.lookup_eq_none_iff.mpr fun pair hpair => by
        rw [bne_iff_ne]
        exact fun h => distinct.1 (List.mem_map.mpr ⟨pair, hpair, h.symm⟩)
      rw [beq_self_eq_true, absent, lookup_setKey_self]
      rfl
    · rw [beq_eq_false_iff_ne.mpr hk, lookup_setKey_ne hk]

end

theorem Compilation.lookup_visibleIn {scopes : List Scope} (distinct : ∀ s ∈ scopes, (s.names.map (·.1)).Nodup)
    (name : String) : (visibleIn scopes).lookup name = scopes.findSome? fun s => s.names.lookup name := by
  induction scopes with
  | nil => rfl
  | cons s outer ih =>
    have rest := ih fun t ht => distinct t (List.mem_cons_of_mem _ ht)
    cases outer with
    | nil =>
      rw [visibleIn, List.findSome?_cons]
      cases s.names.lookup name <;> rfl
    | cons t outer =>
      rw [visibleIn, lookup_foldl_setKey (distinct s List.mem_cons_self), rest, List.findSome?_cons (a := s)]
      · cases s.names.lookup name <;> rfl
      · exact fun h => by cases h

/-! ### Scopes and blocks -/

/-- The blocks around a place, the innermost first, and the top level: where the variables in sight belong. -/
def homesAround (row : List Instruction) (index : Nat) : List (Option Nat) :=
  (ownersAround row index).map some ++ [none]

/-- The blocks that are open behind an instruction, the innermost first, and the top level. -/
def homesBehind (row : List Instruction) (index : Nat) : List (Option Nat) :=
  (if (blockAt? row index).isSome then [some index] else []) ++ homesAround row index

/-- The first place after a block; none for the top level. -/
def homeStop? (row : List Instruction) (home : Option Nat) : Option Nat :=
  home.bind fun owner => (blockAt? row owner).map (·.stop)

/-- A scope that has the variables of a block, or of the top level. -/
structure Scope.Has (row : List Instruction) (ds : List Declared) (home : Option Nat) (scope : Scope) : Prop where
  stop : scope.stop = homeStop? row home
  distinct : (scope.names.map (·.1)).Nodup
  lookup : ∀ name, scope.names.lookup name = latest? (fun d => d.home row == home) ds name

theorem distinct_of_has {row : List Instruction} {ds : List Declared} {homes : List (Option Nat)}
    {scopes : List Scope} (has : List.Forall₂ (Scope.Has row ds) homes scopes) :
    ∀ s ∈ scopes, (s.names.map (·.1)).Nodup := by
  induction has with
  | nil => exact fun _ h => absurd h List.not_mem_nil
  | cons first _ ih => exact List.forall_mem_cons.mpr ⟨first.distinct, ih⟩

/-- Variables in the order of their declarations, all of them before a place. -/
structure InOrder (ds : List Declared) (bound : Nat) : Prop where
  before : ∀ d ∈ ds, ∀ index, d.place = some index → index < bound
  sorted : ds.Pairwise fun a b => ∀ i, a.place = some i → ∃ j, b.place = some j ∧ i < j

section
variable {row : List Instruction} {ds : List Declared} {index : Nat}

theorem none_mem_homesAround : none ∈ homesAround row index :=
  List.mem_append_right _ List.mem_cons_self

theorem some_mem_homesAround {owner : Nat} :
    some owner ∈ homesAround row index ↔ owner < index ∧ blockHolds row owner index = true := by
  rw [homesAround, List.mem_append, List.mem_map, List.mem_singleton, ← mem_ownersAround]
  simp

theorem mem_homesBehind {home : Option Nat} : home ∈ homesBehind row index ↔
    home = some index ∧ (blockAt? row index).isSome = true ∨ home ∈ homesAround row index := by
  rw [homesBehind, List.mem_append]
  split
  · rename_i h
    rw [List.mem_singleton, h, and_iff_left rfl]
  · rename_i h
    simp [h]

/-- Homes further in belong to later owners. -/
theorem pairwise_homesBehind (row : List Instruction) (index : Nat) : (homesBehind row index).Pairwise
    fun inner outer => ∃ owner, inner = some owner ∧ ∀ o, outer = some o → o < owner := by
  have around : (homesAround row index).Pairwise
      fun inner outer => ∃ owner, inner = some owner ∧ ∀ o, outer = some o → o < owner := by
    refine List.pairwise_append.mpr ⟨?_, List.pairwise_singleton _ _, fun inner hinner outer houter => ?_⟩
    · refine List.pairwise_map.mpr ((pairwise_ownersAround row index).imp fun {a b} hlt => ⟨a, rfl, fun o ho => ?_⟩)
      cases ho
      exact hlt
    · obtain ⟨owner, -, rfl⟩ := List.mem_map.mp hinner
      cases List.mem_singleton.mp houter
      exact ⟨owner, rfl, fun o ho => by cases ho⟩
  unfold homesBehind
  split
  · refine List.pairwise_cons.mpr ⟨fun outer houter => ⟨index, rfl, fun o ho => ?_⟩, around⟩
    subst ho
    exact (some_mem_homesAround.mp houter).1
  · exact around

/-- The variable that an instruction declares belongs to the innermost block that is open behind it. -/
theorem Declared.homesBehind_eq (row : List Instruction) {d : Declared} (h : d.place = some index) :
    ∃ outer, homesBehind row index = d.home row :: outer ∧ d.home row ∉ outer := by
  have shape : ∃ outer, homesBehind row index = d.home row :: outer := by
    rw [home_of_place h, homesBehind]
    split
    · exact ⟨_, rfl⟩
    · rw [homesAround]
      cases ownersAround row index with
      | nil => exact ⟨_, rfl⟩
      | cons inner outer => exact ⟨_, rfl⟩
  obtain ⟨outer, hshape⟩ := shape
  refine ⟨outer, hshape, fun hmem => ?_⟩
  have order := pairwise_homesBehind row index
  rw [hshape] at order
  obtain ⟨owner, hinner, houter⟩ := (List.pairwise_cons.mp order).1 _ hmem
  exact Nat.lt_irrefl _ (houter owner hinner)

/-- Variables of an inner block are declared behind all that are in sight from further out. -/
theorem apart_homesBehind {r : CommandRegistry} (laid : Laid r 0 none row) (order : InOrder ds (index + 1))
    {inner : Option Nat} {outer : List (Option Nat)} (suffix : (inner :: outer) <:+ homesBehind row index) :
    ds.Pairwise fun a b => (a.home row == inner) = true → outer.contains (b.home row) = false := by
  have inside := mem_homesBehind.mp (suffix.subset List.mem_cons_self)
  have later := (List.pairwise_cons.mp ((pairwise_homesBehind row index).sublist suffix.sublist)).1
  refine order.sorted.imp_of_mem fun {a b} ha hb hab hinner => ?_
  rw [beq_iff_eq] at hinner
  refine Bool.eq_false_iff.mpr fun hmem => ?_
  have hmem : b.home row ∈ outer := List.contains_iff_mem.mp hmem
  obtain ⟨owner, rfl, hlt⟩ := later _ hmem
  obtain ⟨i, hi, -⟩ := Option.bind_eq_some_iff.mp hinner
  obtain ⟨j, hj, hij⟩ := hab i hi
  have howner := Declared.le_of_home hi hinner
  have hbound := order.before b hb j hj
  rcases inside with ⟨howner', -⟩ | inside
  · cases howner'
    omega
  · have holds := laid.holds_between (some_mem_homesAround.mp inside).2 (show owner < j by omega) (by omega)
    obtain ⟨o, ho, hle⟩ := Declared.home_inside hj (Or.inr ⟨by omega, holds⟩)
    have := hlt o ho
    omega

theorem findSome?_of_has {homes : List (Option Nat)} {scopes : List Scope}
    (has : List.Forall₂ (Scope.Has row ds) homes scopes)
    (apart : ∀ {inner : Option Nat} {outer : List (Option Nat)}, (inner :: outer) <:+ homes →
      ds.Pairwise fun a b => (a.home row == inner) = true → outer.contains (b.home row) = false) (name : String) :
    (scopes.findSome? fun s => s.names.lookup name) = latest? (fun d => homes.contains (d.home row)) ds name := by
  induction has with
  | nil => exact (latest?_none (fun _ _ => rfl) name).symm
  | @cons home scope homes scopes hhome _ ih =>
    have rest := ih fun suffix => apart (suffix.trans (List.suffix_cons _ _))
    have split := latest?_or (apart (List.suffix_refl _)) name
    have first : (fun d : Declared => (home :: homes).contains (d.home row)) =
        fun d => d.home row == home || homes.contains (d.home row) := funext fun d => List.contains_cons
    rw [List.findSome?_cons, hhome.lookup, rest, first, split]
    cases latest? (fun d => d.home row == home) ds name <;> rfl

/-- The variables in sight are those that belong to the blocks around a place, or to the top level. -/
theorem contains_homesAround {r : CommandRegistry} (laid : Laid r 0 none row) {d : Declared}
    (before : ∀ i, d.place = some i → i < index) :
    (homesAround row index).contains (d.home row) = d.visible row index := by
  have hplace : d.place.all (· < index) = true := by
    rw [Option.all_eq_true]
    exact fun i hi => decide_eq_true (before i hi)
  rw [Declared.visible, hplace, Bool.true_and, Bool.eq_iff_iff, List.contains_iff_mem]
  cases home : d.home row with
  | none => exact ⟨fun _ => rfl, fun _ => none_mem_homesAround⟩
  | some owner =>
    rw [some_mem_homesAround]
    refine ⟨fun h => h.2, fun h => ⟨?_, h⟩⟩
    obtain ⟨_, -, hlt, -⟩ := laid.holds_stop h
    exact hlt

/-- Behind an instruction its own variable is in sight as well. -/
theorem contains_homesBehind {r : CommandRegistry} (laid : Laid r 0 none row) {d : Declared}
    (before : ∀ i, d.place = some i → i < index + 1) :
    (homesBehind row index).contains (d.home row) = (d.visible row index || d.place == some index) := by
  by_cases own : d.place = some index
  · obtain ⟨outer, hshape, -⟩ := Declared.homesBehind_eq row own
    rw [own, beq_self_eq_true, Bool.or_true, hshape, List.contains_cons, beq_self_eq_true, Bool.true_or]
  · have earlier : ∀ i, d.place = some i → i < index := fun i hi => by
      have := before i hi
      have : i ≠ index := fun h => own (h ▸ hi)
      omega
    rw [beq_eq_false_iff_ne.mpr own, Bool.or_false, ← contains_homesAround laid earlier, Bool.eq_iff_iff,
      List.contains_iff_mem, List.contains_iff_mem, mem_homesBehind]
    refine ⟨fun h => h.resolve_left fun ⟨home, _⟩ => ?_, Or.inr⟩
    obtain ⟨i, hi, -⟩ := Option.bind_eq_some_iff.mp home
    have := Declared.le_of_home hi home
    have := earlier i hi
    omega

end

/-! ### Opening, declaring and leaving -/

section
variable {row : List Instruction} {ds : List Declared} {index : Nat}

/-- A block that opens has no variables yet. -/
theorem has_openBlock {c : Compilation} {i : Instruction} (hi : row[index]? = some i)
    (command : ∀ s, i.block = some s → i.callbackOf = none) (order : InOrder ds index)
    (has : List.Forall₂ (Scope.Has row ds) (homesAround row index) c.scopes) :
    List.Forall₂ (Scope.Has row ds) (homesBehind row index) (c.openBlock i).scopes := by
  have block : blockAt? row index = i.block := by rw [blockAt?, hi, Option.bind_some]
  unfold homesBehind Compilation.openBlock
  rw [block]
  cases hs : i.block with
  | none => exact has
  | some s =>
    have hc : i.isCallback = false := by rw [Instruction.isCallback, command s hs]; rfl
    rw [hc]
    refine .cons ⟨?_, List.nodup_nil, fun name => ?_⟩ has
    · rw [homeStop?, Option.bind_some, block, hs]
      rfl
    · refine (latest?_none (fun d hd => beq_eq_false_iff_ne.mpr fun home => ?_) name).symm
      obtain ⟨j, hj, -⟩ := Option.bind_eq_some_iff.mp home
      have := Declared.le_of_home hj home
      have := order.before d hd j hj
      omega

/-- A variable that is declared becomes the latest one of its name in the innermost scope. -/
theorem has_declare {c : Compilation} {d : Declaration}
    (has : List.Forall₂ (Scope.Has row ds) (homesBehind row index) c.scopes) :
    List.Forall₂ (Scope.Has row (ds ++ [⟨some index, Text.lower d.name, c.slots.size⟩])) (homesBehind row index)
      (c.declare d).2.scopes := by
  obtain ⟨outer, hshape, absent⟩ := Declared.homesBehind_eq row
    (d := ⟨some index, Text.lower d.name, c.slots.size⟩) rfl
  rw [hshape] at has ⊢
  rw [Compilation.declare]
  cases hscopes : c.scopes with
  | nil =>
    rw [hscopes] at has
    cases has
  | cons s scopes =>
    rw [hscopes] at has
    cases has with
    | cons first rest =>
      refine .cons ⟨first.stop, nodup_setKey _ _ first.distinct, fun name => ?_⟩ ?_
      · rw [latest?_append_one, beq_self_eq_true, Bool.and_true]
        by_cases hn : Text.lower d.name = name
        · rw [if_pos (beq_iff_eq.mpr hn), ← hn]
          exact lookup_setKey_self _ _ _
        · rw [if_neg (fun h => hn (beq_iff_eq.mp h)), ← first.lookup]
          exact lookup_setKey_ne (Ne.symm hn) _ _
      · have others := (List.forall₂_and_left _ _).mpr ⟨fun home hhome => hhome, rest⟩
        refine others.imp fun home scope ⟨hhome, hscope⟩ => ?_
        refine ⟨hscope.stop, hscope.distinct, fun name => ?_⟩
        rw [latest?_append_one, hscope.lookup, if_neg]
        rw [Bool.and_eq_true, beq_iff_eq]
        exact fun h => absent (beq_iff_eq.mp h.2 ▸ hhome)

/-! ### Leaving -/

/-- Whether a block ends at or before a place. -/
def homeEnds (row : List Instruction) (bound : Nat) (home : Option Nat) : Bool :=
  (homeStop? row home).any (· ≤ bound)

theorem dropWhile_eq_filter {α : Type} {p : α → Bool} {l : List α}
    (order : l.Pairwise fun a b => p a = false → p b = false) : l.dropWhile p = l.filter fun a => !p a := by
  induction l with
  | nil => rfl
  | cons a rest ih =>
    obtain ⟨later, order⟩ := List.pairwise_cons.mp order
    rw [List.dropWhile_cons, List.filter_cons]
    cases hp : p a with
    | true => exact ih order
    | false =>
      have all : rest.filter (fun b => !p b) = rest := List.filter_eq_self.mpr fun b hb => by rw [later b hb hp]; rfl
      simp [all]

section
variable {r : CommandRegistry} (laid : Laid r 0 none row)
include laid

/-- A block that is open behind an instruction goes on behind the next place, or ends there. -/
theorem not_homeEnds {owner : Nat} (hle : owner ≤ index) (block : (blockAt? row owner).isSome = true) :
    (!homeEnds row (index + 1) (some owner)) = blockHolds row owner (index + 1) := by
  obtain ⟨s, hs⟩ := Option.isSome_iff_exists.mp block
  have := (laid.blockAt hs).1
  rw [homeEnds, homeStop?, Option.bind_some, blockHolds, hs, Option.map_some, Option.any_some, Option.any_some,
    Bool.eq_iff_iff]
  simp only [Bool.not_eq_true', decide_eq_false_iff_not, Bool.and_eq_true, decide_eq_true_eq]
  omega

theorem ownersAround_succ : ownersAround row (index + 1) =
    (if blockHolds row index (index + 1) then [index] else []) ++
      (ownersAround row index).filter (blockHolds row · (index + 1)) := by
  have earlier : (List.range index).filter (blockHolds row · (index + 1)) =
      ((List.range index).filter (blockHolds row · index)).filter (blockHolds row · (index + 1)) := by
    rw [List.filter_filter]
    refine List.filter_congr fun owner howner => ?_
    rw [Bool.eq_iff_iff, Bool.and_eq_true]
    exact ⟨fun h => ⟨h, laid.holds_between h (List.mem_range.mp howner) (Nat.le_succ _)⟩, fun h => h.1⟩
  rw [ownersAround, ownersAround, List.range_succ, List.filter_append, List.reverse_append, earlier]
  congr 1
  · rw [List.filter_cons, List.filter_nil]
    split <;> rfl
  · exact List.filter_reverse.symm

/-- A block ends no later than the blocks around it. -/
theorem pairwise_homeEnds : (homesBehind row index).Pairwise fun inner outer =>
    homeEnds row (index + 1) inner = false → homeEnds row (index + 1) outer = false := by
  refine (pairwise_homesBehind row index).imp_of_mem fun {inner outer} hinner houter hlt hopen => ?_
  obtain ⟨owner, rfl, hlt⟩ := hlt
  cases outer with
  | none => exact rfl
  | some o =>
    have before := hlt o rfl
    have hle : owner ≤ index ∧ (blockAt? row owner).isSome = true := by
      rcases mem_homesBehind.mp hinner with ⟨h, hblock⟩ | h
      · cases h
        exact ⟨Nat.le_refl _, hblock⟩
      · obtain ⟨hlt, hholds⟩ := some_mem_homesAround.mp h
        obtain ⟨s, hs, -⟩ := laid.holds_stop hholds
        exact ⟨Nat.le_of_lt hlt, hs ▸ rfl⟩
    have around : blockHolds row o index = true := by
      rcases mem_homesBehind.mp houter with ⟨h, -⟩ | h
      · cases h
        omega
      · exact (some_mem_homesAround.mp h).2
    obtain ⟨s, hs, -⟩ := laid.holds_stop around
    obtain ⟨t, ht⟩ := Option.isSome_iff_exists.mp hle.2
    -- The inner owner lies in the block of the outer one, so its block ends there too.
    have nested := laid.stop_le hs ht (laid.holds_between around before hle.1)
    have still := not_homeEnds laid hle.1 hle.2
    rw [hopen] at still
    obtain ⟨t', ht', -, hstop⟩ := laid.holds_stop still.symm
    cases ht.symm.trans ht'
    rw [homeEnds, homeStop?, Option.bind_some, hs]
    have later : ¬s.stop ≤ index + 1 := by omega
    exact decide_eq_false later

/-- The blocks that are still open at the next place. -/
theorem homesAround_succ :
    (homesBehind row index).dropWhile (homeEnds row (index + 1)) = homesAround row (index + 1) := by
  have top : homeEnds row (index + 1) none = false := rfl
  have own : (if (blockAt? row index).isSome then [some index] else []).filter
      (fun home => !homeEnds row (index + 1) home) =
        (if blockHolds row index (index + 1) then [index] else []).map some := by
    split
    · rename_i hblock
      rw [List.filter_cons, List.filter_nil, not_homeEnds laid (Nat.le_refl _) hblock]
      split <;> rfl
    · rename_i hblock
      have none : blockHolds row index (index + 1) = false := Bool.eq_false_iff.mpr fun h => by
        obtain ⟨s, hs, -⟩ := laid.holds_stop h
        exact hblock (hs ▸ rfl)
      rw [none]
      rfl
  have around : ((ownersAround row index).map some).filter (fun home => !homeEnds row (index + 1) home) =
      ((ownersAround row index).filter (blockHolds row · (index + 1))).map some := by
    rw [List.filter_map]
    congr 1
    refine List.filter_congr fun owner howner => ?_
    obtain ⟨hlt, hholds⟩ := mem_ownersAround.mp howner
    obtain ⟨s, hs, -⟩ := laid.holds_stop hholds
    exact not_homeEnds laid (Nat.le_of_lt hlt) (hs ▸ rfl)
  -- Ends grow outwards, so leaving the first blocks that have ended leaves all that have.
  rw [dropWhile_eq_filter (pairwise_homeEnds laid), homesBehind, homesAround, List.filter_append,
    List.filter_append, own, around, List.filter_cons, List.filter_nil, top, homesAround, ownersAround_succ laid,
    List.map_append, List.append_assoc]
  rfl

end

end

end CommandScript
