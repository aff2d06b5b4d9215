import CommandScript.Proofs.Bodies.Alike
import CommandScript.Proofs.Layout.Extract

/-! A block that is compiled alone, and as a part of its script. Step by step the two keep the same scopes for the
    blocks inside; what is declared directly in the block is in the outermost scope of the one, and in the scope of the
    block of the other, where the variable of its owner may be besides. So whatever is found in the first is found in
    the second, and an instruction declares the same variable in both. -/

namespace CommandScript

/-! ### Rows compiled twice -/

/-- Rows of one length whose members go together. -/
inductive Threefold {α β γ : Type} (R : α → β → γ → Prop) : List α → List β → List γ → Prop
  | nil : Threefold R [] [] []
  | cons {a : α} {b : β} {c : γ} {as : List α} {bs : List β} {cs : List γ} (first : R a b c)
    (later : Threefold R as bs cs) : Threefold R (a :: as) (b :: bs) (c :: cs)

theorem mapM_extends {α β : Type} {s : TagScope} {f : α → Compiling β}
    (ext : ∀ a {t t' : ChainTable} {b : β}, Sound s.registries s.slots t → (f a).run t = .ok (b, t') →
      Extends s t t')
    {as : List α} {bs : List β} {t t' : ChainTable} (sound : Sound s.registries s.slots t)
    (h : (as.mapM f).run t = .ok (bs, t')) : Extends s t t' :=
  (mapM_agrees (P := fun _ _ _ => True) (fun _ _ => trivial)
    (fun a _ _ _ sound hb => ⟨ext a sound hb, trivial⟩) sound h).1

theorem mapM_threefold {α β γ : Type} {s u : TagScope} {own whole : ChainTable} {f : α → Compiling β}
    {g : α → Compiling γ} {R : α → β → γ → Prop}
    (ext : ∀ a {t t' : ChainTable} {b : β}, Sound s.registries s.slots t → (f a).run t = .ok (b, t') →
      Extends s t t')
    (ext' : ∀ a {w w' : ChainTable} {c : γ}, Sound u.registries u.slots w → (g a).run w = .ok (c, w') →
      Extends u w w')
    (spec : ∀ a {t t' w w' : ChainTable} {b : β} {c : γ}, Sound s.registries s.slots t →
      Sound u.registries u.slots w → (f a).run t = .ok (b, t') → (g a).run w = .ok (c, w') → Grows t' own →
        Grows w' whole → R a b c)
    {as : List α} {bs : List β} {cs : List γ} {t t' w w' : ChainTable} (sound : Sound s.registries s.slots t)
    (sound' : Sound u.registries u.slots w) (h : (as.mapM f).run t = .ok (bs, t'))
    (h' : (as.mapM g).run w = .ok (cs, w')) (grows : Grows t' own) (grows' : Grows w' whole) :
    Threefold R as bs cs := by
  induction as generalizing bs cs t w with
  | nil =>
    rw [List.mapM_nil] at h h'
    cases h
    cases h'
    exact .nil
  | cons a rest ih =>
    rw [List.mapM_cons] at h h'
    obtain ⟨b, t₁, hb, h⟩ := run_bind_eq_ok.mp h
    obtain ⟨bs, t₂, hbs, h⟩ := run_bind_eq_ok.mp h
    cases h
    obtain ⟨c, w₁, hc, h'⟩ := run_bind_eq_ok.mp h'
    obtain ⟨cs, w₂, hcs, h'⟩ := run_bind_eq_ok.mp h'
    cases h'
    have sound₁ := (ext a sound hb).sound
    have sound₁' := (ext' a sound' hc).sound
    have more := mapM_extends ext sound₁ hbs
    have more' := mapM_extends ext' sound₁' hcs
    exact .cons (spec a sound sound' hb hc (more.grows.trans grows) (more'.grows.trans grows'))
      (ih sound₁ sound₁' hbs hcs)

theorem compileNamed_eq_ok {s : TagScope} {a : String × Argument} {b : String × CompiledArgument} {t t' : ChainTable}
    (h : (compileNamed s a).run t = .ok (b, t')) : a.1 = b.1 ∧ (compileArgument s a.2).run t = .ok (b.2, t') := by
  rw [compileNamed] at h
  obtain ⟨c, _, hc, h⟩ := run_bind_eq_ok.mp h
  cases h
  exact ⟨rfl, hc⟩

section
variable {same : String → Nat → Nat → Prop} {s u : TagScope} {own whole t t' w w' : ChainTable}

theorem compileArgument_extends (finds : ∃ find, s.Finds find) (plain : s.registries.PlainNames) (a : Argument)
    {t t' : ChainTable} {c : CompiledArgument} (sound : Sound s.registries s.slots t)
    (h : (compileArgument s a).run t = .ok (c, t')) : Extends s t t' :=
  finds.elim fun _ finds => (compileArgument_agrees finds plain a sound h).1

theorem compileNamed_extends (finds : ∃ find, s.Finds find) (plain : s.registries.PlainNames) (a : String × Argument)
    {t t' : ChainTable} {c : String × CompiledArgument} (sound : Sound s.registries s.slots t)
    (h : (compileNamed s a).run t = .ok (c, t')) : Extends s t t' :=
  compileArgument_extends finds plain a.2 sound (compileNamed_eq_ok h).2

theorem ScopesMeet.args (meet : ScopesMeet same s u) {as : List Argument} {cs ds : List CompiledArgument}
    (sound : Sound s.registries s.slots t) (sound' : Sound u.registries u.slots w)
    (h : (as.mapM (compileArgument s)).run t = .ok (cs, t'))
    (h' : (as.mapM (compileArgument u)).run w = .ok (ds, w')) : Extends s t t' ∧ Extends u w w' ∧
      (Grows t' own → Grows w' whole → Threefold (SameArgument s.registries.bases own whole same) as cs ds) := by
  have ext := compileArgument_extends meet.finds meet.plain
  have ext' := compileArgument_extends meet.finds' meet.plain'
  exact ⟨mapM_extends ext sound h, mapM_extends ext' sound' h',
    mapM_threefold ext ext' (fun a _ _ _ _ _ _ => compileArgument_meet meet a) sound sound' h h'⟩

theorem ScopesMeet.named (meet : ScopesMeet same s u) {as : List (String × Argument)}
    {cs ds : List (String × CompiledArgument)} (sound : Sound s.registries s.slots t)
    (sound' : Sound u.registries u.slots w) (h : (as.mapM (compileNamed s)).run t = .ok (cs, t'))
    (h' : (as.mapM (compileNamed u)).run w = .ok (ds, w')) : Extends s t t' ∧ Extends u w w' ∧
      (Grows t' own → Grows w' whole → Threefold (fun a c d => a.1 = c.1 ∧ a.1 = d.1 ∧
        SameArgument s.registries.bases own whole same a.2 c.2 d.2) as cs ds) := by
  have ext := compileNamed_extends meet.finds meet.plain
  have ext' := compileNamed_extends meet.finds' meet.plain'
  refine ⟨mapM_extends ext sound h, mapM_extends ext' sound' h',
    mapM_threefold ext ext' (fun a _ _ _ _ c d sound sound' h h' grows grows' => ?_) sound sound' h h'⟩
  obtain ⟨key, h⟩ := compileNamed_eq_ok h
  obtain ⟨key', h'⟩ := compileNamed_eq_ok h'
  exact ⟨key, key', compileArgument_meet meet a.2 sound sound' h h' grows grows'⟩

end

theorem Threefold.typeNames_eq {bases : BaseRegistry} {own whole : ChainTable} {same : String → Nat → Nat → Prop}
    {as : List Argument} {cs ds : List CompiledArgument}
    (h : Threefold (SameArgument bases own whole same) as cs ds) :
    cs.map (·.typeName) = ds.map (·.typeName) := by
  induction h with
  | nil => rfl
  | cons first _ ih =>
    cases first with
    | segments typeName => rw [List.map_cons, List.map_cons, typeName, ih]

/-! ### Variables of a block -/

/-- The slots `x` and `y` are those of a variable in the code of a block alone, and in the code of its script, where the
    block begins at `base`: one instruction declares both, with one name and one type. -/
def SameVariable (own whole : Code) (base : Nat) (name : String) (x y : Nat) : Prop :=
  ∃ index e f v, own.entries[index]? = some e ∧ whole.entries[base + index]? = some f ∧ e.declares = some x ∧
    f.declares = some y ∧ own.slots[x]? = some v ∧ whole.slots[y]? = some v ∧ v.name = name

/-- Scopes for compiling a block alone, and in its script. -/
inductive ScopesAlongside (same : String → Nat → Nat → Prop) (base stop : Nat) : List Scope → List Scope → Prop
  | block {top owner : Scope} {outer : List Scope} (topStop : top.stop = none) (ownerStop : owner.stop = some stop)
    (names : ∀ n x, top.names.lookup n = some x → ∃ y, owner.names.lookup n = some y ∧ same n x y) :
    ScopesAlongside same base stop [top] (owner :: outer)
  | inner {a b : Scope} {as bs : List Scope} {place : Nat} (ownStop : a.stop = some place)
    (wholeStop : b.stop = some (base + place))
    (names : ∀ n, Option.Rel (same n) (a.names.lookup n) (b.names.lookup n))
    (outer : ScopesAlongside same base stop as bs) : ScopesAlongside same base stop (a :: as) (b :: bs)

namespace ScopesAlongside

variable {same : String → Nat → Nat → Prop} {base stop : Nat} {as bs : List Scope}

/-- What is found in a block alone is found in its script. -/
theorem lookup (h : ScopesAlongside same base stop as bs) {n : String} {x : Nat}
    (hx : (as.findSome? fun s => s.names.lookup n) = some x) :
    ∃ y, (bs.findSome? fun s => s.names.lookup n) = some y ∧ same n x y := by
  induction h with
  | @block top owner outer _ _ names =>
    rw [List.findSome?_cons] at hx
    cases found : top.names.lookup n with
    | none =>
      rw [found] at hx
      cases hx
    | some x' =>
      rw [found] at hx
      cases hx
      obtain ⟨y, hy, hs⟩ := names n _ found
      exact ⟨y, by rw [List.findSome?_cons, hy], hs⟩
  | @inner a b as bs place _ _ names _ ih =>
    rw [List.findSome?_cons] at hx ⊢
    have both := names n
    cases found : a.names.lookup n with
    | none =>
      rw [found] at hx both
      cases hb : b.names.lookup n with
      | none => exact ih hx
      | some y =>
        rw [hb] at both
        cases both
    | some x' =>
      rw [found] at hx both
      cases hx
      cases hb : b.names.lookup n with
      | none =>
        rw [hb] at both
        cases both
      | some y =>
        rw [hb] at both
        cases both with
        | some hs => exact ⟨y, rfl, hs⟩

/-- Inside the block, the same scopes are left. -/
theorem leave (h : ScopesAlongside same base stop as bs) {index : Nat} (inside : base + index < stop) :
    ScopesAlongside same base stop (as.dropWhile fun s => s.stop.any (· ≤ index))
      (bs.dropWhile fun s => s.stop.any (· ≤ base + index)) := by
  induction h with
  | @block top owner outer hs hs' names =>
    rw [List.dropWhile_cons_of_neg, List.dropWhile_cons_of_neg]
    · exact .block hs hs' names
    · rw [hs']
      simpa using inside
    · rw [hs]
      simp
  | @inner a b as bs place hs hs' names outer ih =>
    by_cases ended : place ≤ index
    · rw [List.dropWhile_cons_of_pos, List.dropWhile_cons_of_pos]
      · exact ih
      · rw [hs']
        simpa using ended
      · rw [hs]
        simpa using ended
    · rw [List.dropWhile_cons_of_neg, List.dropWhile_cons_of_neg]
      · exact .inner hs hs' names outer
      · rw [hs']
        simpa using ended
      · rw [hs]
        simpa using ended

theorem openBlock {c d : Compilation} {i : Instruction} (h : ScopesAlongside same base stop c.scopes d.scopes)
    (above : ∀ s, i.block = some s → base ≤ s.stop) :
    ScopesAlongside same base stop (c.openBlock (i.shift base)).scopes (d.openBlock i).scopes := by
  have callback : (i.shift base).isCallback = i.isCallback := Option.isSome_map
  unfold Compilation.openBlock
  rw [callback, show (i.shift base).block = i.block.map (·.shift base) from rfl]
  cases hb : i.block with
  | none => exact h
  | some s =>
    rw [Option.map_some]
    dsimp only
    split
    · exact h
    · exact .inner rfl (by rw [Span.shift, Nat.add_sub_cancel' (above s hb)]) (fun n => .none) h

theorem declare {c d : Compilation} (h : ScopesAlongside same base stop c.scopes d.scopes) {v : Declaration}
    (new : same (Text.lower v.name) c.slots.size d.slots.size) :
    ScopesAlongside same base stop (c.declare v).2.scopes (d.declare v).2.scopes := by
  rw [Compilation.declare, Compilation.declare]
  dsimp only
  generalize c.scopes = as at h
  generalize d.scopes = bs at h
  cases h with
  | block hs hs' names =>
    refine .block hs hs' fun n x hx => ?_
    by_cases hn : n = Text.lower v.name
    · rw [hn, lookup_setKey_self] at hx ⊢
      cases hx
      exact ⟨_, rfl, new⟩
    · rw [lookup_setKey_ne hn] at hx ⊢
      exact names n x hx
  | inner hs hs' names outer =>
    refine .inner hs hs' (fun n => ?_) outer
    by_cases hn : n = Text.lower v.name
    · rw [hn, lookup_setKey_self, lookup_setKey_self]
      exact .some new
    · rw [lookup_setKey_ne hn, lookup_setKey_ne hn]
      exact names n

/-- Opening a block and declaring a variable, as an instruction does, keeps to the same scopes. -/
theorem declared {c d : Compilation} {i : Instruction} (h : ScopesAlongside same base stop c.scopes d.scopes)
    (above : ∀ s, i.block = some s → base ≤ s.stop) (t w : ChainTable) {v : Option Declaration}
    (new : ∀ x, v = some x → same (Text.lower x.name) c.slots.size d.slots.size) :
    ScopesAlongside same base stop (c.declared (i.shift base) t v).2.scopes (d.declared i w v).2.scopes := by
  have opened := openBlock (c := { c with table := t }) (d := { d with table := w }) h above
  cases v with
  | none => exact opened
  | some x =>
    refine opened.declare ?_
    rw [Compilation.openBlock_slots, Compilation.openBlock_slots]
    exact new x rfl

end ScopesAlongside

end CommandScript
