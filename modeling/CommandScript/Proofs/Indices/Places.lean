import CommandScript.Proofs.Guards.Faults

/-! Looking at places of arrays. What is written here with the places that it looks at is nothing where one of them is
    beyond the end, and so is a difference below zero. It comes to what is written without them wherever no place is. -/

namespace CommandScript

/-! ### Arrays of a script -/

namespace Code

/-- The commands of the entries; nothing for a name that is not known. -/
def dispatch (code : Code) : Array (Option Command) :=
  code.entries.map (·.command)

/-- The types of the slots. -/
def slotTypes (code : Code) : Array String :=
  code.slots.map (·.typeName)

/-- The names of the slots. -/
def slotNames (code : Code) : Array String :=
  code.slots.map (·.name)

end Code

/-- Something that may be missing. -/
def found [Monad m] (x : Option α) : OptionT m α :=
  OptionT.mk (pure x)

/-- Something that may fail, written with the places that it looks at, comes to what it comes to without them: no place
    is beyond an end. -/
def InBounds (x : OptionT (Except ε) α) (y : Except ε α) : Prop :=
  x.run = y.map some

namespace InBounds

theorem pure (a : α) : InBounds (Pure.pure a) (.ok a : Except ε α) :=
  rfl

theorem error (e : ε) : InBounds (OptionT.mk (.error e)) (.error e : Except ε α) :=
  rfl

theorem lift (y : Except ε α) : InBounds (liftM y) y := by
  cases y <;> rfl

theorem bind {x : OptionT (Except ε) α} {y : Except ε α} {f : α → OptionT (Except ε) β} {g : α → Except ε β}
    (hx : InBounds x y) (hf : ∀ a, y = .ok a → InBounds (f a) (g a)) : InBounds (x >>= f) (y >>= g) := by
  rw [InBounds, OptionT.run_bind, Option.elimM, show x.run = y.map some from hx]
  cases y with
  | error e => rfl
  | ok a => exact hf a rfl

theorem map {x : OptionT (Except ε) α} {y : Except ε α} (f : α → β) (hx : InBounds x y) :
    InBounds (f <$> x) (f <$> y) := by
  rw [InBounds, OptionT.run_map, show x.run = y.map some from hx]
  cases y <;> rfl

/-- What is refused where a condition holds. -/
theorem refused {p : Prop} [Decidable p] {e : ε} {x : OptionT (Except ε) α} {y : Except ε α}
    (h : ¬p → InBounds x y) : InBounds (if p then OptionT.mk (.error e) >>= fun _ : PUnit => x else x)
      (if p then (throw e : Except ε PUnit) >>= fun _ => y else y) := by
  split
  · exact error e
  · exact h ‹_›

/-- What is done next may rest on what the first was made of. -/
theorem bindMap {x : OptionT (Except ε) α} {h : γ → α} {y : Except ε γ} {f : α → OptionT (Except ε) β}
    {g : γ → Except ε β} (hx : InBounds x (h <$> y)) (hf : ∀ c, y = .ok c → InBounds (f (h c)) (g c)) :
    InBounds (x >>= f) (y >>= g) := by
  cases y with
  | error e => exact bind (g := fun _ => .error e) hx fun a ha => (by cases ha)
  | ok c =>
    refine bind (g := fun _ => g c) hx fun a ha => ?_
    cases ha
    exact hf c rfl

/-- What is found where it is looked for. -/
theorem finds {o : Option α} {a : α} {f : α → OptionT (Except ε) β} {y : Except ε β} (ho : o = some a)
    (hf : InBounds (f a) y) : InBounds (found o >>= f) y := by
  subst ho
  exact hf

theorem mapM {f : α → OptionT (Except ε) β} {g : α → Except ε β} {l : List α} (hf : ∀ a ∈ l, InBounds (f a) (g a)) :
    InBounds (l.mapM f) (l.mapM g) := by
  induction l with
  | nil => exact pure _
  | cons a rest ih =>
    rw [List.mapM_cons, List.mapM_cons]
    exact (hf a List.mem_cons_self).bind fun b _ =>
      (ih fun c hc => hf c (List.mem_cons_of_mem _ hc)).bind fun bs _ => pure _

/-- What fails in another way where something fails. -/
theorem mapError {x : OptionT (Except ε) α} {y : Except ε α} (f : ε → δ) (hx : InBounds x y) :
    InBounds (OptionT.mk (x.run.mapError f)) (y.mapError f) := by
  rw [InBounds, OptionT.run_mk, show x.run = y.map some from hx]
  cases y <;> rfl

/-- One after the other, as long as each keeps to what the next rests on. -/
theorem foldlM {f : α → β → OptionT (Except ε) α} {g : α → β → Except ε α} {P : α → Prop}
    (hf : ∀ a b, P a → InBounds (f a b) (g a b)) (keeps : ∀ a b c, P a → g a b = .ok c → P c) {l : List β} {a : α}
    (ha : P a) : InBounds (l.foldlM f a) (l.foldlM g a) := by
  induction l generalizing a with
  | nil => exact pure a
  | cons b rest ih =>
    rw [List.foldlM_cons, List.foldlM_cons]
    exact (hf a b ha).bind fun c hc => ih (keeps a b c ha hc)

theorem forIn {f : β → α → OptionT (Except ε) (ForInStep α)} {g : β → α → Except ε (ForInStep α)}
    (hf : ∀ b a, InBounds (f b a) (g b a)) (l : List β) (a : α) :
    InBounds (ForIn.forIn l a f) (ForIn.forIn l a g) := by
  induction l generalizing a with
  | nil => exact pure a
  | cons b rest ih =>
    rw [List.forIn_cons, List.forIn_cons]
    refine (hf b a).bind fun step _ => ?_
    cases step with
    | done c => exact pure c
    | yield c => exact ih c

end InBounds

/-! ### Blocks cut out -/

/-- The members of a span, which lies within the list. -/
def slice? (xs : List α) (s : Span) : Option (List α) :=
  if s.start ≤ s.stop ∧ s.stop ≤ xs.length then some ((xs.take s.stop).drop s.start) else none

/-- A difference that is not below zero. -/
def sub? (a b : Nat) : Option Nat :=
  if b ≤ a then some (a - b) else none

theorem sub?_eq_some {a b : Nat} (h : b ≤ a) : sub? a b = some (a - b) :=
  if_pos h

/-- An instruction with all its places moved down, none of them below zero. -/
def Instruction.shift? (i : Instruction) (base : Nat) : Option Instruction := do
  let block ← i.block.mapM fun s => return (⟨← sub? s.start base, ← sub? s.stop base⟩ : Span)
  let callbackOf ← i.callbackOf.mapM (sub? · base)
  let link ← i.link.mapM (sub? · base)
  return { i with block := block, callbackOf := callbackOf, link := link }

/-- The instructions of a block as a list of their own. -/
def extractIndexed (row : List Instruction) (s : Span) : Option (List Instruction) := do
  let body ← slice? row s
  body.mapM (·.shift? s.start)

theorem mapM_sub? {place : Option Nat} {base : Nat} (h : ∀ n, place = some n → base ≤ n) :
    place.mapM (sub? · base) = some (place.map (· - base)) := by
  cases place with
  | none => rfl
  | some n =>
    show (sub? n base).map some = some (some (n - base))
    rw [sub?_eq_some (h n rfl)]
    rfl

section
variable {r : CommandRegistry} {base : Nat} {row : List Instruction}

/-- The places in a row from `base` on can be moved down by `base`. A block and the instruction for its end stand
    behind their owner, and the first of a row continues nothing. -/
theorem Laid.shift?_eq (h : Laid r base none row) {index : Nat} {i : Instruction} (hi : At base row index i) :
    i.shift? base = some (i.shift base) := by
  have block : (i.block.mapM fun s => return (⟨← sub? s.start base, ← sub? s.stop base⟩ : Span)) =
      some (i.block.map (·.shift base)) := by
    cases hs : i.block with
    | none => rfl
    | some s =>
      have bounds := h.block_bounds hi hs
      have := hi.1
      show ((sub? s.start base).bind fun start => (sub? s.stop base).bind fun stop =>
        some (⟨start, stop⟩ : Span)).map some = _
      rw [sub?_eq_some (by omega), sub?_eq_some (by omega)]
      rfl
  have callbackOf : i.callbackOf.mapM (sub? · base) = some (i.callbackOf.map (· - base)) := by
    refine mapM_sub? fun owner ho => ?_
    obtain ⟨_, _, hown, -⟩ := h.endsAt_of_callbackOf hi ho
    exact hown.1
  have link : i.link.mapM (sub? · base) = some (i.link.map (· - base)) := by
    refine mapM_sub? fun before hl => ?_
    cases hc : i.callbackOf with
    | some owner =>
      obtain ⟨o, -, rfl⟩ := h.end_eq hi hc
      cases hl
    | none =>
      rcases h.link_eq_some hi hc hl with ⟨-, _, hp, -⟩ | ⟨_, p, hp, -⟩
      · cases hp
      · exact hp.1
  rw [Instruction.shift?, block, callbackOf, link]
  rfl

/-- A block of a laid-out row is cut out within it. -/
theorem Laid.extractIndexed_eq (h : Laid r 0 none row) {index : Nat} {i : Instruction} {s : Span}
    (hi : row[index]? = some i) (hs : i.block = some s) :
    extractIndexed row s = some (CommandScript.extractBlock row s) := by
  have bounds := h.block_bounds (at_zero.mpr hi) hs
  have inner := h.block_laid (at_zero.mpr hi) hs
  rw [Nat.sub_zero, Nat.sub_zero] at inner
  have moved : ∀ {body : List Instruction}, (∀ j ∈ body, j.shift? s.start = some (j.shift s.start)) →
      body.mapM (·.shift? s.start) = some (body.map (·.shift s.start)) := fun {body} hb => by
    induction body with
    | nil => rfl
    | cons j rest ih =>
      rw [List.mapM_cons, hb j List.mem_cons_self, ih fun k hk => hb k (List.mem_cons_of_mem _ hk)]
      rfl
  rw [extractIndexed, slice?, if_pos ⟨by omega, by omega⟩, extractBlock_eq]
  refine moved fun j hj => ?_
  obtain ⟨n, hn⟩ := List.getElem?_of_mem hj
  have here : At s.start ((row.take s.stop).drop s.start) (s.start + n) j :=
    ⟨Nat.le_add_right _ _, by rw [Nat.add_sub_cancel_left]; exact hn⟩
  exact inner.shift?_eq here

end

/-! ### Acts -/

namespace Act

/-- Something that a command does, and that may look beyond the end of an array. -/
abbrev Indexing := OptionT Act

/-- What stands at a place of an array. -/
def place (xs : Array α) (index : Nat) : Indexing α :=
  found xs[index]?

variable {site : Site} {s : Scene}

theorem on_liftIndexing (y : Act α) (site : Site) (s : Scene) :
    (liftM y : Indexing α).run.on site s = ((y.on site s).1.map some, (y.on site s).2) := by
  show ((y >>= fun a => pure (some a)) : Act (Option α)).on site s = _
  rw [on_bind]
  generalize y.on site s = r
  obtain ⟨_ | x, t⟩ := r <;> rfl

theorem on_bindIndexing (x : Indexing α) (k : α → Indexing β) (site : Site) (s : Scene) :
    (x >>= k).run.on site s = (x.run >>= fun r => r.elim (pure none) fun a => (k a).run).on site s := by
  rw [OptionT.run_bind, Option.elimM]

/-- Something written with the places it looks at that never looks beyond the end of an array, and comes to what `y`
    comes to, which fails properly. -/
structure Guarded (script : Script) (site : Site) (Q : α → Prop) (x : Indexing α) (y : Act α) : Prop where
  proper : Proper script site Q y
  same : ∀ s : Scene, s.Of script → x.run.on site s = ((y.on site s).1.map some, (y.on site s).2)

namespace Guarded

variable {script : Script} {Q : α → Prop} {R : β → Prop}

theorem lift {y : Act α} (h : Proper script site Q y) : Guarded script site Q (liftM y) y :=
  ⟨h, fun s _ => on_liftIndexing y site s⟩

theorem bind {x : Indexing α} {y : Act α} {k : α → Indexing β} {l : α → Act β} (hx : Guarded script site Q x y)
    (hk : ∀ a, Q a → Guarded script site R (k a) (l a)) : Guarded script site R (x >>= k) (y >>= l) := by
  refine ⟨hx.proper.bind fun a ha => (hk a ha).proper, fun s hs => ?_⟩
  obtain ⟨kept, result, -⟩ := hx.proper s hs
  rw [on_bindIndexing, on_bind, on_bind, hx.same s hs]
  generalize y.on site s = r at kept result
  obtain ⟨f | a, t⟩ := r
  · rfl
  · exact (hk a (result a rfl)).same t kept

/-- What is done first, and looks at no place. -/
theorem first {y : Act α} {k : α → Indexing β} {l : α → Act β} (hy : Proper script site Q y)
    (hk : ∀ a, Q a → Guarded script site R (k a) (l a)) : Guarded script site R (liftM y >>= k) (y >>= l) :=
  (lift hy).bind hk

/-- What is found where it is looked for. -/
theorem finds {o : Option α} {a : α} {k : α → Indexing β} {l : Act β} (ho : o = some a)
    (hk : Guarded script site R (k a) l) : Guarded script site R (found o >>= k) l := by
  refine ⟨hk.proper, fun s hs => ?_⟩
  rw [on_bindIndexing, found, ho]
  exact hk.same s hs

/-- What stands at a place that is there. -/
theorem at_ {xs : Array α} {index : Nat} {a : α} {k : α → Indexing β} {l : Act β} (here : xs[index]? = some a)
    (hk : Guarded script site R (k a) l) : Guarded script site R (place xs index >>= k) l :=
  finds here hk

theorem pure {a : α} (h : Q a) : Guarded script site Q (pure a : Indexing α) (pure a) :=
  ⟨Proper.pure h, fun _ _ => rfl⟩

theorem fail (f : RuntimeFault) : Guarded script site Q (fail f : Act (Option α)) (Act.fail f) :=
  ⟨Proper.fail f, fun _ _ => rfl⟩

end Guarded

end Act

end CommandScript
