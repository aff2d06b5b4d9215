import CommandScript.Proofs.Layout.Places

/-! Siblings in a laid-out script. Two instructions are on one level if the same blocks enclose them, and a link leads
    from a command to the command right before it on its level. -/

namespace CommandScript

/-- The block of the instruction at `owner` encloses the place `index`. -/
def Encloses (base : Nat) (row : List Instruction) (owner index : Nat) : Prop :=
  ∃ o s, At base row owner o ∧ o.block = some s ∧ s.start ≤ index ∧ index < s.stop

/-- The same blocks enclose two places. -/
def SameLevel (base : Nat) (row : List Instruction) (index other : Nat) : Prop :=
  ∀ owner, Encloses base row owner index ↔ Encloses base row owner other

/-- A command, and not the end of a block, stands at `index`. -/
def CommandAt (base : Nat) (row : List Instruction) (index : Nat) : Prop :=
  ∃ i, At base row index i ∧ i.callbackOf = none

/-- The command at `before` is the last one before `index` on the level of `index`. -/
structure PreviousSibling (base : Nat) (row : List Instruction) (before index : Nat) : Prop where
  lt : before < index
  command : CommandAt base row before
  level : SameLevel base row before index
  last : ∀ between, before < between → between < index → CommandAt base row between →
    ¬SameLevel base row between index

/-- A command of a name may follow one of another name. -/
def MayFollow (r : CommandRegistry) (name before : String) : Prop :=
  ∃ allowed, (r.get? name).bind (·.signature.follows) = some allowed ∧ before ∈ allowed

/-! ### Enclosing blocks of a part -/

section
variable {r : CommandRegistry} {base : Nat} {x : Instruction} {body rest : List Instruction}

theorem encloses_cons (hb : x.block = none) {owner index : Nat} :
    Encloses base (x :: rest) owner index ↔ Encloses (base + 1) rest owner index := by
  constructor
  · rintro ⟨o, s, ho, hs, h⟩
    rcases at_cons.mp ho with ⟨-, rfl⟩ | ho
    · rw [hb] at hs
      cases hs
    · exact ⟨o, s, ho, hs, h⟩
  · rintro ⟨o, s, ho, h⟩
    exact ⟨o, s, at_cons.mpr (Or.inr ho), h⟩

/-- Nothing encloses the first place of a row. -/
theorem Laid.not_encloses_base {previous : Option Sibling} {row : List Instruction} (h : Laid r base previous row)
    {owner : Nat} : ¬Encloses base row owner base := by
  rintro ⟨o, s, ho, hs, hlo, -⟩
  have := h.block_bounds ho hs
  have := ho.1
  omega

theorem encloses_body (hb : x.block = some ⟨base + 1, base + 1 + body.length⟩)
    (more : Laid r (base + 1 + body.length + (blockEnd r x base).length) (some ⟨base, x.name⟩) rest)
    {owner index : Nat} (hlo : base + 1 ≤ index) (hhi : index < base + 1 + body.length) :
    Encloses base (x :: (body ++ (blockEnd r x base ++ rest))) owner index ↔
      owner = base ∨ Encloses (base + 1) body owner index := by
  constructor
  · rintro ⟨o, s, ho, hs, h⟩
    rcases at_owner.mp ho with ⟨rfl, -⟩ | ho | ho | ho
    · exact Or.inl rfl
    · exact Or.inr ⟨o, s, ho, hs, h⟩
    · obtain ⟨-, -, rfl⟩ := at_blockEnd.mp ho
      cases hs
    · have := (more.block_bounds ho hs).1
      have := ho.1
      omega
  · rintro (rfl | ⟨o, s, ho, h⟩)
    · exact ⟨x, _, at_owner.mpr (Or.inl ⟨rfl, rfl⟩), hb, hlo, hhi⟩
    · exact ⟨o, s, at_owner.mpr (Or.inr (Or.inl ho)), h⟩

theorem encloses_rest (hb : x.block = some ⟨base + 1, base + 1 + body.length⟩)
    (inner : Laid r (base + 1) none body) {owner index : Nat}
    (hlo : base + 1 + body.length + (blockEnd r x base).length ≤ index) :
    Encloses base (x :: (body ++ (blockEnd r x base ++ rest))) owner index ↔
      Encloses (base + 1 + body.length + (blockEnd r x base).length) rest owner index := by
  constructor
  · rintro ⟨o, s, ho, hs, h⟩
    rcases at_owner.mp ho with ⟨-, rfl⟩ | ho | ho | ho
    · rw [hb] at hs
      cases hs
      dsimp only at h
      omega
    · have := (inner.block_bounds ho hs).2.2
      omega
    · obtain ⟨-, -, rfl⟩ := at_blockEnd.mp ho
      cases hs
    · exact ⟨o, s, ho, hs, h⟩
  · rintro ⟨o, s, ho, h⟩
    exact ⟨o, s, at_owner.mpr (Or.inr (Or.inr (Or.inr ho))), h⟩

end

/-! ### Siblings of a part -/

section
variable {r : CommandRegistry} {base : Nat} {x : Instruction} {body rest : List Instruction}

theorem commandAt_cons {index : Nat} (hne : base < index) :
    CommandAt base (x :: rest) index ↔ CommandAt (base + 1) rest index := by
  constructor
  · rintro ⟨i, hi, hc⟩
    rcases at_cons.mp hi with ⟨rfl, -⟩ | hi
    · omega
    · exact ⟨i, hi, hc⟩
  · rintro ⟨i, hi, hc⟩
    exact ⟨i, at_cons.mpr (Or.inr hi), hc⟩

theorem commandAt_base (hc : x.callbackOf = none) : CommandAt base (x :: rest) base :=
  ⟨x, at_cons.mpr (Or.inl ⟨rfl, rfl⟩), hc⟩

/-- A command behind an owner stands in its block or in the rest of the row. -/
theorem commandAt_owner {index : Nat} (hne : base < index)
    (h : CommandAt base (x :: (body ++ (blockEnd r x base ++ rest))) index) :
    CommandAt (base + 1) body index ∨
      CommandAt (base + 1 + body.length + (blockEnd r x base).length) rest index := by
  obtain ⟨i, hi, hc⟩ := h
  rcases at_owner.mp hi with ⟨rfl, -⟩ | hi | hi | hi
  · omega
  · exact Or.inl ⟨i, hi, hc⟩
  · obtain ⟨-, -, rfl⟩ := at_blockEnd.mp hi
    cases hc
  · exact Or.inr ⟨i, hi, hc⟩

theorem PreviousSibling.of_cons (hb : x.block = none) {before index : Nat}
    (h : PreviousSibling (base + 1) rest before index) : PreviousSibling base (x :: rest) before index := by
  obtain ⟨p, hp, hpc⟩ := h.command
  have hlt := hp.1
  refine ⟨h.lt, ⟨p, at_cons.mpr (Or.inr hp), hpc⟩, fun owner => ?_, fun q hq hqi hcmd hs => ?_⟩
  · rw [encloses_cons hb, encloses_cons hb]
    exact h.level owner
  · refine h.last q hq hqi ((commandAt_cons (by omega)).mp hcmd) fun owner => ?_
    rw [← encloses_cons hb, ← encloses_cons hb]
    exact hs owner

theorem PreviousSibling.of_body (hb : x.block = some ⟨base + 1, base + 1 + body.length⟩)
    (more : Laid r (base + 1 + body.length + (blockEnd r x base).length) (some ⟨base, x.name⟩) rest)
    {before index : Nat} {i : Instruction} (hi : At (base + 1) body index i)
    (h : PreviousSibling (base + 1) body before index) :
    PreviousSibling base (x :: (body ++ (blockEnd r x base ++ rest))) before index := by
  obtain ⟨p, hp, hpc⟩ := h.command
  have hlt := hp.1
  have hhi := hi.lt
  refine ⟨h.lt, ⟨p, at_owner.mpr (Or.inr (Or.inl hp)), hpc⟩, fun owner => ?_, fun q hq hqi hcmd hs => ?_⟩
  · rw [encloses_body hb more hlt hp.lt, encloses_body hb more hi.1 hhi, h.level owner]
  · have hqlo : base + 1 ≤ q := by omega
    have hqhi : q < base + 1 + body.length := by omega
    have hq' : CommandAt (base + 1) body q := by
      rcases commandAt_owner (by omega) hcmd with h' | ⟨_, h', -⟩
      · exact h'
      · have := h'.1
        omega
    refine h.last q hq hqi hq' fun owner => ?_
    have := hs owner
    rw [encloses_body hb more hqlo hqhi, encloses_body hb more hi.1 hhi] at this
    by_cases ho : owner = base
    · subst ho
      refine ⟨fun he => ?_, fun he => ?_⟩ <;>
      · obtain ⟨o, _, hat, -⟩ := he
        have := hat.1
        omega
    · simpa [ho] using this

theorem PreviousSibling.of_rest (hb : x.block = some ⟨base + 1, base + 1 + body.length⟩)
    (inner : Laid r (base + 1) none body) {before index : Nat} {i : Instruction}
    (hi : At (base + 1 + body.length + (blockEnd r x base).length) rest index i)
    (h : PreviousSibling (base + 1 + body.length + (blockEnd r x base).length) rest before index) :
    PreviousSibling base (x :: (body ++ (blockEnd r x base ++ rest))) before index := by
  obtain ⟨p, hp, hpc⟩ := h.command
  have hlt := hp.1
  refine ⟨h.lt, ⟨p, at_owner.mpr (Or.inr (Or.inr (Or.inr hp))), hpc⟩, fun owner => ?_, fun q hq hqi hcmd hs => ?_⟩
  · rw [encloses_rest hb inner hlt, encloses_rest hb inner hi.1]
    exact h.level owner
  · have hq' : CommandAt (base + 1 + body.length + (blockEnd r x base).length) rest q := by
      rcases commandAt_owner (by omega) hcmd with ⟨_, h', -⟩ | h'
      · have := h'.lt
        omega
      · exact h'
    refine h.last q hq hqi hq' fun owner => ?_
    rw [← encloses_rest hb inner (by omega), ← encloses_rest hb inner hi.1]
    exact hs owner

/-- The command right behind one without a block has it as its sibling. -/
theorem previousSibling_plain (hc : x.callbackOf = none) (hb : x.block = none) {previous : Option Sibling}
    (more : Laid r (base + 1) previous rest) : PreviousSibling base (x :: rest) base (base + 1) := by
  refine ⟨by omega, commandAt_base hc, fun owner => ?_, fun q hq hqi => by omega⟩
  rw [encloses_cons hb, encloses_cons hb]
  refine ⟨fun h => ?_, fun h => absurd h more.not_encloses_base⟩
  obtain ⟨o, s, ho, hs, hlo, -⟩ := h
  have := (more.block_bounds ho hs).1
  have := ho.1
  omega

/-- The command right behind a block has the owner of the block as its sibling. -/
theorem previousSibling_owner (hc : x.callbackOf = none)
    (hb : x.block = some ⟨base + 1, base + 1 + body.length⟩) {previous : Option Sibling}
    (whole : Laid r base previous (x :: (body ++ (blockEnd r x base ++ rest)))) (inner : Laid r (base + 1) none body)
    (more : Laid r (base + 1 + body.length + (blockEnd r x base).length) (some ⟨base, x.name⟩) rest) :
    PreviousSibling base (x :: (body ++ (blockEnd r x base ++ rest))) base
      (base + 1 + body.length + (blockEnd r x base).length) := by
  refine ⟨by omega, commandAt_base hc, fun owner => ?_, fun q hq hqi hcmd hs => ?_⟩
  · rw [encloses_rest hb inner (Nat.le_refl _)]
    exact ⟨fun h => absurd h whole.not_encloses_base, fun h => absurd h more.not_encloses_base⟩
  · -- What stands between is in the block, which does not enclose the place behind it.
    rcases commandAt_owner hq hcmd with ⟨_, h', -⟩ | ⟨_, h', -⟩
    · have henc := (hs base).mp ((encloses_body hb more h'.1 h'.lt).mpr (Or.inl rfl))
      rw [encloses_rest hb inner (Nat.le_refl _)] at henc
      exact more.not_encloses_base henc
    · have := h'.1
      omega

end

/-! ### Links -/

section
variable {r : CommandRegistry} {base : Nat} {previous : Option Sibling} {row : List Instruction}

/-- A command has a link exactly if it has to follow another. -/
theorem Laid.link_isSome (h : Laid r base previous row) {index : Nat} {i : Instruction} (hi : At base row index i)
    (hc : i.callbackOf = none) : i.link.isSome = ((r.get? i.name).bind (·.signature.follows)).isSome := by
  have of_linked : ∀ {p : Option Sibling} {j : Instruction}, Linked r p j →
      j.link.isSome = ((r.get? j.name).bind (·.signature.follows)).isSome := by
    intro p j hj
    unfold Linked at hj
    split at hj
    · rename_i hf
      rw [hj, hf]
      rfl
    · rename_i hf
      obtain ⟨_, -, -, hl⟩ := hj
      rw [hl, hf]
      rfl
  induction h with
  | nil => exact absurd hi at_nil
  | plain _ _ hl _ ih =>
    rcases at_cons.mp hi with ⟨-, rfl⟩ | hi
    · exact of_linked hl
    · exact ih hi
  | owner _ _ hl _ _ ihb ihm =>
    rcases at_owner.mp hi with ⟨-, rfl⟩ | hi | hi | hi
    · exact of_linked hl
    · exact ihb hi
    · obtain ⟨-, -, rfl⟩ := at_blockEnd.mp hi
      cases hc
    · exact ihm hi

theorem Linked.eq_some {i : Instruction} {p : Nat} (h : Linked r previous i) (hp : i.link = some p) :
    ∃ name, previous = some ⟨p, name⟩ ∧ MayFollow r i.name name := by
  unfold Linked at h
  split at h
  · rw [h] at hp
    cases hp
  · rename_i allowed hf
    obtain ⟨⟨q, name⟩, hq, hm, hl⟩ := h
    rw [hl] at hp
    cases hp
    exact ⟨name, hq, allowed, hf, hm⟩

/-- A link leads to the sibling before the row, from the first command of the row, or else to the previous sibling
    in the row. The command there is one that the linked command may follow. -/
theorem Laid.link_eq_some (h : Laid r base previous row) {index before : Nat} {i : Instruction}
    (hi : At base row index i) (hc : i.callbackOf = none) (hl : i.link = some before) :
    (index = base ∧ ∃ name, previous = some ⟨before, name⟩ ∧ MayFollow r i.name name) ∨
      (PreviousSibling base row before index ∧ ∃ p, At base row before p ∧ MayFollow r i.name p.name) := by
  induction h with
  | nil => exact absurd hi at_nil
  | plain hcx hb hlink more ih =>
    rcases at_cons.mp hi with ⟨rfl, rfl⟩ | hi
    · exact Or.inl ⟨rfl, hlink.eq_some hl⟩
    · rcases ih hi with ⟨rfl, name, hp, hf⟩ | ⟨hs, p, hp, hf⟩
      · cases hp
        exact Or.inr ⟨previousSibling_plain hcx hb more, _, at_cons.mpr (Or.inl ⟨rfl, rfl⟩), hf⟩
      · exact Or.inr ⟨hs.of_cons hb, p, at_cons.mpr (Or.inr hp), hf⟩
  | owner hcx hb hlink inner more ihb ihm =>
    rcases at_owner.mp hi with ⟨rfl, rfl⟩ | hi | hi | hi
    · exact Or.inl ⟨rfl, hlink.eq_some hl⟩
    · rcases ihb hi with ⟨-, _, hp, -⟩ | ⟨hs, p, hp, hf⟩
      · cases hp
      · exact Or.inr ⟨hs.of_body hb more hi, p, at_owner.mpr (Or.inr (Or.inl hp)), hf⟩
    · obtain ⟨-, -, rfl⟩ := at_blockEnd.mp hi
      cases hc
    · rcases ihm hi with ⟨rfl, name, hp, hf⟩ | ⟨hs, p, hp, hf⟩
      · cases hp
        exact Or.inr ⟨previousSibling_owner hcx hb (Laid.owner hcx hb hlink inner more) inner more, _,
          at_owner.mpr (Or.inl ⟨rfl, rfl⟩), hf⟩
      · exact Or.inr ⟨hs.of_rest hb inner hi, p, at_owner.mpr (Or.inr (Or.inr (Or.inr hp))), hf⟩

/-- The place behind an instruction, its block and the instruction for the end of it. -/
def placeBehind (r : CommandRegistry) (i : Instruction) (index : Nat) : Nat :=
  match i.block with
  | none => index + 1
  | some s => s.stop + (blockEnd r i index).length

/-- Nothing stands between a linked command and what belongs to the command that its link leads to. -/
theorem Laid.link_behind (h : Laid r base previous row) {index before : Nat} {i : Instruction}
    (hi : At base row index i) (hc : i.callbackOf = none) (hl : i.link = some before) :
    (index = base ∧ ∃ name, previous = some ⟨before, name⟩) ∨
      ∃ p, At base row before p ∧ index = placeBehind r p before := by
  induction h with
  | nil => exact absurd hi at_nil
  | plain _ hb hlink _ ih =>
    rcases at_cons.mp hi with ⟨rfl, rfl⟩ | hi
    · obtain ⟨name, hp, -⟩ := hlink.eq_some hl
      exact Or.inl ⟨rfl, name, hp⟩
    · rcases ih hi with ⟨rfl, name, hp⟩ | ⟨p, hp, place⟩
      · cases hp
        exact Or.inr ⟨_, at_cons.mpr (Or.inl ⟨rfl, rfl⟩), by rw [placeBehind, hb]⟩
      · exact Or.inr ⟨p, at_cons.mpr (Or.inr hp), place⟩
  | owner _ hb hlink _ _ ihb ihm =>
    rcases at_owner.mp hi with ⟨rfl, rfl⟩ | hi | hi | hi
    · obtain ⟨name, hp, -⟩ := hlink.eq_some hl
      exact Or.inl ⟨rfl, name, hp⟩
    · rcases ihb hi with ⟨-, _, hp⟩ | ⟨p, hp, place⟩
      · cases hp
      · exact Or.inr ⟨p, at_owner.mpr (Or.inr (Or.inl hp)), place⟩
    · obtain ⟨-, -, rfl⟩ := at_blockEnd.mp hi
      cases hc
    · rcases ihm hi with ⟨rfl, name, hp⟩ | ⟨p, hp, place⟩
      · cases hp
        exact Or.inr ⟨_, at_owner.mpr (Or.inl ⟨rfl, rfl⟩), by rw [placeBehind, hb]⟩
      · exact Or.inr ⟨p, at_owner.mpr (Or.inr (Or.inr (Or.inr hp))), place⟩

end

end CommandScript
