import CommandScript.Proofs.Layout.Laid

/-! Where the instructions of a laid-out script stand. Blocks begin right after their owners and are nested in one
    another together with the instructions for their ends, every owner that asks for one has exactly one such
    instruction, and every link leads to the sibling before. -/

namespace CommandScript

/-! ### Places -/

/-- `i` stands at place `index` of a row laid out from place `base` on. -/
def At (base : Nat) (row : List Instruction) (index : Nat) (i : Instruction) : Prop :=
  base ≤ index ∧ row[index - base]? = some i

theorem at_zero {row : List Instruction} {index : Nat} {i : Instruction} :
    At 0 row index i ↔ row[index]? = some i := by
  simp [At]

theorem at_nil {base index : Nat} {i : Instruction} : ¬At base [] index i := by
  simp [At]

theorem at_cons {base : Nat} {x : Instruction} {rest : List Instruction} {index : Nat} {i : Instruction} :
    At base (x :: rest) index i ↔ (index = base ∧ i = x) ∨ At (base + 1) rest index i := by
  unfold At
  constructor
  · rintro ⟨hb, hi⟩
    rcases Nat.eq_or_lt_of_le hb with rfl | hlt
    · rw [Nat.sub_self, List.getElem?_cons_zero] at hi
      exact Or.inl ⟨rfl, (Option.some.inj hi).symm⟩
    · rw [show index - base = (index - (base + 1)) + 1 by omega, List.getElem?_cons_succ] at hi
      exact Or.inr ⟨hlt, hi⟩
  · rintro (⟨rfl, rfl⟩ | ⟨hb, hi⟩)
    · exact ⟨Nat.le_refl _, by simp⟩
    · refine ⟨by omega, ?_⟩
      rw [show index - base = (index - (base + 1)) + 1 by omega, List.getElem?_cons_succ]
      exact hi

theorem at_append {base : Nat} {s t : List Instruction} {index : Nat} {i : Instruction} :
    At base (s ++ t) index i ↔ At base s index i ∨ At (base + s.length) t index i := by
  induction s generalizing base with
  | nil => simp [at_nil]
  | cons x s ih =>
    rw [List.cons_append, at_cons, ih, at_cons, or_assoc, List.length_cons,
      show base + 1 + s.length = base + (s.length + 1) by omega]

theorem At.unique {base : Nat} {row : List Instruction} {index : Nat} {i j : Instruction}
    (hi : At base row index i) (hj : At base row index j) : i = j :=
  Option.some.inj (hi.2.symm.trans hj.2)

theorem At.lt {base : Nat} {row : List Instruction} {index : Nat} {i : Instruction} (h : At base row index i) :
    index < base + row.length := by
  obtain ⟨hlt, -⟩ := List.getElem?_eq_some_iff.mp h.2
  have := h.1
  omega

theorem at_blockEnd {r : CommandRegistry} {base : Nat} {o : Instruction} {owner index : Nat} {i : Instruction} :
    At base (blockEnd r o owner) index i ↔ r.needsEnd o.name = true ∧ index = base ∧ i = o.endOfBlock owner := by
  unfold blockEnd
  split
  · rename_i h
    rw [at_cons]
    simp [at_nil, h]
  · rename_i h
    simp [at_nil, h]

/-- The places of a row that begins with an owner. -/
theorem at_owner {base : Nat} {x : Instruction} {body ends rest : List Instruction} {index : Nat} {i : Instruction} :
    At base (x :: (body ++ (ends ++ rest))) index i ↔ (index = base ∧ i = x) ∨ At (base + 1) body index i ∨
      At (base + 1 + body.length) ends index i ∨ At (base + 1 + body.length + ends.length) rest index i := by
  rw [at_cons, at_append, at_append]

theorem length_blockEnd {r : CommandRegistry} {o : Instruction} {owner : Nat} :
    (blockEnd r o owner).length = if r.needsEnd o.name then 1 else 0 := by
  unfold blockEnd
  split <;> rfl

/-! ### Blocks and their ends -/

section
variable {r : CommandRegistry} {base : Nat} {previous : Option Sibling} {row : List Instruction}

/-- Only commands own blocks. -/
theorem Laid.callbackOf_of_block (h : Laid r base previous row) {index : Nat} {i : Instruction} {s : Span}
    (hi : At base row index i) (hs : i.block = some s) : i.callbackOf = none := by
  induction h with
  | nil => exact absurd hi at_nil
  | plain hc _ _ _ ih =>
    rcases at_cons.mp hi with ⟨-, rfl⟩ | hi
    · exact hc
    · exact ih hi
  | owner hc _ _ _ _ ihb ihm =>
    rcases at_owner.mp hi with ⟨-, rfl⟩ | hi | hi | hi
    · exact hc
    · exact ihb hi
    · obtain ⟨-, -, rfl⟩ := at_blockEnd.mp hi
      cases hs
    · exact ihm hi

/-- A block begins right after its owner and ends within the row. -/
theorem Laid.block_bounds (h : Laid r base previous row) {index : Nat} {i : Instruction} {s : Span}
    (hi : At base row index i) (hs : i.block = some s) :
    s.start = index + 1 ∧ s.start ≤ s.stop ∧ s.stop ≤ base + row.length := by
  induction h with
  | nil => exact absurd hi at_nil
  | plain _ hb _ _ ih =>
    rcases at_cons.mp hi with ⟨-, rfl⟩ | hi
    · rw [hb] at hs
      cases hs
    · have := ih hi
      simp only [List.length_cons]
      omega
  | owner _ hb _ _ _ ihb ihm =>
    simp only [List.length_cons, List.length_append]
    rcases at_owner.mp hi with ⟨rfl, rfl⟩ | hi | hi | hi
    · rw [hb] at hs
      cases hs
      dsimp only
      omega
    · have := ihb hi
      omega
    · obtain ⟨-, -, rfl⟩ := at_blockEnd.mp hi
      cases hs
    · have := ihm hi
      omega

/-- The end of the block of the owner at `owner` stands at `index`. -/
def EndsAt (r : CommandRegistry) (base : Nat) (row : List Instruction) (owner index : Nat) : Prop :=
  ∃ o s, At base row owner o ∧ o.callbackOf = none ∧ r.needsEnd o.name = true ∧ o.block = some s ∧ s.stop = index

/-- An instruction for the end of a block stands where the block of its owner ends. -/
theorem Laid.endsAt_of_callbackOf (h : Laid r base previous row) {index owner : Nat} {i : Instruction}
    (hi : At base row index i) (ho : i.callbackOf = some owner) : EndsAt r base row owner index := by
  induction h with
  | nil => exact absurd hi at_nil
  | plain hc _ _ _ ih =>
    rcases at_cons.mp hi with ⟨-, rfl⟩ | hi
    · rw [hc] at ho
      cases ho
    · obtain ⟨o, s, hat, h⟩ := ih hi
      exact ⟨o, s, at_cons.mpr (Or.inr hat), h⟩
  | owner hc hb _ _ _ ihb ihm =>
    rcases at_owner.mp hi with ⟨-, rfl⟩ | hi | hi | hi
    · rw [hc] at ho
      cases ho
    · obtain ⟨o, s, hat, h⟩ := ihb hi
      exact ⟨o, s, at_owner.mpr (Or.inr (Or.inl hat)), h⟩
    · obtain ⟨hn, rfl, rfl⟩ := at_blockEnd.mp hi
      cases ho
      exact ⟨_, _, at_owner.mpr (Or.inl ⟨rfl, rfl⟩), hc, hn, hb, rfl⟩
    · obtain ⟨o, s, hat, h⟩ := ihm hi
      exact ⟨o, s, at_owner.mpr (Or.inr (Or.inr (Or.inr hat))), h⟩

/-- Where the block of an owner ends that asks for an instruction there, there is one, and it is the owner's. -/
theorem Laid.exists_end (h : Laid r base previous row) {owner index : Nat} (he : EndsAt r base row owner index) :
    ∃ i, At base row index i ∧ i.callbackOf = some owner := by
  obtain ⟨o, s, ho, hc, hn, hs, rfl⟩ := he
  induction h with
  | nil => exact absurd ho at_nil
  | plain _ hb _ _ ih =>
    rcases at_cons.mp ho with ⟨-, rfl⟩ | ho
    · rw [hb] at hs
      cases hs
    · obtain ⟨i, hi, h⟩ := ih ho
      exact ⟨i, at_cons.mpr (Or.inr hi), h⟩
  | owner _ hb _ _ _ ihb ihm =>
    rcases at_owner.mp ho with ⟨rfl, rfl⟩ | ho | ho | ho
    · rw [hb] at hs
      cases hs
      exact ⟨o.endOfBlock owner, at_owner.mpr (Or.inr (Or.inr (Or.inl (at_blockEnd.mpr ⟨hn, rfl, rfl⟩)))), rfl⟩
    · obtain ⟨i, hi, h⟩ := ihb ho
      exact ⟨i, at_owner.mpr (Or.inr (Or.inl hi)), h⟩
    · obtain ⟨-, -, rfl⟩ := at_blockEnd.mp ho
      cases hs
    · obtain ⟨i, hi, h⟩ := ihm ho
      exact ⟨i, at_owner.mpr (Or.inr (Or.inr (Or.inr hi))), h⟩

/-- An instruction stands for the end of a block exactly if the block ends at its place. -/
theorem Laid.callbackOf_iff (h : Laid r base previous row) {index owner : Nat} {i : Instruction}
    (hi : At base row index i) : i.callbackOf = some owner ↔ EndsAt r base row owner index := by
  refine ⟨h.endsAt_of_callbackOf hi, fun he => ?_⟩
  obtain ⟨j, hj, ho⟩ := h.exists_end he
  rw [hi.unique hj]
  exact ho

/-- A block inside another ends before the other does, with the instruction for its end inside as well. -/
theorem Laid.nested (h : Laid r base previous row) {outer inner : Nat} {o i : Instruction} {s t : Span}
    (ho : At base row outer o) (hs : o.block = some s) (hi : At base row inner i) (ht : i.block = some t)
    (hlo : s.start ≤ inner) (hhi : inner < s.stop) :
    t.stop ≤ s.stop ∧ (r.needsEnd i.name = true → t.stop < s.stop) := by
  induction h with
  | nil => exact absurd ho at_nil
  | plain _ hb _ more ih =>
    rcases at_cons.mp ho with ⟨-, rfl⟩ | ho
    · rw [hb] at hs
      cases hs
    · have bounds := more.block_bounds ho hs
      have := ho.1
      rcases at_cons.mp hi with ⟨rfl, -⟩ | hi
      · omega
      · exact ih ho hi
  | owner _ hb _ body more ihb ihm =>
    rcases at_owner.mp ho with ⟨rfl, rfl⟩ | ho | ho | ho
    · rw [hb] at hs
      cases hs
      dsimp only at hlo hhi ⊢
      rcases at_owner.mp hi with ⟨rfl, -⟩ | hi | hi | hi
      · omega
      · refine ⟨(body.block_bounds hi ht).2.2, fun hn => ?_⟩
        obtain ⟨e, he, -⟩ := body.exists_end ⟨i, t, hi, body.callbackOf_of_block hi ht, hn, ht, rfl⟩
        exact he.lt
      · have := hi.1
        omega
      · have := hi.1
        omega
    · have bounds := body.block_bounds ho hs
      have := ho.1
      rcases at_owner.mp hi with ⟨rfl, -⟩ | hi | hi | hi
      · omega
      · exact ihb ho hi
      · have := hi.1
        omega
      · have := hi.1
        omega
    · obtain ⟨-, -, rfl⟩ := at_blockEnd.mp ho
      cases hs
    · have bounds := more.block_bounds ho hs
      have := ho.1
      rcases at_owner.mp hi with ⟨rfl, -⟩ | hi | hi | hi
      · omega
      · have := hi.lt
        omega
      · have := hi.lt
        omega
      · exact ihm ho hi

/-- The instruction for the end of a block has the name of its owner in lower case, and neither a block nor a link. -/
theorem Laid.end_eq (h : Laid r base previous row) {index owner : Nat} {i : Instruction} (hi : At base row index i)
    (hc : i.callbackOf = some owner) : ∃ o, At base row owner o ∧ i = o.endOfBlock owner := by
  induction h with
  | nil => exact absurd hi at_nil
  | plain hnone _ _ _ ih =>
    rcases at_cons.mp hi with ⟨-, rfl⟩ | hi
    · rw [hnone] at hc
      cases hc
    · obtain ⟨o, ho, he⟩ := ih hi
      exact ⟨o, at_cons.mpr (Or.inr ho), he⟩
  | owner hnone _ _ _ _ ihb ihm =>
    rcases at_owner.mp hi with ⟨-, rfl⟩ | hi | hi | hi
    · rw [hnone] at hc
      cases hc
    · obtain ⟨o, ho, he⟩ := ihb hi
      exact ⟨o, at_owner.mpr (Or.inr (Or.inl ho)), he⟩
    · obtain ⟨-, -, rfl⟩ := at_blockEnd.mp hi
      cases hc
      exact ⟨_, at_owner.mpr (Or.inl ⟨rfl, rfl⟩), rfl⟩
    · obtain ⟨o, ho, he⟩ := ihm hi
      exact ⟨o, at_owner.mpr (Or.inr (Or.inr (Or.inr ho))), he⟩

end

end CommandScript
