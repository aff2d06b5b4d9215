import CommandScript.Proofs.Layout.Places

/-! Blocks cut out of a laid-out script. The instructions of a block are a row of their own, and so are they once all
    places are moved down to where the block begins. -/

namespace CommandScript

/-- An instruction with all its places moved down. -/
def Instruction.shift (i : Instruction) (base : Nat) : Instruction :=
  { i with
    block := i.block.map (·.shift base)
    callbackOf := i.callbackOf.map (· - base)
    link := i.link.map (· - base) }

theorem extractBlock_eq (row : List Instruction) (s : Span) :
    extractBlock row s = ((row.take s.stop).drop s.start).map (·.shift s.start) := rfl

section
variable {r : CommandRegistry} {base : Nat} {previous : Option Sibling} {row : List Instruction}

/-! ### Moving a row -/

/-- A sibling moved down. -/
def Sibling.shift (p : Sibling) (down : Nat) : Sibling :=
  ⟨p.index - down, p.name⟩

theorem Linked.shift {i : Instruction} (h : Linked r previous i) (down : Nat) :
    Linked r (previous.map (·.shift down)) (i.shift down) := by
  unfold Linked at h ⊢
  rw [show (i.shift down).name = i.name from rfl]
  cases hf : (r.get? i.name).bind (·.signature.follows) with
  | none =>
    rw [hf] at h
    exact Option.map_eq_none_iff.mpr h
  | some allowed =>
    rw [hf] at h
    obtain ⟨p, rfl, ha, hl⟩ := h
    exact ⟨p.shift down, rfl, ha, congrArg (Option.map (· - down)) hl⟩

theorem blockEnd_shift (i : Instruction) (index down : Nat) :
    (blockEnd r i index).map (·.shift down) = blockEnd r (i.shift down) (index - down) := by
  unfold blockEnd
  show (if r.needsEnd i.name = true then [i.endOfBlock index] else []).map _ =
    if r.needsEnd i.name = true then _ else []
  split <;> rfl

/-- A row that is moved down is a row. -/
theorem Laid.shift (h : Laid r base previous row) {down : Nat} (hd : down ≤ base) :
    Laid r (base - down) (previous.map (·.shift down)) (row.map (·.shift down)) := by
  induction h with
  | nil => exact Laid.nil _ _
  | @plain index previous i rest callbackOf block link _ ih =>
    refine Laid.plain (i := i.shift down) ?_ ?_ (link.shift down) ?_
    · exact Option.map_eq_none_iff.mpr callbackOf
    · exact Option.map_eq_none_iff.mpr block
    · have more := ih (Nat.le_succ_of_le hd)
      rwa [show index + 1 - down = index - down + 1 by omega] at more
  | @owner index previous i body rest callbackOf block link _ _ ihb ihm =>
    have length : (body.map (·.shift down)).length = body.length := List.length_map _
    have inner := ihb (Nat.le_succ_of_le hd)
    have more := ihm (by omega)
    rw [show index + 1 - down = index - down + 1 by omega] at inner
    rw [List.map_cons, List.map_append, List.map_append, blockEnd_shift]
    refine Laid.owner (i := i.shift down) (Option.map_eq_none_iff.mpr callbackOf) ?_ (link.shift down) inner ?_
    · rw [length]
      show i.block.map (·.shift down) = _
      rw [block, Option.map_some]
      refine congrArg some ?_
      show (⟨index + 1 - down, index + 1 + body.length - down⟩ : Span) = _
      congr 1 <;> omega
    · rw [length, ← blockEnd_shift, List.length_map]
      rwa [show index + 1 + body.length + (blockEnd r i index).length - down =
        index - down + 1 + body.length + (blockEnd r i index).length by omega] at more

/-! ### The row of a block -/

/-- The instructions of a block are a row. -/
theorem Laid.block_laid (h : Laid r base previous row) {index : Nat} {i : Instruction} {s : Span}
    (hi : At base row index i) (hs : i.block = some s) :
    Laid r s.start none ((row.take (s.stop - base)).drop (s.start - base)) := by
  induction h with
  | nil => exact absurd hi at_nil
  | @plain place previous x rest _ hb _ more ih =>
    rcases at_cons.mp hi with ⟨-, rfl⟩ | hi
    · rw [hb] at hs
      cases hs
    · have bounds := more.block_bounds hi hs
      have := hi.1
      have inner := ih hi
      rwa [show s.stop - place = (s.stop - (place + 1)) + 1 by omega,
        show s.start - place = (s.start - (place + 1)) + 1 by omega, List.take_succ_cons, List.drop_succ_cons]
  | @owner place previous x body rest _ hb _ inner more ihb ihm =>
    rcases at_owner.mp hi with ⟨rfl, rfl⟩ | hi | hi | hi
    · rw [hb] at hs
      cases hs
      dsimp only
      rw [show index + 1 + body.length - index = body.length + 1 by omega,
        show index + 1 - index = 0 + 1 by omega, List.take_succ_cons, List.drop_succ_cons, List.take_left,
        List.drop_zero]
      exact inner
    · have bounds := inner.block_bounds hi hs
      have := hi.1
      have own := ihb hi
      rwa [show s.stop - place = (s.stop - (place + 1)) + 1 by omega,
        show s.start - place = (s.start - (place + 1)) + 1 by omega, List.take_succ_cons, List.drop_succ_cons,
        List.take_append_of_le_length (by omega)]
    · obtain ⟨-, -, rfl⟩ := at_blockEnd.mp hi
      cases hs
    · have bounds := more.block_bounds hi hs
      have := hi.1
      have own := ihm hi
      rwa [show s.stop - place = (body ++ blockEnd r x place).length +
          (s.stop - (place + 1 + body.length + (blockEnd r x place).length)) + 1 by rw [List.length_append]; omega,
        show s.start - place = (body ++ blockEnd r x place).length +
          (s.start - (place + 1 + body.length + (blockEnd r x place).length)) + 1 by rw [List.length_append]; omega,
        List.take_succ_cons, List.drop_succ_cons, ← List.append_assoc, List.take_length_add_append,
        List.drop_length_add_append]

/-- The block of an instruction, cut out, is a row from the first place on. -/
theorem Laid.extractBlock (h : Laid r 0 none row) {index : Nat} {i : Instruction} {s : Span}
    (hi : row[index]? = some i) (hs : i.block = some s) : Laid r 0 none (CommandScript.extractBlock row s) := by
  have cut := (h.block_laid (at_zero.mpr hi) hs).shift (Nat.le_refl _)
  rwa [Nat.sub_self, Nat.sub_zero, Nat.sub_zero, ← extractBlock_eq] at cut

end

end CommandScript
