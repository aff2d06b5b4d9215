import Mathlib.Data.List.Chain
import CommandScript.Proofs.Machine.Moves

/-! Blocks of code as stretches of places. They are nested in one another, and the blocks of a chain of branches lie
    behind one another, each right before the branch that comes next. -/

namespace CommandScript

namespace Code

/-! ### Blocks -/

/-- The name of the instruction at a place. -/
def name? (code : Code) (index : Nat) : Option String :=
  (code.entries[index]?).map (·.instruction.name)

/-- The command that the instruction at a place is linked to. -/
def link? (code : Code) (index : Nat) : Option Nat :=
  (code.entries[index]?).bind (·.instruction.link)

/-- The block of the instruction at a place. Where there is none, it is empty and lies behind the instruction. -/
def block (code : Code) (index : Nat) : Span :=
  ((code.entries[index]?).bind (·.instruction.block)).getD ⟨index + 1, index + 1⟩

/-- A place lies in the block of the instruction at `owner`. -/
def Inside (code : Code) (owner place : Nat) : Prop :=
  (code.block owner).start ≤ place ∧ place < (code.block owner).stop

instance (code : Code) (owner place : Nat) : Decidable (code.Inside owner place) :=
  inferInstanceAs (Decidable (_ ∧ _))

section
variable {code : Code} {index : Nat} {e : Entry} (he : code.entries[index]? = some e)
include he

theorem name?_eq : code.name? index = some e.instruction.name := by
  rw [name?, he, Option.map_some]

theorem link?_eq : code.link? index = e.instruction.link := by
  rw [link?, he, Option.bind_some]

theorem block_eq : code.block index = e.instruction.block.getD ⟨index + 1, index + 1⟩ := by
  rw [block, he, Option.bind_some]

end

namespace Ordered

variable {code : Code} (h : code.Ordered)
include h

theorem block_bounds (index : Nat) :
    (code.block index).start = index + 1 ∧ index + 1 ≤ (code.block index).stop := by
  unfold Code.block
  cases he : code.entries[index]? with
  | none => exact ⟨rfl, Nat.le_refl _⟩
  | some e =>
    cases hs : e.instruction.block with
    | none => simp [hs]
    | some s =>
      obtain ⟨start, le, -⟩ := h.block he hs
      simp only [Option.bind_some, hs, Option.getD_some]
      omega

theorem inside_iff {owner place : Nat} :
    code.Inside owner place ↔ owner < place ∧ place < (code.block owner).stop := by
  rw [Inside, (h.block_bounds owner).1, Nat.succ_le_iff]

omit h in
theorem exists_of_inside {owner place : Nat} (hin : code.Inside owner place) : ∃ e,
    code.entries[owner]? = some e ∧ e.instruction.block = some (code.block owner) := by
  unfold Inside Code.block at hin
  unfold Code.block
  cases he : code.entries[owner]? with
  | none =>
    simp only [he, Option.bind_none, Option.getD_none] at hin
    omega
  | some e =>
    cases hs : e.instruction.block with
    | none =>
      simp only [he, Option.bind_some, hs, Option.getD_none] at hin
      omega
    | some s => exact ⟨e, rfl, by simp [hs]⟩

/-- What is inside a block is so with its own block. -/
theorem stop_le {outer inner : Nat} (hin : code.Inside outer inner) :
    (code.block inner).stop ≤ (code.block outer).stop := by
  obtain ⟨o, ho, hs⟩ := exists_of_inside hin
  have lt := (h.inside_iff.mp hin).2
  cases hi : code.entries[inner]? with
  | none =>
    rw [Code.block, hi, Option.bind_none, Option.getD_none]
    exact lt
  | some i =>
    rw [block_eq hi]
    cases ht : i.instruction.block with
    | none => exact lt
    | some t => exact (h.nested ho hs hi ht hin.1 hin.2).1

/-- What is inside a block is so with the instruction for the end of its own block. -/
theorem inside_end {outer inner index : Nat} {e : Entry} (hin : code.Inside outer inner)
    (he : code.entries[index]? = some e) (hc : e.instruction.callbackOf = some inner) : code.Inside outer index := by
  obtain ⟨o, ho, hs⟩ := exists_of_inside hin
  obtain ⟨i, t, hi, -, ht, rfl, -, needsEnd⟩ := h.owner he hc
  have bounds := h.block hi ht
  have lo := hin.1
  exact ⟨by omega, (h.nested ho hs hi ht hin.1 hin.2).2 needsEnd⟩

theorem stop_eq_of_callbackOf {owner index : Nat} {e : Entry} (he : code.entries[index]? = some e)
    (hc : e.instruction.callbackOf = some owner) : (code.block owner).stop = index := by
  obtain ⟨o, s, ho, -, hs, hstop, -⟩ := h.owner he hc
  rw [block_eq ho, hs]
  exact hstop

/-- Only the end of a block that asks for one has an instruction. -/
theorem stop_of_passes {f : Frame} (code_eq : f.script.code = code) {index place : Nat} {e : Entry} {s : Span}
    (he : code.entries[index]? = some e) (passes : f.Passes index s place)
    (noEnd : CommandRegistry.builtin.needsEnd e.instruction.name = false) : place = s.stop := by
  rcases passes with rfl | ⟨-, a, ha, hc⟩
  · rfl
  · rw [code_eq] at ha
    obtain ⟨o, _, ho, -, -, -, -, needsEnd⟩ := h.owner ha hc
    rw [he] at ho
    cases ho
    rw [noEnd] at needsEnd
    cases needsEnd

end Ordered

/-! ### Links -/

namespace Ordered

variable {code : Code} (h : code.Ordered)
include h

/-- The command that another is linked to, and how the two are called. -/
theorem linked {index before : Nat} (hl : code.link? index = some before) :
    ∃ e p, code.entries[index]? = some e ∧ e.instruction.callbackOf = none ∧ code.entries[before]? = some p ∧
      p.instruction.callbackOf = none ∧ MayFollow .builtin e.instruction.name p.instruction.name := by
  obtain ⟨e, he, link⟩ := Option.bind_eq_some_iff.mp hl
  obtain ⟨sibling, i, hi, may⟩ := h.laid.wellLaid.link (at_zero.mp (at_entry he)) link
  obtain ⟨p, hp, rfl⟩ := at_iff.mp (at_zero.mpr hi)
  obtain ⟨i', hi', hpc⟩ := sibling.command
  rw [hi'.unique (at_entry hp)] at hpc
  refine ⟨e, p, he, ?_, hp, hpc, may⟩
  cases hc : e.instruction.callbackOf with
  | none => rfl
  | some owner =>
    rw [(h.laid.name_of_callbackOf (at_entry he) hc).1] at link
    cases link

/-- An `else` stands right behind the block of the branch before it. -/
theorem stop_of_link {index before : Nat} (hl : code.link? index = some before)
    (name : code.name? index = some "else") : (code.block before).stop = index := by
  obtain ⟨e, p, he, hc, hp, -, may⟩ := h.linked hl
  rw [link?_eq he] at hl
  rw [name?_eq he, Option.some.injEq] at name
  rcases h.laid.link_behind (at_entry he) hc hl with ⟨-, _, hnone⟩ | ⟨i, hi, place⟩
  · cases hnone
  · cases (at_entry hp).unique hi
    have noEnd : CommandRegistry.builtin.needsEnd p.instruction.name = false := by
      rw [name] at may
      rcases mayFollow_builtin.mp may with ⟨-, hb | hb⟩ | ⟨hn, -⟩
      · rw [hb]
        decide
      · rw [hb]
        decide
      · exact absurd hn (by decide)
    rw [block_eq hp, place, placeBehind]
    cases p.instruction.block with
    | none => rfl
    | some s => simp [blockEnd, noEnd]

/-- Only an `else` and a `catch` are linked to a command. -/
theorem name_of_link {index before : Nat} (hl : code.link? index = some before) :
    code.name? index = some "else" ∧ (code.name? before = some "if" ∨ code.name? before = some "else") ∨
      code.name? index = some "catch" ∧ code.name? before = some "try" := by
  obtain ⟨e, p, he, -, hp, -, may⟩ := h.linked hl
  rw [name?_eq he, name?_eq hp]
  simpa using mayFollow_builtin.mp may

end Ordered

/-! ### Chains of branches -/

/-- A chain of branches: an `if` or `else`, and the `else` that follows it, and so on. -/
structure Chain (code : Code) (heads : List Nat) : Prop where
  branch : ∀ head ∈ heads, code.name? head = some "if" ∨ code.name? head = some "else"
  linked : heads.IsChain fun before head => code.link? head = some before

/-- The blocks of a chain lie behind one another. -/
theorem Chain.pairwise {code : Code} {heads : List Nat} (c : code.Chain heads) (h : code.Ordered) :
    heads.Pairwise fun a b => (code.block a).stop ≤ b := by
  have trans : Trans (fun a b => (code.block a).stop ≤ b) (fun a b => (code.block a).stop ≤ b)
      (fun a b => (code.block a).stop ≤ b) := ⟨fun {a b c} hab hbc => by
    have := (h.block_bounds b).2
    omega⟩
  rw [← List.isChain_iff_pairwise]
  refine c.linked.imp_of_mem_imp fun a b _ hb hl => Nat.le_of_eq (h.stop_of_link hl ?_)
  rcases h.name_of_link hl with ⟨name, -⟩ | ⟨name, -⟩
  · exact name
  · have := c.branch b hb
    simp [name] at this

section
variable {code : Code} {heads : List Nat} (c : code.Chain heads) (h : code.Ordered)
include c h

theorem Chain.apart {a b : Nat} (ha : a ∈ heads) (hb : b ∈ heads) (ne : a ≠ b) :
    (code.block a).stop ≤ b ∨ (code.block b).stop ≤ a := by
  have pairs := c.pairwise h
  clear c
  induction heads with
  | nil => cases ha
  | cons x rest ih =>
    obtain ⟨first, pairs⟩ := List.pairwise_cons.mp pairs
    rcases List.mem_cons.mp ha with rfl | ha'
    · exact Or.inl (first b ((List.mem_cons.mp hb).resolve_left (Ne.symm ne)))
    · rcases List.mem_cons.mp hb with rfl | hb'
      · exact Or.inr (first a ha')
      · exact ih ha' hb' pairs

theorem Chain.not_inside {a b : Nat} (ha : a ∈ heads) (hb : b ∈ heads) : ¬code.Inside a b := by
  rw [h.inside_iff]
  by_cases ne : a = b
  · omega
  · have := c.apart h ha hb ne
    have := (h.block_bounds b).2
    omega

theorem Chain.inside_unique {a b place : Nat} (ha : a ∈ heads) (hb : b ∈ heads) (hina : code.Inside a place)
    (hinb : code.Inside b place) : a = b := by
  rw [h.inside_iff] at hina hinb
  by_contra ne
  have := c.apart h ha hb ne
  omega

theorem Chain.not_inside_stop {a b : Nat} (ha : a ∈ heads) (hb : b ∈ heads) : ¬code.Inside b (code.block a).stop := by
  rw [h.inside_iff]
  have := (h.block_bounds a).2
  by_cases ne : a = b
  · subst ne
    omega
  · have := c.apart h ha hb ne
    omega

/-- Every branch of a chain behind another one is linked to a branch of the chain. -/
theorem Chain.exists_before {a b : Nat} (ha : a ∈ heads) (hb : b ∈ heads) (lt : a < b) :
    ∃ before ∈ heads, code.link? b = some before ∧ (code.block before).stop = b := by
  have pairs := c.pairwise h
  obtain ⟨front, back, rfl⟩ := List.append_of_mem hb
  rcases List.eq_nil_or_concat front with rfl | ⟨init, before, rfl⟩
  · -- Nothing in the chain comes before its first branch.
    rcases List.mem_cons.mp ha with rfl | ha
    · omega
    · have := (List.pairwise_cons.mp pairs).1 a ha
      have := (h.block_bounds b).2
      omega
  · have linked := c.linked
    simp only [List.concat_eq_append, List.append_assoc, List.singleton_append] at linked
    have hl : code.link? b = some before := (List.isChain_append_cons_cons.mp linked).2.1
    refine ⟨before, by simp, hl, h.stop_of_link hl ?_⟩
    rcases h.name_of_link hl with ⟨name, -⟩ | ⟨name, -⟩
    · exact name
    · have := c.branch b hb
      simp [name] at this

theorem Chain.link_of_stop {a b : Nat} (ha : a ∈ heads) (hb : b ∈ heads) (stop : (code.block a).stop = b) :
    code.link? b = some a := by
  have := (h.block_bounds a).2
  obtain ⟨before, hbefore, hl, stop'⟩ := c.exists_before h ha hb (by omega)
  by_cases ne : before = a
  · rwa [ne] at hl
  · have := (h.block_bounds before).2
    have := c.apart h hbefore ha ne
    omega

end

end Code

end CommandScript
