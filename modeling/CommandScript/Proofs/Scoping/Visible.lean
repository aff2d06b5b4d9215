import Mathlib.Data.List.Induction
import CommandScript.Proofs.Compile.Entries
import CommandScript.Proofs.Layout.Extract

/-! Which variables are in sight at a place of a script, told by the places alone. A variable belongs to a block, or to
    the top level; it is in sight behind its declaration as far as that block goes, and hides the variables of its name
    that are declared before. -/

namespace CommandScript

/-! ### Blocks around a place -/

/-- The block of the instruction at a place. -/
def blockAt? (row : List Instruction) (index : Nat) : Option Span :=
  row[index]?.bind (·.block)

/-- Whether the block of the instruction at `owner` contains a place. -/
def blockHolds (row : List Instruction) (owner index : Nat) : Bool :=
  (blockAt? row owner).any fun s => s.start ≤ index && index < s.stop

/-- The owners of the blocks around a place, the innermost first. -/
def ownersAround (row : List Instruction) (index : Nat) : List Nat :=
  ((List.range index).filter (blockHolds row · index)).reverse

theorem blockHolds_iff {row : List Instruction} {owner index : Nat} :
    blockHolds row owner index = true ↔ ∃ s, blockAt? row owner = some s ∧ s.start ≤ index ∧ index < s.stop := by
  rw [blockHolds, Option.any_eq_true]
  simp only [Bool.and_eq_true, decide_eq_true_eq]

theorem mem_ownersAround {row : List Instruction} {owner index : Nat} :
    owner ∈ ownersAround row index ↔ owner < index ∧ blockHolds row owner index = true := by
  rw [ownersAround, List.mem_reverse, List.mem_filter, List.mem_range]

/-- Owners further in stand behind those further out. -/
theorem pairwise_ownersAround (row : List Instruction) (index : Nat) :
    (ownersAround row index).Pairwise fun inner outer => outer < inner := by
  rw [ownersAround, List.pairwise_reverse]
  exact List.pairwise_lt_range.filter _

/-- The owners around a place stand before the innermost of them, or are it. -/
theorem le_head_ownersAround {row : List Instruction} {owner index : Nat} (h : owner ∈ ownersAround row index) :
    ∃ inner, (ownersAround row index).head? = some inner ∧ owner ≤ inner := by
  have order := pairwise_ownersAround row index
  cases howners : ownersAround row index with
  | nil =>
    rw [howners] at h
    exact absurd h List.not_mem_nil
  | cons inner outer =>
    rw [howners] at h order
    refine ⟨inner, rfl, ?_⟩
    rcases List.mem_cons.mp h with rfl | h
    · exact Nat.le_refl _
    · exact Nat.le_of_lt ((List.pairwise_cons.mp order).1 owner h)

namespace Laid

variable {r : CommandRegistry} {row : List Instruction} (h : Laid r 0 none row)
include h

theorem blockAt {index : Nat} {s : Span} (hs : blockAt? row index = some s) :
    s.start = index + 1 ∧ s.start ≤ s.stop ∧ s.stop ≤ row.length := by
  obtain ⟨i, hi, hs⟩ := Option.bind_eq_some_iff.mp hs
  have bounds := h.block_bounds (at_zero.mpr hi) hs
  rwa [Nat.zero_add] at bounds

theorem holds_stop {owner index : Nat} (hh : blockHolds row owner index = true) :
    ∃ s, blockAt? row owner = some s ∧ owner < index ∧ index < s.stop := by
  obtain ⟨s, hs, hlo, hhi⟩ := blockHolds_iff.mp hh
  have := (h.blockAt hs).1
  exact ⟨s, hs, by omega, hhi⟩

/-- A block that contains a place contains the places between its owner and that. -/
theorem holds_between {owner index between : Nat} (hh : blockHolds row owner index = true) (hlo : owner < between)
    (hhi : between ≤ index) : blockHolds row owner between = true := by
  obtain ⟨s, hs, -, hstop⟩ := h.holds_stop hh
  have := (h.blockAt hs).1
  exact blockHolds_iff.mpr ⟨s, hs, by omega, by omega⟩

/-- A block inside another ends no later. -/
theorem stop_le {outer inner : Nat} {s t : Span} (hs : blockAt? row outer = some s) (ht : blockAt? row inner = some t)
    (hh : blockHolds row outer inner = true) : t.stop ≤ s.stop := by
  obtain ⟨o, ho, hos⟩ := Option.bind_eq_some_iff.mp hs
  obtain ⟨i, hi, hit⟩ := Option.bind_eq_some_iff.mp ht
  obtain ⟨s', hs', hlo, hhi⟩ := blockHolds_iff.mp hh
  cases hs.symm.trans hs'
  exact (h.nested (at_zero.mpr ho) hos (at_zero.mpr hi) hit hlo hhi).1

/-- No block goes beyond the last instruction. -/
theorem ownersAround_length : ownersAround row row.length = [] := by
  refine List.eq_nil_iff_forall_not_mem.mpr fun owner howner => ?_
  obtain ⟨s, hs, -, hstop⟩ := h.holds_stop (mem_ownersAround.mp howner).2
  have := (h.blockAt hs).2.2
  omega

end Laid

/-! ### Declarations -/

/-- A variable that a script declares. -/
structure Declared where
  /-- The place of the instruction that declares it; none for a predefined variable. -/
  place : Option Nat
  name : String
  slot : Nat

/-- The owner of the block that a variable belongs to: the instruction that declares it if that has a block, and else
    the owner of the innermost block around that instruction. A variable of the top level has none. -/
def Declared.home (row : List Instruction) (d : Declared) : Option Nat :=
  d.place.bind fun index => if (blockAt? row index).isSome then some index else (ownersAround row index).head?

/-- Whether a variable is in sight of the arguments of an instruction: it is declared before, and the instruction
    stands in the block that the variable belongs to. -/
def Declared.visible (row : List Instruction) (index : Nat) (d : Declared) : Bool :=
  d.place.all (· < index) && (d.home row).all (blockHolds row · index)

/-- The variables that instructions declare, in order. -/
def declaredBy (slots : Array Slot) (entries : List Entry) : List Declared :=
  entries.zipIdx.filterMap fun (e, index) => do
    let slot ← e.declares
    let v ← slots[slot]?
    return ⟨some index, v.name, slot⟩

/-- All variables of a script in the order of their declarations, the predefined ones first. -/
def declarations (predefined : List (String × String)) (slots : Array Slot) (entries : Array Entry) : List Declared :=
  predefined.zipIdx.map (fun (p, slot) => ⟨none, Text.lower p.1, slot⟩) ++ declaredBy slots entries.toList

/-- The slot of the latest variable of a name, among those that `p` holds of. -/
def latest? (p : Declared → Bool) (ds : List Declared) (name : String) : Option Nat :=
  ((ds.filter fun d => d.name == name && p d).getLast?).map (·.slot)

/-! ### The latest declaration -/

section
variable {p q : Declared → Bool} {ds : List Declared}

theorem latest?_append_one (p : Declared → Bool) (ds : List Declared) (d : Declared) (name : String) :
    latest? p (ds ++ [d]) name = if d.name == name && p d then some d.slot else latest? p ds name := by
  rw [latest?, List.filter_append, List.filter_cons, List.filter_nil]
  split
  · rw [List.getLast?_concat]
    rfl
  · rw [List.append_nil]
    rfl

theorem latest?_congr (h : ∀ d ∈ ds, p d = q d) (name : String) : latest? p ds name = latest? q ds name := by
  rw [latest?, latest?, List.filter_congr fun d hd => by rw [h d hd]]

theorem latest?_none (h : ∀ d ∈ ds, p d = false) (name : String) : latest? p ds name = none := by
  rw [latest?, List.filter_eq_nil_iff.mpr fun d hd => by simp [h d hd]]
  rfl

/-- Variables that are not in question do not hide others. -/
theorem latest?_append {more : List Declared} (h : ∀ d ∈ more, p d = false) (name : String) :
    latest? p (ds ++ more) name = latest? p ds name := by
  have hidden : more.filter (fun d => d.name == name && p d) = [] :=
    List.filter_eq_nil_iff.mpr fun d hd => by simp [h d hd]
  rw [latest?, List.filter_append, hidden, List.append_nil]
  rfl

/-- If all variables of one kind are declared behind those of another, the latest is one of the first kind if there
    is any. -/
theorem latest?_or (order : ds.Pairwise fun a b => p a = true → q b = false) (name : String) :
    latest? (fun d => p d || q d) ds name = (latest? p ds name).or (latest? q ds name) := by
  -- By induction from the end, since the end decides.
  induction ds using List.reverseRecOn with
  | nil => rfl
  | append_singleton ds d ih =>
    obtain ⟨order, -, last⟩ := List.pairwise_append.mp order
    simp only [latest?_append_one]
    cases hn : d.name == name with
    | false => simpa using ih order
    | true =>
      cases hp : p d with
      | true => simp
      | false =>
        cases hq : q d with
        | false => simpa using ih order
        | true =>
          have none : latest? p ds name = none := latest?_none (fun a ha => by
            cases hpa : p a with
            | false => rfl
            | true => exact absurd ((last a ha d List.mem_cons_self hpa).symm.trans hq) Bool.false_ne_true) name
          simp [none]

end

/-! ### Declarations and where they belong -/

theorem Declared.home_of_place {row : List Instruction} {d : Declared} {index : Nat} (h : d.place = some index) :
    d.home row = if (blockAt? row index).isSome then some index else (ownersAround row index).head? := by
  rw [home, h]
  rfl

/-- A variable belongs to a block around its declaration, or to the block of the instruction that declares it. -/
theorem Declared.le_of_home {row : List Instruction} {d : Declared} {index owner : Nat} (h : d.place = some index)
    (home : d.home row = some owner) : owner ≤ index := by
  rw [home_of_place h] at home
  split at home
  · cases home
    exact Nat.le_refl _
  · exact Nat.le_of_lt (mem_ownersAround.mp (List.mem_of_mem_head? home)).1

/-- A variable that is declared in a block, or by its owner, does not belong to the blocks around that. -/
theorem Declared.home_inside {row : List Instruction} {d : Declared} {index owner : Nat} (h : d.place = some index)
    (inside : index = owner ∧ (blockAt? row owner).isSome = true ∨
      owner < index ∧ blockHolds row owner index = true) : ∃ inner, d.home row = some inner ∧ owner ≤ inner := by
  rw [home_of_place h]
  rcases inside with ⟨rfl, hblock⟩ | ⟨hlt, hholds⟩
  · exact ⟨index, if_pos hblock, Nat.le_refl _⟩
  · split
    · exact ⟨index, rfl, Nat.le_of_lt hlt⟩
    · exact le_head_ownersAround (mem_ownersAround.mpr ⟨hlt, hholds⟩)

theorem declaredBy_append (slots : Array Slot) (entries : List Entry) (e : Entry) :
    declaredBy slots (entries ++ [e]) = declaredBy slots entries ++
      ((e.declares.bind fun slot => slots[slot]?.map fun v => ⟨some entries.length, v.name, slot⟩).toList) := by
  rw [declaredBy, List.zipIdx_append, List.filterMap_append, ← declaredBy]
  congr 1
  rw [Nat.zero_add, List.zipIdx_singleton]
  cases h : e.declares with
  | none => simp [h]
  | some slot => cases hv : slots[slot]? <;> simp [h, hv]

end CommandScript
