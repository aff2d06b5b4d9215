import CommandScript.Proofs.Layout.Extract
import CommandScript.Proofs.Layout.Recovery
import CommandScript.Proofs.Layout.Siblings

/-! What a block cut out of a script is. The instructions of a block are the layout of the subtree that its owner has
    in the tree of the source text, and once they are cut out they are what this subtree is laid out to on its own. No
    place that they name lies before the block, so that moving them down loses none. -/

namespace CommandScript

/-! ### Nodes of a tree -/

mutual

/-- The nodes of a tree in reading order, each before those of its block. -/
def nodesOf : List Node → List Node
  | [] => []
  | ⟨i, block⟩ :: rest => ⟨i, block⟩ :: (blockNodes block ++ nodesOf rest)

/-- The nodes of a block. -/
def blockNodes : Option (List Node) → List Node
  | none => []
  | some nodes => nodesOf nodes

end

/-- The commands of a tree are those of its nodes. -/
theorem map_nodesOf : ∀ nodes : List Node, (nodesOf nodes).map (·.instruction) = commandsOf nodes
  | [] => by rw [nodesOf, commandsOf]; rfl
  | ⟨i, none⟩ :: rest => by
    rw [nodesOf, commandsOf, blockNodes, blockCommands, List.nil_append, List.nil_append, List.map_cons,
      map_nodesOf rest]
  | ⟨i, some children⟩ :: rest => by
    rw [nodesOf, commandsOf, blockNodes, blockCommands, List.map_cons, List.map_append, map_nodesOf children,
      map_nodesOf rest]

/-- How many commands stand before a place of a row. -/
def commandsBefore (row : List Instruction) (place : Nat) : Nat :=
  (row.take place).countP (!·.isCallback)

theorem commandsBefore_succ {i : Instruction} (hi : i.callbackOf = none) (rest : List Instruction) (place : Nat) :
    commandsBefore (i :: rest) (place + 1) = commandsBefore rest place + 1 := by
  rw [commandsBefore, List.take_succ_cons, List.countP_cons_of_pos (by rw [Instruction.isCallback, hi]; rfl)]
  rfl

theorem commandsBefore_append_of_le {body : List Instruction} {place : Nat} (h : place ≤ body.length)
    (rest : List Instruction) : commandsBefore (body ++ rest) place = commandsBefore body place := by
  rw [commandsBefore, List.take_append_of_le_length h]
  rfl

theorem commandsBefore_length_add (body rest : List Instruction) (place : Nat) :
    commandsBefore (body ++ rest) (body.length + place) =
      body.countP (!·.isCallback) + commandsBefore rest place := by
  rw [commandsBefore, List.take_length_add_append, List.countP_append]
  rfl

section
variable {r : CommandRegistry}

/-- A row has as many commands as the tree that it is the layout of. -/
theorem countP_of_layoutNodes {nodes : List Node} {index : Nat} {previous : Option Sibling} {laid : List Instruction}
    (fresh : ∀ i ∈ commandsOf nodes, i.Fresh) (h : layoutNodes r index previous nodes = .ok laid) :
    laid.countP (!·.isCallback) = (nodesOf nodes).length := by
  rw [List.countP_eq_length_filter, ← List.length_map Instruction.unplaced,
    commands_of_layoutNodes fresh h, ← map_nodesOf, List.length_map]

theorem countP_blockEnd (i : Instruction) (index : Nat) : (blockEnd r i index).countP (!·.isCallback) = 0 := by
  unfold blockEnd
  split <;> rfl

/-! ### Layouts that are moved down -/

theorem linkOf_shift {command : Option Command} {i : Instruction} {previous : Option Sibling} {link : Option Nat}
    (fresh : i.Fresh) (h : linkOf command i previous = .ok link) (down : Nat) :
    linkOf command i (previous.map (·.shift down)) = .ok (link.map (· - down)) := by
  unfold linkOf at h ⊢
  split at h
  · cases h
    rw [fresh.link]
    rfl
  · cases previous with
    | none => cases h
    | some p =>
      dsimp only [Option.map_some, Sibling.shift] at h ⊢
      split at h
      · rename_i allowed
        cases h
        rw [if_pos allowed]
        rfl
      · cases h

/-- Where a layout begins only moves its places. -/
theorem layoutNodes_shift : ∀ {nodes : List Node} {index : Nat} {previous : Option Sibling} {laid : List Instruction},
    (∀ i ∈ commandsOf nodes, i.Fresh) → layoutNodes r index previous nodes = .ok laid → ∀ {down : Nat}, down ≤ index →
      layoutNodes r (index - down) (previous.map (·.shift down)) nodes = .ok (laid.map (·.shift down))
  | [], index, previous, laid, _, h, down, _ => by
    rw [layoutNodes] at h ⊢
    cases h
    rfl
  | ⟨i, block⟩ :: rest, index, previous, laid, fresh, h, down, hd => by
    rw [commandsOf, List.forall_mem_cons, List.forall_mem_append] at fresh
    obtain ⟨own, inside, behind⟩ := fresh
    obtain ⟨link, hl, ⟨rfl, more, hm, rfl⟩ | ⟨children, body, more, rfl, hb, hm, rfl⟩⟩ := layoutNodes_cons_eq_ok.mp h
    · have more' := layoutNodes_shift behind hm (Nat.le_succ_of_le hd)
      rw [show index + 1 - down = index - down + 1 by omega] at more'
      refine layoutNodes_cons_eq_ok.mpr ⟨_, linkOf_shift own hl down, Or.inl ⟨rfl, _, more', ?_⟩⟩
      rw [List.map_cons, Instruction.shift, own.block, own.callbackOf]
      rfl
    · rw [blockCommands] at inside
      have body' := layoutNodes_shift inside hb (Nat.le_succ_of_le hd)
      have within : down ≤ index + 1 + body.length + (blockEnd r i index).length := by omega
      have more' := layoutNodes_shift behind hm within
      rw [show index + 1 - down = index - down + 1 by omega] at body'
      have places : index + 1 + body.length + (blockEnd r i index).length - down =
          index - down + 1 + (body.map (·.shift down)).length + (blockEnd r i (index - down)).length := by
        rw [List.length_map, length_blockEnd, length_blockEnd]
        omega
      rw [places] at more'
      refine layoutNodes_cons_eq_ok.mpr
        ⟨_, linkOf_shift own hl down, Or.inr ⟨children, _, _, rfl, body', more', ?_⟩⟩
      rw [List.map_cons, List.map_append, List.map_append, blockEnd_shift, List.length_map]
      congr 1
      · rw [Instruction.shift, own.callbackOf, Option.map_some, Span.shift,
          show index + 1 - down = index - down + 1 by omega,
          show index + 1 + body.length - down = index - down + 1 + body.length by omega]
        rfl

/-! ### The subtree of a block -/

/-- The block of an instruction of a layout is the layout of the block of its node, the one before which as many nodes
    stand as commands before the instruction. -/
theorem exists_subtree : ∀ {nodes : List Node} {base : Nat} {previous : Option Sibling} {laid : List Instruction},
    (∀ i ∈ commandsOf nodes, i.Fresh) → layoutNodes r base previous nodes = .ok laid →
      ∀ {index : Nat} {i : Instruction} {s : Span}, At base laid index i → i.block = some s →
        ∃ n children, (nodesOf nodes)[commandsBefore laid (index - base)]? = some n ∧ n.instruction = i.unplaced ∧
          n.block = some children ∧ (∀ j ∈ commandsOf children, j.Fresh) ∧
          layoutNodes r s.start none children = .ok ((laid.take (s.stop - base)).drop (s.start - base))
  | [], base, previous, laid, _, h, index, i, s, hi, _ => by
    rw [layoutNodes] at h
    cases h
    exact absurd hi at_nil
  | ⟨c, block⟩ :: rest, base, previous, laid, fresh, h, index, i, s, hi, hs => by
    rw [commandsOf, List.forall_mem_cons, List.forall_mem_append] at fresh
    obtain ⟨own, inside, behind⟩ := fresh
    have command : ∀ link block, Instruction.callbackOf { c with link := link, block := block } = none := fun _ _ =>
      own.callbackOf
    obtain ⟨link, -, ⟨rfl, more, hm, rfl⟩ | ⟨children, body, more, rfl, hb, hm, rfl⟩⟩ := layoutNodes_cons_eq_ok.mp h
    · rcases at_cons.mp hi with ⟨-, rfl⟩ | hi
      · rw [own.block] at hs
        cases hs
      · have bounds := (laid_of_layoutNodes behind hm).block_bounds hi hs
        have := hi.1
        obtain ⟨n, children, hn, found⟩ := exists_subtree behind hm hi hs
        refine ⟨n, children, ?_, ?_⟩
        · rw [show index - base = (index - (base + 1)) + 1 by omega, commandsBefore_succ (command _ _), nodesOf,
            List.getElem?_cons_succ, blockNodes, List.nil_append]
          exact hn
        · rwa [show s.stop - base = (s.stop - (base + 1)) + 1 by omega,
            show s.start - base = (s.start - (base + 1)) + 1 by omega, List.take_succ_cons, List.drop_succ_cons]
    · rw [blockCommands] at inside
      rcases at_owner.mp hi with ⟨rfl, rfl⟩ | hi | hi | hi
      · cases hs
        refine ⟨⟨c, some children⟩, children, ?_, own.unplaced_eq.symm, rfl, inside, ?_⟩
        · rw [Nat.sub_self, nodesOf]
          rfl
        · dsimp only
          rw [show index + 1 + body.length - index = body.length + 1 by omega,
            show index + 1 - index = 0 + 1 by omega, List.take_succ_cons, List.drop_succ_cons, List.take_left,
            List.drop_zero]
          exact hb
      · have bounds := (laid_of_layoutNodes inside hb).block_bounds hi hs
        have := hi.1
        obtain ⟨n, inner, hn, found⟩ := exists_subtree inside hb hi hs
        refine ⟨n, inner, ?_, ?_⟩
        · rw [show index - base = (index - (base + 1)) + 1 by omega, commandsBefore_succ (command _ _), nodesOf,
            List.getElem?_cons_succ, commandsBefore_append_of_le (by omega), blockNodes,
            List.getElem?_append_left (List.getElem?_eq_some_iff.mp hn).1]
          exact hn
        · rwa [show s.stop - base = (s.stop - (base + 1)) + 1 by omega,
            show s.start - base = (s.start - (base + 1)) + 1 by omega, List.take_succ_cons, List.drop_succ_cons,
            List.take_append_of_le_length (by omega)]
      · obtain ⟨-, -, rfl⟩ := at_blockEnd.mp hi
        cases hs
      · have bounds := (laid_of_layoutNodes behind hm).block_bounds hi hs
        have := hi.1
        obtain ⟨n, inner, hn, found⟩ := exists_subtree behind hm hi hs
        have length : (body ++ blockEnd r c base).length = body.length + (blockEnd r c base).length :=
          List.length_append
        refine ⟨n, inner, ?_, ?_⟩
        · rw [show index - base = (body ++ blockEnd r c base).length +
              (index - (base + 1 + body.length + (blockEnd r c base).length)) + 1 by omega,
            commandsBefore_succ (command _ _), ← List.append_assoc, commandsBefore_length_add, List.countP_append,
            countP_blockEnd, countP_of_layoutNodes inside hb, nodesOf, List.getElem?_cons_succ, blockNodes,
            List.getElem?_append_right (by omega), Nat.add_zero, Nat.add_sub_cancel_left]
          exact hn
        · rwa [show s.stop - base = (body ++ blockEnd r c base).length +
              (s.stop - (base + 1 + body.length + (blockEnd r c base).length)) + 1 by omega,
            show s.start - base = (body ++ blockEnd r c base).length +
              (s.start - (base + 1 + body.length + (blockEnd r c base).length)) + 1 by omega,
            List.take_succ_cons, List.drop_succ_cons, ← List.append_assoc, List.take_length_add_append,
            List.drop_length_add_append]

/-! ### Places inside a block -/

/-- No place that an instruction names lies before `base`. -/
structure Instruction.Above (base : Nat) (i : Instruction) : Prop where
  block : ∀ s, i.block = some s → base ≤ s.start ∧ base ≤ s.stop
  callbackOf : ∀ owner, i.callbackOf = some owner → base ≤ owner
  link : ∀ before, i.link = some before → base ≤ before

/-- The instructions of a row that continues nothing name places of the row only. -/
theorem Laid.above {base : Nat} {row : List Instruction} (h : Laid r base none row) {index : Nat} {i : Instruction}
    (hi : At base row index i) : i.Above base where
  block s hs := by
    have bounds := h.block_bounds hi hs
    have := hi.1
    omega
  callbackOf owner ho := by
    obtain ⟨o, -, at_owner, -⟩ := h.endsAt_of_callbackOf hi ho
    exact at_owner.1
  link before hl := by
    cases hc : i.callbackOf with
    | some owner =>
      obtain ⟨o, -, rfl⟩ := h.end_eq hi hc
      cases hl
    | none =>
      rcases h.link_eq_some hi hc hl with ⟨-, name, hp, -⟩ | ⟨-, p, hp, -⟩
      · cases hp
      · exact hp.1

/-- Nor do those of a block name places before it. -/
theorem Laid.above_of_mem_block {row : List Instruction} (h : Laid r 0 none row) {index : Nat} {i : Instruction}
    {s : Span} (hi : row[index]? = some i) (hs : i.block = some s) {j : Instruction}
    (hj : j ∈ (row.take s.stop).drop s.start) : j.Above s.start := by
  obtain ⟨place, hlt, rfl⟩ := List.mem_iff_getElem.mp hj
  refine (h.block_laid (at_zero.mpr hi) hs).above ⟨Nat.le_add_right s.start place, ?_⟩
  rw [Nat.sub_zero, Nat.sub_zero, Nat.add_sub_cancel_left]
  exact List.getElem?_eq_getElem hlt

end

/-- The block of an instruction, cut out of its script, is what the block of its node is laid out to alone. Nothing
    that it names lies before the block. -/
theorem extractBlock_eq_layout {r : CommandRegistry} {source : String} {row : List Instruction}
    (h : parseScript r source = .ok row) {index : Nat} {i : Instruction} {s : Span} (hi : row[index]? = some i)
    (hs : i.block = some s) :
    ∃ tree n children, Node.ofTokens (tokens source) = .ok tree ∧
      (nodesOf tree)[commandsBefore row index]? = some n ∧ n.instruction = i.unplaced ∧ n.block = some children ∧
      layoutNodes r 0 none children = .ok (extractBlock row s) ∧
      ∀ j ∈ (row.take s.stop).drop s.start, j.Above s.start := by
  obtain ⟨tree, ht, hl, -⟩ := parseScript_eq_ok.mp h
  have fresh := fresh_of_readCommands (readCommands_of_ofTokens ht)
  obtain ⟨n, children, hn, own, block, inside, laid⟩ := exists_subtree fresh hl (at_zero.mpr hi) hs
  refine ⟨tree, n, children, ht, hn, own, block, ?_, fun j => (laid_of_layoutNodes fresh hl).above_of_mem_block hi hs⟩
  have moved := layoutNodes_shift inside laid (Nat.le_refl _)
  rwa [Nat.sub_self, Nat.sub_zero, Nat.sub_zero, ← extractBlock_eq] at moved

/-- A loop with a block in its block, cut out of a `try`. -/
theorem extractBlock_eq_layout_try : ∃ row i s,
    parseScript .builtin "echo a; try { repeat 2 { if true { echo b } else { echo c } } } catch { noop }" = .ok row ∧
      row[1]? = some i ∧ i.block = some s ∧
      ∃ tree n children, Node.ofTokens
          (tokens "echo a; try { repeat 2 { if true { echo b } else { echo c } } } catch { noop }") = .ok tree ∧
        (nodesOf tree)[commandsBefore row 1]? = some n ∧ n.instruction = i.unplaced ∧ n.block = some children ∧
        layoutNodes .builtin 0 none children = .ok (extractBlock row s) ∧
        ∀ j ∈ (row.take s.stop).drop s.start, j.Above s.start := by
  have owner : (parseScript .builtin
      "echo a; try { repeat 2 { if true { echo b } else { echo c } } } catch { noop }").toOption.any
        (fun row => (row[1]?.bind (·.block)).isSome) = true := by
    decide +kernel
  obtain ⟨row, hp, hb⟩ := (Option.any_eq_true _ _).mp owner
  have hp := toOption_eq_some.mp hp
  obtain ⟨s, hs⟩ := Option.isSome_iff_exists.mp hb
  obtain ⟨i, hi, hs⟩ := Option.bind_eq_some_iff.mp hs
  exact ⟨row, i, s, hp, hi, hs, extractBlock_eq_layout hp hi hs⟩

end CommandScript
