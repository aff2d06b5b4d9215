import CommandScript.Proofs.Layout.Laid

/-! The source form of a script, line by line. A line holds a command or ends a block, and the lines of a script are
    those of its tree: rendering the instructions in their places comes to writing the tree. -/

namespace CommandScript

/-- A line of the source form of a script. -/
inductive SourceLine where
  /-- A command, which may own a block. -/
  | command (depth : Nat) (i : Instruction) (owner : Bool)
  /-- The end of a block. -/
  | close (depth : Nat)

/-- The characters behind a command. -/
def commandEnd (owner : Bool) : List Char :=
  if owner then [' ', '\x7b', '\n'] else [';', '\n']

/-- The text of a line. -/
def SourceLine.chars : SourceLine → List Char
  | .command depth i owner => indent depth ++ (i.renderChars ++ commandEnd owner)
  | .close depth => indent depth ++ ['\x7d', '\n']

mutual

/-- The lines of nodes in a row. -/
def sourceLines (depth : Nat) : List Node → List SourceLine
  | [] => []
  | ⟨i, block⟩ :: rest => .command depth i block.isSome :: (blockLines depth block ++ sourceLines depth rest)

/-- The lines of a block behind that of its owner. -/
def blockLines (depth : Nat) : Option (List Node) → List SourceLine
  | none => []
  | some nodes => sourceLines (depth + 1) nodes ++ [.close depth]

end

/-- The text of lines. -/
def linesText (lines : List SourceLine) : List Char :=
  lines.flatMap SourceLine.chars

theorem linesText_cons (l : SourceLine) (lines : List SourceLine) :
    linesText (l :: lines) = l.chars ++ linesText lines :=
  List.flatMap_cons ..

theorem linesText_append (a b : List SourceLine) : linesText (a ++ b) = linesText a ++ linesText b :=
  List.flatMap_append

/-! ### The source form of instructions in their places -/

section
variable {index : Nat} {ends : List Nat}

theorem closeBlocks_of_lt (h : ∀ e ∈ ends, index < e) : closeBlocks index ends = ([], ends) := by
  cases ends with
  | nil => rfl
  | cons e ends => rw [closeBlocks, if_neg (Nat.not_le.mpr (h e List.mem_cons_self))]

/-- A block that ends at the place at hand is closed first. -/
theorem renderFrom_close (more : List Instruction) :
    renderFrom index (index :: ends) more =
      SourceLine.chars (.close ends.length) ++ renderFrom index ends more := by
  have closed : closeBlocks index (index :: ends) =
      (SourceLine.chars (.close ends.length) ++ (closeBlocks index ends).1, (closeBlocks index ends).2) := by
    rw [closeBlocks, if_pos (Nat.le_refl _), SourceLine.chars, List.append_assoc]
    rfl
  cases more with
  | nil => rw [renderFrom, closed, renderFrom]
  | cons i rest =>
    rw [renderFrom, closed, renderFrom]
    simp only [List.append_assoc]

variable {i : Instruction}

section
variable (h : ∀ e ∈ ends, index < e) (rest : List Instruction)
include h

theorem renderFrom_callback {owner : Nat} (hc : i.callbackOf = some owner) :
    renderFrom index ends (i :: rest) = renderFrom (index + 1) ends rest := by
  have hc : i.isCallback = true := by rw [Instruction.isCallback, hc]; rfl
  rw [renderFrom, closeBlocks_of_lt h]
  cases hb : i.block <;> simp [hc]

theorem renderFrom_plain (hc : i.callbackOf = none) (hb : i.block = none) :
    renderFrom index ends (i :: rest) =
      SourceLine.chars (.command ends.length i false) ++ renderFrom (index + 1) ends rest := by
  have hc : i.isCallback = false := by rw [Instruction.isCallback, hc]; rfl
  rw [renderFrom, closeBlocks_of_lt h]
  simp [hc, hb, SourceLine.chars, commandEnd]

theorem renderFrom_owner {s : Span} (hc : i.callbackOf = none) (hb : i.block = some s) :
    renderFrom index ends (i :: rest) =
      SourceLine.chars (.command ends.length i true) ++ renderFrom (index + 1) (s.stop :: ends) rest := by
  have hc : i.isCallback = false := by rw [Instruction.isCallback, hc]; rfl
  rw [renderFrom, closeBlocks_of_lt h]
  simp [hc, hb, SourceLine.chars, commandEnd]

end

/-- The instruction for the end of a block writes nothing. -/
theorem renderFrom_blockEnd {r : CommandRegistry} {owner : Nat}
    (h : ∀ e ∈ ends, index + (blockEnd r i owner).length ≤ e) (rest : List Instruction) :
    renderFrom index ends (blockEnd r i owner ++ rest) =
      renderFrom (index + (blockEnd r i owner).length) ends rest := by
  unfold blockEnd at h ⊢
  split
  · rename_i needs
    rw [if_pos needs] at h
    exact renderFrom_callback (fun e he => h e he) rest rfl
  · rfl

end

/-- The source form of instructions that are laid out from a tree are the lines of the tree. -/
theorem renderFrom_of_layoutNodes {r : CommandRegistry} : ∀ {nodes : List Node} {index : Nat}
    {previous : Option Sibling} {row : List Instruction}, (∀ i ∈ commandsOf nodes, i.Fresh) →
      layoutNodes r index previous nodes = .ok row → ∀ {ends : List Nat} (more : List Instruction),
      (∀ e ∈ ends, index + row.length ≤ e) →
      renderFrom index ends (row ++ more) =
        linesText (sourceLines ends.length nodes) ++ renderFrom (index + row.length) ends more
  | [], index, previous, row, _, h, ends, more, _ => by
    rw [layoutNodes] at h
    cases h
    rw [sourceLines]
    rfl
  | ⟨i, none⟩ :: rest, index, previous, row, hfresh, h, ends, more, hends => by
    obtain ⟨link, -, ⟨-, tail, ht, rfl⟩ | ⟨_, _, _, hb, -⟩⟩ := layoutNodes_cons_eq_ok.mp h
    · have hi : i.Fresh := hfresh i (by simp [commandsOf])
      have fresh : ∀ j ∈ commandsOf rest, j.Fresh := fun j hj => hfresh j (by simp [commandsOf, hj])
      simp only [List.length_cons] at hends
      have own := @renderFrom_plain index ends { i with link := link } (fun e he => by have := hends e he; omega)
        (tail ++ more) hi.callbackOf hi.block
      have after := renderFrom_of_layoutNodes fresh ht more fun e he => by have := hends e he; omega
      have place : index + 1 + tail.length = index + (tail.length + 1) := by omega
      rw [List.cons_append, own, after, sourceLines, blockLines, List.nil_append, linesText_cons, List.append_assoc,
        List.length_cons, place]
      rfl
    · cases hb
  | ⟨i, some children⟩ :: rest, index, previous, row, hfresh, h, ends, more, hends => by
    obtain ⟨link, -, ⟨hb, -⟩ | ⟨_, body, tail, hc, hb, ht, rfl⟩⟩ := layoutNodes_cons_eq_ok.mp h
    · cases hb
    · cases hc
      have hi : i.Fresh := hfresh i (by simp [commandsOf])
      have fresh : ∀ j ∈ commandsOf children, j.Fresh := fun j hj =>
        hfresh j (by simp [commandsOf, blockCommands, hj])
      have fresh' : ∀ j ∈ commandsOf rest, j.Fresh := fun j hj => hfresh j (by simp [commandsOf, hj])
      simp only [List.length_cons, List.length_append] at hends
      have own := @renderFrom_owner index ends
        { i with link := link, block := some ⟨index + 1, index + 1 + body.length⟩ }
        (fun e he => by have := hends e he; omega) (body ++ (blockEnd r i index ++ (tail ++ more)))
        ⟨index + 1, index + 1 + body.length⟩ hi.callbackOf rfl
      have bounds : ∀ e ∈ (index + 1 + body.length) :: ends, index + 1 + body.length ≤ e :=
        List.forall_mem_cons.mpr ⟨Nat.le_refl _, fun e he => by have := hends e he; omega⟩
      have inner := renderFrom_of_layoutNodes fresh hb (blockEnd r i index ++ (tail ++ more)) bounds
      -- Where the block ends its brace is written, and the instruction for the end writes nothing.
      have ended : renderFrom (index + 1 + body.length) ends (blockEnd r i index ++ (tail ++ more)) =
          renderFrom (index + 1 + body.length + (blockEnd r i index).length) ends (tail ++ more) := by
        exact renderFrom_blockEnd (fun e he => by have := hends e he; omega) _
      have after := renderFrom_of_layoutNodes fresh' ht more fun e he => by have := hends e he; omega
      have place : ∀ o : Instruction, index + 1 + body.length + (blockEnd r i index).length + tail.length =
          index + (o :: (body ++ (blockEnd r i index ++ tail))).length := fun o => by
        simp only [List.length_cons, List.length_append]
        omega
      have depth : ((index + 1 + body.length) :: ends).length = ends.length + 1 := rfl
      rw [List.cons_append, List.append_assoc, List.append_assoc, own, inner, renderFrom_close, ended, after,
        sourceLines, blockLines, linesText_cons, linesText_append, linesText_append, place, depth]
      simp only [List.append_assoc, linesText, List.flatMap_cons, List.flatMap_nil, List.append_nil]
      rfl

end CommandScript
