import CommandScript.Proofs.Outcome
import CommandScript.Script.Layout

/-! The commands of a tree in reading order. Braces only group commands: the tree of a list of tokens holds the
    commands that its tokens write, each once and in their order, and none of them knows its place yet. -/

namespace CommandScript

/-! ### Commands of a tree -/

mutual

/-- The commands of nodes in a row, each before those of its block. -/
def commandsOf : List Node → List Instruction
  | [] => []
  | ⟨i, block⟩ :: rest => i :: (blockCommands block ++ commandsOf rest)

/-- The commands of a block. -/
def blockCommands : Option (List Node) → List Instruction
  | none => []
  | some nodes => commandsOf nodes

end

theorem commandsOf_append (a b : List Node) : commandsOf (a ++ b) = commandsOf a ++ commandsOf b := by
  induction a with
  | nil => simp [commandsOf]
  | cons n rest ih =>
    obtain ⟨i, block⟩ := n
    simp only [List.cons_append, commandsOf, ih, List.append_assoc]

theorem commandsOf_singleton (i : Instruction) (block : Option (List Node)) :
    commandsOf [⟨i, block⟩] = i :: blockCommands block := by
  simp [commandsOf]

/-- The commands of levels that are open, the outermost first. All levels are written backwards. -/
def openCommands (level : List Node) : (outer : List (List Node)) → List Instruction
  | [] => commandsOf level.reverse
  | next :: outer => openCommands next outer ++ commandsOf level.reverse

theorem openCommands_cons (i : Instruction) (level : List Node) (outer : List (List Node)) :
    openCommands (⟨i, none⟩ :: level) outer = openCommands level outer ++ [i] := by
  cases outer <;>
    simp [openCommands, commandsOf_append, commandsOf_singleton, blockCommands]

theorem openCommands_nil (level : List Node) (outer : List (List Node)) :
    openCommands [] (level :: outer) = openCommands level outer := by
  simp [openCommands, commandsOf]

/-- A block adds its commands to its level, whether it gets an owner or not. -/
theorem commandsOf_addBlock (children level : List Node) :
    commandsOf (Node.addBlock children level).reverse = commandsOf level.reverse ++ commandsOf children := by
  cases level with
  | nil => simp [Node.addBlock, commandsOf]
  | cons last rest =>
    obtain ⟨i, block⟩ := last
    cases block <;>
      simp [Node.addBlock, commandsOf_append, commandsOf, blockCommands]

theorem openCommands_addBlock (children level : List Node) (outer : List (List Node)) :
    openCommands (Node.addBlock children level) outer = openCommands level outer ++ commandsOf children := by
  cases outer <;> simp [openCommands, commandsOf_addBlock]

theorem commandsOf_closeAll (level : List Node) (outer : List (List Node)) :
    commandsOf (Node.closeAll level outer) = openCommands level outer := by
  induction outer generalizing level with
  | nil => rfl
  | cons next outer ih => rw [Node.closeAll, ih, openCommands_addBlock, openCommands]

/-! ### Commands of tokens -/

/-- What the commands among tokens write, in order. -/
def readCommands : List Token → Except CompileError (List Instruction)
  | [] => .ok []
  | .command text line :: rest => do
    let i ← Instruction.read text line
    let more ← readCommands rest
    return i :: more
  | .openBrace :: rest => readCommands rest
  | .closeBrace :: rest => readCommands rest

theorem readCommands_cons {text : String} {line : Nat} {rest : List Token} {i : Instruction}
    {more : List Instruction} (hi : Instruction.read text line = .ok i) (hm : readCommands rest = .ok more) :
    readCommands (.command text line :: rest) = .ok (i :: more) := by
  simp only [readCommands, hi, hm]
  rfl

theorem commandsOf_build {level : List Node} {outer : List (List Node)} {tokens : List Token} {tree : List Node}
    (h : Node.build level outer tokens = .ok tree) :
    ∃ more, readCommands tokens = .ok more ∧ commandsOf tree = openCommands level outer ++ more := by
  induction tokens generalizing level outer with
  | nil =>
    cases h
    exact ⟨[], rfl, by rw [commandsOf_closeAll, List.append_nil]⟩
  | cons token rest ih =>
    cases token with
    | command text line =>
      obtain ⟨i, hi, h⟩ := bind_eq_ok.mp h
      obtain ⟨more, hm, ht⟩ := ih h
      refine ⟨i :: more, readCommands_cons hi hm, ?_⟩
      rw [ht, openCommands_cons, List.append_assoc, List.singleton_append]
    | openBrace =>
      obtain ⟨more, hm, ht⟩ := ih h
      exact ⟨more, hm, by rw [ht, openCommands_nil]⟩
    | closeBrace =>
      cases outer with
      | nil => exact ih h
      | cons next outer =>
        obtain ⟨more, hm, ht⟩ := ih h
        refine ⟨more, hm, ?_⟩
        rw [ht, openCommands_addBlock, openCommands]

/-- The tree of tokens has the commands that the tokens write, in their order. -/
theorem readCommands_of_ofTokens {tokens : List Token} {tree : List Node} (h : Node.ofTokens tokens = .ok tree) :
    readCommands tokens = .ok (commandsOf tree) := by
  obtain ⟨more, hm, ht⟩ := commandsOf_build h
  rw [ht]
  simpa [openCommands, commandsOf] using hm

/-! ### Commands without a place -/

/-- A command that has no place in a script yet. -/
structure Instruction.Fresh (i : Instruction) : Prop where
  block : i.block = none
  callbackOf : i.callbackOf = none
  link : i.link = none

/-- An instruction without its place. -/
def Instruction.unplaced (i : Instruction) : Instruction :=
  { i with block := none, callbackOf := none, link := none }

theorem Instruction.Fresh.unplaced_eq {i : Instruction} (h : i.Fresh) : i.unplaced = i := by
  obtain ⟨name, args, named, line, source, block, waitFor, callbackOf, link⟩ := i
  obtain ⟨rfl, rfl, rfl⟩ := h
  rfl

theorem Instruction.Fresh.addWord {i j : Instruction} {w : Word} (hi : i.Fresh) (h : i.addWord w = .ok j) :
    j.Fresh := by
  unfold Instruction.addWord at h
  split at h <;>
  · obtain ⟨a, -, h⟩ := bind_eq_ok.mp h
    cases h
    exact ⟨hi.block, hi.callbackOf, hi.link⟩

/-- Whether the first word of a command begins with an ampersand, and the name it writes. -/
def commandName : List Char → Bool × List Char
  | '&' :: name => (true, name)
  | name => (false, name)

/-- The instruction that a first word begins. -/
def Instruction.ofHead (head : Word) (line : Nat) (source : String) : Instruction :=
  { ofName (String.ofList (commandName head.chars).2) line with
    waitFor := (commandName head.chars).1, source := source }

theorem Instruction.read_cons {text : String} {head : Word} {rest : List Word} (line : Nat)
    (h : words text.toList = head :: rest) :
    Instruction.read text line =
      if (commandName head.chars).2.isEmpty then .error ⟨line, .badSyntax .missingName⟩
      else
        match rest.foldlM Instruction.addWord (ofHead head line text) with
        | .ok i => .ok i
        | .error e => .error ⟨line, .badSyntax (.argument e)⟩ := by
  unfold Instruction.read
  rw [h]
  rfl

/-- A text writes an instruction exactly if it has a first word, which is a name, and all other words add an
    argument. -/
theorem Instruction.read_eq_ok {text : String} {line : Nat} {i : Instruction} :
    Instruction.read text line = .ok i ↔ ∃ head rest, words text.toList = head :: rest ∧
      (commandName head.chars).2 ≠ [] ∧ rest.foldlM Instruction.addWord (ofHead head line text) = .ok i := by
  cases hw : words text.toList with
  | nil =>
    unfold Instruction.read
    rw [hw]
    exact ⟨fun h => (by cases h), fun ⟨_, _, h, _⟩ => (by cases h)⟩
  | cons head rest =>
    rw [Instruction.read_cons line hw]
    constructor
    · intro h
      split at h
      · cases h
      · rename_i hn
        split at h
        · rename_i j hf
          cases h
          exact ⟨head, rest, rfl, fun h0 => hn (by rw [h0]; rfl), hf⟩
        · cases h
    · rintro ⟨head', rest', he, hn, hf⟩
      cases he
      rw [if_neg (by simpa using hn), hf]

theorem Instruction.fresh_of_read {text : String} {line : Nat} {i : Instruction}
    (h : Instruction.read text line = .ok i) : i.Fresh := by
  obtain ⟨head, rest, -, -, h⟩ := Instruction.read_eq_ok.mp h
  exact foldlM_keeps Instruction.Fresh (fun _ _ _ hi hj => hi.addWord hj) ⟨rfl, rfl, rfl⟩ h

theorem fresh_of_readCommands {tokens : List Token} {is : List Instruction} (h : readCommands tokens = .ok is) :
    ∀ i ∈ is, i.Fresh := by
  induction tokens generalizing is with
  | nil =>
    cases h
    simp
  | cons token rest ih =>
    cases token with
    | command text line =>
      obtain ⟨i, hi, h⟩ := bind_eq_ok.mp h
      obtain ⟨more, hm, h⟩ := bind_eq_ok.mp h
      cases h
      intro j hj
      rcases List.mem_cons.mp hj with rfl | hj
      · exact Instruction.fresh_of_read hi
      · exact ih hm j hj
    | openBrace => exact ih h
    | closeBrace => exact ih h

end CommandScript
