import CommandScript.Proofs.Layout.Laid

/-! Braces that do not match. A closing brace that closes nothing is passed over, and one that is missing is taken to
    stand at the end of the text, so that any list of tokens makes the tree of one in which all braces match. Whatever
    the braces are, every command of the text is laid out once, in the order of the text. -/

namespace CommandScript

/-! ### Matching braces -/

/-- Tokens that close `depth` braces from before, and all braces that they open. -/
inductive Closes : (depth : Nat) → List Token → Prop
  | nil : Closes 0 []
  | command {depth : Nat} {rest : List Token} (text : String) (line : Nat) (more : Closes depth rest) :
    Closes depth (.command text line :: rest)
  | openBrace {depth : Nat} {rest : List Token} (more : Closes (depth + 1) rest) : Closes depth (.openBrace :: rest)
  | closeBrace {depth : Nat} {rest : List Token} (more : Closes depth rest) : Closes (depth + 1) (.closeBrace :: rest)

/-- Tokens without the closing braces that close nothing, where `depth` braces are open before them. -/
def withoutStray (depth : Nat) : List Token → List Token
  | [] => []
  | .command text line :: rest => .command text line :: withoutStray depth rest
  | .openBrace :: rest => .openBrace :: withoutStray (depth + 1) rest
  | .closeBrace :: rest =>
    match depth with
    | 0 => withoutStray 0 rest
    | depth + 1 => .closeBrace :: withoutStray depth rest

/-- How many braces are open behind tokens, where `depth` are open before them. -/
def openBraces (depth : Nat) : List Token → Nat
  | [] => depth
  | .command _ _ :: rest => openBraces depth rest
  | .openBrace :: rest => openBraces (depth + 1) rest
  | .closeBrace :: rest => openBraces (depth - 1) rest

/-- Tokens without the closing braces that close nothing, and with a closing brace more at the end for every brace that
    is not closed. -/
def mended (tokens : List Token) : List Token :=
  withoutStray 0 tokens ++ List.replicate (openBraces 0 tokens) .closeBrace

theorem closes_replicate (depth : Nat) : Closes depth (List.replicate depth .closeBrace) := by
  induction depth with
  | zero => exact .nil
  | succ depth ih => exact .closeBrace ih

/-- Mended tokens have matching braces. -/
theorem closes_mended (depth : Nat) (tokens : List Token) :
    Closes depth (withoutStray depth tokens ++ List.replicate (openBraces depth tokens) .closeBrace) := by
  induction tokens generalizing depth with
  | nil => exact closes_replicate depth
  | cons token rest ih =>
    cases token with
    | command text line => exact .command text line (ih depth)
    | openBrace => exact .openBrace (ih (depth + 1))
    | closeBrace =>
      cases depth with
      | zero => exact ih 0
      | succ depth => exact .closeBrace (ih depth)

/-- Nothing is to be mended where all braces match. -/
theorem Closes.mended_eq {depth : Nat} {tokens : List Token} (h : Closes depth tokens) :
    withoutStray depth tokens = tokens ∧ openBraces depth tokens = 0 := by
  induction h with
  | nil => exact ⟨rfl, rfl⟩
  | command text line _ ih => exact ⟨congrArg (Token.command text line :: ·) ih.1, ih.2⟩
  | openBrace _ ih => exact ⟨congrArg (Token.openBrace :: ·) ih.1, ih.2⟩
  | closeBrace _ ih => exact ⟨congrArg (Token.closeBrace :: ·) ih.1, ih.2⟩

/-! ### Trees of mended tokens -/

namespace Node

/-- Closing braces at the end close the levels that the end of the text closes. -/
theorem build_replicate (level : List Node) (outer : List (List Node)) :
    build level outer (List.replicate outer.length .closeBrace) = .ok (closeAll level outer) := by
  induction outer generalizing level with
  | nil => rfl
  | cons next outer ih => exact ih (addBlock level.reverse next)

theorem build_mended (level : List Node) (outer : List (List Node)) (tokens : List Token) :
    build level outer (withoutStray outer.length tokens ++
        List.replicate (openBraces outer.length tokens) .closeBrace) =
      build level outer tokens := by
  induction tokens generalizing level outer with
  | nil => exact build_replicate level outer
  | cons token rest ih =>
    cases token with
    | command text line => exact bind_congr fun i => ih (⟨i, none⟩ :: level) outer
    | openBrace => exact ih [] (level :: outer)
    | closeBrace =>
      cases outer with
      | nil => exact ih level []
      | cons next outer => exact ih (addBlock level.reverse next) outer

end Node

/-! ### Commands of a layout -/

/-- The commands that are laid out are those of the tree, in the same order. -/
theorem commands_of_layoutNodes {r : CommandRegistry} : ∀ {nodes : List Node} {index : Nat}
    {previous : Option Sibling} {laid : List Instruction}, (∀ i ∈ commandsOf nodes, i.Fresh) →
      layoutNodes r index previous nodes = .ok laid →
        (laid.filter (!·.isCallback)).map Instruction.unplaced = commandsOf nodes
  | [], index, previous, laid, _, h => by
    rw [layoutNodes] at h
    cases h
    rw [commandsOf]
    rfl
  | ⟨i, block⟩ :: rest, index, previous, laid, fresh, h => by
    rw [commandsOf, List.forall_mem_cons, List.forall_mem_append] at fresh
    obtain ⟨own, inside, behind⟩ := fresh
    have kept : ∀ link block, Instruction.isCallback { i with link := link, block := block } = false := fun _ _ => by
      rw [Instruction.isCallback, own.callbackOf]
      rfl
    have unplaced : ∀ link block, Instruction.unplaced { i with link := link, block := block } = i := fun _ _ =>
      own.unplaced_eq
    have ended : ∀ place, (blockEnd r i place).filter (!·.isCallback) = [] := fun place => by
      unfold blockEnd
      split <;> rfl
    obtain ⟨link, -, ⟨rfl, more, hm, rfl⟩ | ⟨children, body, more, rfl, hb, hm, rfl⟩⟩ := layoutNodes_cons_eq_ok.mp h
    · rw [commandsOf, blockCommands, ← commands_of_layoutNodes behind hm, List.filter_cons_of_pos (by rw [kept]; rfl),
        List.map_cons]
      exact congrArg (· :: _) own.unplaced_eq
    · rw [blockCommands] at inside
      rw [commandsOf, blockCommands, ← commands_of_layoutNodes inside hb, ← commands_of_layoutNodes behind hm,
        List.filter_cons_of_pos (by rw [kept]; rfl), List.filter_append, List.filter_append, ended, List.nil_append,
        List.map_cons, List.map_append, unplaced]

/-- Any tokens make the tree of the tokens with matching braces that they are mended to, and from every source text
    that is laid out come its commands, each once and in their order, with what they write. -/
theorem braces_mended : (∀ ts : List Token, Closes 0 (mended ts) ∧ (Closes 0 ts → mended ts = ts) ∧
      Node.ofTokens (mended ts) = Node.ofTokens ts) ∧
    ∀ (r : CommandRegistry) (source : String) (row : List Instruction), parseScript r source = .ok row →
      readCommands (tokens source) = .ok ((row.filter (!·.isCallback)).map Instruction.unplaced) := by
  refine ⟨fun ts => ⟨closes_mended 0 ts, fun h => ?_, Node.build_mended [] [] ts⟩, fun r source row h => ?_⟩
  · rw [mended, h.mended_eq.1, h.mended_eq.2]
    exact List.append_nil ts
  · obtain ⟨tree, ht, hl, -⟩ := parseScript_eq_ok.mp h
    have commands := readCommands_of_ofTokens ht
    rw [commands, commands_of_layoutNodes (fresh_of_readCommands commands) hl]

/-- A block without an owner, a brace that closes nothing, a second block of one command, and a block that is not
    closed. -/
theorem braces_mended_unmatched :
    mended [.openBrace, .command "echo a" 1, .closeBrace] = [.openBrace, .command "echo a" 1, .closeBrace] ∧
      ∃ row, parseScript .builtin
          "\x7b echo a \x7d \x7d if true \x7b echo b \x7d \x7b echo c \x7d repeat 2 \x7b echo d" = .ok row ∧
        row.length = 7 ∧
        readCommands (tokens
            "\x7b echo a \x7d \x7d if true \x7b echo b \x7d \x7b echo c \x7d repeat 2 \x7b echo d") =
          .ok ((row.filter (!·.isCallback)).map Instruction.unplaced) := by
  have length : (parseScript .builtin
      "\x7b echo a \x7d \x7d if true \x7b echo b \x7d \x7b echo c \x7d repeat 2 \x7b echo d").toOption.map
        List.length = some 7 := by
    decide +kernel
  obtain ⟨row, hp, hlen⟩ := Option.map_eq_some_iff.mp length
  have hp := toOption_eq_some.mp hp
  exact ⟨(braces_mended.1 _).2.1 (.openBrace (.command _ _ (.closeBrace .nil))), row, hp, hlen,
    braces_mended.2 _ _ row hp⟩

end CommandScript
