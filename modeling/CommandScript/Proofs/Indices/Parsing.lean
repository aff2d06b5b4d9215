import CommandScript.Proofs.Indices.Arguments
import CommandScript.Proofs.Layout.WellLaid

/-! Reading a whole source text, with the places that are looked at: the words of its commands, its tokens, the
    instructions that are laid out so far, and the arguments that a check asks for. No source text makes the reader look
    beyond an end, or take a difference below zero. -/

namespace CommandScript

/-! ### Instructions -/

namespace Instruction

/-- Adds the argument that a word writes, with the places that are looked at. -/
def addWordIndexed (i : Instruction) (w : Word) : OptionT (Except ReadError) Instruction :=
  match w.named? with
  | some (key, value) => do
    let arg ← readArgumentIndexed value
    return { i with named := insertNamed (Text.asciiLower (String.ofList key)) arg i.named }
  | none => do
    let arg ← readArgumentIndexed w.chars
    return { i with args := i.args ++ [{ arg with quoted := w.quoted }] }

/-- The instruction that the text of a command writes, with the places that are looked at. -/
def readIndexed (text : String) (line : Nat) : OptionT (Except CompileError) Instruction := do
  let words ← found (wordsIndexed text.toList)
  match words with
  | [] => OptionT.mk (.error ⟨line, .badSyntax .emptyCommand⟩)
  | head :: rest =>
    if (commandName head.chars).2.isEmpty then OptionT.mk (.error ⟨line, .badSyntax .missingName⟩)
    else
      let read := rest.foldlM addWordIndexed (ofHead head line text)
      OptionT.mk (read.run.mapError (⟨line, .badSyntax <| .argument ·⟩))

theorem addWordIndexed_inBounds (i : Instruction) (w : Word) : InBounds (i.addWordIndexed w) (i.addWord w) := by
  unfold addWordIndexed addWord
  cases w.named? with
  | none => exact (readArgumentIndexed_inBounds _).bind fun _ _ => .pure _
  | some parts => exact (readArgumentIndexed_inBounds _).bind fun _ _ => .pure _

/-- No command is read beyond its end. -/
theorem readIndexed_inBounds (text : String) (line : Nat) : InBounds (readIndexed text line) (read text line) := by
  refine .finds (wordsIndexed_eq text.toList) ?_
  cases hw : words text.toList with
  | nil =>
    rw [read, hw]
    exact .error _
  | cons head rest =>
    rw [read_cons line hw]
    dsimp only
    split
    · exact .error _
    · have fold : InBounds (rest.foldlM addWordIndexed (ofHead head line text))
          (rest.foldlM addWord (ofHead head line text)) :=
        .foldlM (P := fun _ => True) (fun i w _ => i.addWordIndexed_inBounds w) (fun _ _ _ _ _ => trivial) trivial
      have read := fold.mapError (⟨line, .badSyntax <| .argument ·⟩ : ReadError → CompileError)
      generalize rest.foldlM addWord (ofHead head line text) = result at read ⊢
      cases result <;> exact read

end Instruction

/-! ### Trees -/

/-- The tree that the tokens from a place on make after `level` and `outer`. -/
def Node.buildIndexed (tokens : List Token) (level : List Node) (outer : List (List Node)) (pos : Nat) :
    OptionT (Except CompileError) (List Node) :=
  if pos < tokens.length then do
    match ← found tokens[pos]? with
    | .command text line =>
      let i ← Instruction.readIndexed text line
      buildIndexed tokens (⟨i, none⟩ :: level) outer (pos + 1)
    | .openBrace => buildIndexed tokens [] (level :: outer) (pos + 1)
    | .closeBrace =>
      match outer with
      | [] => buildIndexed tokens level [] (pos + 1)
      | next :: outer => buildIndexed tokens (addBlock level.reverse next) outer (pos + 1)
  else return closeAll level outer
termination_by tokens.length - pos

/-- No token is looked for beyond the last. -/
theorem Node.buildIndexed_inBounds {tokens rest : List Token} {pos : Nat} (h : tokens.drop pos = rest)
    (level : List Node) (outer : List (List Node)) :
    InBounds (buildIndexed tokens level outer pos) (build level outer rest) := by
  induction rest generalizing pos level outer with
  | nil =>
    rw [buildIndexed.eq_def, if_neg (Nat.not_lt.mpr (length_le_of_drop_nil h))]
    exact .pure _
  | cons token rest ih =>
    have later := drop_succ_of_drop h
    rw [buildIndexed.eq_def, if_pos (lt_length_of_drop h)]
    refine .finds (getElem?_of_drop h) ?_
    cases token with
    | command text line => exact (Instruction.readIndexed_inBounds text line).bind fun i _ => ih later _ _
    | openBrace => exact ih later _ _
    | closeBrace =>
      cases outer with
      | nil => exact ih later _ _
      | cons next outer => exact ih later _ _

/-! ### Layout -/

/-- The place of the command that `i` continues, which is looked up among what is laid out so far. -/
def linkIndexed (command : Option Command) (i : Instruction) (out : List Instruction) (previous : Option Nat) :
    OptionT (Except CompileError) (Option Nat) :=
  match command.bind (·.signature.follows) with
  | none => return i.link
  | some allowed =>
    match previous with
    | some p => do
      let before ← found out[p]?
      if allowed.contains before.name then return some p
      else OptionT.mk (.error ⟨i.line, .rejected (.misplaced i.name allowed)⟩)
    | none => OptionT.mk (.error ⟨i.line, .rejected (.misplaced i.name allowed)⟩)

mutual

/-- Lays out nodes behind what is laid out so far, after the sibling at `previous`. -/
def layoutIndexed (r : CommandRegistry) (out : List Instruction) (previous : Option Nat) :
    List Node → OptionT (Except CompileError) (List Instruction)
  | [] => return out
  | ⟨i, block⟩ :: rest => do
    let link ← linkIndexed (r.get? i.name) i out previous
    let laid ← layoutBlockIndexed r (out ++ [{ i with link := link }]) out.length block
    layoutIndexed r laid (some out.length) rest

/-- Lays out the block of the instruction at `index`, which learns where its block is. -/
def layoutBlockIndexed (r : CommandRegistry) (out : List Instruction) (index : Nat) :
    Option (List Node) → OptionT (Except CompileError) (List Instruction)
  | none => return out
  | some nodes => do
    let laid ← layoutIndexed r out none nodes
    let owner ← found laid[index]?
    return laid.set index { owner with block := some ⟨out.length, laid.length⟩ } ++ blockEnd r owner index

end

section
variable {i : Instruction} {out : List Instruction} {previous : Option Sibling}

/-- Siblings are where they are looked for. -/
def Sibling.In (out : List Instruction) (s : Sibling) : Prop :=
  (out[s.index]?).map (·.name) = some s.name

theorem linkIndexed_inBounds (command : Option Command) (i : Instruction) (known : ∀ s ∈ previous, s.In out) :
    InBounds (linkIndexed command i out (previous.map (·.index))) (linkOf command i previous) := by
  unfold linkIndexed linkOf
  cases command.bind (·.signature.follows) with
  | none => exact .pure _
  | some allowed =>
    cases previous with
    | none => exact .error _
    | some s =>
      obtain ⟨before, here, name⟩ := Option.map_eq_some_iff.mp (known s rfl)
      refine .finds here ?_
      rw [name]
      dsimp only
      split
      · exact .pure _
      · exact .error _

theorem set_block (link : Option Nat) (body : List Instruction) (s : Span) :
    (out ++ [{ i with link := link }] ++ body).set out.length { i with link := link, block := some s } =
      out ++ { i with link := link, block := some s } :: body := by
  rw [List.append_assoc, List.set_append_right _ _ (Nat.le_refl _), Nat.sub_self]
  rfl

end

/-- What is laid out behind other instructions, without looking beyond them. -/
theorem layoutIndexed_inBounds (r : CommandRegistry) : ∀ (nodes : List Node) (out : List Instruction)
    (previous : Option Sibling), (∀ s ∈ previous, s.In out) →
      InBounds (layoutIndexed r out (previous.map (·.index)) nodes)
        ((out ++ ·) <$> layoutNodes r out.length previous nodes)
  | [], out, previous, _ => by
    rw [layoutIndexed, layoutNodes]
    have same : ((out ++ ·) <$> .ok [] : Except CompileError (List Instruction)) = .ok out :=
      congrArg Except.ok (List.append_nil out)
    rw [same]
    exact .pure out
  | ⟨i, none⟩ :: rest, out, previous, known => by
    rw [layoutIndexed, layoutNodes_plain, map_bind]
    refine (linkIndexed_inBounds _ i known).bind fun link _ => ?_
    rw [layoutBlockIndexed, pure_bind]
    have size : (out ++ [{ i with link := link }]).length = out.length + 1 := List.length_append
    have more := layoutIndexed_inBounds r rest (out ++ [{ i with link := link }])
      (some ⟨out.length, i.name⟩) fun s hs => by
        cases hs
        simp [Sibling.In]
    rw [size] at more
    rw [bind_pure_comp, ← comp_map]
    have joined : (out ++ ·) ∘ ({ i with link := link } :: ·) = (out ++ [{ i with link := link }] ++ ·) := by
      funext more
      simp
    rw [joined]
    exact more
  | ⟨i, some children⟩ :: rest, out, previous, known => by
    rw [layoutIndexed, layoutNodes_owner, map_bind]
    refine (linkIndexed_inBounds _ i known).bind fun link _ => ?_
    rw [layoutBlockIndexed, bind_assoc, map_bind]
    have size : (out ++ [{ i with link := link }]).length = out.length + 1 := List.length_append
    have inner := layoutIndexed_inBounds r children (out ++ [{ i with link := link }]) none fun s hs => (by cases hs)
    rw [size] at inner
    refine inner.bindMap fun body _ => ?_
    have owner : (out ++ [{ i with link := link }] ++ body)[out.length]? = some { i with link := link } := by
      simp
    rw [bind_assoc]
    refine .finds owner ?_
    rw [pure_bind, size, List.length_append, size, set_block]
    let own : Instruction := { i with link := link, block := some ⟨out.length + 1, out.length + 1 + body.length⟩ }
    have more := layoutIndexed_inBounds r rest (out ++ own :: body ++ blockEnd r i out.length)
      (some ⟨out.length, i.name⟩) fun s hs => by
        cases hs
        simp [Sibling.In, own]
    have size : (out ++ own :: body ++ blockEnd r i out.length).length =
        out.length + 1 + body.length + (blockEnd r i out.length).length := by
      simp only [List.length_append, List.length_cons]
      omega
    have joined : (out ++ ·) ∘ (fun more => own :: (body ++ (blockEnd r i out.length ++ more))) =
        (out ++ own :: body ++ blockEnd r i out.length ++ ·) := by
      funext more
      simp
    rw [size] at more
    rw [bind_pure_comp, ← comp_map, joined]
    exact more

/-! ### Checks -/

/-- What a command checks of its own, with the arguments that are looked at. -/
def Action.checkIndexed (a : Action) (i : Instruction) : OptionT (Except Rejection) Unit :=
  match a with
  | debug => do
    match (← found i.args[0]?).literal? with
    | some text => Rejection.unless .unknownVerbosity (Verbosity.read text)
    | none => return
  | set => do
    let _ ← plainName i 0
    let op := Text.trim ((← found i.args[1]?).literal?.getD "")
    if (SetMode.read? op).isNone then OptionT.mk (.error (.unknownSetter op))
  | a => a.check i

/-- What a command accepts, with the arguments that are looked at. -/
def Command.checkIndexed (c : Command) (i : Instruction) : OptionT (Except Rejection) Unit := do
  let s := c.signature
  if i.args.length < s.minArgs then OptionT.mk (.error (.tooFewArguments s.name s.usage))
  if s.maxArgs.any (· < i.args.length) then OptionT.mk (.error (.tooManyArguments s.name s.usage))
  if s.block = .required ∧ i.block.isNone then OptionT.mk (.error (.blockRequired s.name))
  if s.block = .forbidden ∧ i.block.isSome then OptionT.mk (.error (.blockForbidden s.name))
  if i.waitFor ∧ !s.waitable then OptionT.mk (.error (.notWaitable s.name))
  c.action.checkIndexed i

/-- Checks an instruction, with the arguments that are looked at. -/
def Instruction.checkIndexed (r : CommandRegistry) (i : Instruction) : OptionT (Except CompileError) Unit :=
  match r.get? i.name with
  | none => return
  | some c => OptionT.mk ((c.checkIndexed i).run.mapError (⟨i.line, .rejected ·⟩))

/-- How many arguments the own check of a command takes to be there. -/
def Action.argumentsTaken : Action → Nat
  | debug => 1
  | set => 2
  | _ => 0

/-- The commands that come with every engine ask for the arguments that their own checks take to be there. -/
theorem argumentsTaken_builtin :
    ∀ c ∈ CommandRegistry.builtin.commands, c.action.argumentsTaken ≤ c.signature.minArgs := by
  decide

/-- The own check of a command looks at no argument beyond the last where enough of them are there. -/
theorem Action.checkIndexed_inBounds {a : Action} {i : Instruction} (enough : a.argumentsTaken ≤ i.args.length) :
    InBounds (a.checkIndexed i) (a.check i) := by
  have here : ∀ {n : Nat} (lt : n < i.args.length), i.args[n]? = some i.args[n] := List.getElem?_eq_getElem
  cases a with
  | debug =>
    rw [check, List.head?_eq_getElem?, here enough]
    refine .finds (here enough) ?_
    dsimp only [Option.bind_some]
    cases i.args[0].literal? with
    | none => exact .pure _
    | some text => exact .lift _
  | set =>
    rw [check]
    refine (InBounds.lift _).bind fun _ _ => .finds (here enough) ?_
    rw [here enough]
    dsimp only [Option.bind_some]
    split
    · exact .error _
    · exact .pure _
  | _ => exact .lift _

/-- No command is checked beyond its arguments, as their number is checked first. -/
theorem Command.checkIndexed_inBounds {c : Command} (asks : c.action.argumentsTaken ≤ c.signature.minArgs)
    (i : Instruction) : InBounds (c.checkIndexed i) (c.check i) := by
  unfold checkIndexed check
  refine .refused fun many => .refused fun _ => .refused fun _ => .refused fun _ => .refused fun _ => ?_
  exact Action.checkIndexed_inBounds (Nat.le_trans asks (Nat.not_lt.mp many))

/-- No instruction is checked beyond its arguments. -/
theorem Instruction.checkIndexed_inBounds {r : CommandRegistry}
    (asks : ∀ c ∈ r.commands, c.action.argumentsTaken ≤ c.signature.minArgs) (i : Instruction) :
    InBounds (i.checkIndexed r) (i.check r) := by
  unfold checkIndexed check
  cases hc : r.get? i.name with
  | none => exact .pure ()
  | some c =>
    have checked := (Command.checkIndexed_inBounds (asks c (List.mem_of_find?_eq_some hc)) i).mapError
      (⟨i.line, .rejected ·⟩ : Rejection → CompileError)
    dsimp only
    generalize c.check i = result at checked ⊢
    cases result <;> exact checked

/-! ### Source texts -/

/-- The instructions of a source text, with the places that are looked at. -/
def parseIndexed (r : CommandRegistry) (source : String) : OptionT (Except CompileError) (List Instruction) := do
  let tokens ← found (tokensIndexed source)
  let tree ← Node.buildIndexed tokens [] [] 0
  let laid ← layoutIndexed r [] none tree
  for i in laid do
    if !i.isCallback then i.checkIndexed r
  return laid

/-- No source text is read, laid out or checked beyond an end. -/
theorem parseIndexed_inBounds {r : CommandRegistry}
    (asks : ∀ c ∈ r.commands, c.action.argumentsTaken ≤ c.signature.minArgs) (source : String) :
    InBounds (parseIndexed r source) (parseScript r source) := by
  refine .finds (tokensIndexed_eq source) ((Node.buildIndexed_inBounds rfl [] []).bind fun tree _ => ?_)
  have laid := layoutIndexed_inBounds r tree [] none fun s hs => (by cases hs)
  refine laid.bindMap fun row _ => (InBounds.forIn (fun i _ => ?_) row PUnit.unit).bind fun _ _ => .pure row
  split
  · exact (i.checkIndexed_inBounds asks).bind fun _ _ => .pure _
  · exact .pure _

end CommandScript
