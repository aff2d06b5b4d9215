import CommandScript.Proofs.Rendering.Reading
import CommandScript.Proofs.Traces.Citations

/-! Scripts that are written and read again. Laying out does not see what is lost on the way, so a script whose
    instructions are all writable is read back as a whole, with the same places, links and variables. -/

namespace CommandScript

/-! ### Layout -/

theorem linkOf_of_same {command : Option Command} {i j : Instruction} {previous : Option Sibling}
    {link : Option Nat} (same : j.link = i.link) (h : linkOf command i previous = .ok link) :
    linkOf command j previous = .ok link := by
  unfold linkOf at h ⊢
  split at h
  · rw [same]
    exact h
  · split at h
    · split at h
      · rename_i allowed
        rw [if_pos allowed]
        exact h
      · cases h
    · cases h

theorem core_endOfBlock {i j : Instruction} (same : j.name = i.name) (index : Nat) :
    (j.endOfBlock index).core = (i.endOfBlock index).core := by
  rw [Instruction.endOfBlock, Instruction.endOfBlock, same]
  rfl

theorem core_blockEnd (r : CommandRegistry) {i j : Instruction} (same : j.name = i.name) (index : Nat) :
    (blockEnd r j index).map Instruction.core = (blockEnd r i index).map Instruction.core := by
  unfold blockEnd
  rw [same]
  split
  · exact congrArg (fun k => [k]) (core_endOfBlock same index)
  · rfl

theorem Instruction.name_eq_of_written_eq {i j : Instruction} (h : i.written = j.written) : i.name = j.name :=
  show i.written.name = j.written.name by rw [h]

/-- Trees whose instructions write the same are laid out in the same way. -/
theorem layoutNodes_of_written {r : CommandRegistry} : ∀ {nodes nodes' : List Node} {index : Nat}
    {previous : Option Sibling} {row : List Instruction}, (∀ i ∈ commandsOf nodes, i.Fresh) →
      (∀ i ∈ commandsOf nodes', i.Fresh) → writtenNodes nodes' = writtenNodes nodes →
      layoutNodes r index previous nodes = .ok row → ∃ row', layoutNodes r index previous nodes' = .ok row' ∧
        row'.map Instruction.core = row.map Instruction.core
  | [], [], index, previous, row, _, _, _, h => ⟨row, h, rfl⟩
  | [], ⟨_, _⟩ :: _, _, _, _, _, _, written, _ => by
    rw [writtenNodes, writtenNodes] at written
    cases written
  | ⟨i, block⟩ :: rest, [], _, _, _, _, _, written, _ => by
    rw [writtenNodes, writtenNodes] at written
    cases written
  | ⟨i, block⟩ :: rest, ⟨j, block'⟩ :: rest', index, previous, row, fresh, fresh', written, h => by
    rw [writtenNodes, writtenNodes, List.cons.injEq, Node.mk.injEq] at written
    obtain ⟨⟨same, blocks⟩, rests⟩ := written
    have name := Instruction.name_eq_of_written_eq same
    have hi : i.Fresh := fresh i (by simp [commandsOf])
    have hj : j.Fresh := fresh' j (by simp [commandsOf])
    obtain ⟨link, hlink, h⟩ := layoutNodes_cons_eq_ok.mp h
    have hlink' := linkOf_of_same (hj.link.trans hi.link.symm) hlink
    rw [← name] at hlink'
    rcases h with ⟨rfl, more, hmore, rfl⟩ | ⟨children, body, more, rfl, hbody, hmore, rfl⟩
    · have no_block : block' = none := by
        cases block' with
        | none => rfl
        | some _ =>
          rw [writtenBlock, writtenBlock] at blocks
          cases blocks
      obtain ⟨more', hmore', cores⟩ := layoutNodes_of_written (fun k hk => fresh k (by simp [commandsOf, hk]))
        (fun k hk => fresh' k (by simp [commandsOf, hk])) rests hmore
      rw [← name] at hmore'
      refine ⟨{ j with link := link } :: more',
        layoutNodes_cons_eq_ok.mpr ⟨link, hlink', Or.inl ⟨no_block, more', hmore', rfl⟩⟩, ?_⟩
      rw [List.map_cons, List.map_cons, cores]
      congr 1
      exact Instruction.core_eq_of_written_eq same (hj.block.trans hi.block.symm)
        (hj.callbackOf.trans hi.callbackOf.symm) rfl
    · cases block' with
      | none =>
        rw [writtenBlock, writtenBlock] at blocks
        cases blocks
      | some children' =>
        rw [writtenBlock, writtenBlock, Option.some.injEq] at blocks
        obtain ⟨body', hbody', inner⟩ := layoutNodes_of_written
          (fun k hk => fresh k (by simp [commandsOf, blockCommands, hk]))
          (fun k hk => fresh' k (by simp [commandsOf, blockCommands, hk])) blocks hbody
        obtain ⟨more', hmore', cores⟩ := layoutNodes_of_written (fun k hk => fresh k (by simp [commandsOf, hk]))
          (fun k hk => fresh' k (by simp [commandsOf, hk])) rests hmore
        have ends := core_blockEnd r name index
        -- The blocks are as long as before, so what stands behind them is laid out at the same places.
        have length : body'.length = body.length := by simpa using congrArg List.length inner
        have endLength : (blockEnd r j index).length = (blockEnd r i index).length := by
          simpa using congrArg List.length ends
        rw [← name, ← length, ← endLength] at hmore'
        refine ⟨_, layoutNodes_cons_eq_ok.mpr ⟨link, hlink',
          Or.inr ⟨children', body', more', rfl, hbody', hmore', rfl⟩⟩, ?_⟩
        rw [List.map_cons, List.map_cons, List.map_append, List.map_append, List.map_append, List.map_append, inner,
          ends, cores, length]
        congr 1
        exact Instruction.core_eq_of_written_eq same rfl (hj.callbackOf.trans hi.callbackOf.symm) rfl

/-- Every command of a tree is laid out. -/
theorem mem_of_layoutNodes {r : CommandRegistry} : ∀ {nodes : List Node} {index : Nat} {previous : Option Sibling}
    {row : List Instruction}, layoutNodes r index previous nodes = .ok row → ∀ i ∈ commandsOf nodes,
      ∃ link block, { i with link := link, block := block } ∈ row
  | [], _, _, _, _, i, hi => by
    rw [commandsOf] at hi
    cases hi
  | ⟨j, block⟩ :: rest, index, previous, row, h, i, hi => by
    obtain ⟨link, -, h⟩ := layoutNodes_cons_eq_ok.mp h
    rw [commandsOf, List.mem_cons, List.mem_append] at hi
    rcases h with ⟨rfl, more, hmore, rfl⟩ | ⟨children, body, more, rfl, hbody, hmore, rfl⟩
    · rcases hi with rfl | hi | hi
      · exact ⟨link, i.block, List.mem_cons_self⟩
      · rw [blockCommands] at hi
        cases hi
      · obtain ⟨link, block, hmem⟩ := mem_of_layoutNodes hmore i hi
        exact ⟨link, block, List.mem_cons_of_mem _ hmem⟩
    · rcases hi with rfl | hi | hi
      · exact ⟨link, some ⟨index + 1, index + 1 + body.length⟩, List.mem_cons_self⟩
      · rw [blockCommands] at hi
        obtain ⟨link, block, hmem⟩ := mem_of_layoutNodes hbody i hi
        exact ⟨link, block, List.mem_cons_of_mem _ (List.mem_append_left _ hmem)⟩
      · obtain ⟨link, block, hmem⟩ := mem_of_layoutNodes hmore i hi
        exact ⟨link, block, List.mem_cons_of_mem _ (List.mem_append_right _ (List.mem_append_right _ hmem))⟩

theorem scanned_sourceLines : ∀ {nodes : List Node} {depth : Nat}, (∀ i ∈ commandsOf nodes, i.Scanned) →
    ∀ l ∈ sourceLines depth nodes, l.Scanned
  | [], _, _, l, hl => by
    rw [sourceLines] at hl
    cases hl
  | ⟨i, none⟩ :: rest, depth, hs, l, hl => by
    rw [sourceLines, blockLines, List.nil_append, List.mem_cons] at hl
    rcases hl with rfl | hl
    · exact hs i (by simp [commandsOf])
    · exact scanned_sourceLines (fun k hk => hs k (by simp [commandsOf, hk])) l hl
  | ⟨i, some children⟩ :: rest, depth, hs, l, hl => by
    rw [sourceLines, blockLines, List.mem_cons, List.mem_append, List.mem_append, List.mem_singleton] at hl
    rcases hl with rfl | (hl | rfl) | hl
    · exact hs i (by simp [commandsOf])
    · exact scanned_sourceLines (fun k hk => hs k (by simp [commandsOf, blockCommands, hk])) l hl
    · trivial
    · exact scanned_sourceLines (fun k hk => hs k (by simp [commandsOf, hk])) l hl

/-! ### Source texts -/

/-- The source form of a laid-out tree is that of its lines. -/
theorem renderScript_of_layoutNodes {r : CommandRegistry} {tree : List Node} {row : List Instruction}
    (fresh : ∀ i ∈ commandsOf tree, i.Fresh) (h : layoutNodes r 0 none tree = .ok row) :
    renderScript row = String.ofList (linesText (sourceLines 0 tree)) := by
  have lines := @renderFrom_of_layoutNodes r tree 0 none row fresh h [] [] nofun
  have last : renderFrom (0 + row.length) [] [] = [] := rfl
  rw [last, List.append_nil, List.append_nil] at lines
  rw [renderScript, renderSpan, List.take_length, List.drop_zero, lines]
  rfl

/-- A source text is read back if each of its instructions is written as it is read. -/
theorem parseScript_renderScript {r : CommandRegistry} {source : String} {row : List Instruction}
    (h : parseScript r source = .ok row) (each : ∀ i ∈ row, i.callbackOf = none → i.Writable) :
    ∃ row', parseScript r (renderScript row) = .ok row' ∧ row'.map Instruction.core = row.map Instruction.core := by
  obtain ⟨tree, ht, hl, checks⟩ := parseScript_eq_ok.mp h
  have commands := readCommands_of_ofTokens ht
  have fresh := fresh_of_readCommands commands
  have scanned : ∀ i ∈ commandsOf tree, i.Scanned := fun i hi => by
    obtain ⟨link, block, hmem⟩ := mem_of_layoutNodes hl i hi
    obtain ⟨name, args, named, clear⟩ := each _ hmem (fresh i hi).callbackOf
    obtain ⟨token, read⟩ := read_of_mem_readCommands commands i hi
    exact Instruction.Writable.scanned ⟨name, args, named, clear⟩ (.of_read read (lineBreak_tokens token))
  have lines := tokens_linesText (@scanned_sourceLines tree 0 scanned)
  obtain ⟨tree', written, built⟩ := build_sourceLines scanned lines
  rw [← renderScript_of_layoutNodes fresh hl] at lines built
  have ht' : Node.ofTokens (tokens (renderScript row)) = .ok tree' := by
    have all := built [] [] []
    rw [List.append_nil, List.append_nil, Node.build, Node.closeAll, List.reverse_reverse] at all
    exact all
  have fresh' := fresh_of_readCommands (readCommands_of_ofTokens ht')
  obtain ⟨row', hl', cores⟩ := layoutNodes_of_written fresh fresh' written hl
  refine ⟨row', parseScript_eq_ok.mpr ⟨tree', ht', hl', fun j hj hc => ?_⟩, cores⟩
  obtain ⟨i, hi, same⟩ := List.mem_map.mp (cores ▸ List.mem_map_of_mem hj)
  exact Instruction.check_of_core_eq same
    (checks i hi ((Instruction.callbackOf_eq_of_core_eq same).trans hc))

/-- If each of its instructions is written as it is read, so is a script: its source form compiles to as many
    variables, and to the same names, wait flags, arguments, blocks, ends of blocks and links in the same places. -/
theorem Script.render_roundTrip {r : Registries} {name source : String} {predefined : List (String × String)}
    {s : Script} (h : ofSource r name source predefined = .ok s)
    (writable : ∀ i ∈ s.instructions, i.callbackOf = none → i.Writable) :
    ∃ s', ofSource r name s.render predefined = .ok s' ∧ s'.code.slots = s.code.slots ∧
      s'.instructions.map Instruction.core = s.instructions.map Instruction.core := by
  obtain ⟨row, hp, h⟩ := bind_eq_ok.mp h
  obtain ⟨code, hc, h⟩ := bind_eq_ok.mp h
  cases h
  have instructions : code.entries.toList.map (·.instruction) = row := (compile_entries hc).1
  obtain ⟨row', hp', cores⟩ := parseScript_renderScript hp (instructions ▸ writable)
  obtain ⟨code', hc', slots⟩ := compile_of_core_eq cores.symm hc
  have instructions' : code'.entries.toList.map (·.instruction) = row' := (compile_entries hc').1
  refine ⟨_, bind_eq_ok.mpr ⟨row', ?_, bind_eq_ok.mpr ⟨code', hc', rfl⟩⟩, slots, ?_⟩
  · rw [← hp', ← instructions]
    rfl
  · show (code'.entries.toList.map (·.instruction)).map Instruction.core =
      (code.entries.toList.map (·.instruction)).map Instruction.core
    rw [instructions', instructions, cores]

/-- A loop with a text between quotes that holds a quote and separators, a tag with a blank, an argument with a key,
    and a command that is waited for. -/
def quotedLoop : String :=
  "repeat 2 \x7b define x \"it's; \x7b\"; echo <\x7b var[x]\x7d> --to=b; &run b; \x7d"

/-- The instructions of `quotedLoop`. -/
def quotedLoopRow : List Instruction :=
  [{ name := "repeat", args := [.ofText "2"], line := 1, source := "repeat 2", block := some ⟨1, 4⟩ },
    { name := "define", args := [.ofText "x", ⟨[.text "it's; \x7b"], true⟩], line := 1,
      source := "define x \"it's; \x7b\"" },
    { name := "echo", args := [⟨[.tag ⟨[⟨"var", some (.ofText "x")⟩], none⟩], false⟩], named := [("to", .ofText "b")],
      line := 1, source := "echo <\x7b var[x]\x7d> --to=b" },
    { name := "run", args := [.ofText "b"], line := 1, source := "&run b", waitFor := true },
    { name := "repeat", line := 1, source := "repeat (end of block)", callbackOf := some 0 }]

theorem parseScript_quotedLoop : parseScript CommandRegistry.builtin quotedLoop = .ok quotedLoopRow := by
  with_unfolding_all rfl

theorem writable_quotedLoopRow : ∀ i ∈ quotedLoopRow, i.callbackOf = none → i.Writable := by
  decide

theorem Script.render_roundTrip_quotedLoop : ∃ s s', ofSource .builtin "a" quotedLoop [] = .ok s ∧
    s.render = "repeat 2 \x7b\n    define x \"it's; \x7b\";\n    echo <\x7bvar[x]\x7d> --to=b;\n    &run b;\n\x7d\n" ∧
    ofSource .builtin "a" s.render [] = .ok s' ∧ s'.code.slots = s.code.slots ∧
    s'.instructions.map Instruction.core = s.instructions.map Instruction.core := by
  have compiles : (compile .builtin quotedLoopRow []).toOption.isSome = true := by decide +kernel
  obtain ⟨code, hc⟩ := Option.isSome_iff_exists.mp compiles
  have hc := toOption_eq_some.mp hc
  have instructions : code.entries.toList.map (·.instruction) = quotedLoopRow := (compile_entries hc).1
  have hs : ofSource .builtin "a" quotedLoop [] = .ok
      { ofCode "a" (headerVerbosity (sourceHeaders quotedLoop)) code with headers := sourceHeaders quotedLoop } :=
    bind_eq_ok.mpr ⟨quotedLoopRow, parseScript_quotedLoop, bind_eq_ok.mpr ⟨code, hc, rfl⟩⟩
  obtain ⟨s', hs', same⟩ := render_roundTrip hs
    (show ∀ i ∈ code.entries.toList.map (·.instruction), i.callbackOf = none → i.Writable from
      instructions ▸ writable_quotedLoopRow)
  refine ⟨_, s', hs, ?_, hs', same⟩
  show renderScript (code.entries.toList.map (·.instruction)) = _
  rw [instructions]
  decide

/-- A word with quotes of both kinds takes in the command behind it. -/
example : ((Script.ofSource .builtin "a" "echo \"it's\"'\"'; echo b" []).toOption.bind fun s =>
    (Script.ofSource .builtin "a" s.render []).toOption.map fun s' => (s.length, s'.length)) = some (2, 1) := by
  decide +kernel

end CommandScript
