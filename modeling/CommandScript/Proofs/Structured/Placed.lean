import CommandScript.Proofs.Compile.Entries
import CommandScript.Proofs.Layout.Places
import CommandScript.Proofs.Structured.Acts

/-! Where the statements of a tree stand in the flat code. Every statement has its entry right before its block, and
    behind the block there is an entry for the end of it exactly if the owner asks for one. -/

namespace CommandScript

/-! ### Structured commands -/

/-- The commands that keep to the tree of their script. -/
def structuredNames : List String :=
  ["echo", "noop", "help", "debug", "define", "set", "determine", "error", "if", "else", "repeat", "foreach", "once",
    "try", "catch"]

/-- Whether the instruction at the end of a block does something for a command. -/
def Action.endsBlock : Action → Bool
  | .repeatBlock | .foreach | .tryBlock => true
  | _ => false

/-- Whether a command reports what it came to to the statement behind it. -/
def Action.settles : Action → Bool
  | .ifBlock | .elseBlock | .tryBlock => true
  | _ => false

/-- Whether a command keeps to the tree of its script. -/
def Action.isStructured : Action → Bool
  | .repeatBlock | .foreach | .tryBlock | .ifBlock | .elseBlock | .once | .catchBlock => true
  | a => a.isPlain

/-- The statements that a statement has to stand behind. -/
def Action.follows? : Action → Option (List String)
  | .elseBlock => some ["if", "else"]
  | .catchBlock => some ["try"]
  | _ => none

/-- How a structured command of a name is written fits what it does. -/
structure Command.Fits (c : Command) (name : String) : Prop where
  structured : c.action.isStructured = true
  block : c.signature.block = if c.action.isPlain then .forbidden else .required
  boundary : c.signature.errorBoundary = (c.action.endsBlock && c.action.settles)
  ends : c.signature.needsCallback = c.action.endsBlock
  follows : c.signature.follows = c.action.follows?
  settles : name ∈ ["if", "else", "try"] → c.action.settles = true

instance (c : Command) (name : String) : Decidable (c.Fits name) :=
  decidable_of_iff (c.action.isStructured = true ∧
    c.signature.block = (if c.action.isPlain then .forbidden else .required) ∧
    c.signature.errorBoundary = (c.action.endsBlock && c.action.settles) ∧
    c.signature.needsCallback = c.action.endsBlock ∧ c.signature.follows = c.action.follows? ∧
    (name ∈ ["if", "else", "try"] → c.action.settles = true))
    ⟨fun ⟨h₁, h₂, h₃, h₄, h₅, h₆⟩ => ⟨h₁, h₂, h₃, h₄, h₅, h₆⟩,
      fun ⟨h₁, h₂, h₃, h₄, h₅, h₆⟩ => ⟨h₁, h₂, h₃, h₄, h₅, h₆⟩⟩

theorem fits_of_structuredName {name : String} {c : Command} (hn : name ∈ structuredNames)
    (h : CommandRegistry.builtin.get? name = some c) : c.Fits name := by
  have fits : ∀ name ∈ structuredNames, ∀ c ∈ CommandRegistry.builtin.commands,
      Text.asciiLower c.signature.name = name → c.Fits name := by decide
  exact fits name hn c (List.mem_of_find?_eq_some h) (by simpa using List.find?_some h)

/-! ### Places of statements -/

/-- The statements of a row stand in the code from one place on and before another, behind a sibling. -/
inductive Placed (r : CommandRegistry) (code : Code) :
    (index : Nat) → (previous : Option Sibling) → List Statement → (stop : Nat) → Prop
  | nil (index : Nat) (previous : Option Sibling) : Placed r code index previous [] index
  | plain {index stop : Nat} {previous : Option Sibling} {entry : Entry} {rest : List Statement}
    (here : code.entries[index]? = some entry) (callbackOf : entry.instruction.callbackOf = none)
    (block : entry.instruction.block = none) (link : Linked r previous entry.instruction)
    (more : Placed r code (index + 1) (some ⟨index, entry.instruction.name⟩) rest stop) :
    Placed r code index previous (⟨entry, none⟩ :: rest) stop
  | owner {index last stop : Nat} {previous : Option Sibling} {entry : Entry} {body rest : List Statement}
    (here : code.entries[index]? = some entry) (callbackOf : entry.instruction.callbackOf = none)
    (block : entry.instruction.block = some ⟨index + 1, last⟩) (link : Linked r previous entry.instruction)
    (inner : Placed r code (index + 1) none body last)
    (ends : entry.needsEnd = true →
      ∃ atEnd, code.entries[last]? = some atEnd ∧ atEnd.instruction = entry.instruction.endOfBlock index)
    (more : Placed r code (if entry.needsEnd then last + 1 else last) (some ⟨index, entry.instruction.name⟩) rest
      stop) :
    Placed r code index previous (⟨entry, some body⟩ :: rest) stop

section
variable {r : CommandRegistry} {code : Code}

theorem Placed.le {index stop : Nat} {previous : Option Sibling} {row : List Statement}
    (h : Placed r code index previous row stop) : index ≤ stop := by
  induction h with
  | nil => exact Nat.le_refl _
  | plain _ _ _ _ _ ih => omega
  | owner _ _ _ _ _ _ _ ihb ihm =>
    split at ihm <;> omega

/-- An instruction for the end of a block that stands in a row has its owner there too. -/
theorem Placed.owner_le {index stop : Nat} {previous : Option Sibling} {row : List Statement}
    (h : Placed r code index previous row stop) {place owner : Nat} {entry : Entry} (hlo : index ≤ place)
    (hhi : place < stop) (he : code.entries[place]? = some entry)
    (ho : entry.instruction.callbackOf = some owner) : index ≤ owner := by
  induction h with
  | nil => omega
  | plain here callbackOf _ _ _ ih =>
    rcases Nat.eq_or_lt_of_le hlo with rfl | hlt
    · rw [here] at he
      cases he
      rw [callbackOf] at ho
      cases ho
    · have := ih hlt hhi
      omega
  | @owner index last stop previous o body rest here callbackOf _ _ inner ends more ihb ihm =>
    rcases Nat.eq_or_lt_of_le hlo with rfl | hlt
    · rw [here] at he
      cases he
      rw [callbackOf] at ho
      cases ho
    · by_cases hin : place < last
      · have := ihb hlt hin
        omega
      · by_cases hend : o.needsEnd = true ∧ place = last
        · obtain ⟨hn, rfl⟩ := hend
          obtain ⟨atEnd, hat, hi⟩ := ends hn
          rw [hat] at he
          cases he
          rw [hi] at ho
          cases ho
          exact Nat.le_refl _
        · have hle := inner.le
          have : (if o.needsEnd = true then last + 1 else last) ≤ place := by
            split
            · rename_i hn
              have : place ≠ last := fun h => hend ⟨hn, h⟩
              omega
            · omega
          have := ihm this hhi
          split at this <;> omega

end

/-! ### Trees laid out -/

theorem needsEnd_eq {r : CommandRegistry} {entry : Entry} (h : entry.command = r.get? entry.instruction.name) :
    entry.needsEnd = r.needsEnd entry.instruction.name := by
  rw [Entry.needsEnd, CommandRegistry.needsEnd, h]

theorem statementsOf_nil (left : List Entry) : statementsOf [] left = ([], left) := by
  rw [statementsOf]

theorem statementsOf_plain (i : Instruction) (rest : List Node) (entry : Entry) (left : List Entry) :
    statementsOf (⟨i, none⟩ :: rest) (entry :: left) =
      (⟨entry, none⟩ :: (statementsOf rest left).1, (statementsOf rest left).2) := by
  rw [statementsOf, blockStatements]
  rfl

theorem statementsOf_owner (i : Instruction) (children rest : List Node) (entry : Entry) (left : List Entry) :
    statementsOf (⟨i, some children⟩ :: rest) (entry :: left) =
      let behind := (statementsOf children left).2
      let behind := if entry.needsEnd then behind.tail else behind
      (⟨entry, some (statementsOf children left).1⟩ :: (statementsOf rest behind).1,
      (statementsOf rest behind).2) := by
  rw [statementsOf, blockStatements]
  rfl

/-- The statements of a laid-out tree stand where it was laid out. `left` are the entries from the place of the first
    node on. -/
theorem placed_of_layoutNodes {r : CommandRegistry} {code : Code} : ∀ {nodes : List Node} {index : Nat}
    {previous : Option Sibling} {laid more : List Instruction} {left : List Entry},
    (∀ i ∈ commandsOf nodes, i.Fresh) → layoutNodes r index previous nodes = .ok laid →
      left.map (·.instruction) = laid ++ more → (∀ e ∈ left, e.command = r.get? e.instruction.name) →
      (∀ offset, code.entries[index + offset]? = left[offset]?) →
        Placed r code index previous (statementsOf nodes left).1 (index + laid.length) ∧
          (statementsOf nodes left).2 = left.drop laid.length
  | [], index, previous, laid, more, left, _, h, _, _, _ => by
    rw [layoutNodes] at h
    cases h
    rw [statementsOf_nil]
    exact ⟨Placed.nil index previous, rfl⟩
  | ⟨i, none⟩ :: rest, index, previous, laid, more, left, hfresh, h, hleft, hcommand, hcode => by
    obtain ⟨link, hl, ⟨-, tail, hm, rfl⟩ | ⟨_, _, _, hb, -⟩⟩ := layoutNodes_cons_eq_ok.mp h
    · have fresh : i.Fresh := hfresh i (by simp [commandsOf])
      obtain ⟨e, left, rfl, hi, hleft⟩ := List.map_eq_cons_iff.mp hleft
      have here : code.entries[index]? = some e := hcode 0
      obtain ⟨hp, hd⟩ := placed_of_layoutNodes (fun j hj => hfresh j (by simp [commandsOf, hj])) hm hleft
        (fun x hx => hcommand x (List.mem_cons_of_mem e hx))
        (fun offset => by rw [Nat.add_assoc, Nat.add_comm 1, hcode, List.getElem?_cons_succ])
      rw [statementsOf_plain]
      refine ⟨?_, hd⟩
      rw [List.length_cons, Nat.add_comm tail.length, ← Nat.add_assoc]
      have linked := linked_of_linkOf fresh.link hl
      rw [← hi] at linked
      refine Placed.plain here ?_ ?_ linked ?_
      · rw [hi]
        exact fresh.callbackOf
      · rw [hi]
        exact fresh.block
      · rw [hi]
        exact hp
    · cases hb
  | ⟨i, some children⟩ :: rest, index, previous, laid, more, left, hfresh, h, hleft, hcommand, hcode => by
    obtain ⟨link, hl, ⟨hb, -⟩ | ⟨_, body, tail, hc, hb, hm, rfl⟩⟩ := layoutNodes_cons_eq_ok.mp h
    · cases hb
    · cases hc
      have fresh : i.Fresh := hfresh i (by simp [commandsOf])
      rw [List.cons_append] at hleft
      obtain ⟨e, left, rfl, hi, hleft⟩ := List.map_eq_cons_iff.mp hleft
      have here : code.entries[index]? = some e := hcode 0
      have hneeds : e.needsEnd = r.needsEnd i.name := by
        rw [needsEnd_eq (hcommand e (List.mem_cons_self ..)), hi]
      have hlater : ∀ offset, code.entries[index + 1 + offset]? = left[offset]? := fun offset => by
        rw [Nat.add_assoc, Nat.add_comm 1, hcode, List.getElem?_cons_succ]
      rw [List.append_assoc, List.append_assoc] at hleft
      obtain ⟨hpb, hdb⟩ := placed_of_layoutNodes
        (fun j hj => hfresh j (by simp [commandsOf, blockCommands, hj])) hb hleft
        (fun x hx => hcommand x (List.mem_cons_of_mem e hx)) hlater
      -- Behind the block stands the instruction for its end, if the owner asks for one, and then the rest of the row.
      have hbehind : (left.drop body.length).map (·.instruction) = blockEnd r i index ++ (tail ++ more) := by
        rw [List.map_drop, hleft, List.drop_left]
      have hrest : ((left.drop body.length).drop (blockEnd r i index).length).map (·.instruction) = tail ++ more := by
        rw [List.map_drop, hbehind, List.drop_left]
      have hend : (if e.needsEnd then (left.drop body.length).tail else left.drop body.length) =
          (left.drop body.length).drop (blockEnd r i index).length := by
        rw [hneeds, length_blockEnd]
        split
        · rw [List.drop_one]
        · rw [List.drop_zero]
      obtain ⟨hpm, hdm⟩ := placed_of_layoutNodes
        (fun j hj => hfresh j (by simp [commandsOf, hj])) hm hrest
        (fun x hx => hcommand x (List.mem_cons_of_mem e (List.mem_of_mem_drop (List.mem_of_mem_drop hx))))
        (fun offset => by rw [List.getElem?_drop, List.getElem?_drop, ← hlater]; congr 1; omega)
      rw [statementsOf_owner, hdb]
      dsimp only
      rw [hend]
      have linked := linked_of_linkOf fresh.link hl
      have hlength : index + (({ i with link := link, block := some ⟨index + 1, index + 1 + body.length⟩ } :
          Instruction) :: (body ++ (blockEnd r i index ++ tail))).length =
            index + 1 + body.length + (blockEnd r i index).length + tail.length := by
        simp only [List.length_cons, List.length_append]
        omega
      rw [hlength]
      constructor
      · refine Placed.owner here ?_ ?_ ?_ hpb (fun hn => ?_) ?_
        · rw [hi]
          exact fresh.callbackOf
        · rw [hi]
        · rw [hi]
          exact linked
        · rw [hneeds] at hn
          rw [blockEnd, if_pos hn, List.cons_append] at hbehind
          obtain ⟨atEnd, behind, hb', hat, -⟩ := List.map_eq_cons_iff.mp hbehind
          refine ⟨atEnd, ?_, ?_⟩
          · have first : (left.drop body.length)[0]? = some atEnd := by rw [hb', List.getElem?_cons_zero]
            rw [hlater, ← first, List.getElem?_drop, Nat.add_zero]
          · rw [hat, hi]
            rfl
        · have hnext : (if e.needsEnd = true then index + 1 + body.length + 1 else index + 1 + body.length) =
              index + 1 + body.length + (blockEnd r i index).length := by
            rw [hneeds, length_blockEnd]
            split <;> rfl
          rw [hnext, hi]
          exact hpm
      · rw [hdm, List.drop_drop, List.drop_drop, List.length_cons, List.drop_succ_cons, List.length_append,
          List.length_append]

/-! ### Structured code -/

/-- Every name in a list of instructions is that of a structured command, or of none. -/
def StructuredNames (r : CommandRegistry) (row : List Instruction) : Prop :=
  ∀ i ∈ row, i.name ∈ structuredNames ∨ r.get? i.name = none

/-- Code of structured commands, which all have the block they need, and whose callbacks stand where the blocks of
    their owners end. -/
structure Code.Structured (r : CommandRegistry) (code : Code) : Prop where
  command : ∀ {index : Nat} {entry : Entry}, code.entries[index]? = some entry →
    entry.command = r.get? entry.instruction.name
  fits : ∀ {index : Nat} {entry : Entry} {c : Command}, code.entries[index]? = some entry →
    entry.command = some c → c.Fits entry.instruction.name
  block : ∀ {index : Nat} {entry : Entry} {c : Command}, code.entries[index]? = some entry →
    entry.instruction.callbackOf = none → entry.command = some c →
      entry.instruction.block.isSome = !c.action.isPlain
  owner : ∀ {index owner : Nat} {entry : Entry}, code.entries[index]? = some entry →
    entry.instruction.callbackOf = some owner → ∃ o, code.entries[owner]? = some o ∧ o.needsEnd = true ∧
      entry.command = o.command

/-- What is asked of an instruction that its command accepts. -/
theorem parts_of_check {c : Command} {i : Instruction} (h : c.check i = .ok ()) :
    (c.signature.block = .required → i.block.isSome = true) ∧ (c.signature.block = .forbidden → i.block = none) ∧
      c.action.check i = .ok () := by
  unfold Command.check at h
  dsimp only at h
  split at h
  · cases h
  split at h
  · cases h
  split at h
  · cases h
  rename_i hrequired
  split at h
  · cases h
  rename_i hforbidden
  split at h
  · cases h
  refine ⟨fun hb => ?_, fun hb => ?_, h⟩
  · cases hi : i.block with
    | none => exact absurd ⟨hb, by rw [hi]; rfl⟩ hrequired
    | some _ => rfl
  · cases hi : i.block with
    | none => rfl
    | some _ => exact absurd ⟨hb, by rw [hi]; rfl⟩ hforbidden

theorem structured_of_compile {r : Registries} {source : String} {row : List Instruction}
    {predefined : List (String × String)} {code : Code}
    (agrees : ∀ name ∈ structuredNames, r.commands.get? name = CommandRegistry.builtin.get? name)
    (names : StructuredNames r.commands row) (hp : parseScript r.commands source = .ok row)
    (hc : compile r row predefined = .ok code) : code.Structured r.commands := by
  obtain ⟨himap, hcommand⟩ := compile_entries hc
  have at_of : ∀ {index : Nat} {entry : Entry}, code.entries[index]? = some entry →
      At 0 row index entry.instruction ∧ entry.command = r.commands.get? entry.instruction.name := by
    intro index entry he
    rw [← Array.getElem?_toList] at he
    refine ⟨at_zero.mpr ?_, hcommand entry (List.mem_of_getElem? he)⟩
    rw [← himap, List.getElem?_map, he]
    rfl
  have of_at : ∀ {index : Nat} {i : Instruction}, At 0 row index i →
      ∃ entry, code.entries[index]? = some entry ∧ entry.instruction = i := by
    intro index i hi
    have hi := at_zero.mp hi
    rw [← himap, List.getElem?_map] at hi
    obtain ⟨entry, he, hi⟩ := Option.map_eq_some_iff.mp hi
    exact ⟨entry, by rw [← Array.getElem?_toList, he], hi⟩
  have known : ∀ {index : Nat} {entry : Entry} {c : Command}, code.entries[index]? = some entry →
      entry.command = some c → entry.instruction.name ∈ structuredNames ∧ c.Fits entry.instruction.name := by
    intro index entry c he hc
    obtain ⟨hat, hcmd⟩ := at_of he
    rw [hc] at hcmd
    rcases names _ (List.mem_of_getElem? (at_zero.mp hat)) with hn | hn
    · exact ⟨hn, fits_of_structuredName hn (by rw [← agrees _ hn, ← hcmd])⟩
    · rw [hn] at hcmd
      cases hcmd
  have laid := laid_of_parseScript hp
  obtain ⟨-, -, -, checked⟩ := parseScript_eq_ok.mp hp
  refine ⟨fun he => (at_of he).2, fun he hc => (known he hc).2, fun {index entry c} he hnone hc => ?_,
    fun {index owner entry} he ho => ?_⟩
  · obtain ⟨hat, hcmd⟩ := at_of he
    have fits := (known he hc).2
    have hcheck := checked _ (List.mem_of_getElem? (at_zero.mp hat)) hnone
    rw [Instruction.check, ← hcmd, hc] at hcheck
    dsimp only at hcheck
    split at hcheck
    · rename_i hok
      obtain ⟨required, forbidden, -⟩ := parts_of_check hok
      rw [fits.block] at required forbidden
      cases hplain : c.action.isPlain with
      | false => exact required (by rw [hplain]; rfl)
      | true =>
        rw [forbidden (by rw [hplain]; rfl)]
        rfl
    · cases hcheck
  · obtain ⟨hat, hcmd⟩ := at_of he
    obtain ⟨o, ho', heq⟩ := laid.end_eq hat ho
    obtain ⟨o', _, hat', -, hneeds, -⟩ := laid.endsAt_of_callbackOf hat ho
    rw [← ho'.unique hat'] at hneeds
    obtain ⟨oe, hoe, hoi⟩ := of_at ho'
    have hocmd := (at_of hoe).2
    refine ⟨oe, hoe, ?_, ?_⟩
    · rw [needsEnd_eq hocmd, hoi, hneeds]
    · -- The name of the owner is in lower case already, as all structured names are.
      have lower : ∀ name ∈ structuredNames, Text.asciiLower name = name := by decide
      have hname : entry.instruction.name = Text.asciiLower o.name := by rw [heq]; rfl
      obtain ⟨c, hget, -⟩ := (Option.any_eq_true _ _).mp hneeds
      rw [← hoi, ← hocmd] at hget
      have hmem := (known hoe hget).1
      rw [hoi] at hmem
      rw [hcmd, hocmd, hname, lower _ hmem, hoi]

end CommandScript
