import CommandScript.Proofs.Layout.Tree

/-! The shape of a laid-out script. A row of commands is empty, or begins with a command without a block, or with an
    owner, its block, and the instruction for the end of the block where the owner asks for one. Each command is
    linked to the one before it in its row if it continues one. -/

namespace CommandScript

/-- The link of `i`, which stands after `previous` in its row: to `previous`, of a name that `i` may follow, if `i`
    has to follow a command, and none otherwise. -/
def Linked (r : CommandRegistry) (previous : Option Sibling) (i : Instruction) : Prop :=
  match (r.get? i.name).bind (·.signature.follows) with
  | none => i.link = none
  | some allowed => ∃ p, previous = some p ∧ p.name ∈ allowed ∧ i.link = some p.index

/-- Whether the block of a command of a name has an instruction for its end. -/
def CommandRegistry.needsEnd (r : CommandRegistry) (name : String) : Bool :=
  (r.get? name).any (·.signature.needsCallback)

/-- What stands behind the block that `i` at `index` owns: the instruction for its end, or nothing. -/
def blockEnd (r : CommandRegistry) (i : Instruction) (index : Nat) : List Instruction :=
  if r.needsEnd i.name then [i.endOfBlock index] else []

/-- A row of instructions laid out from place `index` on, after its sibling `previous`. -/
inductive Laid (r : CommandRegistry) : (index : Nat) → (previous : Option Sibling) → List Instruction → Prop
  | nil (index : Nat) (previous : Option Sibling) : Laid r index previous []
  | plain {index : Nat} {previous : Option Sibling} {i : Instruction} {rest : List Instruction}
    (callbackOf : i.callbackOf = none) (block : i.block = none) (link : Linked r previous i)
    (more : Laid r (index + 1) (some ⟨index, i.name⟩) rest) : Laid r index previous (i :: rest)
  | owner {index : Nat} {previous : Option Sibling} {i : Instruction} {body rest : List Instruction}
    (callbackOf : i.callbackOf = none) (block : i.block = some ⟨index + 1, index + 1 + body.length⟩)
    (link : Linked r previous i) (inner : Laid r (index + 1) none body)
    (more : Laid r (index + 1 + body.length + (blockEnd r i index).length) (some ⟨index, i.name⟩) rest) :
    Laid r index previous (i :: (body ++ (blockEnd r i index ++ rest)))

/-! ### Layout -/

/-- The link of a command that has none yet. -/
theorem linked_of_linkOf {r : CommandRegistry} {i : Instruction} {previous : Option Sibling} {link : Option Nat}
    (hi : i.link = none) (h : linkOf (r.get? i.name) i previous = .ok link) :
    Linked r previous { i with link := link } := by
  unfold linkOf at h
  unfold Linked
  split at h
  · rename_i hf
    cases h
    simp only [hf]
    exact hi
  · rename_i allowed hf
    simp only [hf]
    split at h
    · rename_i p
      split at h
      · rename_i ha
        cases h
        exact ⟨p, rfl, by simpa using ha, rfl⟩
      · cases h
    · cases h

section
variable {r : CommandRegistry} {index : Nat} {previous : Option Sibling} {i : Instruction}

/-- A row that begins with a command without a block. -/
theorem layoutNodes_plain (rest : List Node) : layoutNodes r index previous (⟨i, none⟩ :: rest) = do
    let link ← linkOf (r.get? i.name) i previous
    let more ← layoutNodes r (index + 1) (some ⟨index, i.name⟩) rest
    return { i with link := link } :: more := by
  rw [layoutNodes]
  refine bind_congr fun link => ?_
  rw [layoutBlock]
  rfl

/-- A row that begins with a command and its block. -/
theorem layoutNodes_owner (children rest : List Node) : layoutNodes r index previous (⟨i, some children⟩ :: rest) = do
    let link ← linkOf (r.get? i.name) i previous
    let body ← layoutNodes r (index + 1) none children
    let more ← layoutNodes r (index + 1 + body.length + (blockEnd r i index).length) (some ⟨index, i.name⟩) rest
    return { i with link := link, block := some ⟨index + 1, index + 1 + body.length⟩ } ::
      (body ++ (blockEnd r i index ++ more)) := by
  rw [layoutNodes]
  refine bind_congr fun link => ?_
  rw [layoutBlock, bind_assoc]
  refine bind_congr fun body => ?_
  have size : index + ({ i with link := link, block := some ⟨index + 1, index + 1 + body.length⟩ } ::
      (body ++ blockEnd r i index)).length = index + 1 + body.length + (blockEnd r i index).length := by
    rw [List.length_cons, List.length_append]
    omega
  rw [← size]
  simp only [← List.append_assoc]
  rfl

/-- What laying out a row comes to: the link of the first command, its block, and the row after it. -/
theorem layoutNodes_cons_eq_ok {block : Option (List Node)} {rest : List Node} {laid : List Instruction} :
    layoutNodes r index previous (⟨i, block⟩ :: rest) = .ok laid ↔
      ∃ link, linkOf (r.get? i.name) i previous = .ok link ∧
        ((block = none ∧ ∃ more, layoutNodes r (index + 1) (some ⟨index, i.name⟩) rest = .ok more ∧
            laid = { i with link := link } :: more) ∨
          ∃ children body more, block = some children ∧ layoutNodes r (index + 1) none children = .ok body ∧
            layoutNodes r (index + 1 + body.length + (blockEnd r i index).length) (some ⟨index, i.name⟩) rest =
              .ok more ∧
            laid = { i with link := link, block := some ⟨index + 1, index + 1 + body.length⟩ } ::
              (body ++ (blockEnd r i index ++ more))) := by
  cases block with
  | none =>
    rw [layoutNodes_plain]
    constructor
    · intro h
      obtain ⟨link, hl, h⟩ := bind_eq_ok.mp h
      obtain ⟨more, hm, h⟩ := bind_eq_ok.mp h
      cases h
      exact ⟨link, hl, Or.inl ⟨rfl, more, hm, rfl⟩⟩
    · rintro ⟨link, hl, ⟨-, more, hm, rfl⟩ | ⟨_, _, _, hb, -⟩⟩
      · exact bind_eq_ok.mpr ⟨link, hl, bind_eq_ok.mpr ⟨more, hm, rfl⟩⟩
      · cases hb
  | some children =>
    rw [layoutNodes_owner]
    constructor
    · intro h
      obtain ⟨link, hl, h⟩ := bind_eq_ok.mp h
      obtain ⟨body, hb, h⟩ := bind_eq_ok.mp h
      obtain ⟨more, hm, h⟩ := bind_eq_ok.mp h
      cases h
      exact ⟨link, hl, Or.inr ⟨children, body, more, rfl, hb, hm, rfl⟩⟩
    · rintro ⟨link, hl, ⟨hb, -⟩ | ⟨_, body, more, hc, hb, hm, rfl⟩⟩
      · cases hb
      · cases hc
        exact bind_eq_ok.mpr ⟨link, hl, bind_eq_ok.mpr ⟨body, hb, bind_eq_ok.mpr ⟨more, hm, rfl⟩⟩⟩

end

/-- What is laid out from commands without a place has the shape of a row. -/
theorem laid_of_layoutNodes {r : CommandRegistry} : ∀ {nodes : List Node} {index : Nat} {previous : Option Sibling}
    {laid : List Instruction}, (∀ i ∈ commandsOf nodes, i.Fresh) → layoutNodes r index previous nodes = .ok laid →
      Laid r index previous laid
  | [], index, previous, laid, _, h => by
    rw [layoutNodes] at h
    cases h
    exact Laid.nil index previous
  | ⟨i, none⟩ :: rest, index, previous, laid, hfresh, h => by
    obtain ⟨link, hl, ⟨-, more, hm, rfl⟩ | ⟨_, _, _, hb, -⟩⟩ := layoutNodes_cons_eq_ok.mp h
    · have hi : i.Fresh := hfresh i (by simp [commandsOf])
      refine Laid.plain hi.callbackOf hi.block (linked_of_linkOf hi.link hl) ?_
      exact laid_of_layoutNodes (fun j hj => hfresh j (by simp [commandsOf, hj])) hm
    · cases hb
  | ⟨i, some children⟩ :: rest, index, previous, laid, hfresh, h => by
    obtain ⟨link, hl, ⟨hb, -⟩ | ⟨_, body, more, hc, hb, hm, rfl⟩⟩ := layoutNodes_cons_eq_ok.mp h
    · cases hb
    · cases hc
      have hi : i.Fresh := hfresh i (by simp [commandsOf])
      refine Laid.owner hi.callbackOf rfl (linked_of_linkOf hi.link hl) ?_ ?_
      · exact laid_of_layoutNodes (fun j hj => hfresh j (by simp [commandsOf, blockCommands, hj])) hb
      · exact laid_of_layoutNodes (fun j hj => hfresh j (by simp [commandsOf, hj])) hm

/-! ### Source texts -/

/-- The loop over a list that checks every command succeeds if each check does. -/
theorem checkLoop_eq_ok {r : CommandRegistry} {row : List Instruction} :
    (forIn row PUnit.unit fun i _ => do
      if !i.isCallback then i.check r
      return ForInStep.yield PUnit.unit : Except CompileError PUnit) = .ok ⟨⟩ ↔
        ∀ i ∈ row, i.callbackOf = none → i.check r = .ok () := by
  induction row with
  | nil => exact ⟨fun _ i hi => absurd hi (List.not_mem_nil), fun _ => rfl⟩
  | cons i rest ih =>
    rw [List.forIn_cons, List.forall_mem_cons, ← ih]
    cases hc : i.callbackOf with
    | some owner =>
      have hi : i.isCallback = true := by rw [Instruction.isCallback, hc]; rfl
      rw [hi]
      exact ⟨fun h => ⟨fun hn => (by cases hn), h⟩, fun h => h.2⟩
    | none =>
      have hi : i.isCallback = false := by rw [Instruction.isCallback, hc]; rfl
      rw [hi]
      rw [if_pos Bool.not_false]
      cases i.check r with
      | error e => exact ⟨fun h => (by cases h), fun h => (by cases h.1 rfl)⟩
      | ok _ => exact ⟨fun h => ⟨fun _ => rfl, h⟩, fun h => h.2⟩

/-- A source text gives the layout of its tree, if every command in it passes its check. -/
theorem parseScript_eq_ok {r : CommandRegistry} {source : String} {row : List Instruction} :
    parseScript r source = .ok row ↔ ∃ tree, Node.ofTokens (tokens source) = .ok tree ∧
      layoutNodes r 0 none tree = .ok row ∧ ∀ i ∈ row, i.callbackOf = none → i.check r = .ok () := by
  unfold parseScript
  constructor
  · intro h
    obtain ⟨tree, ht, h⟩ := bind_eq_ok.mp h
    obtain ⟨laid, hl, h⟩ := bind_eq_ok.mp h
    obtain ⟨_, hf, h⟩ := bind_eq_ok.mp h
    cases h
    exact ⟨tree, ht, hl, checkLoop_eq_ok.mp hf⟩
  · rintro ⟨tree, ht, hl, hc⟩
    exact bind_eq_ok.mpr ⟨tree, ht, bind_eq_ok.mpr ⟨row, hl, bind_eq_ok.mpr ⟨⟨⟩, checkLoop_eq_ok.mpr hc, rfl⟩⟩⟩

/-- The instructions of a source text have the shape of a row. -/
theorem laid_of_parseScript {r : CommandRegistry} {source : String} {laid : List Instruction}
    (h : parseScript r source = .ok laid) : Laid r 0 none laid := by
  obtain ⟨tree, ht, hl, -⟩ := parseScript_eq_ok.mp h
  exact laid_of_layoutNodes (fresh_of_readCommands (readCommands_of_ofTokens ht)) hl

end CommandScript
