import CommandScript.Proofs.Compile.Lines
import CommandScript.Proofs.Layout.Laid

/-! What a script keeps of an instruction when it is written and read again: all but its line, its text, and whether
    its arguments stood between quotes. Laying out, checking and compiling do not see these. -/

namespace CommandScript

/-- An argument without the quotes around it. -/
def Argument.bare (a : Argument) : Argument :=
  { a with quoted := false }

/-- An argument under a key without the quotes around it. -/
def bareNamed (entry : String × Argument) : String × Argument :=
  (entry.1, entry.2.bare)

namespace Instruction

/-- What the text of an instruction writes. -/
def written (i : Instruction) : Instruction where
  name := i.name
  args := i.args.map Argument.bare
  named := i.named.map bareNamed
  line := 0
  source := ""
  waitFor := i.waitFor

/-- An instruction without its line, its text, and the quotes around its arguments. -/
def core (i : Instruction) : Instruction :=
  { i.written with block := i.block, callbackOf := i.callbackOf, link := i.link }

theorem name_eq_of_core_eq {i j : Instruction} (h : i.core = j.core) : i.name = j.name :=
  show i.core.name = j.core.name by rw [h]

theorem block_eq_of_core_eq {i j : Instruction} (h : i.core = j.core) : i.block = j.block :=
  show i.core.block = j.core.block by rw [h]

theorem callbackOf_eq_of_core_eq {i j : Instruction} (h : i.core = j.core) : i.callbackOf = j.callbackOf :=
  show i.core.callbackOf = j.core.callbackOf by rw [h]

theorem core_eq_of_written_eq {i j : Instruction} (h : i.written = j.written) (hb : i.block = j.block)
    (hc : i.callbackOf = j.callbackOf) (hl : i.link = j.link) : i.core = j.core := by
  rw [core, core, h, hb, hc, hl]

end Instruction

theorem Argument.source_bare (a : Argument) : a.bare.source = a.source := by
  cases a
  rfl

/-! ### Checks -/

theorem plainName_core (i : Instruction) (position : Nat) : plainName i.core position = plainName i position := by
  have literal : (i.core.args[position]?).bind Argument.literal? = (i.args[position]?).bind Argument.literal? := by
    rw [show i.core.args = i.args.map Argument.bare from rfl, List.getElem?_map, Option.bind_map]
    rfl
  rw [plainName, plainName, literal]
  rfl

theorem loopVariable_core (i : Instruction) : loopVariable i.core = loopVariable i := by
  have named : i.core.named.lookup "as" = (i.named.lookup "as").map Argument.bare := by
    show (i.named.map bareNamed).lookup "as" = _
    induction i.named with
    | nil => rfl
    | cons entry rest ih =>
      obtain ⟨k, a⟩ := entry
      rw [List.map_cons, bareNamed, List.lookup_cons, List.lookup_cons, ih]
      cases "as" == k <;> rfl
  rw [loopVariable, loopVariable, named]
  cases i.named.lookup "as" <;> rfl

theorem Action.declares_core (a : Action) (i : Instruction) (typeNames : List String) :
    a.declares i.core typeNames = a.declares i typeNames := by
  cases a <;> simp only [Action.declares, plainName_core, loopVariable_core]

theorem Action.check_core (a : Action) (i : Instruction) : a.check i.core = a.check i := by
  have first : i.core.args.head?.bind Argument.literal? = i.args.head?.bind Argument.literal? := by
    rw [show i.core.args = i.args.map Argument.bare from rfl, List.head?_map, Option.bind_map]
    rfl
  have second : i.core.args[1]?.bind Argument.literal? = i.args[1]?.bind Argument.literal? := by
    rw [show i.core.args = i.args.map Argument.bare from rfl, List.getElem?_map, Option.bind_map]
    rfl
  have length : i.core.args.length = i.args.length := List.length_map ..
  have block : i.core.block = i.block := rfl
  cases a <;> simp only [Action.check, plainName_core, loopVariable_core, first, second, length, block]

theorem Command.check_core (c : Command) (i : Instruction) : c.check i.core = c.check i := by
  have length : i.core.args.length = i.args.length := List.length_map ..
  have block : i.core.block = i.block := rfl
  have waitFor : i.core.waitFor = i.waitFor := rfl
  simp only [Command.check, Action.check_core, length, block, waitFor]

/-- Whether an instruction passes its check does not depend on what is lost. -/
theorem Instruction.check_of_core_eq {r : CommandRegistry} {i j : Instruction} (h : i.core = j.core)
    (hi : i.check r = .ok ()) : j.check r = .ok () := by
  unfold Instruction.check at hi ⊢
  rw [← Instruction.name_eq_of_core_eq h]
  cases hg : r.get? i.name with
  | none => rfl
  | some c =>
    rw [hg] at hi
    dsimp only at hi ⊢
    rw [← c.check_core, ← h, c.check_core]
    cases hc : c.check i with
    | ok _ => rfl
    | error e =>
      rw [hc] at hi
      cases hi

/-! ### Compiling -/

/-- Lists are compiled the same if they are the same up to what does not matter to each of their members. -/
theorem Compiling.Same.mapM {α β : Type} {f g : α → Compiling β} {norm : α → α}
    (hf : ∀ a b, norm a = norm b → Compiling.Same (f a) (g b)) {as bs : List α} (h : as.map norm = bs.map norm) :
    Compiling.Same (as.mapM f) (bs.mapM g) := by
  induction as generalizing bs with
  | nil =>
    rw [List.map_nil, eq_comm, List.map_eq_nil_iff] at h
    rw [h]
    exact .refl _
  | cons a as ih =>
    cases bs with
    | nil => cases h
    | cons b bs =>
      rw [List.map_cons, List.map_cons, List.cons.injEq] at h
      rw [List.mapM_cons, List.mapM_cons]
      exact (hf a b h.1).bind fun _ => (ih h.2).bind fun _ => .refl _

/-- The same argument on another line, perhaps with quotes around it, is compiled the same. -/
theorem compileArgument_same_of_bare (s : TagScope) (line : Nat) {a b : Argument} (h : a.bare = b.bare) :
    Compiling.Same (compileArgument s a) (compileArgument (s.onLine line) b) := by
  have bare : ∀ (s : TagScope) (a : Argument), compileArgument s a = compileArgument s a.bare := fun s a => by
    cases a
    rw [Argument.bare, compileArgument, compileArgument]
  -- The compiler does not look at the quotes.
  rw [bare s a, bare _ b, h]
  exact compileArgument_same s line _

namespace Compilation

/-- Two states of compiling that differ in their entries only, of which they have as many. -/
structure Alike (c d : Compilation) : Prop where
  scopes : c.scopes = d.scopes
  slots : c.slots = d.slots
  table : c.table = d.table
  size : c.entries.size = d.entries.size

variable {c d : Compilation} {r : Registries} {i j : Instruction}

theorem Alike.leave (a : Alike c d) (index : Nat) : Alike (c.leave index) (d.leave index) :=
  ⟨by rw [Compilation.leave, Compilation.leave, a.scopes], a.slots, a.table, a.size⟩

theorem Alike.tagScope (a : Alike c d) (line line' : Nat) :
    d.tagScope r line' = (c.tagScope r line).onLine line' := by
  unfold Compilation.tagScope Compilation.lookup TagScope.onLine
  rw [a.scopes, a.slots]

theorem declaration_core (h : i.core = j.core) {typeNames : List String} {d : Option Declaration}
    (hi : i.declaration r.commands typeNames = .ok d) : j.declaration r.commands typeNames = .ok d := by
  unfold Instruction.declaration Instruction.isCallback at hi ⊢
  rw [← Instruction.name_eq_of_core_eq h, ← Instruction.callbackOf_eq_of_core_eq h]
  split at hi
  · exact hi
  · split at hi
    · rename_i hc
      rw [if_pos hc]
      exact hi
    · rename_i hc
      rw [← Action.declares_core, h, Action.declares_core] at hi
      rw [if_neg hc]
      split at hi
      · exact hi
      · cases hi

theorem Alike.extend (a : Alike c d) (h : i.core = j.core) (args : List CompiledArgument)
    (named : List (String × CompiledArgument)) (table : ChainTable) (declared : Option Declaration) :
    Alike (c.extend r i args named table declared) (d.extend r j args named table declared) := by
  have opened : Alike ({ c with table := table }.openBlock i) ({ d with table := table }.openBlock j) := by
    unfold openBlock Instruction.isCallback
    rw [← Instruction.block_eq_of_core_eq h, ← Instruction.callbackOf_eq_of_core_eq h]
    repeat' split
    · exact ⟨a.scopes, a.slots, rfl, a.size⟩
    · exact ⟨by dsimp only; rw [a.scopes], a.slots, rfl, a.size⟩
    · exact ⟨a.scopes, a.slots, rfl, a.size⟩
  have declared_alike : Alike (c.declared i table declared).2 (d.declared j table declared).2 := by
    unfold Compilation.declared declareAny declare
    cases declared with
    | none => exact opened
    | some declaration =>
      dsimp only
      rw [opened.slots, opened.scopes]
      exact ⟨rfl, rfl, opened.table, opened.size⟩
  unfold Compilation.extend
  exact ⟨declared_alike.scopes, declared_alike.slots, declared_alike.table, by
    rw [Array.size_push, Array.size_push, declared_alike.size]⟩

theorem compileNamed_same_of_bare (s : TagScope) (line : Nat) {a b : String × Argument}
    (h : bareNamed a = bareNamed b) : Compiling.Same (compileNamed s a) (compileNamed (s.onLine line) b) := by
  obtain ⟨key, arg⟩ := Prod.mk.inj h
  unfold compileNamed
  rw [key]
  exact (compileArgument_same_of_bare s line arg).bind fun _ => .refl _

/-- Adding an instruction gives alike states from alike ones, whatever of the instruction is lost. -/
theorem Alike.add {c' : Compilation} (a : Alike c d) (h : i.core = j.core) (hc : c.add r i = .ok c') :
    ∃ d', d.add r j = .ok d' ∧ Alike c' d' := by
  obtain ⟨args, table, named, table', declared, ha, hn, hd, rfl⟩ := add_eq_ok hc
  have left := a.leave c.entries.size
  rw [show d.leave c.entries.size = d.leave d.entries.size by rw [a.size]] at left
  have scope := left.tagScope (r := r) i.line j.line
  have args_same := Compiling.Same.mapM (fun _ _ => compileArgument_same_of_bare
    ((c.leave c.entries.size).tagScope r i.line) j.line) (congrArg Instruction.args h)
  have named_same := Compiling.Same.mapM (fun _ _ => compileNamed_same_of_bare
    ((c.leave c.entries.size).tagScope r i.line) j.line) (congrArg Instruction.named h)
  rw [← scope] at args_same named_same
  have ha' := (args_same c.table).symm.trans (toOption_eq_some.mpr ha)
  have hn' := (named_same table).symm.trans (toOption_eq_some.mpr hn)
  rw [a.table] at ha'
  exact ⟨_, add_of_parts (toOption_eq_some.mp ha') (toOption_eq_some.mp hn') (declaration_core h hd),
    left.extend h args named table' declared⟩

theorem Alike.foldlM {c' : Compilation} {is js : List Instruction} (a : Alike c d)
    (h : is.map Instruction.core = js.map Instruction.core) (hc : is.foldlM (fun c i => c.add r i) c = .ok c') :
    ∃ d', js.foldlM (fun c i => c.add r i) d = .ok d' ∧ Alike c' d' := by
  induction is generalizing c d js with
  | nil =>
    rw [List.map_nil, eq_comm, List.map_eq_nil_iff] at h
    cases hc
    exact ⟨d, by rw [h]; rfl, a⟩
  | cons i is ih =>
    cases js with
    | nil => cases h
    | cons j js =>
      rw [List.map_cons, List.map_cons, List.cons.injEq] at h
      rw [List.foldlM_cons] at hc
      obtain ⟨c₁, h₁, hc⟩ := bind_eq_ok.mp hc
      obtain ⟨d₁, hd₁, a₁⟩ := a.add h.1 h₁
      obtain ⟨d', hd', a'⟩ := ih a₁ h.2 hc
      exact ⟨d', by rw [List.foldlM_cons]; exact bind_eq_ok.mpr ⟨d₁, hd₁, hd'⟩, a'⟩

end Compilation

/-- Compiling gives as many slots, whatever of the instructions is lost. -/
theorem compile_of_core_eq {r : Registries} {is js : List Instruction} {predefined : List (String × String)}
    {code : Code} (h : is.map Instruction.core = js.map Instruction.core) (hc : compile r is predefined = .ok code) :
    ∃ code', compile r js predefined = .ok code' ∧ code'.slots = code.slots := by
  obtain ⟨c, hfold, hc⟩ := bind_eq_ok.mp hc
  obtain ⟨d, hd, a⟩ := Compilation.Alike.foldlM ⟨rfl, rfl, rfl, rfl⟩ h hfold
  cases hc
  exact ⟨_, bind_eq_ok.mpr ⟨d, hd, rfl⟩, a.slots.symm⟩

end CommandScript
