import CommandScript.Proofs.Guards.Faults
import CommandScript.Proofs.Typing.Soundness

/-! The table of chains of compiled code is well-founded. What is compiled names chains and slots that are there, and a
    chain names earlier chains only, for whatever bases and types an engine knows. So plain recursion through the table,
    with nothing that bounds it, comes to an end on every argument, and never to a chain that is not there. -/

namespace CommandScript

/-! ### Slots that chains read -/

/-- A chain that reads a slot below a number, if it reads any. -/
def Chain.ReadsBelow (n : Nat) (c : Chain) : Prop :=
  ∀ x, c.start = .slot x → x < n

namespace Compilation

/-- A compilation that names nothing that it has not, its chains included. -/
structure Grounded (c : Compilation) : Prop extends c.Fits where
  reads : c.table.Each (Chain.ReadsBelow c.slots.size)

theorem Grounded.add {c c' : Compilation} {r : Registries} {i : Instruction} (h : c.Grounded)
    (ha : c.add r i = .ok c') : c'.Grounded := by
  refine ⟨h.toFits.add ha, ?_⟩
  -- chains read the slots of variables in sight where the instruction stands, and slots are only added
  have left := h.toFits.leave c.entries.size
  have reads := add_each (fun chain made x hx => left.lookup (made.start x hx).choose_spec) h.reads ha
  obtain ⟨args, table, named, table', d, -, -, -, rfl⟩ := add_eq_ok ha
  refine fun j e he x hx => Nat.lt_of_lt_of_le (reads j e he x hx) ?_
  show c.slots.size ≤ ((c.leave c.entries.size).declared i table' d).2.slots.size
  rw [declared_slots]
  cases d with
  | none => exact Nat.le_refl _
  | some d =>
    rw [Option.map_some, Option.getD_some, Array.size_push]
    exact Nat.le_succ _

theorem Grounded.start (predefined : List (String × String)) : (Compilation.start predefined).Grounded := by
  refine ⟨.start predefined, ?_⟩
  rw [(start_empty predefined).2]
  intro i e he
  cases he

end Compilation

/-! ### Code -/

/-- The arguments of code: those of its instructions, and those of its chains. -/
def Code.arguments (code : Code) : List CompiledArgument :=
  code.entries.toList.flatMap (fun e => e.args ++ e.named.map (·.2)) ++ code.chains.toList.flatMap (·.arguments)

/-- Code that names only what is there. -/
structure Code.Grounded (code : Code) : Prop where
  arguments : ∀ a ∈ code.arguments, Below code.chains.size a.parts
  chains : ∀ (i : Nat) (c : CommandScript.Chain), code.chains[i]? = some c → ∀ j, c.Names j → j < i
  reads : ∀ (i : Nat) (c : CommandScript.Chain), code.chains[i]? = some c →
    ∀ x, c.start = .slot x → x < code.slots.size
  names : ∀ e ∈ code.entries.toList, ∀ p ∈ e.names, p.2 < code.slots.size
  finalNames : ∀ p ∈ code.finalNames, p.2 < code.slots.size

theorem Code.grounded_of_compile {r : Registries} {row : List Instruction} {predefined : List (String × String)}
    {code : Code} (h : compile r row predefined = .ok code) : code.Grounded := by
  have fits := Code.fits_of_compile h
  obtain ⟨c, hc, h⟩ := bind_eq_ok.mp h
  cases h
  have grounded : c.Grounded :=
    foldlM_keeps Compilation.Grounded (fun _ _ _ h ha => h.add ha) (.start predefined) hc
  refine ⟨fun a ha => ?_, fun i chain hi j hj => (fits.chains i chain hi).names hj, fun i chain hi => ?_,
    fun e he => (fits.entries e he).names, fun p hp => ?_⟩
  · rcases List.mem_append.mp ha with ha | ha
    · obtain ⟨e, he, ha⟩ := List.mem_flatMap.mp ha
      rcases List.mem_append.mp ha with ha | ha
      · exact (fits.entries e he).args a ha
      · obtain ⟨named, hnamed, rfl⟩ := List.mem_map.mp ha
        exact (fits.entries e he).named named hnamed
    · obtain ⟨chain, hchain, ha⟩ := List.mem_flatMap.mp ha
      obtain ⟨i, hi⟩ := Array.mem_iff_getElem?.mp (Array.mem_toList_iff.mp hchain)
      exact ((fits.chains i chain hi).argument ha).mono (Nat.le_of_lt (Array.getElem?_eq_some_iff.mp hi).1)
  · rw [Array.getElem?_map] at hi
    obtain ⟨entry, he, rfl⟩ := Option.map_eq_some_iff.mp hi
    exact grounded.reads i entry he
  · obtain ⟨names, hnames, hp⟩ : ∃ names, c.scopes.getLast?.map (·.names) = some names ∧ p ∈ names := by
      cases hlast : c.scopes.getLast?.map (·.names) with
      | none =>
        rw [hlast] at hp
        cases hp
      | some names =>
        rw [hlast] at hp
        exact ⟨names, rfl, hp⟩
    obtain ⟨s, hs, rfl⟩ := Option.map_eq_some_iff.mp hnames
    exact grounded.scopes s (List.mem_of_getLast? hs) p hp

/-! ### Plain recursion -/

/-- What a chain of a table comes to by plain recursion: its value comes from what the chains that it names come to.
    A chain that is not there comes to nothing, and how deep chains name others does not matter. -/
inductive Environment.ComesTo (env : Environment) : Nat → Except Failure Value → Prop
  | chain {i : Nat} {c : Chain} {run : Nat → Except Failure Value} (here : env.chains[i]? = some c)
    (named : ∀ j, c.Names j → ComesTo env j (run j)) : ComesTo env i (c.evaluateWith run env)

/-- What an argument comes to by plain recursion. -/
def CompiledArgument.ComesTo (a : CompiledArgument) (env : Environment) (v : Except Failure Value) : Prop :=
  ∃ run, (∀ i, .chain i ∈ a.parts → env.ComesTo i (run i)) ∧ a.evaluateWith run = v

namespace Environment
variable {env : Environment}

theorem ComesTo.eq_value (ordered : env.Ordered) {i : Nat} {v : Except Failure Value} (h : env.ComesTo i v) :
    v = env.value i := by
  induction h with
  | chain here _ ih => rw [value_eq ordered here, Chain.evaluateWith_congr_of_names ih]

/-- Every chain of the table comes to its value. By induction on its place, which is above those of the chains that it
    names. -/
theorem comesTo_value (ordered : env.Ordered) {i : Nat} (lt : i < env.chains.size) : env.ComesTo i (env.value i) := by
  induction i using Nat.strongRecOn with
  | ind i ih =>
    have here : env.chains[i]? = some env.chains[i] := Array.getElem?_eq_getElem lt
    rw [value_eq ordered here]
    refine .chain here fun j hj => ?_
    have earlier := (ordered here).names hj
    exact ih j earlier (Nat.lt_trans earlier lt)

end Environment

theorem CompiledArgument.comesTo_iff {a : CompiledArgument} {env : Environment} (ordered : env.Ordered)
    (below : Below env.chains.size a.parts) {v : Except Failure Value} : a.ComesTo env v ↔ v = a.evaluate env := by
  constructor
  · rintro ⟨run, named, rfl⟩
    exact evaluateWith_congr fun i hi => (named i hi).eq_value ordered
  · rintro rfl
    exact ⟨env.value, fun i hi => env.comesTo_value ordered (below i hi), rfl⟩

/-- Compiled code names only what is there, and a chain names earlier chains only. So plain recursion ends on every
    argument, with the value of the argument, whatever slots, variables and types it is evaluated in; and no chain is
    found missing. -/
theorem compile_grounded {r : Registries} {row : List Instruction} {predefined : List (String × String)} {code : Code}
    (h : compile r row predefined = .ok code) :
    code.Grounded ∧ ∀ a ∈ code.arguments, ∀ env : Environment, env.chains = code.chains →
      (∀ v, a.ComesTo env v ↔ v = a.evaluate env) ∧
        ∀ i, a.evaluate env ≠ .error (.error (.internal (.missingEvaluator i))) := by
  have grounded := Code.grounded_of_compile h
  refine ⟨grounded, fun a ha env chains => ?_⟩
  have ordered : env.Ordered := fun hc => (Code.fits_of_compile h).chains _ _ (chains ▸ hc)
  have below : Below env.chains.size a.parts := chains ▸ grounded.arguments a ha
  refine ⟨fun v => CompiledArgument.comesTo_iff ordered below, fun i missing => ?_⟩
  cases proper_evaluate ordered below _ missing

/-- A source text whose chains name others in parameters and fallbacks, one of them twice. -/
def nestedTags : String :=
  "define x 5; if true \x7b define y <\x7bvar[x].add[<\x7bvar[x]\x7d>]\x7d>; " ++
    "echo <\x7btext[<\x7bvar[y]\x7d>].to_integer.add[<\x7bvar[x].add[<\x7bvar[x]\x7d>]\x7d>]" ++
    "||<\x7bvar[x]\x7d>!\x7d>; \x7d"

theorem compile_grounded_nested : ∃ row code, parseScript CommandRegistry.builtin nestedTags = .ok row ∧
    compile .builtin row [] = .ok code ∧ code.chains.size = 4 ∧ code.slots.size = 2 ∧ code.Grounded ∧
      ∀ a ∈ code.arguments, ∀ env : Environment, env.chains = code.chains →
        (∀ v, a.ComesTo env v ↔ v = a.evaluate env) ∧
          ∀ i, a.evaluate env ≠ .error (.error (.internal (.missingEvaluator i))) := by
  have found : (tableOfSource? nestedTags).any (fun (_, code, _) =>
      decide (code.chains.size = 4 ∧ code.slots.size = 2)) = true := by
    decide +kernel
  obtain ⟨row, code, _, hrow, hcode, -, found⟩ := of_tableOfSource? found
  obtain ⟨chains, slots⟩ := of_decide_eq_true found
  obtain ⟨grounded, ends⟩ := compile_grounded hcode
  exact ⟨row, code, hrow, hcode, chains, slots, grounded, ends⟩

end CommandScript
