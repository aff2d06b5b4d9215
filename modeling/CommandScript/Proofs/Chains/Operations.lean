import CommandScript.Proofs.Bodies.Alike
import CommandScript.Proofs.Chains.Scopes

/-! Tags that call one sub-tag, on what a base makes of a text and with another text for its parameter. An argument
    that has nothing but such a tag comes to what the sub-tag gives, and fails as the sub-tag does, whichever chain of
    the table the tag shares. -/

namespace CommandScript

/-- An argument that calls a sub-tag on what a base makes of a text, with another text for its parameter. -/
def Argument.operation (base first key second : String) : Argument :=
  ⟨[.tag ⟨[⟨base, some (.ofText first)⟩, ⟨key, some (.ofText second)⟩], none⟩], false⟩

/-- What the arguments of code are evaluated in, with the types that come with every engine. -/
def Code.environment (code : Code) (slots : Array Value) (vars : Vars) : Environment :=
  ⟨slots, vars, TypeRegistry.builtin.conversions, code.chains⟩

/-- What a sub-tag makes of a value and a parameter in the chain `body`, if neither is `null`. -/
def SubTag.called (subTag : SubTag) (types : Conversions) (body : String) (v p : Value) : Except Failure Value :=
  if v.isNull || p.isNull then .ok .null else faultIn body (subTag.run ⟨v, some p, types⟩)

/-! ### The arguments of code -/

/-- What an argument was compiled to in some scope, before the table grew to what it is. -/
def CompiledIn (r : Registries) (table : ChainTable) (a : Argument) (c : CompiledArgument) : Prop :=
  ∃ (s : TagScope) (find : String → Option Variable) (before after : ChainTable), s.registries = r ∧ s.Finds find ∧
    Sound r s.slots before ∧ (compileArgument s a).run before = .ok (c, after) ∧ Grows after table

theorem CompiledIn.mono {r : Registries} {table table' : ChainTable} {a : Argument} {c : CompiledArgument}
    (grows : Grows table table') (h : CompiledIn r table a c) : CompiledIn r table' a c := by
  obtain ⟨s, find, before, after, registries, finds, sound, compiled, earlier⟩ := h
  exact ⟨s, find, before, after, registries, finds, sound, compiled, earlier.trans grows⟩

section
variable {r : Registries} {v : View} {c c' : Compilation}

theorem Follows.add_compiledIn (plain : r.PlainNames) {i : Instruction} (h : Follows r v c)
    (hadd : c.add r i = .ok c') : ∃ e, c'.entries = c.entries.push e ∧ e.instruction = i ∧
      List.Forall₂ (CompiledIn r c'.table) i.args e.args := by
  obtain ⟨args, t₁, named, t₂, d, hargs, hnamed, -, rfl⟩ := Compilation.add_eq_ok hadd
  have finds := (h.view.leave c.entries.size).finds r i.line
  obtain ⟨ext₁, compiled⟩ := mapM_agrees (P := CompiledIn r) (fun grows ha => ha.mono grows)
    (fun a _ _ _ sound ha => by
      obtain ⟨ext, -⟩ := compileArgument_agrees finds plain a sound ha
      exact ⟨ext, _, _, _, _, rfl, finds, sound, ha, Grows.refl _⟩) h.sound hargs
  obtain ⟨ext₂, -⟩ := mapM_agrees (P := fun _ _ _ => True) (fun _ _ => trivial)
    (fun a _ _ _ sound ha => by
      rw [compileNamed] at ha
      obtain ⟨_, _, harg, ha⟩ := run_bind_eq_ok.mp ha
      cases ha
      exact ⟨(compileArgument_agrees finds plain a.2 sound harg).1, trivial⟩) ext₁.sound hnamed
  refine ⟨_, Compilation.extend_entries _ r i args named t₂ d, rfl, ?_⟩
  show List.Forall₂ (CompiledIn r ((c.leave c.entries.size).declared i t₂ d).2.table) i.args args
  rw [Compilation.declared_table]
  exact compiled.imp fun _ _ ha => ha.mono ext₂.grows

theorem Follows.foldlM_compiledIn (plain : r.PlainNames) {instructions : List Instruction} (h : Follows r v c)
    (hfold : instructions.foldlM (fun c i => c.add r i) c = .ok c') :
    ∃ es, c'.entries.toList = c.entries.toList ++ es ∧
      ∀ e ∈ es, List.Forall₂ (CompiledIn r c'.table) e.instruction.args e.args := by
  induction instructions generalizing v c with
  | nil =>
    cases hfold
    exact ⟨[], (List.append_nil _).symm, fun _ he => absurd he List.not_mem_nil⟩
  | cons i rest ih =>
    rw [List.foldlM_cons] at hfold
    obtain ⟨c₁, hadd, hrest⟩ := bind_eq_ok.mp hfold
    obtain ⟨e, he, rfl, compiled⟩ := h.add_compiledIn plain hadd
    have follows := (h.add plain hadd).1
    obtain ⟨-, grows, -⟩ := follows.foldlM plain hrest
    obtain ⟨es, hes, later⟩ := ih follows hrest
    refine ⟨e :: es, ?_, List.forall_mem_cons.mpr ⟨compiled.imp fun _ _ ha => ha.mono grows, later⟩⟩
    rw [hes, he, Array.toList_push, List.append_assoc, List.singleton_append]

end

/-- The arguments of compiled code have been compiled into its table. -/
theorem compile_compiledIn {instructions : List Instruction} {predefined : List (String × String)} {code : Code}
    (h : compile .builtin instructions predefined = .ok code) :
    ∃ table : ChainTable, (∀ slots vars, (code.environment slots vars).Holds .builtin table) ∧
      ∀ e ∈ code.entries.toList, List.Forall₂ (CompiledIn .builtin table) e.instruction.args e.args := by
  rw [compile] at h
  obtain ⟨c, hfold, h⟩ := bind_eq_ok.mp h
  cases h
  have start : Follows .builtin (View.start predefined) (Compilation.start predefined) := follows_start predefined
  obtain ⟨sound, -⟩ := start.foldlM plainNames_builtin hfold
  obtain ⟨es, hes, compiled⟩ := start.foldlM_compiledIn plainNames_builtin hfold
  rw [(start_empty predefined).1] at hes
  refine ⟨c.table, fun slots vars => holds_of_sound sound slots vars, fun e he => compiled e ?_⟩
  have he : e ∈ c.entries.toList := he
  rwa [hes] at he

/-! ### The operation -/

section
variable {s : TagScope} {table table' : ChainTable}

theorem compileOptional_ofText {text : String} {c : Option CompiledArgument}
    (h : (compileOptional s (some (.ofText text))).run table = .ok (c, table')) :
    table' = table ∧ ∃ typeName, c = some ⟨[.text text], typeName⟩ := by
  rw [compileOptional, Argument.ofText] at h
  obtain ⟨c, between, hc, h⟩ := run_bind_eq_ok.mp h
  cases h
  rw [compileArgument] at hc
  obtain ⟨parts, t₁, hparts, hc⟩ := run_bind_eq_ok.mp hc
  rw [compileSegments] at hparts
  obtain ⟨part, t₂, hpart, hparts⟩ := run_bind_eq_ok.mp hparts
  rw [compileSegment] at hpart
  cases hpart
  rw [compileSegments] at hparts
  obtain ⟨more, t₃, hmore, hparts⟩ := run_bind_eq_ok.mp hparts
  cases hmore
  cases hparts
  cases hc
  exact ⟨rfl, _, rfl⟩

/-- The chain of an operation begins with its base and has its sub-tag for the only step. -/
theorem compileArgument_operation {find : String → Option Variable} {base : TagBase}
    {name key t first second : String} {c : CompiledArgument} (finds : s.Finds find) (plain : s.registries.PlainNames)
    (sound : Sound s.registries s.slots table) (hb : s.registries.bases.get? (Text.lower name) = some base)
    (noSlot : base.readsSlot = false) (fixed : base.returns = .fixed t)
    (h : (compileArgument s (.operation name first key second)).run table = .ok (c, table')) :
    ∃ i e owner subTag u w, c.parts = [.chain i] ∧ table'[i]? = some e ∧
      s.registries.types.resolve? t (Text.lower key) = some (owner, subTag) ∧
      e.chain.start = .base base (some ⟨[.text first], u⟩) (s.registries.prepare base.param) ∧
      e.chain.steps = [⟨s.registries.adapt owner.name t, subTag, some ⟨[.text second], w⟩,
        s.registries.prepare subTag.param⟩] ∧ e.chain.fallback = none := by
  rw [Argument.operation, compileArgument] at h
  obtain ⟨parts, t₁, hparts, h⟩ := run_bind_eq_ok.mp h
  cases h
  rw [compileSegments] at hparts
  obtain ⟨part, t₂, hpart, hparts⟩ := run_bind_eq_ok.mp hparts
  rw [compileSegments] at hparts
  obtain ⟨more, t₃, hmore, hparts⟩ := run_bind_eq_ok.mp hparts
  cases hmore
  cases hparts
  rw [compileSegment] at hpart
  obtain ⟨i, t₄, htag, hpart⟩ := run_bind_eq_ok.mp hpart
  cases hpart
  obtain ⟨body, start, t₅, steps, t₆, f, t₇, e, hstart, hsteps, hf, -, -, -, -, he, -, hs, hst, hfb⟩ :=
    compileTag_eq_ok finds plain sound htag
  rcases compileStart_eq_ok hstart with ⟨name', x, reads, -⟩ | ⟨-, base', param, typeName, hb', hparam, ret, rfl⟩
  · rw [Part.reads?, hb, Option.any_some, noSlot] at reads
    cases reads
  cases hb.symm.trans hb'
  rw [fixed] at ret
  cases ret
  obtain ⟨rfl, u, rfl⟩ := compileOptional_ofText hparam
  obtain ⟨owner, subTag, param, t₈, typeName, rest, hr, hparam, -, hrest, rfl⟩ := compileSteps_cons_eq_ok hsteps
  obtain ⟨rfl, w, rfl⟩ := compileOptional_ofText hparam
  rw [compileSteps] at hrest
  cases hrest
  rw [compileOptional] at hf
  cases hf
  exact ⟨i, e, owner, subTag, u, w, rfl, he, hr, by rw [hs, s.preparation_eq], hst, hfb⟩

end

/-- What a chain comes to that begins with a text as a value of a type and calls one sub-tag on it. -/
theorem Chain.evaluateWith_operation {run : Nat → Except Failure Value} {env : Environment} {c : Chain}
    {name typeName owner first second u w : String} {subTag : SubTag}
    (types : env.types = TypeRegistry.builtin.conversions)
    (start : c.start = .base (.converting name typeName) (some ⟨[.text first], u⟩)
      (Registries.builtin.prepare (.required "text")))
    (steps : c.steps = [⟨Registries.builtin.adapt owner typeName, subTag, some ⟨[.text second], w⟩,
      Registries.builtin.prepare subTag.param⟩])
    (fallback : c.fallback = none) :
    c.evaluateWith run env =
      if (TypeRegistry.builtin.convert (.text first) typeName).isNull then .ok .null
      else subTag.called TypeRegistry.builtin.conversions c.body
        (Registries.builtin.adapt owner typeName (TypeRegistry.builtin.convert (.text first) typeName))
        (Registries.builtin.prepare subTag.param (.text second)) := by
  have first : c.start.evaluateWith run env c.body = .ok (TypeRegistry.builtin.convert (.text first) typeName) := by
    rw [start, ChainStart.evaluateWith, Environment.baseContext, types]
    rfl
  rw [Chain.evaluateWith, first, steps, fallback]
  show (stepsWith _ _ _ _ _ >>= pure) = _
  rw [bind_pure, stepsWith]
  generalize TypeRegistry.builtin.convert _ typeName = v
  by_cases hv : v.isNull = true
  · rw [if_pos hv, if_pos hv]
  rw [if_neg hv, if_neg hv, SubTag.called, types]
  dsimp only
  generalize Registries.builtin.adapt owner typeName v = adapted
  generalize Registries.builtin.prepare subTag.param = prepare
  cases adapted.isNull with
  | true => rfl
  | false =>
    show (if (prepare (.text second)).isNull = true then _ else _) = _
    rw [Bool.false_or]
    split
    · rfl
    · exact bind_pure _

/-- An operation in compiled code comes to what its sub-tag makes of what its base makes of the first text, and of the
    second text, with each as a value of the type that is asked for. -/
theorem compile_operation {instructions : List Instruction} {predefined : List (String × String)} {code : Code}
    (h : compile .builtin instructions predefined = .ok code) {e : Entry} (he : e ∈ code.entries.toList) {k : Nat}
    {name typeName key first second : String} {owner : TagType} {subTag : SubTag}
    (hb : BaseRegistry.builtin.get? (Text.lower name) = some (.converting name typeName))
    (hr : TypeRegistry.builtin.resolve? typeName (Text.lower key) = some (owner, subTag))
    (ha : e.instruction.args[k]? = some (.operation name first key second)) :
    ∃ c body, e.args[k]? = some c ∧
      ∀ slots vars, c.evaluate (code.environment slots vars) =
        if (TypeRegistry.builtin.convert (.text first) typeName).isNull then .ok .null
        else subTag.called TypeRegistry.builtin.conversions body
          (Registries.builtin.adapt owner.name typeName (TypeRegistry.builtin.convert (.text first) typeName))
          (Registries.builtin.prepare subTag.param (.text second)) := by
  obtain ⟨table, holds, compiled⟩ := compile_compiledIn h
  obtain ⟨same, at_⟩ := List.forall₂_iff_get.mp (compiled e he)
  obtain ⟨lt, here⟩ := List.getElem?_eq_some_iff.mp ha
  obtain ⟨⟨_, line, lookup, own⟩, find, before, after, rfl, finds, sound, run, grows⟩ := at_ k lt (same ▸ lt)
  rw [List.get_eq_getElem, List.get_eq_getElem, here] at run
  obtain ⟨i, row, _, _, u, w, parts, hrow, hr', start, steps, fallback⟩ :=
    compileArgument_operation finds plainNames_builtin sound hb rfl rfl run
  cases hr.symm.trans hr'
  refine ⟨_, row.chain.body, List.getElem?_eq_getElem (same ▸ lt), fun slots vars => ?_⟩
  have chain := Environment.value_eq (holds slots vars).ordered ((holds slots vars).chain (grows.keeps hrow))
  rw [CompiledArgument.evaluate, CompiledArgument.evaluateWith, show e.args[k].parts = [.chain i] from parts]
  exact chain.trans (Chain.evaluateWith_operation rfl start steps fallback)

/-! ### One instruction -/

/-- A command that has nothing but arguments. -/
def Instruction.ofArguments (args : List Argument) : Instruction :=
  { name := "echo", args := args, line := 1, source := "" }

theorem exists_entry_given (predefined : List (String × String)) (args : List Argument)
    (h : (compile .builtin [.ofArguments args] predefined).toOption.isSome = true) :
    ∃ code e, compile .builtin [.ofArguments args] predefined = .ok code ∧ e ∈ code.entries.toList ∧
      e.instruction.args = args := by
  obtain ⟨code, hcode⟩ := Option.isSome_iff_exists.mp h
  have accepted := toOption_eq_some.mp hcode
  obtain ⟨instructions, -⟩ := compile_entries accepted
  obtain ⟨e, he, hi⟩ := List.mem_map.mp (instructions ▸ List.mem_singleton.mpr rfl)
  exact ⟨code, e, accepted, he, congrArg Instruction.args hi⟩

theorem exists_entry_ofArguments (args : List Argument)
    (h : (compile .builtin [.ofArguments args] []).toOption.isSome = true) :
    ∃ code e, compile .builtin [.ofArguments args] [] = .ok code ∧ e ∈ code.entries.toList ∧
      e.instruction.args = args :=
  exists_entry_given [] args h

end CommandScript
