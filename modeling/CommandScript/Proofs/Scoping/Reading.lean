import CommandScript.Proofs.Compile.Entries

/-! What arguments read. A tag that begins with `var[name]` asks the compiler for the variable; where there is none of
    the name, the argument does not compile, and that is said unless something else is wrong before. -/

namespace CommandScript

/-! ### Variables that are read -/

section
variable (bases : BaseRegistry)

/-- The variable that the first key of a tag reads, as `var[name]` does. -/
def Part.reads? : Part → Option String
  | ⟨key, param⟩ =>
    if (bases.get? (Text.lower key)).any (·.readsSlot) then
      (param.bind Argument.literal?).map fun text => Text.lower (Text.trim text)
    else none

mutual

/-- The variables that an argument reads, in its tags and in the parameters and fallbacks of these. -/
def Argument.reads : Argument → List String
  | ⟨segments, _⟩ => segmentsReads segments

/-- The variables that segments in a row read. -/
def segmentsReads : List Segment → List String
  | [] => []
  | segment :: rest => segment.reads ++ segmentsReads rest

/-- The variables that a segment reads. -/
def Segment.reads : Segment → List String
  | .text _ => []
  | .tag t => t.reads

/-- The variables that a tag reads. -/
def Tag.reads : Tag → List String
  | ⟨parts, fallback⟩ => partsReads parts ++ optionalReads fallback

/-- The variables that the keys of a tag read. -/
def partsReads : List Part → List String
  | [] => []
  | first :: rest =>
    (match first.reads? bases with
      | some name => [name]
      | none => paramReads first) ++ stepsReads rest

/-- The variables that the parameter of a key reads. -/
def paramReads : Part → List String
  | ⟨_, param⟩ => optionalReads param

/-- The variables that the keys after the first read. -/
def stepsReads : List Part → List String
  | [] => []
  | part :: rest => paramReads part ++ stepsReads rest

/-- The variables that an argument reads that may be missing. -/
def optionalReads : Option Argument → List String
  | none => []
  | some a => a.reads

end

/-- The variables that the arguments of an instruction read. -/
def Instruction.reads (i : Instruction) : List String :=
  (i.args ++ i.named.map (·.2)).flatMap (Argument.reads bases)

end

/-! ### Compiling without a variable -/

/-- Compiling without a variable and with it comes to the same, unless it fails for want of the variable. It fails in
    any case where the variable is read. -/
def Lacks {α : Type} (line : Nat) (name : String) (reads : Prop) (without with_ : Compiling α) : Prop :=
  ∀ table, (∃ body, without.run table = .error ⟨line, .unknownVariable name body⟩) ∨
    without.run table = with_.run table ∧ (reads → ∃ e, without.run table = .error e)

namespace Lacks

variable {α β : Type} {line : Nat} {name : String} {p q : Prop}

theorem mono {m m' : Compiling α} (h : Lacks line name p m m') (hqp : q → p) : Lacks line name q m m' := fun table =>
  (h table).imp id fun ⟨same, fails⟩ => ⟨same, fun hq => fails (hqp hq)⟩

theorem same (m : Compiling α) : Lacks line name False m m := fun _ =>
  Or.inr ⟨rfl, False.elim⟩

theorem fail (s : TagScope) (f : CompileFault) : Lacks line name p (s.fail f : Compiling α) (s.fail f) := fun _ =>
  Or.inr ⟨rfl, fun _ => ⟨_, rfl⟩⟩

theorem bind {x x' : Compiling α} {k k' : α → Compiling β} (hx : Lacks line name p x x')
    (hk : ∀ a, Lacks line name q (k a) (k' a)) : Lacks line name (p ∨ q) (x >>= k) (x' >>= k') := by
  intro table
  rw [StateT.run_bind, StateT.run_bind]
  rcases hx table with ⟨body, hfails⟩ | ⟨same, fails⟩
  · rw [hfails]
    exact Or.inl ⟨body, rfl⟩
  · rw [← same]
    cases hr : x.run table with
    | error e => exact Or.inr ⟨rfl, fun _ => ⟨e, rfl⟩⟩
    | ok r =>
      have more := hk r.1 r.2
      refine more.imp id fun ⟨same', fails'⟩ => ⟨same', fun h => ?_⟩
      rcases h with h | h
      · obtain ⟨e, he⟩ := fails h
        cases hr.symm.trans he
      · exact fails' h

/-- What only makes up a result of another reads nothing. -/
theorem then_same {x x' : Compiling α} {k : α → Compiling β} (hx : Lacks line name p x x') :
    Lacks line name p (x >>= k) (x' >>= k) :=
  (hx.bind fun a => same (k a)).mono Or.inl

end Lacks

/-- The scope with a variable more. -/
def TagScope.assume (s : TagScope) (name : String) (slot : Nat) : TagScope :=
  { s with lookup := fun n => if n = name then some slot else s.lookup n }

section
variable {s : TagScope} {name : String}

/-- A tag that reads a variable begins with its slot, and does not compile without it. -/
theorem compileStart_reads (s : TagScope) {first : Part} {n : String} (hn : first.reads? s.registries.bases = some n)
    (body : String) : compileStart s body first =
      match s.lookup n with
      | some slot =>
        pure ⟨.slot slot, Text.lower first.key, some slot, none, (s.slots[slot]?.map (·.typeName)).getD "text"⟩
      | none => s.fail (.unknownVariable n body) := by
  obtain ⟨key, param⟩ := first
  rw [Part.reads?] at hn
  split at hn
  · rename_i reads
    obtain ⟨base, hbase, hslot⟩ := (Option.any_eq_true _ _).mp reads
    obtain ⟨text, htext, rfl⟩ := Option.map_eq_some_iff.mp hn
    rw [compileStart]
    dsimp only
    rw [hbase]
    dsimp only
    rw [if_pos hslot, htext]
    dsimp only
    cases s.lookup (Text.lower (Text.trim text)) <;> rfl
  · cases hn

theorem compileStart_slot_lacks (absent : s.lookup name = none) (slot : Nat) {first : Part} {n : String}
    (hn : first.reads? s.registries.bases = some n) (body : String) : Lacks s.line name (name = n)
      (compileStart s body first) (compileStart (s.assume name slot) body first) := by
  rw [compileStart_reads s hn, compileStart_reads (s.assume name slot) hn]
  by_cases same : n = name
  · rw [same, absent]
    exact fun table => Or.inl ⟨body, rfl⟩
  · have lookup : (s.assume name slot).lookup n = s.lookup n := if_neg same
    rw [lookup]
    exact (Lacks.same _).mono fun h => same h.symm

mutual

theorem compileArgument_lacks (absent : s.lookup name = none) (slot : Nat) : ∀ a : Argument,
    Lacks s.line name (name ∈ a.reads s.registries.bases) (compileArgument s a)
      (compileArgument (s.assume name slot) a)
  | ⟨segments, _⟩ => by
    rw [compileArgument, compileArgument, Argument.reads]
    exact (compileSegments_lacks absent slot segments).then_same

theorem compileSegments_lacks (absent : s.lookup name = none) (slot : Nat) : ∀ segments : List Segment,
    Lacks s.line name (name ∈ segmentsReads s.registries.bases segments) (compileSegments s segments)
      (compileSegments (s.assume name slot) segments)
  | [] => by
    rw [compileSegments, compileSegments, segmentsReads]
    exact (Lacks.same _).mono List.not_mem_nil
  | segment :: rest => by
    rw [compileSegments, compileSegments, segmentsReads]
    refine ((compileSegment_lacks absent slot segment).bind fun part => ?_).mono List.mem_append.mp
    exact (compileSegments_lacks absent slot rest).then_same

theorem compileSegment_lacks (absent : s.lookup name = none) (slot : Nat) : ∀ segment : Segment,
    Lacks s.line name (name ∈ segment.reads s.registries.bases) (compileSegment s segment)
      (compileSegment (s.assume name slot) segment)
  | .text _ => by
    rw [compileSegment, compileSegment, Segment.reads]
    exact (Lacks.same _).mono List.not_mem_nil
  | .tag t => by
    rw [compileSegment, compileSegment, Segment.reads]
    exact (compileTag_lacks absent slot t).then_same

theorem compileTag_lacks (absent : s.lookup name = none) (slot : Nat) : ∀ t : Tag,
    Lacks s.line name (name ∈ t.reads s.registries.bases) (compileTag s t) (compileTag (s.assume name slot) t)
  | ⟨parts, fallback⟩ => by
    rw [compileTag, compileTag, Tag.reads]
    refine ((compileParts_lacks absent slot _ parts).bind fun compiled => ?_).mono List.mem_append.mp
    exact (compileOptional_lacks absent slot fallback).then_same

theorem compileParts_lacks (absent : s.lookup name = none) (slot : Nat) (body : String) : ∀ parts : List Part,
    Lacks s.line name (name ∈ partsReads s.registries.bases parts) (compileParts s body parts)
      (compileParts (s.assume name slot) body parts)
  | [] => by
    rw [compileParts, compileParts]
    exact Lacks.fail s _
  | first :: rest => by
    rw [compileParts, compileParts, partsReads]
    refine ((compileStart_lacks absent slot body first).bind fun start => ?_).mono List.mem_append.mp
    exact (compileSteps_lacks absent slot body 1 start.typeName rest).then_same

theorem compileStart_lacks (absent : s.lookup name = none) (slot : Nat) (body : String) : ∀ first : Part,
    Lacks s.line name (name ∈ (match first.reads? s.registries.bases with
      | some n => [n]
      | none => paramReads s.registries.bases first)) (compileStart s body first)
      (compileStart (s.assume name slot) body first)
  | ⟨key, param⟩ => by
    cases hn : (Part.mk key param).reads? s.registries.bases with
    | some n => exact (compileStart_slot_lacks absent slot hn body).mono List.mem_singleton.mp
    | none =>
      rw [compileStart, compileStart, paramReads]
      dsimp only [TagScope.assume]
      cases hbase : s.registries.bases.get? (Text.lower key) with
      | none => exact Lacks.fail s _
      | some base =>
        dsimp only
        by_cases hslot : base.readsSlot = true
        · rw [Part.reads?, hbase, Option.any_some, if_pos hslot, Option.map_eq_none_iff] at hn
          rw [if_pos hslot, if_pos hslot, hn]
          exact Lacks.fail s _
        · rw [if_neg hslot, if_neg hslot]
          exact (compileParam_lacks absent slot body (Text.lower key) base.param param).then_same

theorem compileSteps_lacks (absent : s.lookup name = none) (slot : Nat) (body : String) (index : Nat)
    (current : String) : ∀ parts : List Part,
    Lacks s.line name (name ∈ stepsReads s.registries.bases parts) (compileSteps s body index current parts)
      (compileSteps (s.assume name slot) body index current parts)
  | [] => by
    rw [compileSteps, compileSteps, stepsReads]
    exact (Lacks.same _).mono List.not_mem_nil
  | ⟨key, param⟩ :: rest => by
    rw [compileSteps, compileSteps, stepsReads, paramReads]
    dsimp only [TagScope.assume]
    cases s.registries.types.resolve? current (Text.lower key) with
    | none => exact Lacks.fail s _
    | some found =>
      obtain ⟨owner, subTag⟩ := found
      refine ((compileParam_lacks absent slot body (Text.lower key) subTag.param param).bind fun compiled => ?_).mono
        List.mem_append.mp
      refine ((Lacks.same _).bind fun typeName => ?_).mono Or.inr
      exact (compileSteps_lacks absent slot body (index + 1) typeName rest).then_same

theorem compileParam_lacks (absent : s.lookup name = none) (slot : Nat) (body key : String) (rule : ParamRule) :
    ∀ param : Option Argument,
    Lacks s.line name (name ∈ optionalReads s.registries.bases param) (compileParam s body key rule param)
      (compileParam (s.assume name slot) body key rule param)
  | none => by
    unfold compileParam
    rw [optionalReads]
    cases rule with
    | required _ => exact Lacks.fail s _
    | none => exact (Lacks.same _).mono List.not_mem_nil
    | optional _ => exact (Lacks.same _).mono List.not_mem_nil
  | some a => by
    unfold compileParam
    rw [optionalReads]
    cases rule with
    | none => exact Lacks.fail s _
    | required _ => exact (compileArgument_lacks absent slot a).then_same
    | optional _ => exact (compileArgument_lacks absent slot a).then_same

theorem compileOptional_lacks (absent : s.lookup name = none) (slot : Nat) : ∀ a : Option Argument,
    Lacks s.line name (name ∈ optionalReads s.registries.bases a) (compileOptional s a)
      (compileOptional (s.assume name slot) a)
  | none => by
    rw [compileOptional, compileOptional, optionalReads]
    exact (Lacks.same _).mono List.not_mem_nil
  | some a => by
    rw [compileOptional, compileOptional, optionalReads]
    exact (compileArgument_lacks absent slot a).then_same

end

/-! ### Instructions -/

theorem mapM_lacks {α β : Type} {line : Nat} {f f' : α → Compiling β} {reads : α → List String}
    (h : ∀ a, Lacks line name (name ∈ reads a) (f a) (f' a)) :
    ∀ as : List α, Lacks line name (name ∈ as.flatMap reads) (as.mapM f) (as.mapM f')
  | [] => by
    rw [List.mapM_nil, List.mapM_nil]
    exact (Lacks.same _).mono List.not_mem_nil
  | a :: rest => by
    rw [List.mapM_cons, List.mapM_cons, List.flatMap_cons]
    exact ((h a).bind fun b => (mapM_lacks h rest).then_same).mono List.mem_append.mp

/-- The arguments of an instruction as compiled. -/
def Instruction.compiled (s : TagScope) (i : Instruction) :
    Compiling (List CompiledArgument × List (String × CompiledArgument)) := do
  let args ← i.args.mapM (compileArgument s)
  let named ← i.named.mapM (compileNamed s)
  return (args, named)

theorem compiled_lacks (absent : s.lookup name = none) (slot : Nat) (i : Instruction) :
    Lacks s.line name (name ∈ i.reads s.registries.bases) (i.compiled s) (i.compiled (s.assume name slot)) := by
  have named : ∀ a : String × Argument, Lacks s.line name (name ∈ a.2.reads s.registries.bases) (compileNamed s a)
      (compileNamed (s.assume name slot) a) := fun a => (compileArgument_lacks absent slot a.2).then_same
  unfold Instruction.compiled
  refine ((mapM_lacks (compileArgument_lacks absent slot) i.args).bind fun args =>
    (mapM_lacks named i.named).then_same).mono fun h => ?_
  rwa [Instruction.reads, List.flatMap_append, List.flatMap_map, List.mem_append] at h

/-- An instruction whose arguments do not compile. -/
theorem Compilation.add_eq_error {c : Compilation} {r : Registries} {i : Instruction} {e : CompileError}
    (h : (i.compiled ((c.leave c.entries.size).tagScope r i.line)).run c.table = .error e) :
    c.add r i = .error e := by
  unfold Instruction.compiled at h
  rw [StateT.run_bind] at h
  unfold Compilation.add
  dsimp only
  rw [show (c.leave c.entries.size).table = c.table from rfl]
  cases hargs : (i.args.mapM (compileArgument ((c.leave c.entries.size).tagScope r i.line))).run c.table with
  | error _ =>
    rw [hargs] at h
    cases h
    rfl
  | ok args =>
    obtain ⟨args, table⟩ := args
    rw [hargs] at h
    replace h : ((i.named.mapM (compileNamed ((c.leave c.entries.size).tagScope r i.line)) >>= fun named =>
      pure (args, named)).run table) = .error e := h
    rw [StateT.run_bind] at h
    cases hnamed : (i.named.mapM (compileNamed ((c.leave c.entries.size).tagScope r i.line))).run table with
    | error _ =>
      rw [hnamed] at h
      cases h
      show ((i.named.mapM (compileNamed ((c.leave c.entries.size).tagScope r i.line))).run table >>= _) = _
      rw [hnamed]
      rfl
    | ok _ =>
      rw [hnamed] at h
      cases h

end

end CommandScript
