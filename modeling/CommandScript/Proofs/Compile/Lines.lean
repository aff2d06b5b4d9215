import CommandScript.Proofs.Compile.Entries

/-! Where an instruction stands in its source does not matter to what is compiled of it: its line is only told when
    compiling fails. -/

namespace CommandScript

/-- Two ways to compile that give the same wherever one of them gives a result. -/
def Compiling.Same {α : Type} (x y : Compiling α) : Prop :=
  ∀ table, (x.run table).toOption = (y.run table).toOption

theorem Compiling.Same.refl {α : Type} (x : Compiling α) : Compiling.Same x x :=
  fun _ => rfl

theorem Compiling.Same.bind {α β : Type} {x y : Compiling α} {f g : α → Compiling β} (h : Compiling.Same x y)
    (hf : ∀ a, Compiling.Same (f a) (g a)) : Compiling.Same (x >>= f) (y >>= g) := by
  intro table
  rw [StateT.run_bind, StateT.run_bind, toOption_bind, toOption_bind, h table]
  exact Option.bind_congr fun p _ => hf p.1 p.2

/-- The scope with another line at hand. -/
def TagScope.onLine (s : TagScope) (line : Nat) : TagScope :=
  { s with line := line }

section
variable (s : TagScope) (line : Nat)

theorem fail_same {α : Type} (f : CompileFault) : Compiling.Same (α := α) (s.fail f) ((s.onLine line).fail f) :=
  fun _ => rfl

theorem returned_same (returns : Returns) (param : Option CompiledArgument) (body : String) :
    Compiling.Same (s.returned returns param body) ((s.onLine line).returned returns param body) := by
  unfold TagScope.returned
  cases returns with
  | fixed t => exact .refl _
  | special resolve =>
    dsimp only [TagScope.onLine]
    split
    · exact .refl _
    · exact fail_same s line _

mutual

theorem compileArgument_same : ∀ a : Argument,
    Compiling.Same (compileArgument s a) (compileArgument (s.onLine line) a)
  | ⟨segments, _⟩ => by
    rw [compileArgument, compileArgument]
    exact (compileSegments_same segments).bind fun _ => .refl _

theorem compileSegments_same : ∀ segments : List Segment,
    Compiling.Same (compileSegments s segments) (compileSegments (s.onLine line) segments)
  | [] => by
    rw [compileSegments, compileSegments]
    exact .refl _
  | segment :: rest => by
    rw [compileSegments, compileSegments]
    exact (compileSegment_same segment).bind fun _ => (compileSegments_same rest).bind fun _ => .refl _

theorem compileSegment_same : ∀ segment : Segment,
    Compiling.Same (compileSegment s segment) (compileSegment (s.onLine line) segment)
  | .text t => by
    rw [compileSegment, compileSegment]
    exact .refl _
  | .tag t => by
    rw [compileSegment, compileSegment]
    exact (compileTag_same t).bind fun _ => .refl _

theorem compileTag_same : ∀ t : Tag, Compiling.Same (compileTag s t) (compileTag (s.onLine line) t)
  | ⟨parts, fallback⟩ => by
    rw [compileTag, compileTag]
    exact (compileParts_same _ parts).bind fun _ => (compileOptional_same fallback).bind fun _ => .refl _

theorem compileParts_same (body : String) : ∀ parts : List Part,
    Compiling.Same (compileParts s body parts) (compileParts (s.onLine line) body parts)
  | [] => by
    rw [compileParts, compileParts]
    exact fail_same s line _
  | first :: rest => by
    rw [compileParts, compileParts]
    exact (compileStart_same body first).bind fun _ => (compileSteps_same body 1 _ rest).bind fun _ => .refl _

theorem compileStart_same (body : String) : ∀ first : Part,
    Compiling.Same (compileStart s body first) (compileStart (s.onLine line) body first)
  | ⟨key, param⟩ => by
    rw [compileStart, compileStart]
    dsimp only [TagScope.onLine]
    split
    · exact fail_same s line _
    · split
      · split
        · exact fail_same s line _
        · split
          · exact fail_same s line _
          · exact .refl _
      · exact (compileParam_same body _ _ param).bind fun _ => (returned_same s line _ _ body).bind fun _ => .refl _

theorem compileSteps_same (body : String) (index : Nat) (current : String) : ∀ rest : List Part,
    Compiling.Same (compileSteps s body index current rest) (compileSteps (s.onLine line) body index current rest)
  | [] => by
    rw [compileSteps, compileSteps]
    exact .refl _
  | ⟨key, param⟩ :: rest => by
    rw [compileSteps, compileSteps]
    dsimp only [TagScope.onLine]
    split
    · exact fail_same s line _
    · exact (compileParam_same body _ _ param).bind fun _ => (returned_same s line _ _ body).bind fun _ =>
        (compileSteps_same body (index + 1) _ rest).bind fun _ => .refl _

theorem compileParam_same (body key : String) (rule : ParamRule) : ∀ param : Option Argument,
    Compiling.Same (compileParam s body key rule param) (compileParam (s.onLine line) body key rule param)
  | none => by
    cases rule with
    | required t => exact fail_same s line _
    | none | optional t => exact .refl _
  | some a => by
    cases rule with
    | none => exact fail_same s line _
    | optional t | required t =>
      rw [compileParam, compileParam]
      · exact (compileArgument_same a).bind fun _ => .refl _
      all_goals nofun

theorem compileOptional_same : ∀ a : Option Argument,
    Compiling.Same (compileOptional s a) (compileOptional (s.onLine line) a)
  | none => by
    rw [compileOptional, compileOptional]
    exact .refl _
  | some a => by
    rw [compileOptional, compileOptional]
    exact (compileArgument_same a).bind fun _ => .refl _

end

end

end CommandScript
