import CommandScript.Proofs.Bodies.Alike
import CommandScript.Proofs.Types.Parents

/-! Sub-tags that are not found. Where parameters are literal texts, compiling a tag does not look at the table before
    it shares its chain. So the keys before one that is not found are compiled as they would be by themselves, and come
    to the type that the error names. -/

namespace CommandScript

theorem run_bind_eq_error {α β : Type} {x : Compiling α} {f : α → Compiling β} {table : ChainTable}
    {err : CompileError} :
    (x >>= f).run table = .error err ↔
      x.run table = .error err ∨ ∃ a between, x.run table = .ok (a, between) ∧ (f a).run between = .error err := by
  rw [StateT.run_bind]
  cases hx : x.run table with
  | error err' => simp [Bind.bind, Except.bind]
  | ok p =>
    refine ⟨fun h => .inr ⟨p.1, p.2, rfl, h⟩, ?_⟩
    rintro (h | ⟨a, between, h, hf⟩)
    · cases h
    · cases h
      exact hf

/-! ### Literal texts -/

/-- Compiling that succeeds on any table in the same way, whatever the tag is that its faults would name. -/
structure Steady {α : Type} (m : String → Compiling α) : Prop where
  anywhere : ∀ {body table a table'}, (m body).run table = .ok (a, table') →
    ∀ body' other, (m body').run other = .ok (a, other)

/-- Compiling that finds all sub-tags. -/
structure FindsSubTags {α : Type} (m : Compiling α) : Prop where
  ne : ∀ {table line k key typeName body}, m.run table ≠ .error ⟨line, .unknownSubTag k key typeName body⟩

section
variable {α β : Type} {s : TagScope}

theorem Steady.table_eq {m : String → Compiling α} (hm : Steady m) {body : String} {table table' : ChainTable} {a : α}
    (h : (m body).run table = .ok (a, table')) : table' = table := by
  have := hm.anywhere h body table
  rw [h] at this
  cases this
  rfl

theorem steady_pure (a : α) : Steady fun _ => (pure a : Compiling α) := by
  constructor
  intro body table a' table' h body' other
  cases h
  rfl

theorem steady_fail (s : TagScope) (fault : String → CompileFault) :
    Steady (α := α) fun body => s.fail (fault body) :=
  ⟨fun h => absurd h run_fail_ne_ok⟩

theorem Steady.bind {m : String → Compiling α} {k : String → α → Compiling β} (hm : Steady m)
    (hk : ∀ a, Steady fun body => k body a) : Steady fun body => m body >>= k body := by
  constructor
  intro body table b table' h body' other
  obtain ⟨a, between, ha, hb⟩ := run_bind_eq_ok.mp h
  exact run_bind_eq_ok.mpr ⟨a, other, hm.anywhere ha body' other, (hk a).anywhere hb body' other⟩

theorem Steady.run_bind_eq_ok {m : String → Compiling α} (hm : Steady m) {f : α → Compiling β} {body : String}
    {table : ChainTable} {p : β × ChainTable} :
    (m body >>= f).run table = .ok p ↔ ∃ a, (m body).run table = .ok (a, table) ∧ (f a).run table = .ok p := by
  obtain ⟨b, table'⟩ := p
  rw [CommandScript.run_bind_eq_ok]
  constructor
  · rintro ⟨a, between, ha, hb⟩
    cases hm.table_eq ha
    exact ⟨a, ha, hb⟩
  · rintro ⟨a, ha, hb⟩
    exact ⟨a, table, ha, hb⟩

theorem findsSubTags_pure (a : α) : FindsSubTags (pure a : Compiling α) := by
  constructor
  intro table line k key typeName body h
  cases h

theorem findsSubTags_bad (f : ParamFault) (body : String) :
    FindsSubTags (s.fail (.badParam f body) : Compiling α) := by
  constructor
  intro table line k key typeName body h
  cases h

theorem FindsSubTags.bind {m : Compiling α} {k : α → Compiling β} (hm : FindsSubTags m)
    (hk : ∀ a, FindsSubTags (k a)) : FindsSubTags (m >>= k) := by
  constructor
  intro table line i key typeName body h
  rcases run_bind_eq_error.mp h with h | ⟨a, between, -, h⟩
  · exact hm.ne h
  · exact (hk a).ne h

/-- An unknown sub-tag behind steady compiling that finds all of its own. -/
theorem Steady.run_bind_eq_unknown {m : String → Compiling α} {body : String} (hm : Steady m)
    (finds : FindsSubTags (m body)) {f : α → Compiling β} {table : ChainTable} {line k : Nat}
    {key typeName body' : String} :
    (m body >>= f).run table = .error ⟨line, .unknownSubTag k key typeName body'⟩ ↔
      ∃ a, (m body).run table = .ok (a, table) ∧
        (f a).run table = .error ⟨line, .unknownSubTag k key typeName body'⟩ := by
  rw [run_bind_eq_error]
  constructor
  · rintro (h | ⟨a, between, ha, h⟩)
    · exact absurd h finds.ne
    · cases hm.table_eq ha
      exact ⟨a, ha, h⟩
  · rintro ⟨a, ha, h⟩
    exact .inr ⟨a, table, ha, h⟩

end

/-- Keys whose parameters are literal texts. -/
def LiteralParams (parts : List Part) : Prop :=
  ∀ p ∈ parts, ∀ a ∈ p.param, a.isLiteral = true

theorem LiteralParams.take {parts : List Part} (h : LiteralParams parts) (k : Nat) : LiteralParams (parts.take k) :=
  fun p hp => h p (List.mem_of_mem_take hp)

section
variable {s : TagScope}

theorem partsType_texts {parts : List CompiledPart} (h : ∀ p ∈ parts, ∃ w, p = .text w) (table table' : ChainTable) :
    partsType table parts = partsType table' parts := by
  match parts with
  | [] | [.text _] | .text _ :: _ :: _ | .chain _ :: _ :: _ => rfl
  | [.chain i] =>
    obtain ⟨w, hw⟩ := h _ List.mem_cons_self
    cases hw

theorem compileSegments_texts {segments : List Segment} (h : segments.all Segment.isText = true) :
    ∃ parts, (∀ table, (compileSegments s segments).run table = .ok (parts, table)) ∧
      ∀ p ∈ parts, ∃ w, p = .text w := by
  induction segments with
  | nil => exact ⟨[], fun table => by rw [compileSegments]; rfl, by simp⟩
  | cons segment rest ih =>
    rw [List.all_cons, Bool.and_eq_true] at h
    obtain ⟨parts, hparts, texts⟩ := ih h.2
    cases segment with
    | tag t => cases h.1
    | text w =>
      refine ⟨.text w :: parts, fun table => ?_, by simpa using texts⟩
      rw [compileSegments, compileSegment]
      exact run_bind_eq_ok.mpr ⟨_, table, rfl, run_bind_eq_ok.mpr ⟨parts, table, hparts table, rfl⟩⟩

theorem compileArgument_literal {a : Argument} (h : a.isLiteral = true) :
    ∃ c, ∀ table, (compileArgument s a).run table = .ok (c, table) := by
  obtain ⟨segments, quoted⟩ := a
  obtain ⟨parts, hparts, texts⟩ := compileSegments_texts (s := s) h
  refine ⟨⟨parts, partsType #[] parts⟩, fun table => ?_⟩
  rw [compileArgument, partsType_texts texts #[] table]
  exact run_bind_eq_ok.mpr ⟨parts, table, hparts table, rfl⟩

theorem steady_literal {a : Argument} (h : a.isLiteral = true) : Steady fun _ => compileArgument s a := by
  constructor
  intro body table c table' hc body' other
  obtain ⟨c', all⟩ := compileArgument_literal (s := s) h
  rw [all table] at hc
  cases hc
  exact all other

theorem findsSubTags_literal {a : Argument} (h : a.isLiteral = true) : FindsSubTags (compileArgument s a) := by
  constructor
  intro table line k key typeName body hc
  obtain ⟨c, all⟩ := compileArgument_literal (s := s) h
  rw [all table] at hc
  cases hc

section
variable {param : Option Argument} (literal : ∀ a ∈ param, a.isLiteral = true) (key : String) (rule : ParamRule)
include literal

theorem steady_param : Steady fun body => compileParam s body key rule param := by
  cases param with
  | none =>
    cases rule with
    | required _ => exact steady_fail s _
    | none | optional _ => exact steady_pure _
  | some a =>
    cases rule with
    | none => exact steady_fail s _
    | required _ | optional _ => exact (steady_literal (literal a rfl)).bind fun c => steady_pure _

theorem findsSubTags_param (body : String) : FindsSubTags (compileParam s body key rule param) := by
  cases param with
  | none =>
    cases rule with
    | required _ => exact findsSubTags_bad _ _
    | none | optional _ => exact findsSubTags_pure _
  | some a =>
    cases rule with
    | none => exact findsSubTags_bad _ _
    | required _ | optional _ => exact (findsSubTags_literal (literal a rfl)).bind fun c => findsSubTags_pure _

end

theorem steady_returned (returns : Returns) (param : Option CompiledArgument) :
    Steady fun body => s.returned returns param body := by
  cases returns with
  | fixed t => exact steady_pure t
  | special resolve =>
    cases h : resolve (param.bind CompiledArgument.literal?) s.registries.types.conversions with
    | ok t => simpa only [TagScope.returned, h] using steady_pure t
    | error f => simpa only [TagScope.returned, h] using steady_fail s _

theorem findsSubTags_returned (returns : Returns) (param : Option CompiledArgument) (body : String) :
    FindsSubTags (s.returned returns param body) := by
  cases returns with
  | fixed t => exact findsSubTags_pure t
  | special resolve =>
    cases h : resolve (param.bind CompiledArgument.literal?) s.registries.types.conversions with
    | ok t => simpa only [TagScope.returned, h] using findsSubTags_pure t
    | error f => simpa only [TagScope.returned, h] using findsSubTags_bad f body

/-! ### Keys -/

theorem steady_start {first : Part} (literal : ∀ a ∈ first.param, a.isLiteral = true) :
    Steady fun body => compileStart s body first := by
  obtain ⟨key, param⟩ := first
  simp only [compileStart]
  cases s.registries.bases.get? (Text.lower key) with
  | none => exact steady_fail s _
  | some base =>
    dsimp only
    split
    · split
      · exact steady_fail s _
      · split
        · exact steady_fail s _
        · exact steady_pure _
    · exact (steady_param literal _ _).bind fun c => (steady_returned _ c).bind fun t => steady_pure _

theorem findsSubTags_start {first : Part} (literal : ∀ a ∈ first.param, a.isLiteral = true) (body : String) :
    FindsSubTags (compileStart s body first) := by
  obtain ⟨key, param⟩ := first
  simp only [compileStart]
  cases s.registries.bases.get? (Text.lower key) with
  | none => exact ⟨fun h => by cases h⟩
  | some base =>
    dsimp only
    split
    · split
      · exact findsSubTags_bad _ _
      · split
        · exact ⟨fun h => by cases h⟩
        · exact findsSubTags_pure _
    · exact (findsSubTags_param literal _ _ body).bind fun c =>
        (findsSubTags_returned _ c body).bind fun t => findsSubTags_pure _

theorem steady_steps {parts : List Part} (literal : LiteralParams parts) (index : Nat) (current : String) :
    Steady fun body => compileSteps s body index current parts := by
  induction parts generalizing index current with
  | nil =>
    simp only [compileSteps]
    exact steady_pure _
  | cons part rest ih =>
    obtain ⟨key, param⟩ := part
    simp only [compileSteps]
    cases s.registries.types.resolve? current (Text.lower key) with
    | none => exact steady_fail s _
    | some found =>
      have later : LiteralParams rest := fun p hp => literal p (List.mem_cons_of_mem _ hp)
      exact (steady_param (literal ⟨key, param⟩ List.mem_cons_self) _ _).bind fun c =>
        (steady_returned _ c).bind fun t => (ih later _ _).bind fun more => steady_pure _

theorem steady_parts {parts : List Part} (literal : LiteralParams parts) :
    Steady fun body => compileParts s body parts := by
  cases parts with
  | nil =>
    simp only [compileParts]
    exact steady_fail s _
  | cons first rest =>
    have later : LiteralParams rest := fun p hp => literal p (List.mem_cons_of_mem _ hp)
    simp only [compileParts]
    exact (steady_start (literal first List.mem_cons_self)).bind fun start =>
      (steady_steps later _ _).bind fun steps => steady_pure _

section
variable {body : String} {table : ChainTable}

/-- Where a sub-tag is found, an unknown one stands among the keys behind it. -/
theorem compileSteps_cons_error_iff {index : Nat} {current : String} {part : Part} {rest : List Part}
    {found : TagType × SubTag} (literal : ∀ a ∈ part.param, a.isLiteral = true)
    (hr : s.registries.types.resolve? current (Text.lower part.key) = some found) {line k : Nat}
    {key typeName body' : String} :
    (compileSteps s body index current (part :: rest)).run table =
        .error ⟨line, .unknownSubTag k key typeName body'⟩ ↔
      ∃ c t, (compileParam s body (Text.lower part.key) found.2.param part.param).run table = .ok (c, table) ∧
        (s.returned found.2.returns c body).run table = .ok (t, table) ∧
        (compileSteps s body (index + 1) t rest).run table = .error ⟨line, .unknownSubTag k key typeName body'⟩ := by
  obtain ⟨name, param⟩ := part
  obtain ⟨owner, subTag⟩ := found
  rw [compileSteps]
  dsimp only at hr ⊢
  rw [hr]
  dsimp only
  rw [(steady_param literal _ _).run_bind_eq_unknown (findsSubTags_param literal _ _ body)]
  constructor
  · rintro ⟨c, hc, h⟩
    obtain ⟨t, ht, h⟩ := ((steady_returned _ c).run_bind_eq_unknown (findsSubTags_returned _ c body)).mp h
    rcases run_bind_eq_error.mp h with h | ⟨more, between, -, h⟩
    · exact ⟨c, t, hc, ht, h⟩
    · cases h
  · rintro ⟨c, t, hc, ht, h⟩
    exact ⟨c, hc, ((steady_returned _ c).run_bind_eq_unknown (findsSubTags_returned _ c body)).mpr
      ⟨t, ht, run_bind_eq_error.mpr (.inl h)⟩⟩

theorem compileSteps_cons_ok_iff {index : Nat} {current : String} {part : Part} {rest : List Part}
    {found : TagType × SubTag} (literal : ∀ a ∈ part.param, a.isLiteral = true)
    (hr : s.registries.types.resolve? current (Text.lower part.key) = some found) {typeName : String} :
    (∃ steps, (compileSteps s body index current (part :: rest)).run table = .ok (steps, table) ∧
        steps.typeName = typeName) ↔
      ∃ c t, (compileParam s body (Text.lower part.key) found.2.param part.param).run table = .ok (c, table) ∧
        (s.returned found.2.returns c body).run table = .ok (t, table) ∧
        ∃ more, (compileSteps s body (index + 1) t rest).run table = .ok (more, table) ∧
        more.typeName = typeName := by
  obtain ⟨name, param⟩ := part
  obtain ⟨owner, subTag⟩ := found
  rw [compileSteps]
  dsimp only at hr ⊢
  rw [hr]
  dsimp only
  constructor
  · rintro ⟨steps, h, ht'⟩
    obtain ⟨c, hc, h⟩ := (steady_param literal _ _).run_bind_eq_ok.mp h
    obtain ⟨t, ht, h⟩ := (steady_returned _ c).run_bind_eq_ok.mp h
    obtain ⟨more, between, hmore, h⟩ := run_bind_eq_ok.mp h
    cases h
    exact ⟨c, t, hc, ht, more, hmore, ht'⟩
  · rintro ⟨c, t, hc, ht, more, hmore, ht'⟩
    exact ⟨_, run_bind_eq_ok.mpr ⟨c, table, hc, run_bind_eq_ok.mpr ⟨t, table, ht,
      run_bind_eq_ok.mpr ⟨more, table, hmore, rfl⟩⟩⟩, ht'⟩

/-- The keys after the first fail at the first that is no sub-tag of the type that those before it come to. -/
theorem compileSteps_error_iff {parts : List Part} (literal : LiteralParams parts) {index : Nat} {current : String}
    {line k : Nat} {key typeName body' : String} :
    (compileSteps s body index current parts).run table = .error ⟨line, .unknownSubTag k key typeName body'⟩ ↔
      line = s.line ∧ body' = body ∧ ∃ j part, k = index + j ∧ parts[j]? = some part ∧ key = Text.lower part.key ∧
        (∃ steps, (compileSteps s body index current (parts.take j)).run table = .ok (steps, table) ∧
          steps.typeName = typeName) ∧
        s.registries.types.resolve? typeName key = none := by
  induction parts generalizing index current with
  | nil =>
    rw [compileSteps]
    constructor
    · intro h
      cases h
    · rintro ⟨-, -, j, part, -, h, -⟩
      cases h
  | cons first rest ih =>
    have here : ∀ a ∈ first.param, a.isLiteral = true := literal first List.mem_cons_self
    have later : LiteralParams rest := fun p hp => literal p (List.mem_cons_of_mem _ hp)
    cases hr : s.registries.types.resolve? current (Text.lower first.key) with
    | none =>
      have unknown (rest : List Part) : (compileSteps s body index current (first :: rest)).run table =
          .error ⟨s.line, .unknownSubTag index (Text.lower first.key) current body⟩ := by
        obtain ⟨name, param⟩ := first
        simp only [compileSteps, hr]
        rfl
      constructor
      · intro h
        rw [unknown] at h
        cases h
        exact ⟨rfl, rfl, 0, first, rfl, rfl, rfl, ⟨_, rfl, rfl⟩, hr⟩
      · rintro ⟨rfl, rfl, j, part, rfl, hpart, rfl, ⟨steps, hsteps, rfl⟩, -⟩
        cases j with
        | zero =>
          cases hpart
          rw [List.take_zero, compileSteps] at hsteps
          cases hsteps
          exact unknown rest
        | succ j =>
          rw [List.take_succ_cons, unknown] at hsteps
          cases hsteps
    | some found =>
      rw [compileSteps_cons_error_iff here hr]
      constructor
      · rintro ⟨c, t, hc, ht, h⟩
        obtain ⟨rfl, rfl, j, part, rfl, hpart, rfl, hsteps, unknown⟩ := (ih later).mp h
        refine ⟨rfl, rfl, j + 1, part, by omega, hpart, rfl, ?_, unknown⟩
        exact (compileSteps_cons_ok_iff here hr).mpr ⟨c, t, hc, ht, hsteps⟩
      · rintro ⟨rfl, rfl, j, part, rfl, hpart, rfl, hsteps, unknown⟩
        cases j with
        | zero =>
          cases hpart
          obtain ⟨steps, hsteps, rfl⟩ := hsteps
          rw [List.take_zero, compileSteps] at hsteps
          cases hsteps
          rw [hr] at unknown
          cases unknown
        | succ j =>
          obtain ⟨c, t, hc, ht, hsteps⟩ := (compileSteps_cons_ok_iff here hr).mp hsteps
          exact ⟨c, t, hc, ht, (ih later).mpr ⟨rfl, rfl, j, part, by omega, hpart, rfl, hsteps, unknown⟩⟩

theorem compileParts_cons_error_iff {first : Part} {rest : List Part}
    (literal : ∀ a ∈ first.param, a.isLiteral = true)
    {line k : Nat} {key typeName body' : String} :
    (compileParts s body (first :: rest)).run table = .error ⟨line, .unknownSubTag k key typeName body'⟩ ↔
      ∃ start, (compileStart s body first).run table = .ok (start, table) ∧
        (compileSteps s body 1 start.typeName rest).run table =
        .error ⟨line, .unknownSubTag k key typeName body'⟩ := by
  rw [compileParts, (steady_start literal).run_bind_eq_unknown (findsSubTags_start literal body)]
  constructor
  · rintro ⟨start, hstart, h⟩
    rcases run_bind_eq_error.mp h with h | ⟨steps, between, -, h⟩
    · exact ⟨start, hstart, h⟩
    · cases h
  · rintro ⟨start, hstart, h⟩
    exact ⟨start, hstart, run_bind_eq_error.mpr (.inl h)⟩

theorem compileParts_cons_ok_iff {first : Part} {rest : List Part} (literal : ∀ a ∈ first.param, a.isLiteral = true)
    {typeName : String} :
    (∃ start steps, (compileParts s body (first :: rest)).run table = .ok ((start, steps), table) ∧
        steps.typeName = typeName) ↔
      ∃ start, (compileStart s body first).run table = .ok (start, table) ∧
        ∃ steps, (compileSteps s body 1 start.typeName rest).run table = .ok (steps, table) ∧
          steps.typeName = typeName := by
  rw [compileParts]
  constructor
  · rintro ⟨start, steps, h, ht⟩
    obtain ⟨start', hstart, h⟩ := (steady_start literal).run_bind_eq_ok.mp h
    obtain ⟨steps', between, hsteps, h⟩ := run_bind_eq_ok.mp h
    cases h
    exact ⟨start, hstart, steps, hsteps, ht⟩
  · rintro ⟨start, hstart, steps, hsteps, ht⟩
    exact ⟨start, steps, run_bind_eq_ok.mpr
      ⟨start, table, hstart, run_bind_eq_ok.mpr ⟨steps, table, hsteps, rfl⟩⟩, ht⟩

end

end

/-! ### Tags -/

/-- Keys that are compiled to a chain of a type. -/
def TagScope.CompilesTo (s : TagScope) (table : ChainTable) (parts : List Part) (typeName : String) : Prop :=
  ∃ i table' e, (compileTag s ⟨parts, none⟩).run table = .ok (i, table') ∧ table'[i]? = some e ∧ e.typeName = typeName

section
variable {s : TagScope} {table : ChainTable}

theorem shareChain_total (key : String) (chain : Chain) (typeName : String) (table : ChainTable) :
    ∃ i table', (shareChain key chain typeName).run table = .ok (i, table') := by
  unfold shareChain
  cases h : table.findIdx? (·.key == key) with
  | none => exact ⟨_, _, run_bind_eq_ok.mpr ⟨table, table, rfl, by rw [h]; rfl⟩⟩
  | some i => exact ⟨_, _, run_bind_eq_ok.mpr ⟨table, table, rfl, by rw [h]; rfl⟩⟩

theorem shareChain_empty (key : String) (chain : Chain) (typeName : String) :
    (shareChain key chain typeName).run #[] = .ok (0, #[⟨key, chain, typeName⟩]) := by
  unfold shareChain
  exact run_bind_eq_ok.mpr ⟨#[], #[], rfl, by rw [Array.findIdx?_empty]; rfl⟩

/-- A tag without fallback fails where its keys do. -/
theorem compileTag_error_iff {parts : List Part} {err : CompileError} :
    (compileTag s ⟨parts, none⟩).run table = .error err ↔
      (compileParts s (Tag.mk parts none).bodyText parts).run table = .error err := by
  rw [compileTag]
  constructor
  · intro h
    rcases run_bind_eq_error.mp h with h | ⟨⟨start, steps⟩, between, -, h⟩
    · exact h
    rcases run_bind_eq_error.mp h with h | ⟨f, between', -, h⟩
    · cases h
    · obtain ⟨i, table', total⟩ := shareChain_total _ _ _ between'
      rw [total] at h
      cases h
  · intro h
    exact run_bind_eq_error.mpr (.inl h)

/-- A tag without fallback is compiled where its keys are, and its chain in an empty table has their type. -/
theorem compilesTo_empty_iff {parts : List Part} (literal : LiteralParams parts) (body : String) (table : ChainTable)
    {typeName : String} :
    s.CompilesTo #[] parts typeName ↔
      ∃ start steps, (compileParts s body parts).run table = .ok ((start, steps), table) ∧
        steps.typeName = typeName := by
  rw [TagScope.CompilesTo]
  constructor
  · rintro ⟨i, table', e, h, he, ht⟩
    rw [compileTag] at h
    obtain ⟨⟨start, steps⟩, hparts, h⟩ := (steady_parts literal).run_bind_eq_ok.mp h
    obtain ⟨fallback, between, hfallback, h⟩ := run_bind_eq_ok.mp h
    cases hfallback
    rw [shareChain_empty] at h
    cases h
    cases he
    exact ⟨start, steps, (steady_parts literal).anywhere hparts body table, ht⟩
  · rintro ⟨start, steps, h, ht⟩
    have parts := (steady_parts literal).anywhere h (Tag.mk parts none).bodyText #[]
    rw [compileTag]
    exact ⟨0, _, _, run_bind_eq_ok.mpr
      ⟨_, _, parts, run_bind_eq_ok.mpr ⟨none, _, rfl, shareChain_empty _ _ _⟩⟩, rfl, ht⟩

/-- In a table whose chains are what their keys stand for, keys come to the type that they come to by themselves. -/
theorem compilesTo_iff {find : String → Option Variable} (finds : s.Finds find) (plain : s.registries.PlainNames)
    (sound : Sound s.registries s.slots table) {parts : List Part} (literal : LiteralParams parts)
    {typeName : String} :
    s.CompilesTo table parts typeName ↔ s.CompilesTo #[] parts typeName := by
  have empty : Sound s.registries s.slots #[] := ⟨fun he => by cases he⟩
  have total : ∀ {t t' : ChainTable} {i : Nat}, (compileTag s ⟨parts, none⟩).run t = .ok (i, t') →
      ∀ other, ∃ j other', (compileTag s ⟨parts, none⟩).run other = .ok (j, other') := by
    intro t t' i h other
    rw [compileTag] at h ⊢
    obtain ⟨p, t₁, hparts, -⟩ := run_bind_eq_ok.mp h
    obtain ⟨j, other', shared⟩ := shareChain_total _ _ _ other
    exact ⟨j, other', run_bind_eq_ok.mpr ⟨p, other, (steady_parts literal).anywhere hparts _ _,
      run_bind_eq_ok.mpr ⟨none, other, rfl, shared⟩⟩⟩
  have carry : ∀ {t t' : ChainTable}, Sound s.registries s.slots t → Sound s.registries s.slots t' →
      s.CompilesTo t parts typeName → s.CompilesTo t' parts typeName := by
    rintro t t' ht ht' ⟨i, t₁, e, h, he, rfl⟩
    obtain ⟨j, t₂, h'⟩ := total h t'
    obtain ⟨e₁, he₁, typed⟩ := (compileTag_agrees finds plain _ ht h).2.typed
    obtain ⟨e₂, he₂, typed'⟩ := (compileTag_agrees finds plain _ ht' h').2.typed
    rw [he] at he₁
    cases he₁
    rw [typed] at typed'
    exact ⟨j, t₂, e₂, h', he₂, (Option.some.inj typed').symm⟩
  exact ⟨carry sound empty, carry empty sound⟩

/-- A tag without fallback whose parameters are literal texts fails at a key after the first exactly if the keys before
    it are compiled, and no type on the parent chain of the type that they come to has a sub-tag of this key. The error
    names the place, the key and the type. -/
theorem compileTag_unknownSubTag_iff (s : TagScope) {parts : List Part} (literal : LiteralParams parts) :
    (∀ (table : ChainTable) (line k : Nat) (key typeName body : String),
      (compileTag s ⟨parts, none⟩).run table = .error ⟨line, .unknownSubTag k key typeName body⟩ ↔
        line = s.line ∧ body = (Tag.mk parts none).bodyText ∧ 1 ≤ k ∧
          (∃ part, parts[k]? = some part ∧ key = Text.lower part.key) ∧
          s.CompilesTo #[] (parts.take k) typeName ∧
          ∀ t, s.registries.types.OnChain typeName t → t.subTag? key = none) ∧
      ∀ (table : ChainTable) (find : String → Option Variable), s.Finds find → s.registries.PlainNames →
        Sound s.registries s.slots table → ∀ (k : Nat) (typeName : String),
          s.CompilesTo table (parts.take k) typeName ↔ s.CompilesTo #[] (parts.take k) typeName := by
  refine ⟨fun table line k key typeName body => ?_, fun table find finds plain sound k typeName =>
    compilesTo_iff finds plain sound (literal.take k)⟩
  rw [compileTag_error_iff, ← TypeRegistry.resolve?_eq_none_iff]
  cases parts with
  | nil =>
    rw [compileParts]
    constructor
    · intro h
      cases h
    · rintro ⟨-, -, -, ⟨part, h, -⟩, -⟩
      cases h
  | cons first rest =>
    have here : ∀ a ∈ first.param, a.isLiteral = true := literal first List.mem_cons_self
    have later : LiteralParams rest := fun p hp => literal p (List.mem_cons_of_mem _ hp)
    rw [compileParts_cons_error_iff here]
    constructor
    · rintro ⟨start, hstart, h⟩
      obtain ⟨rfl, rfl, j, part, rfl, hpart, rfl, hsteps, unknown⟩ := (compileSteps_error_iff later).mp h
      rw [Nat.add_comm 1 j]
      refine ⟨rfl, rfl, Nat.succ_pos j, ⟨part, hpart, rfl⟩, ?_, unknown⟩
      rw [compilesTo_empty_iff (literal.take (j + 1)) (Tag.mk (first :: rest) none).bodyText table,
        List.take_succ_cons]
      exact (compileParts_cons_ok_iff here).mpr ⟨start, hstart, hsteps⟩
    · rintro ⟨rfl, rfl, pos, ⟨part, hpart, rfl⟩, compiled, unknown⟩
      obtain ⟨j, rfl⟩ := Nat.exists_eq_add_of_le' pos
      rw [compilesTo_empty_iff (literal.take (j + 1)) (Tag.mk (first :: rest) none).bodyText table,
        List.take_succ_cons] at compiled
      obtain ⟨start, hstart, hsteps⟩ := (compileParts_cons_ok_iff here).mp compiled
      exact ⟨start, hstart, (compileSteps_error_iff later).mpr
        ⟨rfl, rfl, j, part, Nat.add_comm j 1, hpart, rfl, hsteps, unknown⟩⟩

end

/-- Line 3 of a script without variables. -/
def lineThree : TagScope :=
  ⟨.builtin, 3, fun _ => none, #[]⟩

/-- A number, as `as` gives it, has no sub-tag `bogus`, and neither have its parents. -/
theorem compileTag_unknownSubTag_as :
    lineThree.CompilesTo #[] [⟨"text", some (.ofText "a")⟩, ⟨"As", some (.ofText "number")⟩] "number" ∧
      ∀ t, TypeRegistry.builtin.OnChain "number" t → t.subTag? "bogus" = none := by
  have literal : LiteralParams
      [⟨"text", some (.ofText "a")⟩, ⟨"As", some (.ofText "number")⟩, ⟨"Bogus", none⟩] := by
    simp only [LiteralParams, List.forall_mem_cons]
    decide
  have fails : (compileTag lineThree
      ⟨[⟨"text", some (.ofText "a")⟩, ⟨"As", some (.ofText "number")⟩, ⟨"Bogus", none⟩], none⟩).run #[] =
        .error ⟨3, .unknownSubTag 2 "bogus" "number" "text[a].As[number].Bogus"⟩ := by
    rfl
  obtain ⟨-, -, -, -, compiled, unknown⟩ :=
    ((compileTag_unknownSubTag_iff lineThree literal).1 #[] 3 2 "bogus" "number" "text[a].As[number].Bogus").mp fails
  exact ⟨compiled, unknown⟩

end CommandScript
