import CommandScript.Proofs.Chains.Table

/-! Evaluating chains of a table whose chains name earlier ones only. How deep a chain may go does not matter then, and
    the value of a chain is the one that its parts give with the values of the chains they name. -/

namespace CommandScript

section
variable {run run' : Nat → Except Failure Value} {env : Environment}

/-! ### What a chain reads -/

theorem joinParts_congr {parts : List CompiledPart} (h : ∀ i, .chain i ∈ parts → run i = run' i) :
    joinParts run parts = joinParts run' parts := by
  induction parts with
  | nil => rfl
  | cons part rest ih =>
    have ih := ih fun i hi => h i (List.mem_cons_of_mem _ hi)
    cases part with
    | text s => rw [joinParts, joinParts, ih]
    | chain i => rw [joinParts, joinParts, ih, h i List.mem_cons_self]

theorem CompiledArgument.evaluateWith_congr {a : CompiledArgument} (h : ∀ i, .chain i ∈ a.parts → run i = run' i) :
    a.evaluateWith run = a.evaluateWith run' := by
  have joined : joinParts run a.parts = joinParts run' a.parts := joinParts_congr h
  unfold CompiledArgument.evaluateWith
  split
  · rename_i i hparts
    exact h i (by rw [hparts]; exact List.mem_singleton.mpr rfl)
  · rfl
  · rw [joined]

theorem paramWith_congr {param : Option CompiledArgument} {prepare : Value → Value}
    (h : ∀ a ∈ param, ∀ i, .chain i ∈ a.parts → run i = run' i) :
    paramWith run param prepare = paramWith run' param prepare := by
  cases param with
  | none => rfl
  | some a => rw [paramWith, paramWith, CompiledArgument.evaluateWith_congr (h a rfl)]

theorem stepsWith_congr {body : String} {steps : List ChainStep}
    (h : ∀ step ∈ steps, ∀ a ∈ step.param, ∀ i, .chain i ∈ a.parts → run i = run' i) (v : Value) :
    stepsWith run env body v steps = stepsWith run' env body v steps := by
  induction steps generalizing v with
  | nil => rfl
  | cons step rest ih =>
    have ih := ih fun step hs => h step (List.mem_cons_of_mem _ hs)
    simp only [stepsWith, paramWith_congr (h step List.mem_cons_self), ih]

/-- The argument that a chain begins with. -/
def ChainStart.argument? : ChainStart → Option CompiledArgument
  | .slot _ => none
  | .base _ param _ => param

/-- The arguments of a chain. -/
def Chain.arguments (c : Chain) : List CompiledArgument :=
  c.start.argument?.toList ++ (c.steps.filterMap (·.param) ++ c.fallback.toList)

theorem Chain.Before.argument {c : Chain} {n : Nat} (h : c.Before n) {a : CompiledArgument} (ha : a ∈ c.arguments) :
    Below n a.parts := by
  rcases List.mem_append.mp ha with ha | ha
  · cases hs : c.start with
    | slot =>
      rw [hs] at ha
      cases ha
    | base b param prepare =>
      rw [hs] at ha
      obtain rfl : param = some a := Option.mem_toList.mp ha
      exact h.start hs
  · rcases List.mem_append.mp ha with ha | ha
    · obtain ⟨step, hs, ha⟩ := List.mem_filterMap.mp ha
      exact h.steps step hs a ha
    · exact h.fallback a (Option.mem_toList.mp ha)

/-- A chain that another names in an argument. -/
def Chain.Names (c : Chain) (i : Nat) : Prop :=
  ∃ a ∈ c.arguments, .chain i ∈ a.parts

/-- The value of a chain depends on the chains it names only. -/
theorem Chain.evaluateWith_congr_of_names {c : Chain} (h : ∀ i, c.Names i → run i = run' i) :
    c.evaluateWith run env = c.evaluateWith run' env := by
  obtain ⟨start, steps, fallback, body⟩ := c
  have named : ∀ a ∈ start.argument?.toList ++ (steps.filterMap (·.param) ++ fallback.toList),
      ∀ i, .chain i ∈ a.parts →
      run i = run' i := fun a ha i hi => h i ⟨a, ha, hi⟩
  have first : start.evaluateWith run env body = start.evaluateWith run' env body := by
    cases start with
    | slot i => rfl
    | base b param prepare =>
      rw [ChainStart.evaluateWith, ChainStart.evaluateWith, paramWith_congr]
      exact fun a ha => named a (List.mem_append_left _ (Option.mem_toList.mpr ha))
  have later : ∀ v, stepsWith run env body v steps = stepsWith run' env body v steps :=
    stepsWith_congr fun step hs a ha => named a (List.mem_append_right _ (List.mem_append_left _
      (List.mem_filterMap.mpr ⟨step, hs, ha⟩)))
  rw [Chain.evaluateWith, Chain.evaluateWith]
  simp only [first, later]
  cases fallback with
  | none => rfl
  | some a =>
    have last : a.evaluateWith run = a.evaluateWith run' :=
      CompiledArgument.evaluateWith_congr (named a (List.mem_append_right _ (List.mem_append_right _
        (List.mem_singleton.mpr rfl))))
    simp only [last]

theorem Chain.Before.names {c : Chain} {n i : Nat} (h : c.Before n) (hi : c.Names i) : i < n := by
  obtain ⟨a, ha, hi⟩ := hi
  exact h.argument ha i hi

theorem Chain.evaluateWith_congr {c : Chain} {n : Nat} (before : c.Before n) (h : ∀ i, i < n → run i = run' i) :
    c.evaluateWith run env = c.evaluateWith run' env :=
  evaluateWith_congr_of_names fun i hi => h i (before.names hi)

/-! ### The source form of a chain -/

theorem toOption_faultIn (body : String) (x : Except TagFault Value) : (faultIn body x).toOption = x.toOption := by
  cases x <;> rfl

theorem stepsWith_body (body body' : String) (steps : List ChainStep) (v : Value) :
    (stepsWith run env body v steps).toOption = (stepsWith run env body' v steps).toOption := by
  induction steps generalizing v with
  | nil => rfl
  | cons step rest ih =>
    rw [stepsWith, stepsWith]
    split
    · rfl
    dsimp only
    split
    · rfl
    rw [toOption_bind, toOption_bind]
    congr 1
    funext param
    split
    · rfl
    rw [toOption_bind, toOption_bind, toOption_faultIn, toOption_faultIn]
    congr 1
    funext next
    exact ih next

/-- The source form of a chain is for messages only. -/
theorem Chain.evaluateWith_body (c : Chain) (body : String) :
    ({ c with body := body }.evaluateWith run env).toOption = (c.evaluateWith run env).toOption := by
  have start : (c.start.evaluateWith run env body).toOption = (c.start.evaluateWith run env c.body).toOption := by
    cases c.start with
    | slot i => rfl
    | base b param prepare =>
      rw [ChainStart.evaluateWith, ChainStart.evaluateWith, toOption_bind, toOption_bind]
      congr 1
      funext p
      rw [toOption_faultIn, toOption_faultIn]
  rw [Chain.evaluateWith, Chain.evaluateWith, toOption_bind, toOption_bind, start]
  congr 1
  funext first
  rw [toOption_bind, toOption_bind, stepsWith_body body c.body]

end

/-! ### Environments -/

namespace Environment
variable {env : Environment}

/-- Chains that name chains before them only. -/
def Ordered (env : Environment) : Prop :=
  ∀ {i : Nat} {c : Chain}, env.chains[i]? = some c → c.Before i

/-- The value of the chain at a place. -/
def value (env : Environment) (index : Nat) : Except Failure Value :=
  env.runChain env.chains.size index

/-- A depth beyond the place of a chain is enough for it. -/
theorem runChain_eq (ordered : env.Ordered) {index depth depth' : Nat} (h : index < depth) (h' : index < depth') :
    env.runChain depth index = env.runChain depth' index := by
  induction index using Nat.strongRecOn generalizing depth depth' with
  | ind index ih =>
    obtain ⟨depth, rfl⟩ := Nat.exists_eq_succ_of_ne_zero (Nat.ne_of_gt (Nat.lt_of_le_of_lt (Nat.zero_le _) h))
    obtain ⟨depth', rfl⟩ := Nat.exists_eq_succ_of_ne_zero (Nat.ne_of_gt (Nat.lt_of_le_of_lt (Nat.zero_le _) h'))
    rw [runChain, runChain]
    cases hc : env.chains[index]? with
    | none => rfl
    | some c =>
      exact Chain.evaluateWith_congr (ordered hc) fun i hi => ih i hi (by omega) (by omega)

/-- The value of a chain comes from the values of the chains before it. -/
theorem value_eq (ordered : env.Ordered) {i : Nat} {c : Chain} (hc : env.chains[i]? = some c) :
    env.value i = c.evaluateWith env.value env := by
  have lt := (Array.getElem?_eq_some_iff.mp hc).1
  have deep : env.value i = env.runChain (env.chains.size + 1) i := runChain_eq ordered lt (Nat.lt_succ_of_lt lt)
  rw [deep, runChain, hc]
  rfl

end Environment

end CommandScript
