import CommandScript.Proofs.Chains.Agreement
import CommandScript.Proofs.Machine.Source
import CommandScript.Proofs.Structured.Placed

/-! Compiled code names nothing that is not there: its arguments name chains of its table, its chains name chains before
    them, and the slots that it declares and reads are slots that it has. This holds for whatever bases and types an
    engine knows, as it rests on how the table and the slots grow and not on what they hold. -/

namespace CommandScript

/-! ### Chains -/

/-- A table whose chains name chains before them only. -/
def Ranked (table : ChainTable) : Prop :=
  ∀ (i : Nat) (e : TableEntry), table[i]? = some e → e.chain.Before i

theorem ranked_empty : Ranked #[] := by
  intro i e he
  simp at he

section
variable {c : Chain} {n k : Nat}

theorem Chain.Before.mono (h : c.Before n) (le : n ≤ k) : c.Before k where
  start hc := (h.start hc).mono le
  steps step hs a ha := (h.steps step hs a ha).mono le
  fallback a ha := (h.fallback a ha).mono le

theorem Ranked.push {table : ChainTable} (ranked : Ranked table) {key typeName : String}
    (before : c.Before table.size) : Ranked (table.push ⟨key, c, typeName⟩) := by
  intro i e he
  rw [Array.getElem?_push] at he
  split at he
  · rename_i last
    cases he
    exact last ▸ before
  · exact ranked i e he

end

/-- Compiling that keeps a table of `n` chains or more ranked, loses none of its chains, and comes to something that
    fits the number of chains there are then. -/
def Compiling.Ranks (n : Nat) (m : Compiling α) (Q : Nat → α → Prop) : Prop :=
  ∀ (table : ChainTable), Ranked table → n ≤ table.size → ∀ (x : α) (table' : ChainTable),
    m.run table = .ok (x, table') → Ranked table' ∧ table.size ≤ table'.size ∧ Q table'.size x

namespace Compiling.Ranks

variable {n : Nat} {Q : Nat → α → Prop} {R : Nat → β → Prop}

theorem pure {x : α} (h : ∀ k, n ≤ k → Q k x) : Ranks n (pure x : Compiling α) Q := by
  intro table ranked le y table' hy
  cases hy
  exact ⟨ranked, Nat.le_refl _, h _ le⟩

theorem fail (s : TagScope) (f : CompileFault) : Ranks n (s.fail f : Compiling α) Q := by
  intro table _ _ x table' hx
  exact absurd hx run_fail_ne_ok

theorem bind {m : Compiling α} {f : α → Compiling β} (hm : Ranks n m Q)
    (hf : ∀ x k, n ≤ k → Q k x → Ranks k (f x) R) : Ranks n (m >>= f) R := by
  intro table ranked le y table' hy
  obtain ⟨x, between, hx, hy⟩ := run_bind_eq_ok.mp hy
  obtain ⟨ranked, grown, fits⟩ := hm table ranked le x between hx
  obtain ⟨ranked, grown', fits⟩ :=
    hf x between.size (Nat.le_trans le grown) fits between ranked (Nat.le_refl _) y table' hy
  exact ⟨ranked, Nat.le_trans grown grown', fits⟩

theorem returned (s : TagScope) (returns : Returns) (param : Option CompiledArgument) (body : String) :
    Ranks n (s.returned returns param body) fun _ _ => True := by
  intro table ranked _ t table' ht
  obtain ⟨-, rfl⟩ := run_returned_eq_ok ht
  exact ⟨ranked, Nat.le_refl _, trivial⟩

theorem share {key typeName : String} {chain : Chain} (before : chain.Before n) :
    Ranks n (shareChain key chain typeName) fun k i => i < k := by
  intro table ranked le i table' hi
  rcases shareChain_eq_ok hi with ⟨e, he, -, rfl⟩ | ⟨rfl, rfl⟩
  · exact ⟨ranked, Nat.le_refl _, (Array.getElem?_eq_some_iff.mp he).1⟩
  · rw [Array.size_push]
    exact ⟨ranked.push (before.mono le), Nat.le_succ _, Nat.lt_succ_self _⟩

theorem mapM {f : α → Compiling β} (hf : ∀ x k, Ranks k (f x) R) (mono : ∀ {k l y}, k ≤ l → R k y → R l y)
    (xs : List α) : Ranks n (xs.mapM f) fun k ys => ∀ y ∈ ys, R k y := by
  induction xs generalizing n with
  | nil => exact pure fun _ _ => List.forall_mem_nil _
  | cons x rest ih =>
    rw [List.mapM_cons]
    refine (hf x n).bind fun y k _ hy => ih.bind fun ys l le hys => pure fun m le' => ?_
    exact List.forall_mem_cons.mpr ⟨mono (Nat.le_trans le le') hy, fun z hz => mono le' (hys z hz)⟩

end Compiling.Ranks

/-- An argument that may be missing, and names chains before a place only. -/
def BelowAny (n : Nat) (param : Option CompiledArgument) : Prop :=
  ∀ a ∈ param, Below n a.parts

/-- The beginning of a chain that names chains before a place only. -/
def ChainStart.Before (start : ChainStart) (n : Nat) : Prop :=
  ∀ b a prepare, start = .base b (some a) prepare → Below n a.parts

/-- Steps that name chains before a place only. -/
def StepsBefore (steps : List ChainStep) (n : Nat) : Prop :=
  ∀ step ∈ steps, BelowAny n step.param

section
variable {n k : Nat}

theorem BelowAny.mono {param : Option CompiledArgument} (h : BelowAny n param) (le : n ≤ k) : BelowAny k param :=
  fun a ha => (h a ha).mono le

theorem StepsBefore.mono {steps : List ChainStep} (h : StepsBefore steps n) (le : n ≤ k) : StepsBefore steps k :=
  fun step hs => (h step hs).mono le

theorem ChainStart.before_slot (index : Nat) : (ChainStart.slot index).Before n := by
  intro b a prepare h
  cases h

theorem ChainStart.before_base {b : TagBase} {param : Option CompiledArgument} {prepare : Value → Value}
    (h : BelowAny n param) : (ChainStart.base b param prepare).Before n := by
  intro b' a prepare' he
  cases he
  exact h a rfl

theorem ChainStart.Before.mono {start : ChainStart} (h : start.Before n) (le : n ≤ k) : start.Before k :=
  fun b a prepare he => (h b a prepare he).mono le

theorem below_nil : Below n [] :=
  fun _ hi => absurd hi List.not_mem_nil

theorem below_cons {part : CompiledPart} {rest : List CompiledPart} (first : ∀ i, part = .chain i → i < n)
    (h : Below n rest) : Below n (part :: rest) := by
  intro i hi
  rcases List.mem_cons.mp hi with rfl | hi
  · exact first i rfl
  · exact h i hi

end

open Compiling

mutual

theorem compileArgument_ranks (s : TagScope) (n : Nat) : ∀ a : Argument,
    Ranks n (compileArgument s a) fun k c => Below k c.parts
  | ⟨segments, _⟩ => by
    rw [compileArgument]
    refine (compileSegments_ranks s n segments).bind fun parts k _ below => ?_
    intro table ranked le c table' hc
    cases hc
    exact ⟨ranked, Nat.le_refl _, below.mono le⟩

theorem compileSegments_ranks (s : TagScope) (n : Nat) : ∀ segments : List Segment,
    Ranks n (compileSegments s segments) Below
  | [] => by
    rw [compileSegments]
    exact .pure fun _ _ => below_nil
  | segment :: rest => by
    rw [compileSegments]
    refine (compileSegment_ranks s n segment).bind fun part k _ first => ?_
    refine (compileSegments_ranks s k rest).bind fun parts l le more => .pure fun m le' => ?_
    exact below_cons (fun i hi => Nat.lt_of_lt_of_le (first i hi) (Nat.le_trans le le')) (more.mono le')

theorem compileSegment_ranks (s : TagScope) (n : Nat) : ∀ segment : Segment,
    Ranks n (compileSegment s segment) fun k part => ∀ i, part = .chain i → i < k
  | .text _ => by
    rw [compileSegment]
    exact .pure fun _ _ _ hi => (by cases hi)
  | .tag t => by
    rw [compileSegment]
    refine (compileTag_ranks s n t).bind fun i k _ lt => .pure fun m le j hj => ?_
    cases hj
    exact Nat.lt_of_lt_of_le lt le

theorem compileTag_ranks (s : TagScope) (n : Nat) : ∀ t : Tag, Ranks n (compileTag s t) fun k i => i < k
  | ⟨parts, fallback⟩ => by
    rw [compileTag]
    refine (compileParts_ranks s n _ parts).bind fun x k _ ⟨start, steps⟩ => ?_
    refine (compileOptional_ranks s k fallback).bind fun fallback l le last => ?_
    exact .share ⟨fun he => start.mono le _ _ _ he, steps.mono le, last⟩

theorem compileParts_ranks (s : TagScope) (n : Nat) (body : String) : ∀ parts : List Part,
    Ranks n (compileParts s body parts) fun k c => c.1.start.Before k ∧ StepsBefore c.2.steps k
  | [] => by
    rw [compileParts]
    exact .fail s _
  | first :: rest => by
    rw [compileParts]
    refine (compileStart_ranks s n body first).bind fun start k _ before => ?_
    refine (compileSteps_ranks s k body 1 start.typeName rest).bind fun steps l le more => .pure fun m le' => ?_
    exact ⟨before.mono (Nat.le_trans le le'), more.mono le'⟩

theorem compileStart_ranks (s : TagScope) (n : Nat) (body : String) : ∀ first : Part,
    Ranks n (compileStart s body first) fun k c => c.start.Before k
  | ⟨key, param⟩ => by
    rw [compileStart]
    dsimp only
    cases s.registries.bases.get? (Text.lower key) with
    | none => exact .fail s _
    | some base =>
      dsimp only
      split
      · split
        · exact .fail s _
        · split
          · exact .fail s _
          · exact .pure fun _ _ => ChainStart.before_slot _
      · refine (compileParam_ranks s n body _ base.param param).bind fun param k _ before => ?_
        refine (Ranks.returned s base.returns param body).bind fun t l le _ => .pure fun m le' => ?_
        exact ChainStart.before_base (before.mono (Nat.le_trans le le'))

theorem compileSteps_ranks (s : TagScope) (n : Nat) (body : String) (index : Nat) (current : String) :
    ∀ parts : List Part, Ranks n (compileSteps s body index current parts) fun k c => StepsBefore c.steps k
  | [] => by
    rw [compileSteps]
    exact .pure fun _ _ _ hs => absurd hs List.not_mem_nil
  | ⟨key, param⟩ :: rest => by
    rw [compileSteps]
    dsimp only
    cases s.registries.types.resolve? current (Text.lower key) with
    | none => exact .fail s _
    | some found =>
      obtain ⟨owner, subTag⟩ := found
      refine (compileParam_ranks s n body _ subTag.param param).bind fun param k _ before => ?_
      refine (Ranks.returned s subTag.returns param body).bind fun t l le _ => ?_
      refine (compileSteps_ranks s l body (index + 1) t rest).bind fun more m le' steps => .pure fun o le'' => ?_
      intro step hs
      rcases List.mem_cons.mp hs with rfl | hs
      · exact before.mono (Nat.le_trans le (Nat.le_trans le' le''))
      · exact (steps step hs).mono le''

theorem compileParam_ranks (s : TagScope) (n : Nat) (body key : String) (rule : ParamRule) :
    ∀ param : Option Argument, Ranks n (compileParam s body key rule param) BelowAny
  | none => by
    unfold compileParam
    cases rule with
    | required _ => exact .fail s _
    | none | optional _ => exact .pure fun _ _ _ ha => (by cases ha)
  | some a => by
    unfold compileParam
    cases rule with
    | none => exact .fail s _
    | required _ | optional _ =>
      refine (compileArgument_ranks s n a).bind fun c k _ below => .pure fun m le c' hc' => ?_
      cases hc'
      exact below.mono le

theorem compileOptional_ranks (s : TagScope) (n : Nat) : ∀ a : Option Argument,
    Ranks n (compileOptional s a) BelowAny
  | none => by
    rw [compileOptional]
    exact .pure fun _ _ _ ha => (by cases ha)
  | some a => by
    rw [compileOptional]
    refine (compileArgument_ranks s n a).bind fun c k _ below => .pure fun m le c' hc' => ?_
    cases hc'
    exact below.mono le

end

theorem compileNamed_ranks (s : TagScope) (n : Nat) (named : String × Argument) :
    Ranks n (compileNamed s named) fun k c => Below k c.2.parts :=
  (compileArgument_ranks s n named.2).bind fun _ _ _ below => .pure fun _ le => below.mono le

/-! ### Slots -/

theorem mem_visibleIn {scopes : List Scope} {pair : String × Nat} (h : pair ∈ Compilation.visibleIn scopes) :
    ∃ s ∈ scopes, pair ∈ s.names := by
  induction scopes with
  | nil => exact absurd h List.not_mem_nil
  | cons s outer ih =>
    cases outer with
    | nil => exact ⟨s, List.mem_cons_self, h⟩
    | cons s' outer =>
      rw [Compilation.visibleIn] at h
      · have added : ∀ (names base : SlotNames),
            pair ∈ names.foldl (fun names p => setKey p.1 p.2 names) base →
              pair ∈ names ∨ pair ∈ base := fun names => by
          induction names with
          | nil => exact fun _ h => Or.inr h
          | cons first rest ih =>
            intro base h
            rcases ih _ h with h | h
            · exact Or.inl (List.mem_cons_of_mem _ h)
            · exact (mem_setKey h).imp (fun he => List.mem_cons.mpr (Or.inl he)) id
        rcases added _ _ h with h | h
        · exact ⟨s, List.mem_cons_self, h⟩
        · obtain ⟨t, ht, hp⟩ := ih h
          exact ⟨t, List.mem_cons_of_mem _ ht, hp⟩
      · simp

/-- An entry that names chains and slots below given numbers, and declares a variable if its command does. -/
structure Entry.Fits (e : Entry) (chains slots : Nat) : Prop where
  args : ∀ a ∈ e.args, Below chains a.parts
  named : ∀ p ∈ e.named, Below chains p.2.parts
  declares : ∀ slot, e.declares = some slot → slot < slots
  names : ∀ p ∈ e.names, p.2 < slots
  defines : ∀ c, e.command = some c → c.action = .define → e.instruction.callbackOf = none → e.declares.isSome = true

theorem Entry.Fits.mono {e : Entry} {chains slots chains' slots' : Nat} (h : e.Fits chains slots)
    (lec : chains ≤ chains') (les : slots ≤ slots') : e.Fits chains' slots' where
  args a ha := (h.args a ha).mono lec
  named p hp := (h.named p hp).mono lec
  declares slot hs := Nat.lt_of_lt_of_le (h.declares slot hs) les
  names p hp := Nat.lt_of_lt_of_le (h.names p hp) les
  defines := h.defines

/-- A compilation that names nothing that it has not. -/
structure Compilation.Fits (c : Compilation) : Prop where
  ranked : Ranked c.table
  scopes : ∀ s ∈ c.scopes, ∀ p ∈ s.names, p.2 < c.slots.size
  entries : ∀ e ∈ c.entries.toList, e.Fits c.table.size c.slots.size

namespace Compilation.Fits

variable {c : Compilation} (h : c.Fits)
include h

theorem leave (index : Nat) : (c.leave index).Fits :=
  ⟨h.ranked, fun s hs => h.scopes s ((List.dropWhile_sublist _).mem hs), h.entries⟩

/-- The slot of a variable in sight is there. -/
theorem lookup {name : String} {slot : Nat} (hs : c.lookup name = some slot) : slot < c.slots.size := by
  obtain ⟨s, hm, hl⟩ := List.exists_of_findSome?_eq_some hs
  exact h.scopes s hm _ (mem_of_lookup hl)

theorem visible : ∀ p ∈ c.visible, p.2 < c.slots.size := by
  intro p hp
  obtain ⟨s, hs, hp⟩ := mem_visibleIn hp
  exact h.scopes s hs p hp

theorem withTable {table : ChainTable} (ranked : Ranked table) (le : c.table.size ≤ table.size) :
    Fits { c with table := table } :=
  ⟨ranked, h.scopes, fun e he => (h.entries e he).mono le (Nat.le_refl _)⟩

theorem openBlock (i : Instruction) : (c.openBlock i).Fits := by
  unfold Compilation.openBlock
  split
  · split
    · exact h
    · refine ⟨h.ranked, fun s hs => ?_, h.entries⟩
      rcases List.mem_cons.mp hs with rfl | hs
      · exact List.forall_mem_nil _
      · exact h.scopes s hs
  · exact h

theorem declare (d : Declaration) : (c.declare d).2.Fits := by
  have size : (c.declare d).2.slots.size = c.slots.size + 1 := Array.size_push _
  refine ⟨h.ranked, fun s hs p hp => ?_, fun e he => (h.entries e he).mono (Nat.le_refl _) (by rw [size]; omega)⟩
  rw [size]
  unfold Compilation.declare at hs
  dsimp only at hs
  split at hs
  · exact absurd hs List.not_mem_nil
  · rename_i inner outer hscopes
    have before : ∀ t ∈ inner :: outer, ∀ q ∈ t.names, q.2 < c.slots.size := hscopes ▸ h.scopes
    rcases List.mem_cons.mp hs with rfl | hs
    · rcases mem_setKey hp with rfl | hp
      · exact Nat.lt_succ_self _
      · exact Nat.lt_succ_of_lt (before inner List.mem_cons_self p hp)
    · exact Nat.lt_succ_of_lt (before s (List.mem_cons_of_mem _ hs) p hp)

theorem declareAny (d : Option Declaration) : (c.declareAny d).2.Fits := by
  cases d with
  | none => exact h
  | some d => exact h.declare d

end Compilation.Fits

/-- The command that declares a variable always has one to declare, with the plain name that it is given. -/
theorem declaration_of_define {i : Instruction} {r : CommandRegistry} {typeNames : List String}
    {d : Option Declaration} (hd : i.declaration r typeNames = .ok d) {c : Command} (hc : r.get? i.name = some c)
    (action : c.action = .define) (owner : i.callbackOf = none) :
    ∃ name typeName, plainName i 0 = .ok name ∧ d = some ⟨name, typeName⟩ := by
  unfold Instruction.declaration at hd
  rw [hc] at hd
  dsimp only at hd
  rw [if_neg (by rw [Instruction.isCallback, owner]; exact Bool.false_ne_true), action] at hd
  cases hname : plainName i 0 with
  | error e =>
    simp only [Action.declares, hname] at hd
    cases hd
  | ok name =>
    simp only [Action.declares, hname] at hd
    cases hd
    exact ⟨name, _, rfl, rfl⟩

namespace Compilation.Fits

variable {c c' : Compilation} {r : Registries} {i : Instruction}

/-- Adding an instruction keeps to what there is. -/
theorem add (h : c.Fits) (ha : c.add r i = .ok c') : c'.Fits := by
  obtain ⟨args, table, named, table', d, hargs, hnamed, hd, rfl⟩ := add_eq_ok ha
  have left := h.leave c.entries.size
  obtain ⟨ranked, grown, below⟩ := (Ranks.mapM (fun a k => compileArgument_ranks _ k a)
    (fun le below => below.mono le) i.args) c.table h.ranked (Nat.le_refl _) args table hargs
  obtain ⟨ranked', grown', below'⟩ := (Ranks.mapM (fun a k => compileNamed_ranks _ k a)
    (fun le below => below.mono le) i.named) table ranked (Nat.le_refl _) named table' hnamed
  have opened := (left.withTable ranked' (Nat.le_trans grown grown')).openBlock i
  have declared : ((c.leave c.entries.size).declared i table' d).2.Fits := opened.declareAny d
  have tables := declared_table (c.leave c.entries.size) i table' d
  refine ⟨declared.ranked, declared.scopes, fun e he => ?_⟩
  rw [extend_entries, Array.toList_push] at he
  show e.Fits ((c.leave c.entries.size).declared i table' d).2.table.size
    ((c.leave c.entries.size).declared i table' d).2.slots.size
  rcases List.mem_append.mp he with he | he
  · refine declared.entries e ?_
    rw [Compilation.declared, declareAny_entries, openBlock_entries]
    exact he
  · rcases List.mem_singleton.mp he with rfl
    have slot := declared_slot (c.leave c.entries.size) i table' d
    refine ⟨fun a ha => ?_, fun p hp => ?_, fun slot' hs => ?_, declared.visible, fun command hc action owner => ?_⟩
    · rw [tables]
      exact (below a ha).mono grown'
    · rw [tables]
      exact below' p hp
    · rw [declared_slots]
      rw [show (entryOf _ r i args named table' d).declares = _ from slot] at hs
      cases d with
      | none => cases hs
      | some d =>
        cases hs
        rw [Option.map_some, Option.getD_some, Array.size_push]
        exact Nat.lt_succ_self _
    · rw [show (entryOf _ r i args named table' d).declares = _ from slot, Option.isSome_map]
      obtain ⟨_, _, -, rfl⟩ := declaration_of_define hd hc action owner
      rfl

theorem start (predefined : List (String × String)) : (Compilation.start predefined).Fits := by
  have empty : Compilation.Fits ⟨[⟨none, []⟩], #[], #[], #[]⟩ := by
    refine ⟨ranked_empty, fun s hs => ?_, List.forall_mem_nil _⟩
    rcases List.mem_singleton.mp hs with rfl
    exact List.forall_mem_nil _
  exact List.foldlRecOn predefined _ empty fun c hc p _ => hc.declare ⟨p.1, p.2⟩

/-- Whatever instructions have been added, only what there is is named. -/
theorem of_foldlM {is : List Instruction} (h : c.Fits) (hf : is.foldlM (fun c i => c.add r i) c = .ok c') :
    c'.Fits := by
  induction is generalizing c with
  | nil =>
    cases hf
    exact h
  | cons i rest ih =>
    rw [List.foldlM_cons] at hf
    obtain ⟨c₁, h₁, hf⟩ := bind_eq_ok.mp hf
    exact ih (h.add h₁) hf

end Compilation.Fits

/-! ### Code -/

/-- Code whose chains name chains before them, and whose entries name chains and slots that it has. -/
structure Code.Fits (code : Code) : Prop where
  chains : ∀ (i : Nat) (c : Chain), code.chains[i]? = some c → c.Before i
  entries : ∀ e ∈ code.entries.toList, e.Fits code.chains.size code.slots.size

theorem Code.fits_of_compile {r : Registries} {row : List Instruction} {predefined : List (String × String)}
    {code : Code} (h : compile r row predefined = .ok code) : code.Fits := by
  obtain ⟨c, hc, h⟩ := bind_eq_ok.mp h
  cases h
  have fits := (Compilation.Fits.start predefined).of_foldlM hc
  refine ⟨fun i chain hi => ?_, fun e he => ?_⟩
  · rw [Array.getElem?_map] at hi
    obtain ⟨entry, he, rfl⟩ := Option.map_eq_some_iff.mp hi
    exact fits.ranked i entry he
  · rw [Array.size_map]
    exact fits.entries e he

theorem Script.FromSource.fits {s : Script} (h : s.FromSource) : s.code.Fits := by
  induction h with
  | source _ made =>
    obtain ⟨row, _, h⟩ := bind_eq_ok.mp made
    obtain ⟨code, hc, h⟩ := bind_eq_ok.mp h
    cases h
    exact Code.fits_of_compile hc
  | block _ _ _ _ made _ =>
    obtain ⟨code, hc, h⟩ := bind_eq_ok.mp made
    cases h
    exact Code.fits_of_compile hc
  | report commands name verbosity text =>
    unfold Script.ofReport
    dsimp only
    split
    · rename_i code hcode
      exact Code.fits_of_compile hcode
    · exact ⟨fun i c hi => by simp [Script.ofCode, Code.empty] at hi, List.forall_mem_nil _⟩
  | reporting _ _ ih => exact ih

/-! ### Blocks -/

/-- Instructions that own a block where their commands require one. -/
def BlocksGiven (row : List Instruction) : Prop :=
  ∀ i ∈ row, i.callbackOf = none → ∀ c, CommandRegistry.builtin.get? i.name = some c →
    c.signature.block = .required → i.block.isSome = true

theorem Script.FromSource.blocksGiven {s : Script} (h : s.FromSource) : BlocksGiven s.instructions := by
  intro i hi owner c hc required
  exact (parts_of_check (Instruction.check_command (h.checked i hi owner) hc)).1 required

end CommandScript
