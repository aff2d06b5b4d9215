import CommandScript.Proofs.Guards.Tables
import CommandScript.Proofs.Structured.Acts
import CommandScript.Proofs.Machine.Moves

/-! What commands may fail with. A failure is an error of the script, or its output or a remainder breaking off. Of the
    faults that the engine has words for, a script only comes to one: `event` without a block, where the text of its
    action is not the one that was checked. -/

namespace CommandScript

/-- A failure that comes from a script, its output or a tag, and not from the engine. -/
def Failure.Proper : Failure → Prop
  | .error (.runtime _) => True
  | .error (.internal f) => f = .bodyMissing "event"
  | .breakOff text => text = outputFailure ∨ text = TagFault.message .remainderOverflow

/-- An error that comes from a script, its output or a tag, and not from the engine. -/
def ScriptError.Proper : ScriptError → Prop
  | .runtime _ => True
  | .internal f =>
    f = .bodyMissing "event" ∨ f = .brokenOff outputFailure ∨ f = .brokenOff (TagFault.message .remainderOverflow)

theorem Failure.Proper.toScriptError {f : Failure} (h : f.Proper) : f.toScriptError.Proper := by
  cases f with
  | error e =>
    cases e with
    | runtime _ => exact trivial
    | internal _ => exact Or.inl h
  | breakOff _ => exact Or.inr (h.imp (congrArg InternalFault.brokenOff) (congrArg InternalFault.brokenOff))

/-- What comes to something, or fails properly. -/
def FailsProperly (r : Except Failure α) : Prop :=
  ∀ f, r = .error f → f.Proper

namespace FailsProperly

theorem ok {x : α} : FailsProperly (.ok x : Except Failure α) :=
  fun _ h => (by cases h)

theorem runtime {f : RuntimeFault} : FailsProperly (.error (.error (.runtime f)) : Except Failure α) := by
  intro g h
  cases h
  exact trivial

theorem bind {r : Except Failure α} {k : α → Except Failure β} (hr : FailsProperly r)
    (hk : ∀ x, FailsProperly (k x)) :
    FailsProperly (r >>= k) := by
  cases r with
  | error f =>
    intro g h
    cases h
    exact hr f rfl
  | ok x => exact hk x

end FailsProperly

/-! ### Tags -/

section
variable {run : Nat → Except Failure Value} {env : Environment} {n : Nat}
  (proper : ∀ i, i < n → FailsProperly (run i))
include proper

theorem proper_joinParts {parts : List CompiledPart} (below : Below n parts) :
    FailsProperly (joinParts run parts) := by
  induction parts with
  | nil => exact .ok
  | cons part rest ih =>
    have ih := ih fun i hi => below i (List.mem_cons_of_mem _ hi)
    cases part with
    | text s => exact ih.bind fun _ => .ok
    | chain i => exact (proper i (below i List.mem_cons_self)).bind fun _ => ih.bind fun _ => .ok

theorem proper_evaluateWith {a : CompiledArgument} (below : Below n a.parts) :
    FailsProperly (a.evaluateWith run) := by
  unfold CompiledArgument.evaluateWith
  split
  · rename_i i parts
    exact proper i (below i (by rw [parts]; exact List.mem_cons_self))
  · exact .ok
  · exact (proper_joinParts proper below).bind fun _ => .ok

theorem proper_paramWith {param : Option CompiledArgument} (below : BelowAny n param) (prepare : Value → Value) :
    FailsProperly (paramWith run param prepare) := by
  cases param with
  | none => exact .ok
  | some a => exact (proper_evaluateWith proper (below a rfl)).bind fun _ => .ok

omit proper in
theorem proper_faultIn (body : String) (r : Except TagFault Value) : FailsProperly (faultIn body r) := by
  cases r with
  | ok v => exact .ok
  | error f =>
    intro g h
    cases h
    cases f with
    | remainderOverflow => exact Or.inr rfl
    | _ => exact trivial

theorem proper_stepsWith (body : String) {steps : List ChainStep} (before : StepsBefore steps n) (v : Value) :
    FailsProperly (stepsWith run env body v steps) := by
  induction steps generalizing v with
  | nil => exact .ok
  | cons step rest ih =>
    have more := fun next => ih (fun step hs => before step (List.mem_cons_of_mem _ hs)) next
    unfold stepsWith
    split
    · exact .ok
    dsimp only
    split
    · exact .ok
    refine (proper_paramWith proper (before step List.mem_cons_self) step.prepare).bind fun param => ?_
    split
    · exact .ok
    · exact (proper_faultIn body _).bind more

theorem proper_chain {c : Chain} (before : c.Before n) : FailsProperly (c.evaluateWith run env) := by
  have start : FailsProperly (c.start.evaluateWith run env c.body) := by
    cases hc : c.start with
    | slot i => exact .ok
    | base b param prepare =>
      refine (proper_paramWith proper (fun a ha => ?_) prepare).bind fun _ => proper_faultIn _ _
      cases ha
      exact before.start hc
  refine start.bind fun first => (proper_stepsWith proper c.body before.steps first).bind fun v => ?_
  cases hf : c.fallback with
  | none => exact .ok
  | some a =>
    dsimp only
    split
    · exact proper_evaluateWith proper (before.fallback a hf)
    · exact .ok

end

/-- A chain of a table that names nothing that is not there is found, and so are those it names: no evaluator is
    missing. By induction on the depth that is left, which the place of the chain is always below. -/
theorem proper_runChain {env : Environment} (ordered : env.Ordered) {depth i : Nat} (deep : i < depth)
    (lt : i < env.chains.size) : FailsProperly (env.runChain depth i) := by
  induction depth generalizing i with
  | zero => exact absurd deep (Nat.not_lt_zero _)
  | succ depth ih =>
    have here : env.chains[i]? = some env.chains[i] := Array.getElem?_eq_getElem lt
    rw [Environment.runChain, here]
    exact proper_chain (fun j hj => ih (by omega) (by omega)) (ordered here)

theorem proper_evaluate {env : Environment} (ordered : env.Ordered) {a : CompiledArgument}
    (below : Below env.chains.size a.parts) : FailsProperly (a.evaluate env) :=
  proper_evaluateWith (fun _ hi => proper_runChain ordered hi hi) below

/-! ### Engines -/

/-- What fails properly in any engine. -/
def EngineM.Proper (m : EngineM α) : Prop :=
  ∀ e, FailsProperly (m.on e).1

namespace EngineM.Proper

theorem pure (x : α) : Proper (pure x : EngineM α) :=
  fun _ => .ok

theorem get : Proper (get : EngineM Engine) :=
  fun _ => .ok

theorem bind {m : EngineM α} {k : α → EngineM β} (hm : Proper m) (hk : ∀ x, Proper (k x)) : Proper (m >>= k) := by
  intro e
  have first := hm e
  rw [on_bind]
  generalize m.on e = r at first
  obtain ⟨_ | x, e'⟩ := r
  · intro f h
    cases h
    exact first _ rfl
  · exact hk x e'

end EngineM.Proper

namespace Engine

open EngineM (Proper)

theorem proper_post (m : Message) : Proper (post m) := by
  refine Proper.get.bind fun e => ?_
  dsimp only
  refine Proper.bind (fun _ => .ok) fun _ => ?_
  split
  · intro _ f h
    cases h
    exact Or.inl rfl
  · exact .pure _

theorem proper_emit (own : Bool) (verbosity : Verbosity) (text : String) (kind : MessageKind) :
    Proper (emit own verbosity text kind) := by
  unfold emit
  split
  · refine (proper_post _).bind fun _ => ?_
    split
    · exact proper_post _
    · exact .pure _
  · exact .pure _

theorem proper_scriptOfSource (name source : String) : Proper (scriptOfSource name source) := by
  refine Proper.get.bind fun e => ?_
  split
  · exact .pure _
  · exact (proper_post _).bind fun _ => .pure _

theorem proper_scriptFile? (name : String) : Proper (scriptFile? name) := by
  refine Proper.get.bind fun e => ?_
  dsimp only
  split
  · exact .pure _
  · exact .pure _
  · split
    · exact .pure _
    · exact (proper_scriptOfSource _ _).bind fun _ => Proper.bind (fun _ => .ok) fun _ => .pure _
    · exact (proper_post _).bind fun _ => .pure _

theorem proper_findScript? (name : String) : Proper (findScript? name) := by
  refine Proper.get.bind fun e => ?_
  split
  · exact .pure _
  · exact proper_scriptFile? name

end Engine

/-! ### Acts -/

/-- A scene of a script that has a value in each of its slots. -/
structure Scene.Of (script : Script) (s : Scene) : Prop where
  same : s.frame.script = script
  slots : s.frame.slots.size = script.code.slots.size

/-- Something that fails properly, keeps to the script, and whose result has a property. -/
def Act.Proper (script : Script) (site : Site) (Q : α → Prop) (a : Act α) : Prop :=
  ∀ s : Scene, s.Of script → (a.on site s).2.Of script ∧ (∀ x, (a.on site s).1 = .ok x → Q x) ∧
    FailsProperly (a.on site s).1

namespace Act

/-- Something that fails properly, with any result. -/
abbrev Fair (script : Script) (site : Site) (a : Act α) : Prop :=
  Proper script site (fun _ => True) a

variable {script : Script} {site : Site}

namespace Proper

variable {Q : α → Prop} {R : β → Prop}

theorem pure {x : α} (h : Q x) : Proper script site Q (pure x : Act α) := by
  intro s hs
  refine ⟨hs, fun y hy => ?_, .ok⟩
  cases hy
  exact h

theorem fail (f : RuntimeFault) : Proper script site Q (fail f : Act α) :=
  fun _ hs => ⟨hs, fun _ h => (by cases h), .runtime⟩

theorem throw {f : Failure} (h : f.Proper) : Proper script site Q (throw f : Act α) := by
  intro s hs
  refine ⟨hs, fun _ hx => (by cases hx), fun g hg => ?_⟩
  cases hg
  exact h

theorem read : Proper script site (· = site) (read : Act Site) := by
  intro s hs
  refine ⟨hs, fun x hx => ?_, .ok⟩
  cases hx
  rfl

theorem get : Proper script site (Scene.Of script) (get : Act Scene) := by
  intro s hs
  refine ⟨hs, fun x hx => ?_, .ok⟩
  cases hx
  exact hs

theorem change {f : Scene → Scene} (h : ∀ s, s.Of script → (f s).Of script) :
    Fair script site (modify f : Act Unit) :=
  fun s hs => ⟨h s hs, fun _ _ => trivial, .ok⟩

theorem bind {a : Act α} {k : α → Act β} (ha : Proper script site Q a) (hk : ∀ x, Q x → Proper script site R (k x)) :
    Proper script site R (a >>= k) := by
  intro s hs
  obtain ⟨kept, result, proper⟩ := ha s hs
  rw [on_bind]
  generalize a.on site s = r at kept result proper
  obtain ⟨f | x, t⟩ := r
  · refine ⟨kept, fun _ h => (by cases h), fun g hg => ?_⟩
    cases hg
    exact proper f rfl
  · exact hk x (result x rfl) t kept

theorem frame : Proper script site (fun f => f.script = script ∧ f.slots.size = script.code.slots.size) frame :=
  get.bind fun _ hs => pure ⟨hs.same, hs.slots⟩

theorem instruction : Proper script site (· = site.entry.instruction) instruction :=
  read.bind fun _ hx => pure (by rw [hx])

theorem types : Fair script site types :=
  get.bind fun _ _ => pure trivial

theorem argCount : Fair script site argCount :=
  read.bind fun _ _ => pure trivial

theorem mapM {f : α → Act β} {l : List α} (hf : ∀ x ∈ l, Fair script site (f x)) : Fair script site (l.mapM f) := by
  induction l with
  | nil => exact pure trivial
  | cons x rest ih =>
    rw [List.mapM_cons]
    exact (hf x List.mem_cons_self).bind fun y _ => (ih fun z hz => hf z (List.mem_cons_of_mem _ hz)).bind
      fun ys _ => pure trivial

theorem onFrame {change : Frame → Frame} (scripts : ∀ f, (change f).script = f.script)
    (slots : ∀ f, (change f).slots.size = f.slots.size) : Fair script site (onFrame change) :=
  Proper.change fun _ hs => ⟨(scripts _).trans hs.same, (slots _).trans hs.slots⟩

theorem setSlot (slot : Nat) (v : Value) : Fair script site (Act.onFrame (·.setSlot slot v)) :=
  onFrame (fun _ => rfl) fun _ => Array.size_setIfInBounds

theorem setEngine (change : Scene → Engine) :
    Fair script site (modify fun s => { s with engine := change s } : Act Unit) :=
  Proper.change fun _ hs => ⟨hs.same, hs.slots⟩

theorem onEngine {m : EngineM α} (h : m.Proper) : Fair script site (onEngine m) := by
  intro s hs
  rw [on_onEngine]
  exact ⟨⟨hs.same, hs.slots⟩, fun _ _ => trivial, h s.engine⟩

end Proper

/-! ### Messages, arguments and moves -/

theorem fair_say (kind : MessageKind) (text : String) : Fair script site (say kind text) :=
  Proper.read.bind fun _ _ => Proper.frame.bind fun _ _ => Proper.onEngine (Engine.proper_emit _ _ _ _)

theorem fair_expect (expected : Expected) (v : Value) (read? : Value → Option α) :
    Fair script site (expect expected v read?) := by
  unfold expect
  split
  · exact Proper.pure trivial
  · exact Proper.instruction.bind fun _ _ => Proper.fail _

theorem fair_jump (target : Nat) : Fair script site (jump target) := by
  refine Proper.frame.bind fun f hf => ?_
  split
  · rename_i g hg
    unfold Frame.jump? at hg
    split at hg
    · cases hg
    · cases hg
      exact Proper.change fun s _ => ⟨hf.1, hf.2⟩
  · exact Proper.fail _

theorem fair_skipBlock : Fair script site skipBlock := by
  refine Proper.instruction.bind fun i _ => ?_
  split
  · exact Proper.pure trivial
  · exact Proper.read.bind fun _ _ => Proper.frame.bind fun _ _ => fair_jump _

/-- A block that is passed over. -/
theorem fair_skip : Fair script site (do
    skipBlock
    return Flow.proceed) :=
  fair_skipBlock.bind fun _ _ => Proper.pure trivial

/-- A block that is entered or passed over. -/
theorem fair_enter (taken : Bool) : Fair script site (do
    if !taken then skipBlock
    return Flow.proceed) := by
  cases taken with
  | false => exact fair_skip
  | true => exact Proper.pure trivial

section
variable (fits : script.code.Fits)
include fits

theorem fair_evaluate {a : CompiledArgument} (below : Below script.code.chains.size a.parts) :
    Fair script site (evaluate a) := by
  intro s hs
  have proper : FailsProperly (a.evaluate s.environment) := by
    have chains : s.environment.chains = script.code.chains := by
      rw [← hs.same]
      rfl
    refine proper_evaluate (fun {i c} hc => fits.chains i c (chains ▸ hc)) ?_
    rw [chains]
    exact below
  rw [on_evaluate]
  exact ⟨hs, fun _ _ => trivial, proper⟩

variable (here : script.code.entries[site.index]? = some site.entry)
include here

omit fits in
theorem entry_mem : site.entry ∈ script.code.entries.toList := by
  rw [← Array.getElem?_toList] at here
  exact List.mem_of_getElem? here

theorem fair_arg (position : Nat) : Fair script site (arg position) := by
  refine Proper.read.bind fun x hx => ?_
  subst hx
  split
  · rename_i a ha
    exact fair_evaluate fits ((fits.entries _ (entry_mem here)).args a (List.mem_of_getElem? ha))
  · exact Proper.pure trivial

theorem fair_argText (position : Nat) : Fair script site (argText position) :=
  (fair_arg fits here position).bind fun _ _ => Proper.pure trivial

theorem fair_argValues : Fair script site (site.entry.args.mapM evaluate) :=
  Proper.mapM fun a ha => fair_evaluate fits ((fits.entries _ (entry_mem here)).args a ha)

theorem fair_argWords : Fair script site argWords := by
  refine Proper.read.bind fun x hx => ?_
  subst hx
  exact (fair_argValues fits here).bind fun _ _ => Proper.pure trivial

theorem fair_booleanArg (position : Nat) : Fair script site (booleanArg position) :=
  (fair_arg fits here position).bind fun v _ => fair_expect .boolean v Value.asBoolean?

theorem fair_namedVars : Fair script site namedVars := by
  refine Proper.read.bind fun x hx => ?_
  subst hx
  exact Proper.mapM fun p hp => (fair_evaluate fits ((fits.entries _ (entry_mem here)).named p hp)).bind
    fun _ _ => Proper.pure trivial

end

end Act

end CommandScript
