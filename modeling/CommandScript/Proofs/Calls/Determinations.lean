import CommandScript.Proofs.Calls.Isolation
import CommandScript.Proofs.Structured.Acts
import CommandScript.Proofs.Typing.Declared

/-! What a called script determines, and what its caller reads of it. A frame collects the values of its `determine`
    instructions in the order in which they run. At its end the caller finds them in its variable `determinations`,
    unless the called script declares a variable of that name outside all blocks, which then takes their place. -/

namespace CommandScript

/-! ### What a frame determines -/

/-- What a `determine` adds when its argument and the instruction come to something. -/
def added {ε : Type} (r : Except ε Flow) (v : Except Failure Value) : List Value :=
  match r, v with
  | .ok _, .ok v => [v]
  | _, _ => []

theorem added_mapError {ε ε' : Type} (change : ε → ε') (r : Except ε Flow) (v : Except Failure Value) :
    added (r.mapError change) v = added r v := by
  cases r <;> cases v <;> rfl

theorem Act.determine_adds (site : Site) (s : Scene) : (determine.on site s).2.frame.determinations =
    s.frame.determinations ++ added (determine.on site s).1 (s.argument site.entry 0) := by
  rw [determine, on_bind, on_arg]
  cases s.argument site.entry 0 with
  | error f => exact (List.append_nil _).symm
  | ok v =>
    dsimp only
    rw [on_bind, on_say]
    generalize (Engine.emit _ _ _ _).run.run s.engine = said
    obtain ⟨_ | _, e⟩ := said
    · exact (List.append_nil _).symm
    · rfl

theorem Frame.start_determinations (script : Script) (vars : Vars) :
    (Frame.start script vars).determinations = [] := by
  rw [Frame.start]
  generalize hf : ({ script := script, slots := _, vars := [], verbosity := script.verbosity } : Frame) = f
  have empty : f.determinations = [] := by rw [← hf]
  clear hf
  induction vars generalizing f with
  | nil => exact empty
  | cons b rest ih =>
    refine ih (f.bind b) ?_
    unfold Frame.bind
    dsimp only
    split
    · exact empty
    · exact empty

theorem caughtAt_determinations (f : Frame) (target : Nat) (text : String) :
    (Machine.caughtAt f target text).determinations = f.determinations := by
  unfold Machine.caughtAt
  dsimp only
  split
  · rfl
  · rfl

namespace Machine

variable {m m' m₁ m₂ m₃ n : Machine} {level level' height : Nat} {f g k : Frame} {below rest : List Frame}
  {entry : Entry} {values : List Value}

/-- What the instruction that is next adds to the determinations of the frame at a height of the stack at a level, where
    that frame is the one whose instruction runs. -/
def determined (m : Machine) (level height : Nat) : List Value :=
  match m.left?, m.running.frames with
  | none, f :: below =>
    match f.script.code.entries[f.pc]? with
    | none => []
    | some entry =>
      if level = m.callers.length ∧ height = below.length ∧ entry.instruction.name = "determine" then
        added (m.awake.perform f below entry).1 (Scene.argument ⟨m.engine, f⟩ entry 0)
      else []
  | _, _ => []

theorem determined_of_idle (idle : ¬m.Runs level height) : m.determined level height = [] := by
  unfold determined
  split
  · rename_i f below free frames
    split
    · rfl
    · refine if_neg fun here => idle ⟨free, here.1, ?_⟩
      rw [frames, here.2.1, List.length_cons]
  · rfl

theorem Finishes.determined (h : m.Finishes f below) : m.determined level height = [] := by
  unfold Machine.determined
  rw [h.free, h.frames]
  dsimp only
  rw [h.finished]

theorem StandsAt.determined (h : m.StandsAt f below entry) : m.determined m.callers.length below.length =
    if entry.instruction.name = "determine" then
      added (m.awake.perform f below entry).1 (Scene.argument ⟨m.engine, f⟩ entry 0)
    else [] := by
  unfold Machine.determined
  rw [h.free, h.frames]
  dsimp only
  rw [h.here]
  simp only [true_and]

/-- An instruction adds nothing to the determinations of its frame but the value of a `determine`. -/
theorem perform_determinations (below : List Frame) (ordered : f.script.code.Ordered)
    (here : f.script.code.entries[f.pc]? = some entry) : (m.perform f below entry).2.2.determinations =
      f.determinations ++ if entry.instruction.name = "determine" then
        added (m.perform f below entry).1 (Scene.argument ⟨m.engine, f⟩ entry 0) else [] := by
  by_cases name : entry.instruction.name = "determine"
  · obtain ⟨r, t, ran, performed⟩ := m.perform_of_name below here ordered name (a := .determine) rfl
    have adds := Act.determine_adds ⟨entry, f.pc, below.length + 1, m.running.delayable, m.running.ownOutput⟩
      ⟨m.engine, f.next⟩
    change (Act.determine.on _ _).2.frame.determinations = _ at adds
    rw [show Act.determine.on _ _ = _ from ran] at adds
    rw [if_pos name, performed, added_mapError]
    exact adds
  · rw [if_neg name, List.append_nil]
    generalize performed : m.perform f below entry = p
    obtain ⟨r, e, g⟩ := p
    cases hc : entry.command with
    | none =>
      obtain ⟨-, rfl⟩ := perform_of_none hc performed
      rfl
    | some c =>
      have known := ordered.get? here
      rw [hc] at known
      refine (perform_spares hc performed).determinations fun determines => name ?_
      have same := name?_builtin known.symm
      rw [determines] at same
      exact (Option.some.inj same).symm

/-- A step adds to the determinations of a frame that stays what its instruction determines. -/
theorem Turns.determinations (turns : Turns m m' level height f k) (ordered : f.script.code.Ordered) :
    k.determinations = f.determinations ++ m.determined level height := by
  cases turns with
  | alone idle => rw [determined_of_idle idle, List.append_nil]
  | @runs below entry r e g _ at_ own top performed after =>
    have adds := perform_determinations (m := m.awake) below ordered at_.here
    rw [performed] at adds
    rw [own, top, at_.determined, performed]
    rcases after with rfl | ⟨target, text, rfl⟩
    · exact adds
    · rw [caughtAt_determinations]
      exact adds
  | catches idle target text =>
    rw [determined_of_idle idle, List.append_nil]
    exact caughtAt_determinations f target text
  | returns finishes =>
    rw [finishes.determined, List.append_nil, Frame.setVars_eq]

/-! ### Whole runs -/

/-- While the machine `m` comes to `m'`, the frame at a height of the stack at `level`, at `level'` in the end, is there
    all along and determines some values. -/
inductive Determines (height : Nat) (m : Machine) (level : Nat) : List Value → (m' : Machine) → (level' : Nat) → Prop
  | refl : Determines height m level [] m level
  | step {values : List Value} {n n' : Machine} {l : Nat} (before : Determines height m level values n l)
    (next : n.step = .next n') (there : (n'.frame? l height).isSome = true) :
    Determines height m level (values ++ n.determined l height) n' l
  /-- A queue that goes on later is the outermost then. -/
  | resume {values : List Value} {n : Machine} (before : Determines height m level values n n.callers.length)
    {e : Engine} (engine : e.FromSource) (wait : Float) (waitingOn : Option Gate) :
    Determines height m level values ⟨e, { n.running with wait := wait, waitingOn := waitingOn }, []⟩ 0

theorem Determines.lasts (h : Determines height m level values m' level') : Lasts height m level m' level' := by
  induction h with
  | refl => exact .refl
  | step _ next there ih => exact .step ih next there
  | resume _ engine wait waitingOn ih => exact .resume ih engine wait waitingOn

theorem Lasts.exists_determines (h : Lasts height m level m' level') :
    ∃ values, Determines height m level values m' level' := by
  induction h with
  | refl => exact ⟨_, .refl⟩
  | step _ next there ih =>
    obtain ⟨values, before⟩ := ih
    exact ⟨_, .step before next there⟩
  | resume _ engine wait waitingOn ih =>
    obtain ⟨values, before⟩ := ih
    exact ⟨_, .resume before engine wait waitingOn⟩

/-- A frame has the determinations that it had, and those of its instructions since. -/
theorem Reachable.determinations (h : m.Reachable) (determines : Determines height m level values m' level')
    (hf : m.frame? level height = some f) (hk : m'.frame? level' height = some k) :
    k.determinations = f.determinations ++ values := by
  induction determines generalizing k with
  | refl =>
    rw [hf] at hk
    cases hk
    exact (List.append_nil _).symm
  | @step values n n' l before next there ih =>
    obtain ⟨g, hg⟩ := Option.isSome_iff_exists.mp (before.lasts.there (hf ▸ rfl))
    have sound := (h.of_lasts before.lasts).sound
    rw [(sound.turns next hg hk).determinations (sound.of_frame? hg).script.ordered, ih hg, List.append_assoc]
  | resume _ _ _ _ ih =>
    rw [frame?_resume] at hk
    exact ih hk

/-- A called script that comes to its end has the determinations of all its instructions. -/
theorem Calls.collects (calls : m.Calls m₁ f below) (h : m.Reachable)
    (determines : Determines (below.length + 1) m₁ m₁.callers.length values m₂ m₂.callers.length)
    (frames : m₂.running.frames = k :: rest) (own : rest.length = below.length + 1) : k.determinations = values := by
  obtain ⟨-, script, vars, entered⟩ := calls.enters h
  have ended := frame?_innermost frames
  rw [own] at ended
  have collected := (h.step calls.next).determinations determines (frame?_innermost entered) ended
  rw [collected, Frame.start_determinations, List.nil_append]

end Machine

/-! ### Arguments that read a dynamic variable -/

/-- The dynamic variable that an argument reads which is nothing but a tag `dvar[name]`. -/
def Argument.dynamic? : Argument → Option String
  | ⟨[.tag ⟨[⟨key, some ⟨[.text name], _⟩⟩], none⟩], _⟩ =>
    if Text.lower key = "dvar" then some (Text.lower name) else none
  | _ => none

namespace Sight

variable {s : Sight} (adapt : Adaptation) (slots : Array Value) (vars : Vars)

theorem startValue_dynamic (builtin : s.registries = .builtin) {key : String} (hkey : Text.lower key = "dvar")
    (text : String) (quoted : Bool) : s.startValue adapt slots vars ⟨key, some ⟨[.text text], quoted⟩⟩ =
      some ((vars.lookup (Text.lower text)).getD .null) := by
  have base : s.registries.bases.get? (Text.lower key) = some .dynamicVariable := by
    rw [builtin, hkey]
    rfl
  have prepared : s.registries.prepare TagBase.dynamicVariable.param (.text text) = .text text := by
    rw [builtin]
    rfl
  rw [startValue, base]
  simp only [Option.bind_eq_bind, Option.bind_some, paramValue, argumentValue_text]
  simp only [prepared]
  rfl

theorem argumentValue_dynamic (builtin : s.registries = .builtin) {a : Argument} {name : String}
    (reads : a.dynamic? = some name) : s.argumentValue adapt slots vars a = some ((vars.lookup name).getD .null) := by
  unfold Argument.dynamic? at reads
  split at reads
  · rename_i key text quoted _
    split at reads
    · rename_i hkey
      cases reads
      have type : s.startType ⟨key, some ⟨[.text text], quoted⟩⟩ = some "dynamic" := by
        rw [startType, builtin, hkey]
        rfl
      rw [argumentValue, tagValue, partsValue, startValue_dynamic adapt slots vars builtin hkey, type]
      show (if ((vars.lookup (Text.lower text)).getD .null).isNull then some Value.null else some _) = _
      split
      · rename_i null
        rw [Value.eq_null_of_isNull null]
      · rfl
    · cases reads
  · cases reads

end Sight

/-- What the instruction at which a frame stands reads by `dvar[name]`, in an argument with or without a key. -/
structure Scene.Reads (s : Scene) (name : String) (v : Value) : Prop where
  args {entry : Entry} {position : Nat} {a : Argument} : s.frame.script.code.entries[s.frame.pc]? = some entry →
    entry.instruction.args[position]? = some a → a.dynamic? = some name →
      (entry.values s.environment).1[position]? = some (some v)
  named {entry : Entry} {position : Nat} {key : String} {a : Argument} :
    s.frame.script.code.entries[s.frame.pc]? = some entry →
      entry.instruction.named[position]? = some (key, a) → a.dynamic? = some name →
        (entry.values s.environment).2[position]? = some (key, some v)

theorem Scene.reads {s : Scene} (ordered : s.frame.script.code.Ordered) {row : List Instruction}
    {predefined : List (String × String)} (compiled : compile .builtin row predefined = .ok s.frame.script.code)
    (types : s.engine.registries.types = .builtin) {name : String} {v : Value}
    (found : s.frame.vars.lookup name = some v) : s.Reads name v := by
  have laid := ordered.laid
  rw [(compile_entries compiled).1] at laid
  have conversions : s.environment.types = Registries.builtin.types.conversions := by rw [environment, types]; rfl
  have values : ∀ {entry : Entry}, s.frame.script.code.entries[s.frame.pc]? = some entry → ∃ sight : Sight,
      sight.registries = .builtin ∧
        entry.values s.environment =
          entry.instruction.values sight Registries.builtin.adapt s.frame.slots s.frame.vars :=
      fun here => by
    obtain ⟨sight, registries, -, same⟩ := values_at laid compiled here plainNames_builtin
    refine ⟨sight, registries, ?_⟩
    rw [← same, ← conversions]
    rfl
  have value : v = (s.frame.vars.lookup name).getD .null := by rw [found, Option.getD_some]
  constructor
  · intro entry position a here ha reads
    obtain ⟨sight, registries, same⟩ := values here
    rw [same, Instruction.values, List.getElem?_map, ha, Option.map_some,
      sight.argumentValue_dynamic _ s.frame.slots s.frame.vars registries reads, value]
  · intro entry position key a here ha reads
    obtain ⟨sight, registries, same⟩ := values here
    rw [same, Instruction.values, List.getElem?_map, ha, Option.map_some,
      sight.argumentValue_dynamic _ s.frame.slots s.frame.vars registries reads, value]

/-! ### What the caller reads -/

/-- No two variables outside all blocks have the same name. -/
theorem Code.Ordered.nodup_finalNames {code : Code} (ordered : code.Ordered) {r : Registries} {row : List Instruction}
    {predefined : List (String × String)} (compiled : compile r row predefined = .ok code) :
    (code.finalNames.map (·.1)).Nodup := by
  have laid := ordered.laid
  rw [(compile_entries compiled).1] at laid
  obtain ⟨c, hfold, hcode⟩ := bind_eq_ok.mp compiled
  cases hcode
  have part : ∀ k i, row[k]? = some i → row[0 + k]? = some i := fun k i hk => by rwa [Nat.zero_add]
  obtain ⟨last, -⟩ := (scoped_start row predefined).foldlM laid part hfold
  obtain ⟨homes, has, top, -⟩ := last.stack
  obtain ⟨scope, hscope, hhas⟩ := getLast?_of_forall₂ has top
  show (((c.scopes.getLast?.map (·.names)).getD []).map (·.1)).Nodup
  rw [hscope]
  exact hhas.distinct

/-- What a frame that ends leaves in the variable `determinations` of its caller. -/
theorem Frame.Sound.lookup_determinations {k : Frame} (sound : k.Sound Script.FromSource) (p : Frame) :
    (p.setVars k.handed).vars.lookup "determinations" =
      some (match k.script.code.finalNames.lookup "determinations" with
        | some slot => k.slots[slot]?.getD .null
        | none => .list k.determinations) := by
  obtain ⟨r, row, predefined, -, compiled⟩ := sound.script.compiled
  have distinct : (k.bindings.map (·.1)).Nodup := by
    rw [Frame.bindings, List.map_map]
    exact sound.script.ordered.nodup_finalNames compiled
  have bound : k.bindings.lookup "determinations" =
      (k.script.code.finalNames.lookup "determinations").map fun slot => k.slots[slot]?.getD .null := by
    rw [Frame.bindings]
    induction k.script.code.finalNames with
    | nil => rfl
    | cons pair rest ih =>
      rw [List.map_cons, List.lookup_cons, List.lookup_cons, ih]
      split <;> rfl
  rw [Frame.setVars_eq, Frame.handed, List.foldl_cons]
  dsimp only
  rw [lookup_foldl_setKey distinct, bound, lookup_setKey_self]
  cases k.script.code.finalNames.lookup "determinations" <;> rfl

namespace Machine

variable {m m₁ m₂ m₃ : Machine} {f k : Frame} {below rest : List Frame} {values : List Value}

/-- When a called script comes to its end, its caller goes on behind the call, and what its next instruction reads by
    `dvar[determinations]` is the list of the values that the called script has determined, in order. Only if that
    script declares a variable `determinations` outside all blocks is it the value that this has in the end. -/
theorem Reachable.call_hands_back (h : m.Reachable) (calls : m.Calls m₁ f below)
    (determines : Determines (below.length + 1) m₁ m₁.callers.length values m₂ m₂.callers.length)
    (completes : m₂.Completes m₃ k rest) (own : rest.length = below.length + 1) :
    ∃ p v, m₃.running.frames = p :: below ∧ p.script = f.script ∧ p.pc = f.pc + 1 ∧
      (k.script.code.finalNames.lookup "determinations" = none → v = .list values) ∧
      (∀ slot, k.script.code.finalNames.lookup "determinations" = some slot → v = k.slots[slot]?.getD .null) ∧
      ∀ row predefined, compile .builtin row predefined = .ok f.script.code → m₃.engine.registries.types = .builtin →
        Scene.Reads ⟨m₃.engine, p⟩ "determinations" v := by
  obtain ⟨rfl, -⟩ := calls.returning h determines.lasts completes.frames own
  have collected := calls.collects h determines completes.frames own
  have caller : f.script.code.Ordered := by
    obtain ⟨_, at_, -⟩ := calls.stands
    have mem : f ∈ m.running.frames := by rw [at_.frames]; exact List.mem_cons_self
    exact (h.sound.running.sound f mem).script.ordered
  have called : k.Sound Script.FromSource :=
    ((h.step calls.next).of_lasts determines.lasts).sound.running.sound k
      (by rw [completes.frames]; exact List.mem_cons_self)
  have found := called.lookup_determinations f.next
  rw [collected] at found
  have same : (f.next.setVars k.handed).script = f.script ∧ (f.next.setVars k.handed).pc = f.pc + 1 := by
    rw [Frame.setVars_eq]
    exact ⟨rfl, rfl⟩
  have reads : ∀ row predefined, compile .builtin row predefined = .ok f.script.code →
      m₃.engine.registries.types = .builtin → ∀ v, (f.next.setVars k.handed).vars.lookup "determinations" = some v →
        Scene.Reads ⟨m₃.engine, f.next.setVars k.handed⟩ "determinations" v :=
    fun row predefined compiled types v found =>
      Scene.reads (s := ⟨m₃.engine, f.next.setVars k.handed⟩) (by rw [same.1]; exact caller)
        (by rw [same.1]; exact compiled) types found
  cases declared : k.script.code.finalNames.lookup "determinations" with
  | none =>
    rw [declared] at found
    exact ⟨_, .list values, completes.returns, same.1, same.2, fun _ => rfl, fun _ h => (by cases h),
      fun row predefined compiled types => reads row predefined compiled types _ found⟩
  | some slot =>
    rw [declared] at found
    exact ⟨_, k.slots[slot]?.getD .null, completes.returns, same.1, same.2, fun h => (by cases h),
      fun _ h => by cases h; rfl, fun row predefined compiled types => reads row predefined compiled types _ found⟩

/-! ### Calls that are computed -/

/-- Whether the caller of a script that has come to its end next reads `dvar[determinations]`, and how: what the script
    has determined, its variables outside all blocks, and the type and the text of what is read. -/
def readBack? (m₂ m₃ : Machine) : Option (List String × List String × String × String) := do
  let k ← m₂.running.frames.head?
  let p ← m₃.running.frames.head?
  let entry ← p.script.code.entries[p.pc]?
  let a ← entry.instruction.args[0]?
  if a.dynamic? = some "determinations" then
    let v ← (entry.values (Scene.environment ⟨m₃.engine, p⟩)).1[0]?.join
    return (k.determinations.map Value.toText, k.script.code.finalNames.map (·.1), v.typeName, v.toText)
  else none

/-- A call that the outermost frame of a source text makes. -/
theorem determines_of_throughSource? {source : String} {before steps : Nat} {s : Script}
    (h : throughSource? source before steps = some (s, m, m₁, m₂, m₃)) (outermost : m.running.frames.length = 1)
    (alone : m.callers.length = 0) : m.Reachable ∧ m₃.engine.registries = .builtin ∧ ∃ f k rest,
      m.Calls m₁ f [] ∧ Determines 1 m₁ m₁.callers.length k.determinations m₂ m₂.callers.length ∧
        m₂.Completes m₃ k rest ∧ rest.length = 1 ∧ ∃ row, compile .builtin row [] = .ok f.script.code := by
  obtain ⟨reachable, registries, ⟨row, compiled⟩, own, f, below, k, rest, calls, lasts, completes, height⟩ :=
    calls_of_throughSource? h
  obtain ⟨entry, at_, name⟩ := calls.stands
  have nil : below = [] := by
    rw [at_.frames, List.length_cons] at outermost
    exact List.length_eq_zero_iff.mp (Nat.succ.inj outermost)
  subst nil
  have script_eq : f.script = s := by
    have here := frame?_innermost at_.frames
    rw [alone] at here
    exact own f here
  obtain ⟨values, determines⟩ := lasts.exists_determines
  obtain rfl := calls.collects reachable determines completes.frames height
  rw [← script_eq] at compiled
  exact ⟨reachable, registries, f, k, rest, calls, determines, completes, height, row, compiled⟩

/-- A called script that determines three values, one of them in a loop and twice. -/
theorem Reachable.call_hands_back_inOrder : ∃ (m m₁ m₂ m₃ : Machine) (f k p : Frame) (rest : List Frame),
    m.Reachable ∧ m.Calls m₁ f [] ∧ Determines 1 m₁ m₁.callers.length k.determinations m₂ m₂.callers.length ∧
      m₂.Completes m₃ k rest ∧ rest.length = 1 ∧ k.determinations.map Value.toText = ["yes", "no", "no"] ∧
      m₃.running.frames = [p] ∧ Scene.Reads ⟨m₃.engine, p⟩ "determinations" (.list k.determinations) := by
  have found : (throughSource? ("function f \x7b determine yes; define n no; repeat 2 \x7b " ++
      "determine <\x7bvar[n]\x7d>; \x7d \x7d call f; echo <\x7bdvar[determinations]\x7d>;") 1 7).any (fun t =>
        t.2.1.running.frames.length = 1 && t.2.1.callers.length = 0 && readBack? t.2.2.2.1 t.2.2.2.2 =
          some (["yes", "no", "no"], ["n"], "list", "yes|no|no")) = true := by
    decide +kernel
  obtain ⟨⟨s, m, m₁, m₂, m₃⟩, ht, found⟩ := (Option.any_eq_true _ _).mp found
  obtain ⟨found, reads⟩ := Bool.and_eq_true_iff.mp found
  obtain ⟨outermost, alone⟩ := Bool.and_eq_true_iff.mp found
  obtain ⟨reachable, registries, f, k, rest, calls, determines, completes, own, row, compiled⟩ :=
    determines_of_throughSource? ht (of_decide_eq_true outermost) (of_decide_eq_true alone)
  obtain ⟨p, v, frames, -, -, list, -, read⟩ := reachable.call_hands_back calls determines completes own
  obtain ⟨k', hk, reads⟩ := Option.bind_eq_some_iff.mp (of_decide_eq_true reads)
  rw [completes.frames] at hk
  cases hk
  obtain ⟨p', -, reads⟩ := Option.bind_eq_some_iff.mp reads
  obtain ⟨entry, -, reads⟩ := Option.bind_eq_some_iff.mp reads
  obtain ⟨a, -, reads⟩ := Option.bind_eq_some_iff.mp reads
  split at reads
  · obtain ⟨v', -, reads⟩ := Option.bind_eq_some_iff.mp reads
    obtain ⟨texts, names⟩ := Prod.mk.inj (Option.some.inj reads)
    obtain ⟨names, -⟩ := Prod.mk.inj names
    have none : k.script.code.finalNames.lookup "determinations" = none := List.lookup_eq_none_iff.mpr fun b hb => by
      have mem := List.mem_map_of_mem (f := (·.1)) hb
      rw [names, List.mem_singleton] at mem
      rw [mem]
      decide
    obtain rfl := list none
    exact ⟨m, m₁, m₂, m₃, f, k, p, rest, reachable, calls, determines, completes, own, texts, frames,
      read row [] compiled (by rw [registries]; rfl)⟩
  · cases reads

/-- A called script that determines `yes` and declares a variable `determinations`: what its caller reads is not the
    list of what it has determined, but that variable. -/
theorem Reachable.call_hands_back_other : ∃ (m m₁ m₂ m₃ : Machine) (f k p : Frame) (rest : List Frame) (entry : Entry)
    (a : Argument) (v : Value), m.Reachable ∧ m.Calls m₁ f [] ∧
      Determines 1 m₁ m₁.callers.length k.determinations m₂ m₂.callers.length ∧ m₂.Completes m₃ k rest ∧
      rest.length = 1 ∧ k.determinations.map Value.toText = ["yes"] ∧ m₃.running.frames.head? = some p ∧
      p.script.code.entries[p.pc]? = some entry ∧ entry.instruction.args[0]? = some a ∧
      a.dynamic? = some "determinations" ∧ (entry.values (Scene.environment ⟨m₃.engine, p⟩)).1[0]? = some (some v) ∧
      v.toText = "x" ∧ v ≠ .list k.determinations := by
  have found : (throughSource? ("function f { determine yes; define determinations x; } call f; " ++
      "echo <\x7bdvar[determinations]\x7d>;") 1 2).any (fun t => t.2.1.running.frames.length = 1 &&
        t.2.1.callers.length = 0 && readBack? t.2.2.2.1 t.2.2.2.2 =
          some (["yes"], ["determinations"], "text", "x")) = true := by
    decide +kernel
  obtain ⟨⟨s, m, m₁, m₂, m₃⟩, ht, found⟩ := (Option.any_eq_true _ _).mp found
  obtain ⟨found, reads⟩ := Bool.and_eq_true_iff.mp found
  obtain ⟨outermost, alone⟩ := Bool.and_eq_true_iff.mp found
  obtain ⟨reachable, -, f, k, rest, calls, determines, completes, own, -⟩ :=
    determines_of_throughSource? ht (of_decide_eq_true outermost) (of_decide_eq_true alone)
  obtain ⟨k', hk, reads⟩ := Option.bind_eq_some_iff.mp (of_decide_eq_true reads)
  rw [completes.frames] at hk
  cases hk
  obtain ⟨p, hp, reads⟩ := Option.bind_eq_some_iff.mp reads
  obtain ⟨entry, here, reads⟩ := Option.bind_eq_some_iff.mp reads
  obtain ⟨a, ha, reads⟩ := Option.bind_eq_some_iff.mp reads
  split at reads
  · rename_i dynamic
    obtain ⟨v, hv, reads⟩ := Option.bind_eq_some_iff.mp reads
    obtain ⟨texts, shown⟩ := Prod.mk.inj (Option.some.inj reads)
    obtain ⟨-, shown⟩ := Prod.mk.inj shown
    obtain ⟨type, text⟩ := Prod.mk.inj shown
    refine ⟨m, m₁, m₂, m₃, f, k, p, rest, entry, a, v, reachable, calls, determines, completes, own, texts, hp, here,
      ha, dynamic, Option.join_eq_some_iff.mp hv, text, ?_⟩
    rintro rfl
    exact absurd (show "list" = "text" from type) (by decide)
  · cases reads

end Machine

end CommandScript
