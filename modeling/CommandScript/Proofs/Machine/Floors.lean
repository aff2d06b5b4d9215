import CommandScript.Proofs.Machine.Reachable

/-! What holds of every frame while scripts run. Its place lies in its script and is not discarded, its slots and loops
    are as the script has them, and what it has once discarded is never run again, as long as the frame is there. -/

namespace CommandScript

namespace Machine

/-! ### Frames by their places -/

/-- The stacks of the queues of a machine, the one at work first. -/
def frameStacks (m : Machine) : List (List Frame) :=
  m.running.frames :: m.callers.map (·.queue.frames)

/-- The frame at a height of the stack at a level, both counted from the outermost. -/
def frame? (m : Machine) (level height : Nat) : Option Frame :=
  m.frameStacks.reverse[level]?.bind (·.reverse[height]?)

/-- The frame at a height of the stack at `level` of `m` is still there in `m'`, which comes up later, at `level'`. A
    queue that goes on later is the outermost then. -/
inductive Lasts (height : Nat) (m : Machine) (level : Nat) : (m' : Machine) → (level' : Nat) → Prop
  | refl : Lasts height m level m level
  | step {n n' : Machine} {l : Nat} (lasts : Lasts height m level n l) (next : n.step = .next n')
    (there : (n'.frame? l height).isSome = true) : Lasts height m level n' l
  | resume {n : Machine} (lasts : Lasts height m level n n.callers.length) {e : Engine} (engine : e.FromSource)
    (wait : Float) (waitingOn : Option Gate) :
    Lasts height m level ⟨e, { n.running with wait := wait, waitingOn := waitingOn }, []⟩ 0

theorem getElem?_reverse_cons (first : α) (rest : List α) (index : Nat) :
    (first :: rest).reverse[index]? = if index = rest.length then some first else rest.reverse[index]? := by
  rw [List.reverse_cons, List.getElem?_append, List.length_reverse]
  rcases Nat.lt_trichotomy index rest.length with hlt | rfl | hgt
  · rw [if_pos hlt, if_neg (Nat.ne_of_lt hlt)]
  · rw [if_neg (Nat.lt_irrefl _), if_pos rfl, Nat.sub_self]
    rfl
  · rw [if_neg (Nat.lt_asymm hgt), if_neg (Nat.ne_of_gt hgt), List.getElem?_singleton, if_neg (by omega),
      List.getElem?_eq_none (by rw [List.length_reverse]; omega)]

/-- Two stacks with the same below their first have the same at one place, or it is the place of the first. -/
theorem top_or_same {a b x y : α} {l : List α} {index : Nat} (hx : (a :: l).reverse[index]? = some x)
    (hy : (b :: l).reverse[index]? = some y) : (x = a ∧ y = b) ∨ y = x := by
  rw [getElem?_reverse_cons] at hx hy
  split at hx
  · rename_i htop
    rw [if_pos htop] at hy
    exact Or.inl ⟨(Option.some.inj hx).symm, (Option.some.inj hy).symm⟩
  · rename_i htop
    rw [if_neg htop, hx] at hy
    exact Or.inr (Option.some.inj hy).symm

theorem top_or_same_of_cons {a b c x y : α} {l : List α} {index : Nat} (hx : (a :: l).reverse[index]? = some x)
    (hy : (c :: b :: l).reverse[index]? = some y) : (x = a ∧ y = b) ∨ y = x := by
  have inside : index < (b :: l).length := by
    have := (List.getElem?_eq_some_iff.mp hx).1
    rwa [List.length_reverse, List.length_cons] at this
  rw [getElem?_reverse_cons, if_neg (Nat.ne_of_lt inside)] at hy
  exact top_or_same hx hy

/-- What is put above leaves a place as it is. -/
theorem getElem?_reverse_append {l : List α} {index : Nat} {x : α} (h : l.reverse[index]? = some x) (above : List α) :
    (above ++ l).reverse[index]? = some x := by
  rw [List.reverse_append, List.getElem?_append_left (List.getElem?_eq_some_iff.mp h).1]
  exact h

/-- A frame after another of the same script that has discarded no more. -/
def Keeps (f g : Frame) : Prop :=
  g.script = f.script ∧ f.floor ≤ g.floor

theorem Keeps.refl (f : Frame) : Keeps f f :=
  ⟨rfl, Nat.le_refl _⟩

section
variable {P : Script → Prop} (ordered : ∀ {s : Script}, P s → s.code.Ordered)
include ordered

theorem keeps_of_advances {f g : Frame} (sound : f.Sound P) (advances : f.Advances g) : Keeps f g :=
  ⟨advances.script, (sound.advances (ordered sound.script) advances).2⟩

omit ordered in
/-- Where frames end and the one below them goes on, the frames that are still there are kept. -/
theorem keeps_of_resumes {above below : List Frame} {f g : Frame} (resumes : f.Resumes g) {height : Nat}
    {k k' : Frame} (hk : (above ++ f :: below).reverse[height]? = some k)
    (hk' : (g :: below).reverse[height]? = some k') : Keeps k k' := by
  -- The frames that end stand above all that are still there.
  have inside : height < (f :: below).reverse.length := by
    have := (List.getElem?_eq_some_iff.mp hk').1
    rw [List.length_reverse, List.length_cons] at this ⊢
    exact this
  rw [List.reverse_append, List.getElem?_append_left inside] at hk
  rcases top_or_same hk hk' with ⟨rfl, rfl⟩ | rfl
  · exact ⟨resumes.script, Nat.le_of_eq resumes.floor.symm⟩
  · exact Keeps.refl _

omit ordered in
/-- Handling an error keeps the frames of the queue at work that are still there. -/
theorem keeps_of_handle {m : Machine} {error : ScriptError} {height : Nat} {k k' : Frame}
    (hk : m.running.frames.reverse[height]? = some k)
    (hk' : (m.handle error).running.frames.reverse[height]? = some k') : Keeps k k' := by
  rcases handle_cases m error with
    ⟨above, f, below, g, frames, resumes, handled⟩ | ⟨e, -, handled⟩ | ⟨e, -, -, handled⟩
  · rw [frames] at hk
    rw [handled] at hk'
    exact keeps_of_resumes resumes hk hk'
  · rw [handled] at hk'
    cases hk'
  · rw [handled] at hk'
    cases hk.symm.trans hk'
    exact Keeps.refl k

/-- A step keeps the frames of a stack that are still there. -/
theorem keeps_of_progress {frames frames' : List Frame} (stack : SoundStack P frames) (p : Progress P frames frames')
    {height : Nat} {k k' : Frame} (hk : frames.reverse[height]? = some k) (hk' : frames'.reverse[height]? = some k') :
    Keeps k k' := by
  cases p with
  | moved advances =>
    rcases top_or_same hk hk' with ⟨rfl, rfl⟩ | rfl
    · exact keeps_of_advances ordered (stack.sound _ List.mem_cons_self) advances
    · exact Keeps.refl _
  | entered advances =>
    rcases top_or_same_of_cons hk hk' with ⟨rfl, rfl⟩ | rfl
    · exact keeps_of_advances ordered (stack.sound _ List.mem_cons_self) advances
    · exact Keeps.refl _
  | left _ resumes => exact keeps_of_resumes resumes hk hk'
  | ended => cases hk'

variable (closed : Script.Closed P)
include closed

/-- A step keeps the frames of a machine that are still there. -/
theorem Sound.keeps {m m' : Machine} (sound : m.Sound P) (h : m.step = .next m') {level height : Nat} {k k' : Frame}
    (hk : m.frame? level height = some k) (hk' : m'.frame? level height = some k') : Keeps k k' := by
  obtain ⟨stack, hstack, hk⟩ := Option.bind_eq_some_iff.mp hk
  obtain ⟨stack', hstack', hk'⟩ := Option.bind_eq_some_iff.mp hk'
  have same : stack' = stack → Keeps k k' := fun heq => by
    rw [heq, hk] at hk'
    cases hk'
    exact Keeps.refl k
  cases sound.next closed ordered h with
  | leaves leaves =>
    obtain ⟨c, waitingOn, hcallers, hrunning⟩ := leaves.callers
    have above : m.frameStacks = [m.running.frames] ++ m'.frameStacks := by
      rw [frameStacks, frameStacks, hcallers, hrunning, List.map_cons, List.singleton_append]
    rw [above, getElem?_reverse_append hstack' _] at hstack
    exact same (Option.some.inj hstack)
  | givesUp givesUp =>
    obtain ⟨failure, c, callers, -, hc, rfl⟩ := givesUp
    rw [frameStacks, callers_handle] at hstack'
    rw [frameStacks, hc] at hstack
    rcases top_or_same_of_cons hstack' hstack with ⟨rfl, rfl⟩ | rfl
    · exact keeps_of_handle hk hk'
    · exact same rfl
  | goes _ progress _ fate =>
    rw [frameStacks] at hstack hstack'
    rw [fate.callers] at hstack'
    rcases top_or_same hstack hstack' with ⟨rfl, rfl⟩ | heq
    · exact keeps_of_progress ordered sound.running progress hk hk'
    · exact same heq
  | @launches f g below _ _ _ _ _ at_ _ _ advances _ _ _ eq =>
    have above : m'.frameStacks = m'.running.frames :: (g :: below) :: m.callers.map (·.queue.frames) := by
      rw [eq]
      rfl
    rw [frameStacks] at hstack
    rw [above] at hstack'
    rcases top_or_same_of_cons hstack hstack' with ⟨rfl, rfl⟩ | heq
    · -- The queue that starts another has moved its innermost frame only.
      exact keeps_of_progress ordered sound.running (at_.frames ▸ .moved advances) hk hk'
    · exact same heq

end

/-! ### Reachable machines -/

variable {m m' : Machine}

theorem Reachable.of_lasts {height level level' : Nat} (h : m.Reachable) (lasts : Lasts height m level m' level') :
    m'.Reachable := by
  induction lasts with
  | refl => exact h
  | step _ next _ ih => exact ih.step next
  | resume _ engine wait waitingOn ih => exact ih.resume engine wait waitingOn

theorem frame?_running (n : Machine) (height : Nat) :
    n.frame? n.callers.length height = n.running.frames.reverse[height]? := by
  rw [frame?, frameStacks, getElem?_reverse_cons, if_pos (List.length_map _).symm, Option.bind_some]

theorem frame?_resume (n : Machine) (e : Engine) (wait : Float) (waitingOn : Option Gate) (height : Nat) :
    frame? ⟨e, { n.running with wait := wait, waitingOn := waitingOn }, []⟩ 0 height =
      n.frame? n.callers.length height := by
  rw [frame?_running]
  exact frame?_running ⟨e, { n.running with wait := wait, waitingOn := waitingOn }, []⟩ height

theorem Lasts.there {height level level' : Nat} (lasts : Lasts height m level m' level')
    (h : (m.frame? level height).isSome = true) : (m'.frame? level' height).isSome = true := by
  induction lasts with
  | refl => exact h
  | step _ _ there => exact there
  | resume _ _ _ _ ih =>
    rw [frame?_resume]
    exact ih

/-- As long as a frame is there, it is of the same script, and what it has discarded stays discarded. -/
theorem Reachable.keeps {height level level' : Nat} (h : m.Reachable) (lasts : Lasts height m level m' level')
    {f f' : Frame} (hf : m.frame? level height = some f) (hf' : m'.frame? level' height = some f') : Keeps f f' := by
  induction lasts generalizing f' with
  | refl =>
    rw [hf] at hf'
    cases hf'
    exact Keeps.refl f
  | @step n n' l before next there ih =>
    obtain ⟨g, hg⟩ := Option.isSome_iff_exists.mp (before.there (hf ▸ rfl))
    have first := ih hg
    have last := (h.of_lasts before).sound.keeps Script.FromSource.ordered Script.closed_fromSource next hg hf'
    exact ⟨last.1.trans first.1, Nat.le_trans first.2 last.2⟩
  | resume _ _ _ _ ih =>
    rw [frame?_resume] at hf'
    exact ih hf'

/-- At every step no stack is too deep, and every frame has its place in its script and behind what it has discarded,
    a value in each slot, and loops that can have come as far as they have. What a frame has discarded stays so as
    long as it is there, and passing over a block never fails. -/
theorem Reachable.upholds (h : m.Reachable) :
    (∀ frames ∈ m.frameStacks, frames.length ≤ maxCallDepth ∧ ∀ f ∈ frames, f.floor ≤ f.pc ∧ f.pc ≤ f.script.length ∧
      f.slots.size = f.script.code.slots.size ∧ ∀ loop ∈ f.loops, loop.2.Valid) ∧
    (∀ m' height level level', Lasts height m level m' level' → ∀ f f', m.frame? level height = some f →
      m'.frame? level' height = some f' → f'.script = f.script ∧ f.floor ≤ f'.floor ∧ f'.floor ≤ f'.pc) ∧
    (∀ f below entry, m.StandsAt f below entry → ∀ (site : Site) (s : Scene), site.entry = entry → site.index = f.pc →
      s.frame.script = f.script → s.frame.floor = f.floor →
        ∃ pc, Act.skipBlock.on site s = (.ok (), { s with frame := { s.frame with pc := pc } })) := by
  have sound_stacks : ∀ {n : Machine}, n.Reachable →
      ∀ frames ∈ n.frameStacks, SoundStack Script.FromSource frames := by
    intro n hn frames hframes
    rcases List.mem_cons.mp hframes with rfl | hframes
    · exact hn.sound.running
    · obtain ⟨c, hc, rfl⟩ := List.mem_map.mp hframes
      exact hn.sound.callers c hc
  refine ⟨fun frames hframes => ?_, fun m' height level level' lasts f f' hf hf' => ?_,
    fun f below entry stands site s hentry hindex hscript hfloor => ?_⟩
  · have stack := sound_stacks h frames hframes
    refine ⟨stack.depth, fun f hf => ?_⟩
    have sound := stack.sound f hf
    exact ⟨sound.floor, sound.pc, sound.slots, sound.loops⟩
  · have keeps := h.keeps lasts hf hf'
    obtain ⟨frames, hframes, hk⟩ := Option.bind_eq_some_iff.mp hf'
    have hframes := List.mem_reverse.mp (List.mem_of_getElem? hframes)
    have sound := (sound_stacks (h.of_lasts lasts) frames hframes).sound f'
      (List.mem_reverse.mp (List.mem_of_getElem? hk))
    exact ⟨keeps.1, keeps.2, sound.floor⟩
  · have stack := h.sound.running
    rw [stands.frames] at stack
    have sound := stack.sound f List.mem_cons_self
    have here : s.frame.script.code.entries[site.index]? = some site.entry := by
      rw [hscript, hindex, hentry]
      exact stands.here
    have ordered : s.frame.script.code.Ordered := by
      rw [hscript]
      exact sound.script.ordered
    have floor : s.frame.floor ≤ site.index := by
      rw [hfloor, hindex]
      exact sound.floor
    obtain ⟨pc, hskip, -⟩ := Act.on_skipBlock_ordered here ordered floor
    exact ⟨pc, hskip⟩

/-- A loop that a `goto` has left behind it does not go back: its frame goes on at the `try` around it. -/
theorem Reachable.upholds_gotoInLoop : ∃ (m m' : Machine) (f f' : Frame), m.Reachable ∧ Lasts 0 m 0 m' 0 ∧
    m.frame? 0 0 = some f ∧ m'.frame? 0 0 = some f' ∧ f.pc = 5 ∧ f.floor = 5 ∧ f'.pc = 6 ∧ f.floor ≤ f'.floor ∧
      f'.floor ≤ f'.pc := by
  have found : (afterSource? "try { repeat 2 { goto a; noop; mark a; } } catch { noop; }" 3).any (fun m =>
      (m.frame? 0 0).any (fun f => f.pc = 5 && f.floor = 5) &&
        (m.after? 1).any fun m' => (m'.frame? 0 0).any fun f => f.pc = 6) = true := by
    decide +kernel
  obtain ⟨m, hm, found⟩ := (Option.any_eq_true _ _).mp found
  obtain ⟨found, found'⟩ := Bool.and_eq_true_iff.mp found
  obtain ⟨f, hf, hpc⟩ := (Option.any_eq_true _ _).mp found
  obtain ⟨m', hm', found'⟩ := (Option.any_eq_true _ _).mp found'
  obtain ⟨f', hf', hpc'⟩ := (Option.any_eq_true _ _).mp found'
  have reachable := reachable_afterSource hm
  rw [after?] at hm'
  split at hm'
  · rename_i next
    cases hm'
    have lasts : Lasts 0 m 0 m' 0 := .step .refl next (hf' ▸ rfl)
    obtain ⟨-, floor, pc⟩ := reachable.upholds.2.1 m' 0 0 0 lasts f f' hf hf'
    simp only [Bool.and_eq_true, decide_eq_true_eq] at hpc hpc'
    exact ⟨m, m', f, f', reachable, lasts, hf, hf', hpc.1, hpc.2, hpc', floor, pc⟩
  · cases hm'

end Machine

end CommandScript
