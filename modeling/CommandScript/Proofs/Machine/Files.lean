import CommandScript.Proofs.Machine.Messages
import CommandScript.Proofs.Compile.Entries
import CommandScript.Proofs.Text.Case

/-! Scripts of files. A script is kept under its name in lower case, but its file is looked for under the name as it is
    spelled. So the spelling that first found a file decides for all spellings after it, and one that finds none does
    not. -/

namespace CommandScript.Engine

/-- The script that a source text gives, which may be the one that stands in for it. -/
def scriptFrom (e : Engine) (name source : String) : Script :=
  match e.compileScript name source [] with
  | .ok s => s
  | .error err => .ofReport e.registries name e.verbosity (err.report (Text.lower name))

/-- The text of the file that is looked for under a spelling. -/
def fileText? (e : Engine) (name : String) : Option String := do
  let load ← e.loader
  match load (name ++ "." ++ e.extension) with
  | .ok text => text
  | .error _ => none

/-- The script of the file that is looked for under a spelling. -/
def readFile? (e : Engine) (name : String) : Option Script :=
  (e.fileText? name).map (e.scriptFrom name)

/-- The script of a name: the one that is kept for it, or else the one of its file. -/
def answer? (e : Engine) (name : String) : Option Script :=
  (e.scripts.lookup (Text.lower name)).or (e.readFile? name)

/-- Only the lower case of a name goes into a script. -/
theorem scriptFrom_congr (e : Engine) {name name' : String} (same : Text.lower name = Text.lower name')
    (source : String) : e.scriptFrom name source = e.scriptFrom name' source := by
  simp only [scriptFrom, compileScript, Script.ofSource, Script.ofReport, Script.ofCode, same]

theorem on_post_or (m : Message) (e : Engine) :
    (post m).on e = (.ok (), e.send [m]) ∨
      (post m).on e = (.error (.breakOff outputFailure), e.send [m]) ∧ ¬ e.outbox.Whole := by
  rw [on_post]
  by_cases broke : e.outbox.breaksAt (e.outbox.messages.size + 1) = true
  · refine .inr ⟨by rw [if_pos broke], fun whole => ?_⟩
    have := whole _ broke
    omega
  · exact .inl (by rw [if_neg broke])

/-- A source gives its script, unless the output breaks off at the report on it. -/
theorem on_scriptOfSource (name source : String) (e : Engine) :
    ∃ sent, (scriptOfSource name source).on e = (.ok (e.scriptFrom name source), e.send sent) ∨
      (scriptOfSource name source).on e = (.error (.breakOff outputFailure), e.send sent) ∧ ¬ e.outbox.Whole := by
  rw [scriptOfSource, EngineM.on_bind, EngineM.on_get]
  dsimp only
  cases h : e.compileScript name source [] with
  | ok s => exact ⟨[], .inl (by simp [scriptFrom, h, EngineM.on_pure])⟩
  | error err =>
    dsimp only [output]
    rw [EngineM.on_bind]
    refine ⟨[⟨false, .bad, err.report (Text.lower name)⟩], ?_⟩
    rcases on_post_or ⟨false, .bad, err.report (Text.lower name)⟩ e with hp | ⟨hp, broken⟩
    · exact .inl (by simp [hp, scriptFrom, h, EngineM.on_pure])
    · exact .inr ⟨by rw [hp], broken⟩

/-- A lookup answers, and keeps its answer for all spellings of the name, unless the output breaks off. -/
theorem on_scriptFile? (name : String) (e : Engine) :
    ∃ sent, (∃ scripts, (scriptFile? name).on e = (.ok (e.answer? name), { e.send sent with scripts := scripts }) ∧
        ∀ key, scripts.lookup key = if key = Text.lower name then e.answer? name else e.scripts.lookup key) ∨
      (scriptFile? name).on e = (.error (.breakOff outputFailure), e.send sent) ∧ ¬ e.outbox.Whole := by
  have kept : e.answer? name = e.scripts.lookup (Text.lower name) → ∀ key, e.scripts.lookup key =
      if key = Text.lower name then e.answer? name else e.scripts.lookup key := by
    intro same key
    split
    · rename_i hkey
      rw [hkey, same]
    · rfl
  rw [scriptFile?, EngineM.on_bind, EngineM.on_get]
  dsimp only
  split
  · rename_i _ s hs
    have answer : e.answer? name = some s := by simp [answer?, hs]
    refine ⟨[], .inl ⟨e.scripts, ?_, kept (by rw [answer, hs])⟩⟩
    rw [answer, send_nil, EngineM.on_pure]
  · rename_i hs hl
    have answer : e.answer? name = none := by simp [answer?, hs, readFile?, fileText?, hl]
    refine ⟨[], .inl ⟨e.scripts, ?_, kept (by rw [answer, hs])⟩⟩
    rw [answer, send_nil, EngineM.on_pure]
  · rename_i load hs hl
    split
    · rename_i hsource
      have answer : e.answer? name = none := by simp [answer?, hs, readFile?, fileText?, hl, hsource]
      refine ⟨[], .inl ⟨e.scripts, ?_, kept (by rw [answer, hs])⟩⟩
      rw [answer, send_nil, EngineM.on_pure]
    · rename_i source hsource
      have answer : e.answer? name = some (e.scriptFrom name source) := by
        simp [answer?, hs, readFile?, fileText?, hl, hsource]
      rw [EngineM.on_bind]
      obtain ⟨sent, made | ⟨made, broken⟩⟩ := on_scriptOfSource name source e
      · refine ⟨sent, .inl ⟨setKey (Text.lower name) (e.scriptFrom name source) e.scripts, ?_, fun key => ?_⟩⟩
        · rw [made, answer]
          rfl
        · split
          · rename_i hkey
            rw [hkey, lookup_setKey_self, answer]
          · rename_i hkey
            rw [lookup_setKey_ne hkey]
      · exact ⟨sent, .inr ⟨by rw [made], broken⟩⟩
    · rename_i text hsource
      have answer : e.answer? name = none := by simp [answer?, hs, readFile?, fileText?, hl, hsource]
      rw [EngineM.on_bind]
      refine ⟨[⟨false, .bad, s!"Generating script for file '{name}': " ++ text⟩], ?_⟩
      dsimp only [output]
      rcases on_post_or ⟨false, .bad, s!"Generating script for file '{name}': " ++ text⟩ e with hp | ⟨hp, broken⟩
      · refine .inl ⟨e.scripts, ?_, kept (by rw [answer, hs])⟩
        rw [hp, answer]
        rfl
      · exact .inr ⟨by rw [hp], broken⟩

/-! ### Lookups one after another -/

/-- An engine after lookups. -/
def afterLookups (e : Engine) : List String → Engine
  | [] => e
  | name :: rest => ((scriptFile? name).on e).2.afterLookups rest

/-- The names whose lookups came to an end. -/
def ended (e : Engine) : List String → List String
  | [] => []
  | name :: rest =>
    match (scriptFile? name).on e with
    | (.ok _, e) => name :: e.ended rest
    | (.error _, e) => e.ended rest

/-- The script of a name after lookups under some spellings: the one that was kept before, or else the one of the first
    spelling that has a file. -/
def firstFound? (e : Engine) (names : List String) (key : String) : Option Script :=
  (e.scripts.lookup key).or ((names.filter (Text.lower · = key)).findSome? e.readFile?)

theorem firstFound?_cons (e : Engine) (name : String) (names : List String) (key : String) :
    e.firstFound? (name :: names) key =
      (if key = Text.lower name then e.answer? name else e.scripts.lookup key).or
        ((names.filter (Text.lower · = key)).findSome? e.readFile?) := by
  rw [firstFound?]
  split
  · rename_i hkey
    subst hkey
    rw [List.filter_cons_of_pos (by simp), List.findSome?_cons, answer?]
    cases e.scripts.lookup (Text.lower name) <;> cases e.readFile? name <;> rfl
  · rename_i hkey
    rw [List.filter_cons_of_neg (by simpa using fun h => hkey h.symm)]

theorem lookup_afterLookups (e : Engine) (names : List String) :
    (∀ key, (e.afterLookups names).scripts.lookup key = e.firstFound? (e.ended names) key) ∧
      (e.afterLookups names).readFile? = e.readFile? ∧ (e.outbox.Whole → (e.afterLookups names).outbox.Whole) := by
  induction names generalizing e with
  | nil => exact ⟨fun key => by simp [afterLookups, ended, firstFound?], rfl, id⟩
  | cons name rest ih =>
    obtain ⟨sent, ⟨scripts, step, looked⟩ | ⟨step, broken⟩⟩ := on_scriptFile? name e
    · obtain ⟨lookups, reads, whole⟩ := ih { e.send sent with scripts := scripts }
      rw [afterLookups, ended, step]
      refine ⟨fun key => ?_, reads, fun h => whole (whole_send h sent)⟩
      dsimp only
      rw [lookups, firstFound?_cons, ← looked]
      rfl
    · obtain ⟨lookups, reads, whole⟩ := ih (e.send sent)
      rw [afterLookups, ended, step]
      exact ⟨lookups, reads, fun h => absurd h broken⟩

theorem ended_of_whole {e : Engine} (whole : e.outbox.Whole) (names : List String) : e.ended names = names := by
  induction names generalizing e with
  | nil => rfl
  | cons name rest ih =>
    obtain ⟨sent, ⟨scripts, step, -⟩ | ⟨-, broken⟩⟩ := on_scriptFile? name e
    · rw [ended, step]
      exact congrArg (name :: ·) (ih (whole_send whole sent))
    · exact absurd whole broken

theorem mem_of_mem_ended {e : Engine} {names : List String} {name : String} (h : name ∈ e.ended names) :
    name ∈ names := by
  induction names generalizing e with
  | nil => exact h
  | cons first rest ih =>
    rw [ended] at h
    split at h
    · rcases List.mem_cons.mp h with rfl | h
      · exact List.mem_cons_self
      · exact List.mem_cons_of_mem _ (ih h)
    · exact List.mem_cons_of_mem _ (ih h)

/-- What a lookup answers after others. -/
def lookUp (e : Engine) (names : List String) (name : String) : Except Failure (Option Script) :=
  ((scriptFile? name).on (e.afterLookups names)).1

theorem lookUp_cases (e : Engine) (names : List String) (name : String) :
    e.lookUp names name = .ok (e.firstFound? (e.ended names ++ [name]) (Text.lower name)) ∨
      e.lookUp names name = .error (.breakOff outputFailure) ∧ ¬ e.outbox.Whole := by
  obtain ⟨lookups, reads, whole⟩ := lookup_afterLookups e names
  obtain ⟨sent, ⟨scripts, step, -⟩ | ⟨step, broken⟩⟩ := on_scriptFile? name (e.afterLookups names)
  · have answer : (e.afterLookups names).answer? name =
        e.firstFound? (e.ended names ++ [name]) (Text.lower name) := by
      rw [answer?, lookups, reads, firstFound?, firstFound?, List.filter_append, List.findSome?_append,
        Option.or_assoc]
      simp
    exact .inl (by rw [lookUp, step, answer])
  · exact .inr ⟨by rw [lookUp, step], fun h => broken (whole h)⟩

theorem findSome?_of_all {α β : Type} {f : α → Option β} {found : Option β} {l : List α} {a : α} (ha : a ∈ l)
    (h : ∀ x ∈ l, f x = found) : l.findSome? f = found := by
  cases found with
  | none => exact List.findSome?_eq_none_iff.mpr h
  | some b =>
    obtain ⟨first, rest, rfl⟩ := List.exists_cons_of_ne_nil (List.ne_nil_of_mem ha)
    rw [List.findSome?_cons, h first List.mem_cons_self]

/-- Where all spellings of a name lead to the same text, it does not matter under which of them it was looked up. -/
theorem firstFound?_of_alike {e : Engine} {names : List String} {name : String} {text : Option String}
    (used : name ∈ names) (alike : ∀ x ∈ names, Text.lower x = Text.lower name → e.fileText? x = text) :
    e.firstFound? names (Text.lower name) =
      (e.scripts.lookup (Text.lower name)).or (text.map (e.scriptFrom (Text.lower name))) := by
  have reads : ∀ x ∈ names.filter (Text.lower · = Text.lower name),
      e.readFile? x = text.map (e.scriptFrom (Text.lower name)) := by
    intro x hx
    obtain ⟨hx, same⟩ := List.mem_filter.mp hx
    have same := of_decide_eq_true same
    rw [readFile?, alike x hx same]
    cases text with
    | none => simp
    | some source => exact congrArg some (scriptFrom_congr e (by rw [same, Text.lower_lower]) source)
  rw [firstFound?, findSome?_of_all (List.mem_filter.mpr ⟨used, by simp⟩) reads]

/-- A lookup, unless the output breaks off at it, gives the script that was kept for the name before all lookups, or
    else the script of the first spelling, among those that were looked up and its own, that has a file. So two
    spellings give the same script after all histories in which the spellings of the name lead to the same text. -/
theorem lookUp_after (e : Engine) (names : List String) (name : String) :
    (∀ found, e.lookUp names name = .ok found →
        found = e.firstFound? (e.ended names ++ [name]) (Text.lower name)) ∧
      (e.outbox.Whole → e.ended names = names ∧ ∃ found, e.lookUp names name = .ok found) ∧
      ∀ names' name', Text.lower name' = Text.lower name →
        (∀ x ∈ name' :: (names ++ names'), Text.lower x = Text.lower name → e.fileText? x = e.fileText? name) →
        ∀ found found', e.lookUp names name = .ok found → e.lookUp names' name' = .ok found' → found = found' := by
  have answered : ∀ names name found, e.lookUp names name = .ok found →
      found = e.firstFound? (e.ended names ++ [name]) (Text.lower name) := by
    intro names name found h
    rcases lookUp_cases e names name with answer | ⟨broke, -⟩
    · rw [h] at answer
      exact Except.ok.inj answer
    · rw [h] at broke
      cases broke
  refine ⟨answered names name, fun whole => ⟨ended_of_whole whole names, ?_⟩, ?_⟩
  · rcases lookUp_cases e names name with answer | ⟨-, broken⟩
    · exact ⟨_, answer⟩
    · exact absurd whole broken
  · intro names' name' same alike found found' h h'
    have of_history : ∀ x ∈ e.ended names ++ [name], Text.lower x = Text.lower name →
        e.fileText? x = e.fileText? name := by
      intro x hx hsame
      rcases List.mem_append.mp hx with hx | hx
      · exact alike x (by simp [mem_of_mem_ended hx]) hsame
      · rw [List.mem_singleton.mp hx]
    have of_history' : ∀ x ∈ e.ended names' ++ [name'], Text.lower x = Text.lower name' →
        e.fileText? x = e.fileText? name := by
      intro x hx hsame
      refine alike x ?_ (hsame.trans same)
      rcases List.mem_append.mp hx with hx | hx
      · simp [mem_of_mem_ended hx]
      · simp [List.mem_singleton.mp hx]
    rw [answered names name found h, answered names' name' found' h', firstFound?_of_alike (by simp) of_history,
      firstFound?_of_alike (by simp) of_history', same]

/-- An engine with one file of scripts, which it finds by its name in any case. -/
def anyCase : Engine where
  registries := .builtin
  loader := some fun file => .ok (if Text.asciiLower file = "main.cfg" then some "echo hi" else none)

theorem lookUp_after_anyCase : ∃ s, anyCase.lookUp ["other", "MAIN"] "Main" = .ok (some s) ∧
    anyCase.lookUp ["mAIN"] "main" = .ok (some s) := by
  have whole : anyCase.outbox.Whole := Outbox.whole_of_never rfl
  have alike : ∀ x ∈ "main" :: (["other", "MAIN"] ++ ["mAIN"]), Text.lower x = Text.lower "Main" →
      anyCase.fileText? x = anyCase.fileText? "Main" := by
    decide
  have first := lookUp_after anyCase ["other", "MAIN"] "Main"
  have second := lookUp_after anyCase ["mAIN"] "main"
  obtain ⟨-, found, h⟩ := first.2.1 whole
  obtain ⟨ended, found', h'⟩ := second.2.1 whole
  have same := first.2.2 ["mAIN"] "main" (by decide) alike found found' h h'
  have read : anyCase.fileText? "mAIN" = some "echo hi" := by decide
  have script : ∃ s, found' = some s := by
    rw [second.1 found' h', ended]
    simp [firstFound?, readFile?, read, show anyCase.scripts = [] from rfl, show Text.lower "mAIN" = "main" by decide,
      show Text.lower "main" = "main" by decide]
  obtain ⟨s, rfl⟩ := script
  exact ⟨s, by rw [h, same], h'⟩

/-- An engine with one file of scripts. -/
def oneFile : Engine where
  registries := .builtin
  loader := some fun file => .ok (if file = "main.cfg" then some "echo hi" else none)

/-- The other spelling finds the file only after the one that the file has. -/
theorem lookUp_differs :
    Text.lower "Main" = Text.lower "main" ∧ oneFile.lookUp [] "Main" = .ok none ∧
      (∃ s, oneFile.lookUp [] "main" = .ok (some s)) ∧ ∃ s, oneFile.lookUp ["main"] "Main" = .ok (some s) := by
  have same : Text.lower "Main" = Text.lower "main" := by decide
  have found : oneFile.fileText? "main" = some "echo hi" := by decide
  have missing : oneFile.fileText? "Main" = none := by decide
  have fresh : oneFile.scripts = [] := rfl
  have whole : oneFile.outbox.Whole := Outbox.whole_of_never rfl
  have answer (names : List String) (name : String) :
      oneFile.lookUp names name = .ok (oneFile.firstFound? (names ++ [name]) (Text.lower name)) := by
    rcases lookUp_cases oneFile names name with h | ⟨-, broken⟩
    · rw [h, ended_of_whole whole]
    · exact absurd whole broken
  refine ⟨same, ?_, ?_, ?_⟩
  · simp [answer, firstFound?, readFile?, missing, fresh]
  · simp [answer, firstFound?, readFile?, found, fresh]
  · simp [answer, firstFound?, readFile?, found, same, fresh]

end CommandScript.Engine
