import CommandScript.Options
import CommandScript.Proofs.Outcome
import CommandScript.Proofs.Text.Blank
import Mathlib.Data.List.Forall2

/-! Command lines in two parts. While a line is read nothing is carried from one argument to the next but what was asked
    for so far, except that some flags take the next argument for their value. So a line that is cut where no flag waits
    for its value means what its parts mean, one behind the other.

    Files of settings. What a line does, whether it sets a key or cannot be used, depends on the line alone: the key is
    set that stands before its first `=`, and if it cannot be, the line leaves no trace but its error. So a file means
    what its other lines mean. -/

/-! ### Command lines -/

namespace CommandScript.Options

/-- What two command lines ask for together, where the second has the last word. -/
def followedBy (first second : Options) : Options where
  scriptDir := second.scriptDir.or first.scriptDir
  settings := if second.settings = .usual then first.settings else second.settings
  commands := first.commands ++ second.commands
  verbosity := second.verbosity.or first.verbosity
  tickMillis := second.tickMillis.or first.tickMillis
  scripts := first.scripts ++ second.scripts

@[simp]
theorem followedBy_nothing (o : Options) : o.followedBy {} = o := by
  simp [followedBy]

theorem put_followedBy (o p : Options) (flag : ValueFlag) (value : String) :
    (o.followedBy p).put flag value = (p.put flag value).map o.followedBy := by
  cases flag with
  | scriptDir => simp [put, Except.map, followedBy]
  | command => simp [put, Except.map, followedBy]
  | verbosity => cases h : Verbosity.read value <;> simp [put, Except.map, followedBy, h]
  | tick =>
    rcases h : Decimal.readNatural? maxTickMillis value with _ | _ | n <;> simp [put, Except.map, followedBy, h]

/-! What each kind of argument does. -/

section
variable {argument next value : String} {behind rest : List String} {letter : Char} {text : List Char}
  {flag : ValueFlag} (o : Options)

theorem readFrom_bare (hne : argument ≠ "--") (h : argument.toList = ['-', 'f']) :
    o.readFrom (argument :: next :: rest) =
      if isSettingsFile next then readFrom { o with settings := .explicit next } rest
      else readFrom { o with settings := .skip } (next :: rest) := by
  rw [readFrom.eq_def]
  simp [h, hne]

theorem readFrom_own_file (hne : argument ≠ "--") (h : argument.toList = '-' :: 'f' :: text) (ht : text ≠ []) :
    o.readFrom (argument :: rest) = readFrom { o with settings := .explicit (String.ofList text) } rest := by
  rw [readFrom.eq_def]
  simp [h, hne, ht]

theorem readFrom_value (hne : argument ≠ "--") (h : argument.toList = '-' :: letter :: text) (hl : letter ≠ 'f')
    (hf : ValueFlag.ofLetter? letter = some flag)
    (hv : text = [] ∧ behind = value :: rest ∨ text ≠ [] ∧ value = String.ofList text ∧ behind = rest) :
    o.readFrom (argument :: behind) = (do readFrom (← o.put flag value) rest) := by
  rw [readFrom.eq_def]
  rcases hv with ⟨rfl, rfl⟩ | ⟨own, rfl, rfl⟩
  · simp [h, hne, hl, hf]
  · simp [h, hne, hl, hf, own]

theorem readFrom_name (hne : argument ≠ "--") (h : ∀ letter text, argument.toList ≠ '-' :: letter :: text) :
    o.readFrom (argument :: rest) = readFrom { o with scripts := o.scripts ++ [argument] } rest := by
  rw [readFrom.eq_def]
  simp [hne]

end

theorem ne_nil_of_no_match {text : List Char} {rest : List String} (h : text = [] → rest = [] → False)
    (h' : ∀ next rest', text = [] → rest = next :: rest' → False) : text ≠ [] := by
  intro ht
  cases rest with
  | nil => exact h ht rfl
  | cons next rest' => exact h' next rest' ht rfl

/-- What was asked for before does not change how arguments are read, and stands behind what they ask for. -/
theorem readFrom_followedBy (o p : Options) (arguments : List String) :
    (o.followedBy p).readFrom arguments = (p.readFrom arguments).map o.followedBy := by
  -- an end, `--`, a bare `-f` (last, with a file behind it, with something else behind it), `-f` with its own file,
  -- no flag, a flag that lacks its value, one with its value behind it, one with its own value, a name
  fun_induction readFrom p arguments with
  | case1 p => simp [readFrom, Except.map]
  | case2 p rest => simp [readFrom, Except.map, followedBy]
  | case3 p argument hne h => simp [readFrom, h, hne, Except.map, followedBy]
  | case4 p argument hne next rest hnext h ih =>
    rw [readFrom_bare _ hne h, if_pos hnext, ← ih]
    simp [followedBy]
  | case5 p argument hne next rest hnext h ih =>
    rw [readFrom_bare _ hne h, if_neg hnext, ← ih]
    simp [followedBy]
  | case6 p argument hne text rest hnil hcons h ih =>
    rw [readFrom_own_file _ hne h (ne_nil_of_no_match hnil hcons), ← ih]
    simp [followedBy]
  | case7 p argument rest hne letter text h hl hf => simp [readFrom, h, hne, hl, hf, Except.map]
  | case8 p argument hne letter hl flag hf h => simp [readFrom, h, hne, hl, hf, Except.map]
  | case9 p argument hne letter hl flag hf next rest h ih =>
    rw [readFrom_value _ hne h hl hf (.inl ⟨rfl, rfl⟩), put_followedBy]
    cases p.put flag next with
    | error fault => rfl
    | ok p' => exact ih p'
  | case10 p argument hne letter text h hl flag hf rest hnil hcons ih =>
    rw [readFrom_value _ hne h hl hf (.inr ⟨ne_nil_of_no_match hnil hcons, rfl, rfl⟩), put_followedBy]
    cases p.put flag (String.ofList text) with
    | error fault => rfl
    | ok p' => exact ih p'
  | case11 p argument rest hne h ih =>
    rw [readFrom_name _ hne h, ← ih]
    simp [followedBy]

theorem getLast?_ne_of_cons {argument last : String} {rest : List String}
    (h : (argument :: rest).getLast? ≠ some last) : rest.getLast? ≠ some last := by
  cases rest with
  | nil => simp
  | cons next rest => rwa [List.getLast?_cons_cons] at h

/-- Reading goes on behind arguments that were read, unless they end the flags or wait for a file. -/
theorem readFrom_append {o o' : Options} {first : List String} (second : List String)
    (h : o.readFrom first = .ok o') (plain : "--" ∉ first) (closed : first.getLast? ≠ some "-f") :
    o.readFrom (first ++ second) = o'.readFrom second := by
  fun_induction readFrom o first with
  | case1 o =>
    cases h
    rfl
  | case2 o rest => simp at plain
  | case3 o argument hne hf =>
    -- a lone `-f` at the end would take its file from the second part
    have : argument = "-f" := String.toList_inj.mp hf
    simp [this] at closed
  | case4 o argument hne next rest hnext hf ih =>
    simp only [List.mem_cons, not_or] at plain
    rw [List.cons_append, List.cons_append, readFrom_bare o hne hf, if_pos hnext]
    exact ih h plain.2.2 (getLast?_ne_of_cons (getLast?_ne_of_cons closed))
  | case5 o argument hne next rest hnext hf ih =>
    rw [List.cons_append, List.cons_append, readFrom_bare o hne hf, if_neg hnext]
    exact ih h (List.not_mem_of_not_mem_cons plain) (getLast?_ne_of_cons closed)
  | case6 o argument hne text rest hnil hcons hf ih =>
    rw [List.cons_append, readFrom_own_file o hne hf (ne_nil_of_no_match hnil hcons)]
    exact ih h (List.not_mem_of_not_mem_cons plain) (getLast?_ne_of_cons closed)
  | case7 o argument rest hne letter text ha hl hf => cases h
  | case8 o argument hne letter hl flag hf ha => cases h
  | case9 o argument hne letter hl flag hf next rest ha ih =>
    obtain ⟨p, hp, h⟩ := bind_eq_ok.mp h
    simp only [List.mem_cons, not_or] at plain
    rw [List.cons_append, List.cons_append, readFrom_value o hne ha hl hf (.inl ⟨rfl, rfl⟩), hp]
    exact ih p h plain.2.2 (getLast?_ne_of_cons (getLast?_ne_of_cons closed))
  | case10 o argument hne letter text ha hl flag hf rest hnil hcons ih =>
    obtain ⟨p, hp, h⟩ := bind_eq_ok.mp h
    have own := ne_nil_of_no_match hnil hcons
    rw [List.cons_append, readFrom_value o hne ha hl hf (.inr ⟨own, rfl, rfl⟩), hp]
    exact ih p h (List.not_mem_of_not_mem_cons plain) (getLast?_ne_of_cons closed)
  | case11 o argument rest hne ha ih =>
    rw [List.cons_append, readFrom_name o hne ha]
    exact ih h (List.not_mem_of_not_mem_cons plain) (getLast?_ne_of_cons closed)

/-- A command line that ends no flags and waits for no file, with more arguments behind it, is refused just as these
    are, and asks for what both parts ask for. -/
theorem read_append {first : List String} {o : Options} (h : read first = .ok o) (plain : "--" ∉ first)
    (closed : first.getLast? ≠ some "-f") (second : List String) :
    read (first ++ second) = (read second).map o.followedBy := by
  calc read (first ++ second) = o.readFrom second := readFrom_append second h plain closed
    _ = (o.followedBy {}).readFrom second := by rw [followedBy_nothing]
    _ = (read second).map o.followedBy := readFrom_followedBy o {} second

/-- `-c` takes `-f` for its value, so that the script `main` behind it ends a line that can be gone on with. -/
theorem read_append_main :
    read ["-c", "-f", "main", "-f", "my.conf", "other"] =
      .ok { commands := ["-f"], scripts := ["main", "other"], settings := .explicit "my.conf" } := by
  have h : read ["-c", "-f", "main"] = .ok { commands := ["-f"], scripts := ["main"] } := by rfl
  rw [show ["-c", "-f", "main", "-f", "my.conf", "other"] =
      ["-c", "-f", "main"] ++ ["-f", "my.conf", "other"] from rfl, read_append h (by decide) (by decide)]
  rfl

end CommandScript.Options

namespace CommandScript.Settings

/-! ### One key -/

inductive Field where
  | scriptDir
  | scriptExtension
  | verbosity
  | tickMillis
  | autorun

namespace Field

def key : Field → String
  | scriptDir => "script_dir"
  | scriptExtension => "script_extension"
  | verbosity => "verbosity"
  | tickMillis => "tick_interval"
  | autorun => "autorun"

def Value : Field → Type
  | scriptDir => Option String
  | scriptExtension => String
  | verbosity => Verbosity
  | tickMillis => Nat
  | autorun => Bool

end Field

def get (s : Settings) : (f : Field) → f.Value
  | .scriptDir => s.scriptDir
  | .scriptExtension => s.scriptExtension
  | .verbosity => s.verbosity
  | .tickMillis => s.tickMillis
  | .autorun => s.autorun

/-- The settings with one of them changed. -/
def put (s : Settings) : (f : Field) → f.Value → Settings
  | .scriptDir, v => { s with scriptDir := v }
  | .scriptExtension, v => { s with scriptExtension := v }
  | .verbosity, v => { s with verbosity := v }
  | .tickMillis, v => { s with tickMillis := v }
  | .autorun, v => { s with autorun := v }

theorem get_put_ne (s : Settings) {f g : Field} (v : f.Value) (ne : g ≠ f) : (s.put f v).get g = s.get g := by
  cases f <;> cases g <;> first | rfl | exact absurd rfl ne

/-- Setting a key is a fault, or it gives the setting of this key a value. -/
theorem set_cases (key value : String) :
    (∃ fault, set key value = throw fault) ∨
      ∃ (f : Field) (v : f.Value), f.key = Text.asciiLower key ∧ set key value = modify (put · f v) := by
  unfold set
  split
  · rename_i hkey
    exact .inr ⟨.scriptDir, some value, hkey.symm, rfl⟩
  · rename_i hkey
    dsimp only
    split
    · exact .inl ⟨_, rfl⟩
    · exact .inr ⟨.scriptExtension, _, hkey.symm, rfl⟩
  · rename_i hkey
    split
    · exact .inr ⟨.verbosity, _, hkey.symm, rfl⟩
    · exact .inl ⟨_, rfl⟩
  · rename_i hkey
    split
    · exact .inl ⟨_, rfl⟩
    · exact .inl ⟨_, rfl⟩
    · exact .inr ⟨.tickMillis, _, hkey.symm, rfl⟩
  · rename_i hkey
    split
    · exact .inr ⟨.autorun, _, hkey.symm, rfl⟩
    · exact .inl ⟨_, rfl⟩
  · exact .inl ⟨_, rfl⟩

/-! ### One line -/

/-- A line that says nothing: it is blank or a comment. -/
def Idle (line : String) : Prop :=
  ∀ c ∈ (Text.trimChars line.toList).head?, c = '#' ∨ c = ';'

theorem idle_of_blank {line : String} (h : ∀ c ∈ line.toList, Text.isBlank c = true) : Idle line := by
  simp [Idle, Text.trimChars_eq_nil.mpr h]

theorem applyLine_of_idle {line : String} (h : Idle line) : applyLine line = pure () := by
  unfold Idle at h
  unfold applyLine
  cases hcs : Text.trimChars line.toList with
  | nil => rfl
  | cons c rest =>
    rw [hcs] at h
    rcases h c rfl with rfl | rfl <;> rfl

instance : DecidablePred Idle := fun line =>
  decidable_of_iff ((Text.trimChars line.toList).head?.all fun c => c == '#' || c == ';')
    (by simp [Idle, Option.all_eq_true])

/-- A line that is not idle names a key and a value: what stands before its first `=` and what stands behind it, without
    the blanks around them and, for the value, without one pair of quotes. -/
structure Assigns (line key value : String) : Prop where
  loud : ¬ Idle line
  parts : ∃ before after, Text.trimChars line.toList = before ++ '=' :: after ∧ '=' ∉ before ∧
    key = String.ofList (Text.trimChars before) ∧ value = String.ofList (unquote (Text.trimChars after))

/-- A line that is not idle cannot be used: it has no `=`, or the key that it names cannot be set to its value. -/
inductive Refused (line : String) : SettingsFault → Prop
  | noValue (loud : ¬ Idle line) (none : '=' ∉ Text.trimChars line.toList) :
      Refused line (.noValue (String.ofList (Text.trimChars line.toList)))
  | unset {key value : String} {fault : SettingsFault} (assigns : Assigns line key value)
      (fails : set key value = throw fault) : Refused line fault

/-- What applying a line does depends on the line alone. -/
inductive Applies (line : String) : EStateM SettingsFault Settings Unit → Prop
  | idle (idle : Idle line) : Applies line (pure ())
  | refused {fault : SettingsFault} (refused : Refused line fault) : Applies line (throw fault)
  | assigns {key value : String} {f : Field} {v : f.Value} (assigns : Assigns line key value)
      (succeeds : set key value = modify (put · f v)) : Applies line (set key value)

theorem applyLine_of_loud {line : String} (loud : ¬ Idle line) : applyLine line =
    match Text.splitFirst '=' (Text.trimChars line.toList) with
    | none => throw (.noValue (String.ofList (Text.trimChars line.toList)))
    | some (key, value) =>
      set (String.ofList (Text.trimChars key)) (String.ofList (unquote (Text.trimChars value))) := by
  unfold applyLine
  dsimp only
  split
  · rename_i h
    exact absurd (by simp [Idle, h]) loud
  · rename_i h
    exact absurd (by simp [Idle, h]) loud
  · rename_i h
    exact absurd (by simp [Idle, h]) loud
  · rfl

theorem Assigns.applyLine_eq {line key value : String} (h : Assigns line key value) :
    applyLine line = set key value := by
  obtain ⟨before, after, parts, first, rfl, rfl⟩ := h.parts
  rw [applyLine_of_loud h.loud, Text.splitFirst_eq_some.mpr ⟨first, parts⟩]

theorem applies_applyLine (line : String) : Applies line (applyLine line) := by
  by_cases idle : Idle line
  · rw [applyLine_of_idle idle]
    exact .idle idle
  · cases cut : Text.splitFirst '=' (Text.trimChars line.toList) with
    | none =>
      rw [applyLine_of_loud idle, cut]
      exact .refused (.noValue idle (Text.splitFirst_eq_none.mp cut))
    | some parts =>
      obtain ⟨first, whole⟩ := Text.splitFirst_eq_some.mp cut
      have assigns : Assigns line _ _ := ⟨idle, parts.1, parts.2, whole, first, rfl, rfl⟩
      rw [assigns.applyLine_eq]
      rcases set_cases (String.ofList (Text.trimChars parts.1))
          (String.ofList (unquote (Text.trimChars parts.2))) with ⟨fault, h⟩ | ⟨f, v, -, h⟩
      · rw [h]
        exact .refused (.unset assigns h)
      · exact .assigns assigns h

theorem applyLine_dropReturn (line : List Char) :
    applyLine (String.ofList (Text.dropReturn line)) = applyLine (String.ofList line) := by
  simp only [applyLine, String.toList_ofList, Text.trimChars_dropReturn]

/-! ### All lines -/

def reportedAt (errors : List SettingsError) (n : Nat) : Bool :=
  errors.any (·.line == n)

/-- The lines from the number `first` on that are neither idle nor have an error. -/
def heeded (errors : List SettingsError) (first : Nat) (lines : List String) : List String :=
  ((lines.zipIdx first).filter fun l => !reportedAt errors l.2 && !decide (Idle l.1)).map Prod.fst

/-- What becomes of lines from the number `first` on. Each line that is not idle either is refused, whatever
    the settings are, and has one error, or it has none, and the key that it names is set. The settings that
    come out are those in which the keys of the latter lines were set, one after another. -/
structure Account (first : Nat) (lines : List String) (s s' : Settings) (errors : List SettingsError) : Prop where
  increasing : errors.Pairwise fun e e' => e.line < e'.line
  refused : ∀ e ∈ errors, ∃ line, (line, e.line) ∈ lines.zipIdx first ∧ Refused line e.fault
  applied : ∃ assignments : List (String × String),
    List.Forall₂ (fun line a => Assigns line a.1 a.2) (heeded errors first lines) assignments ∧
      (forM assignments fun a => set a.1 a.2).run s = .ok () s'

section
variable {first : Nat} {line : String} {rest : List String} {errors : List SettingsError}

theorem Account.above {lines : List String} {s s' : Settings} (h : Account first lines s s' errors) :
    ∀ e ∈ errors, first ≤ e.line := by
  intro e he
  obtain ⟨line, hline, -⟩ := h.refused e he
  exact List.le_snd_of_mem_zipIdx hline

theorem Account.free {lines : List String} {s s' : Settings} (h : Account (first + 1) lines s s' errors) :
    reportedAt errors first = false := by
  simp only [reportedAt, List.any_eq_false, beq_iff_eq]
  exact fun e he => Nat.ne_of_gt (h.above e he)

theorem heeded_cons_of_reported (h : reportedAt errors first = true) :
    heeded errors first (line :: rest) = heeded errors (first + 1) rest := by
  simp [heeded, h]

theorem heeded_cons_of_idle (h : Idle line) :
    heeded errors first (line :: rest) = heeded errors (first + 1) rest := by
  simp [heeded, h]

theorem heeded_cons_of_loud (free : reportedAt errors first = false) (loud : ¬ Idle line) :
    heeded errors first (line :: rest) = line :: heeded errors (first + 1) rest := by
  simp [heeded, free, loud]

/-- An error before the first line does not matter. -/
theorem heeded_cons_error {e : SettingsError} (before : e.line < first) (lines : List String) :
    heeded (e :: errors) first lines = heeded errors first lines := by
  rw [heeded, heeded]
  congr 1
  apply List.filter_congr
  intro l hl
  have ne : (e.line == l.2) = false :=
    beq_false_of_ne (Nat.ne_of_lt (Nat.lt_of_lt_of_le before (List.le_snd_of_mem_zipIdx hl)))
  rw [reportedAt, reportedAt, List.any_cons, ne, Bool.false_or]

/-- A line that leaves the settings as they are and has no error may be added in front. -/
theorem Account.cons {s s' : Settings} (tail : Account (first + 1) rest s s' errors)
    (same : heeded errors first (line :: rest) = heeded errors (first + 1) rest) :
    Account first (line :: rest) s s' errors := by
  refine ⟨tail.increasing, fun e he => ?_, same ▸ tail.applied⟩
  obtain ⟨line', hline', refused⟩ := tail.refused e he
  exact ⟨line', by simp [hline'], refused⟩

end

theorem applyLines_account (first : Nat) (lines : List String) (s : Settings) :
    Account first lines s (applyLines s first lines).1 (applyLines s first lines).2 := by
  induction lines generalizing first s with
  | nil => exact ⟨.nil, by simp [applyLines], [], .nil, rfl⟩
  | cons line rest ih =>
    have applies := applies_applyLine line
    rw [applyLines]
    generalize applyLine line = act at applies
    cases applies with
    | idle idle => exact (ih (first + 1) s).cons (heeded_cons_of_idle idle)
    | @refused fault refused =>
      have tail := ih (first + 1) s
      refine ⟨List.pairwise_cons.mpr ⟨tail.above, tail.increasing⟩, fun e he => ?_, ?_⟩
      · rcases List.mem_cons.mp he with rfl | he
        · exact ⟨line, by simp, refused⟩
        · obtain ⟨line', hline', refused⟩ := tail.refused e he
          exact ⟨line', by simp [hline'], refused⟩
      · show ∃ assignments, List.Forall₂ _ (heeded (⟨first, fault⟩ :: _) first (line :: rest)) assignments ∧ _
        rw [heeded_cons_of_reported (by simp [reportedAt]), heeded_cons_error (Nat.lt_succ_self first)]
        exact tail.applied
    | @assigns key value f v assigns succeeds =>
      rw [succeeds]
      have tail := ih (first + 1) (s.put f v)
      obtain ⟨assignments, named, run⟩ := tail.applied
      refine ⟨tail.increasing, fun e he => ?_, (key, value) :: assignments, ?_, ?_⟩
      · obtain ⟨line', hline', refused⟩ := tail.refused e he
        exact ⟨line', by simp [hline'], refused⟩
      · show List.Forall₂ _ (heeded (applyLines (s.put f v) (first + 1) rest).2 first (line :: rest)) _
        rw [heeded_cons_of_loud tail.free assigns.loud]
        exact .cons assigns named
      · rw [List.forM_cons, succeeds]
        exact run

/-! ### Errors taken out -/

structure BlankLine where
  text : String
  blank : ∀ c ∈ text.toList, Text.isBlank c = true
  one : '\n' ∉ text.toList

/-- Lines from the number `first` on, with blank ones where there are errors. -/
def blanked (errors : List SettingsError) (blank : Nat → BlankLine) (first : Nat) (lines : List String) :
    List String :=
  (lines.zipIdx first).map fun l => if reportedAt errors l.2 then (blank l.2).text else l.1

/-- A text with blank lines where there are errors. -/
def blankedText (errors : List SettingsError) (blank : Nat → BlankLine) (text : String) : String :=
  Text.join "\n" (blanked errors blank 1 ((Text.splitChar '\n' text.toList).map String.ofList))

theorem applyLines_blanked {errors : List SettingsError} (blank : Nat → BlankLine) {first : Nat} {lines : List String}
    {s s' : Settings} {assignments : List (String × String)}
    (named : List.Forall₂ (fun line a => Assigns line a.1 a.2) (heeded errors first lines) assignments)
    (run : (forM assignments fun a => set a.1 a.2).run s = .ok () s') :
    applyLines s first (blanked errors blank first lines) = (s', []) := by
  induction lines generalizing first s assignments with
  | nil =>
    cases named
    cases run
    rfl
  | cons line rest ih =>
    cases reported : reportedAt errors first with
    | true =>
      have hr : blanked errors blank first (line :: rest) =
          (blank first).text :: blanked errors blank (first + 1) rest := by
        simp [blanked, reported]
      rw [heeded_cons_of_reported reported] at named
      rw [hr, applyLines, applyLine_of_idle (idle_of_blank (blank first).blank)]
      exact ih named run
    | false =>
      have hr : blanked errors blank first (line :: rest) = line :: blanked errors blank (first + 1) rest := by
        simp [blanked, reported]
      rw [hr, applyLines]
      by_cases idle : Idle line
      · rw [heeded_cons_of_idle idle] at named
        rw [applyLine_of_idle idle]
        exact ih named run
      · rw [heeded_cons_of_loud reported idle] at named
        obtain ⟨a, more, assigns, rest_named, rfl⟩ := List.forall₂_cons_left_iff.mp named
        rw [List.forM_cons] at run
        rw [assigns.applyLine_eq]
        rcases set_cases a.1 a.2 with ⟨fault, h⟩ | ⟨f, v, -, h⟩
        · rw [h] at run
          cases run
        · rw [h] at run ⊢
          exact ih rest_named run

/-- Line ends do not matter, and neither does an empty piece at the end. -/
theorem applyLines_linesOf (s : Settings) (first : Nat) (pieces : List (List Char)) :
    applyLines s first ((Text.linesOf pieces).map String.ofList) = applyLines s first (pieces.map String.ofList) := by
  induction pieces generalizing s first with
  | nil => rfl
  | cons piece rest ih =>
    cases rest with
    | nil =>
      cases piece with
      | nil => rfl
      | cons c cs => rfl
    | cons next more =>
      rw [Text.linesOf, List.map_cons, List.map_cons, applyLines, applyLines, applyLine_dropReturn]
      simp only [ih]

theorem ofText_eq (text : String) :
    ofText text = applyLines {} 1 ((Text.splitChar '\n' text.toList).map String.ofList) := by
  rw [ofText, Text.lines, applyLines_linesOf]

theorem ofText_blankedText (blank : Nat → BlankLine) (text : String) :
    ofText (blankedText (ofText text).2 blank text) = ((ofText text).1, []) := by
  have none : ∀ line ∈ blanked (ofText text).2 blank 1 ((Text.splitChar '\n' text.toList).map String.ofList),
      '\n' ∉ line.toList := by
    intro line hline
    obtain ⟨⟨piece, n⟩, hpiece, rfl⟩ := List.mem_map.mp hline
    dsimp only
    split
    · exact (blank n).one
    · obtain ⟨cs, hcs, rfl⟩ := List.mem_map.mp (List.fst_mem_of_mem_zipIdx hpiece)
      rw [String.toList_ofList]
      exact Text.not_mem_of_splitChar hcs
  rw [ofText_eq (blankedText _ _ _), blankedText,
    Text.splitChar_join rfl (by simp [blanked, Text.splitChar_ne_nil]) none, List.map_map]
  simp only [Function.comp_def, String.ofList_toList, List.map_id']
  rw [ofText_eq text]
  obtain ⟨assignments, named, run⟩ := (applyLines_account _ _ _).applied
  exact applyLines_blanked blank named run

/-- Every line of a file that is neither blank nor a comment is refused with one error, or the key that it names is set,
    and with blank lines in place of those with errors the file gives the same settings and no errors. A key that cannot
    be set changes nothing, and one that can changes no setting but its own. -/
theorem ofText_account (text : String) :
    Account 1 (Text.lines text) {} (ofText text).1 (ofText text).2 ∧
      (∀ blank : Nat → BlankLine, ofText (blankedText (ofText text).2 blank text) = ((ofText text).1, [])) ∧
      ∀ (s : Settings) (key value : String),
        match (set key value).run s with
        | .error _ s' => s' = s
        | .ok _ s' => ∃ f : Field, f.key = Text.asciiLower key ∧ ∀ g, g ≠ f → s'.get g = s.get g := by
  refine ⟨applyLines_account _ _ _, fun blank => ofText_blankedText blank text, ?_⟩
  intro s key value
  rcases set_cases key value with ⟨fault, h⟩ | ⟨f, v, hkey, h⟩
  · rw [h]
    rfl
  · rw [h]
    exact ⟨f, hkey, fun g ne => get_put_ne s v ne⟩

/-- A comment, a key with a value that it cannot have, a key that is set and a line without a value. -/
theorem ofText_account_faulty :
    Account 1 ["# usual", "autorun = perhaps", "Verbosity = \"full\"", "extension"] {} { verbosity := .full }
        [⟨2, .badAutorun "perhaps"⟩, ⟨4, .noValue "extension"⟩] ∧
      heeded [⟨2, .badAutorun "perhaps"⟩, ⟨4, .noValue "extension"⟩] 1
        ["# usual", "autorun = perhaps", "Verbosity = \"full\"", "extension"] = ["Verbosity = \"full\""] ∧
      ofText "# usual\n \nVerbosity = \"full\"\n " = ({ verbosity := .full }, []) := by
  have given : ofText "# usual\nautorun = perhaps\nVerbosity = \"full\"\nextension" =
      ({ verbosity := .full }, [⟨2, .badAutorun "perhaps"⟩, ⟨4, .noValue "extension"⟩]) := by decide
  have account := ofText_account "# usual\nautorun = perhaps\nVerbosity = \"full\"\nextension"
  rw [given] at account
  exact ⟨account.1, by decide, account.2.1 fun _ => ⟨" ", List.forall_mem_singleton.mpr rfl, by decide⟩⟩

end CommandScript.Settings
