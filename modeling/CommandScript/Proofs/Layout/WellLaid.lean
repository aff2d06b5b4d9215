import CommandScript.Proofs.Layout.Siblings

/-! Scripts of the commands that come with every engine are well laid: what runs the flat list of instructions may
    rely on its blocks, the instructions for their ends, and its links. -/

namespace CommandScript

/-! ### The commands of every engine -/

theorem mem_of_get?_builtin {name : String} {c : Command} (h : CommandRegistry.builtin.get? name = some c) :
    c ∈ CommandRegistry.builtin.commands ∧ c.signature.name = name := by
  have lower : ∀ c ∈ CommandRegistry.builtin.commands, Text.asciiLower c.signature.name = c.signature.name := by
    decide
  have hm := List.mem_of_find?_eq_some h
  have hn := List.find?_some h
  rw [lower c hm] at hn
  exact ⟨hm, by simpa using hn⟩

/-- Only an `else` and a `catch` have to follow a command, and each knows which. -/
theorem mayFollow_builtin {name before : String} : MayFollow .builtin name before ↔
    (name = "else" ∧ (before = "if" ∨ before = "else")) ∨ (name = "catch" ∧ before = "try") := by
  have follows : ∀ c ∈ CommandRegistry.builtin.commands, ∀ allowed, c.signature.follows = some allowed →
      (c.signature.name = "else" ∧ allowed = ["if", "else"]) ∨ (c.signature.name = "catch" ∧ allowed = ["try"]) := by
    decide
  constructor
  · rintro ⟨allowed, hf, hm⟩
    obtain ⟨c, hc, ha⟩ := Option.bind_eq_some_iff.mp hf
    obtain ⟨hmem, rfl⟩ := mem_of_get?_builtin hc
    rcases follows c hmem allowed ha with ⟨hn, rfl⟩ | ⟨hn, rfl⟩
    · exact Or.inl ⟨hn, by simpa using hm⟩
    · exact Or.inr ⟨hn, by simpa using hm⟩
  · rintro (⟨rfl, hb⟩ | ⟨rfl, hb⟩)
    · exact ⟨["if", "else"], by decide, by simpa using hb⟩
    · exact ⟨["try"], by decide, by simpa using hb⟩

theorem follows_isSome_builtin {name : String} :
    ((CommandRegistry.builtin.get? name).bind (·.signature.follows)).isSome = true ↔
      name = "else" ∨ name = "catch" := by
  constructor
  · intro h
    obtain ⟨allowed, hf⟩ := Option.isSome_iff_exists.mp h
    obtain ⟨c, hc, hs⟩ := Option.bind_eq_some_iff.mp hf
    have nonempty : ∀ c ∈ CommandRegistry.builtin.commands, c.signature.follows ≠ some [] := by decide
    cases allowed with
    | nil => exact absurd hs (nonempty c (mem_of_get?_builtin hc).1)
    | cons before _ =>
      rcases mayFollow_builtin.mp ⟨_, hf, List.mem_cons_self (a := before)⟩ with ⟨hn, -⟩ | ⟨hn, -⟩
      · exact Or.inl hn
      · exact Or.inr hn
  · rintro (rfl | rfl) <;> decide

/-- Only loops and a `try` ask for an instruction at the end of their block, which is named as they are. -/
theorem needsEnd_builtin {name : String} : CommandRegistry.builtin.needsEnd name = true ↔
    name = "repeat" ∨ name = "foreach" ∨ name = "try" := by
  have named : ∀ c ∈ CommandRegistry.builtin.commands, c.signature.needsCallback = true →
      c.signature.name = "repeat" ∨ c.signature.name = "foreach" ∨ c.signature.name = "try" := by
    decide
  constructor
  · intro h
    obtain ⟨c, hc, hn⟩ := (Option.any_eq_true _ _).mp h
    obtain ⟨hm, rfl⟩ := mem_of_get?_builtin hc
    exact named c hm hn
  · rintro (rfl | rfl | rfl) <;> decide

/-! ### Well-laid scripts -/

/-- A flat list of instructions in which blocks, the instructions for their ends and links are where they belong. -/
structure WellLaid (row : List Instruction) : Prop where
  /-- A block begins right behind its owner and ends within the list. -/
  block : ∀ {index : Nat} {i : Instruction} {s : Span}, row[index]? = some i → i.block = some s →
    s.start = index + 1 ∧ s.start ≤ s.stop ∧ s.stop ≤ row.length
  /-- What an instruction inside a block owns, its block and the instruction for the end of it, is inside too. -/
  laminar : ∀ {outer : Nat} {o : Instruction} {s : Span}, row[outer]? = some o → o.block = some s →
    ∀ {inner : Nat} {i : Instruction}, row[inner]? = some i → s.start ≤ inner → inner < s.stop →
      (∀ {t : Span}, i.block = some t → s.start ≤ t.start ∧ t.stop ≤ s.stop) ∧
      ∀ {index : Nat} {e : Instruction}, row[index]? = some e → e.callbackOf = some inner →
        s.start ≤ index ∧ index < s.stop
  /-- An instruction stands for the end of a block exactly where the block of a loop or a `try` ends. -/
  callback : ∀ {index : Nat} {i : Instruction}, row[index]? = some i → ∀ {owner : Nat},
    i.callbackOf = some owner ↔ ∃ o s, row[owner]? = some o ∧ o.callbackOf = none ∧
      CommandRegistry.builtin.needsEnd o.name = true ∧ o.block = some s ∧ s.stop = index
  /-- A loop or a `try` with a block has one instruction for its end. -/
  ended : ∀ {owner : Nat} {o : Instruction} {s : Span}, row[owner]? = some o → o.callbackOf = none →
    CommandRegistry.builtin.needsEnd o.name = true → o.block = some s →
      ∃ e, row[s.stop]? = some e ∧ ∀ {index : Nat} {i : Instruction}, row[index]? = some i →
        (i.callbackOf = some owner ↔ index = s.stop)
  /-- An `else` and a `catch` have links, and nothing else has. -/
  linked : ∀ {index : Nat} {i : Instruction}, row[index]? = some i →
    (i.link.isSome = true ↔ i.name = "else" ∨ i.name = "catch")
  /-- A link leads to the command before on the same level, one that may stand there. -/
  link : ∀ {index before : Nat} {i : Instruction}, row[index]? = some i → i.link = some before →
    PreviousSibling 0 row before index ∧ ∃ p, row[before]? = some p ∧ MayFollow .builtin i.name p.name

/-- Nothing that stands for the end of a block is called `else` or `catch`. -/
theorem Laid.name_of_callbackOf {base : Nat} {previous : Option Sibling} {row : List Instruction}
    (h : Laid .builtin base previous row) {index owner : Nat} {i : Instruction} (hi : At base row index i)
    (hc : i.callbackOf = some owner) : i.link = none ∧ i.name ≠ "else" ∧ i.name ≠ "catch" := by
  obtain ⟨o, ho, rfl⟩ := h.end_eq hi hc
  obtain ⟨o', _, ho', -, hn, -⟩ := h.endsAt_of_callbackOf hi hc
  rw [← ho.unique ho'] at hn
  have hname : (o.endOfBlock owner).name = Text.asciiLower o.name := rfl
  refine ⟨rfl, ?_⟩
  rw [hname]
  rcases needsEnd_builtin.mp hn with hn | hn | hn <;>
  · rw [hn]
    decide

theorem Laid.wellLaid {row : List Instruction} (h : Laid .builtin 0 none row) : WellLaid row where
  block hi hs := by
    have := h.block_bounds (at_zero.mpr hi) hs
    omega
  laminar {outer o s} ho hs {inner i} hi hlo hhi := by
    have bounds := h.block_bounds (at_zero.mpr ho) hs
    refine ⟨fun {t} ht => ?_, fun {index e} he hc => ?_⟩
    · have := (h.block_bounds (at_zero.mpr hi) ht).1
      have := (h.nested (at_zero.mpr ho) hs (at_zero.mpr hi) ht hlo hhi).1
      omega
    · obtain ⟨i', t, hi', -, hn, ht, hstop⟩ := h.endsAt_of_callbackOf (at_zero.mpr he) hc
      rw [← (at_zero.mpr hi).unique hi'] at hn ht
      have := (h.block_bounds (at_zero.mpr hi) ht).2.1
      have := (h.block_bounds (at_zero.mpr hi) ht).1
      have := (h.nested (at_zero.mpr ho) hs (at_zero.mpr hi) ht hlo hhi).2 hn
      omega
  callback {index i} hi {owner} := by
    have he : i.callbackOf = some owner ↔ EndsAt .builtin 0 row owner index := h.callbackOf_iff (at_zero.mpr hi)
    simpa only [EndsAt, at_zero] using he
  ended {owner o s} ho hc hn hs := by
    have ends : EndsAt .builtin 0 row owner s.stop := ⟨o, s, at_zero.mpr ho, hc, hn, hs, rfl⟩
    obtain ⟨e, he, heo⟩ := h.exists_end ends
    refine ⟨e, at_zero.mp he, fun {index i} hi => ⟨fun hi' => ?_, fun hidx => ?_⟩⟩
    · obtain ⟨o', t, ho', -, -, ht, rfl⟩ := h.endsAt_of_callbackOf (at_zero.mpr hi) hi'
      rw [← (at_zero.mpr ho).unique ho', hs] at ht
      cases ht
      rfl
    · subst hidx
      rw [(at_zero.mpr hi).unique he]
      exact heo
  linked {index i} hi := by
    cases hc : i.callbackOf with
    | none => rw [h.link_isSome (at_zero.mpr hi) hc, follows_isSome_builtin]
    | some owner =>
      obtain ⟨hl, he, hn⟩ := h.name_of_callbackOf (at_zero.mpr hi) hc
      simp [hl, he, hn]
  link {index before i} hi hl := by
    have hc : i.callbackOf = none := by
      cases hc : i.callbackOf with
      | none => rfl
      | some owner => rw [(h.name_of_callbackOf (at_zero.mpr hi) hc).1] at hl; cases hl
    rcases h.link_eq_some (at_zero.mpr hi) hc hl with ⟨-, _, hp, -⟩ | ⟨hs, p, hp, hf⟩
    · cases hp
    · exact ⟨hs, p, at_zero.mp hp, hf⟩

/-- What is read from a source text is well laid. -/
theorem parseScript_wellLaid {source : String} {row : List Instruction}
    (h : parseScript .builtin source = .ok row) : WellLaid row :=
  (laid_of_parseScript h).wellLaid

theorem parseScript_wellLaid_tryCatch : ∃ row,
    parseScript .builtin "try { repeat 2 { if true { echo a; } else { echo b; } } } catch { noop; }" = .ok row ∧
      row.length = 10 ∧ WellLaid row := by
  have length : (parseScript .builtin
      "try { repeat 2 { if true { echo a; } else { echo b; } } } catch { noop; }").toOption.map List.length =
        some 10 := by
    decide +kernel
  obtain ⟨row, hp, hlen⟩ := Option.map_eq_some_iff.mp length
  have hp := toOption_eq_some.mp hp
  exact ⟨row, hp, hlen, parseScript_wellLaid hp⟩

end CommandScript
