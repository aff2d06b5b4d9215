import CommandScript.Proofs.Chains.Operations
import CommandScript.Proofs.Text.Bytes

/-! Texts that are equal up to case, and texts that contain each other up to case. Equality compares the lower case of
    whole texts, but a search compares bytes with only the ASCII letters in lower case. -/

namespace CommandScript

namespace Text

/-! ### Lengths -/

/-- How long a text in lower case is, whatever its letters stand next to. -/
theorem length_lowerFrom (before cs : List Char) :
    (lowerFrom before cs).length = (cs.flatMap lowerChar).length := by
  induction cs generalizing before with
  | nil => rfl
  | cons c rest ih =>
    rw [lowerFrom, List.length_append, ih, List.flatMap_cons, List.length_append]
    congr 1
    split
    · rename_i sigma
      have same : c = 'Σ' := Char.toNat_inj.mp sigma
      subst same
      show 1 = (lowerChar 'Σ').length
      decide
    · rfl

theorem eq_nil_of_flatMap {cs : List Char} (h : (cs.flatMap lowerChar).length = 0) : cs = [] := by
  cases cs with
  | nil => rfl
  | cons c rest =>
    rw [List.flatMap_cons, List.length_append] at h
    have := List.length_pos_iff.mpr (lowerChar_ne_nil c)
    omega

/-- A text that occurs in another with the same lower case is all of it. -/
theorem eq_of_infix_of_lower {p t : List Char} (occurs : p <:+: t) (same : lowerFrom [] t = lowerFrom [] p) :
    t = p := by
  obtain ⟨u, v, rfl⟩ := occurs
  have lengths := congrArg List.length same
  simp only [length_lowerFrom, List.flatMap_append, List.length_append] at lengths
  obtain rfl : u = [] := eq_nil_of_flatMap (by omega)
  obtain rfl : v = [] := eq_nil_of_flatMap (by omega)
  rw [List.nil_append, List.append_nil]

/-- Of two texts with the same lower case, one occurs in the other up to the case of ASCII letters exactly if they are
    the same up to that case. -/
theorem occursCaseless_iff_of_lower {p t : String} (same : lower t = lower p) :
    Pattern.occursCaseless p t = true ↔ asciiLower t = asciiLower p := by
  rw [Pattern.occursCaseless_iff]
  constructor
  · intro occurs
    refine String.toList_inj.mp (eq_of_infix_of_lower occurs ?_)
    rw [← lower_asciiLower t, ← lower_asciiLower p] at same
    exact String.ofList_inj.mp same
  · intro same
    exact same ▸ List.infix_rfl

end Text

/-! ### The sub-tags -/

theorem matchResult_substring (source s : String) :
    matchResult source .substring s = .ok (.boolean (Pattern.occursCaseless source s)) := by
  have empty (h : source.isEmpty = true) : Pattern.occursCaseless source s = true := by
    rw [Pattern.occursCaseless_iff, String.isEmpty_iff.mp h]
    exact List.nil_infix
  show Except.ok (Value.boolean (source.isEmpty || Pattern.occursCaseless source s)) = _
  cases h : source.isEmpty with
  | true => rw [empty h, Bool.true_or]
  | false => rw [Bool.false_or]

/-- The base of texts. -/
theorem base_text : BaseRegistry.builtin.get? (Text.lower "text") = some (.converting "text" "text") := by
  rw [show Text.lower "text" = "text" by decide]
  rfl

section
variable {instructions : List Instruction} {predefined : List (String × String)} {code : Code} {e e' : Entry}
  {k k' : Nat} {t p key : String} {run : SubTagCall → Except TagFault Value}

/-- A sub-tag of texts that takes a text is called with both texts as they are. -/
theorem text_operation_value (h : compile .builtin instructions predefined = .ok code) (he : e ∈ code.entries.toList)
    (lower : Text.lower key = key)
    (resolved : ∃ owner, TypeRegistry.builtin.resolve? "text" key =
      some (owner, ⟨key, .fixed "boolean", .required "text", run⟩) ∧ owner.name = "text")
    (ha : e.instruction.args[k]? = some (.operation "text" t key p)) :
    ∃ c body, e.args[k]? = some c ∧ ∀ slots vars, c.evaluate (code.environment slots vars) =
      faultIn body (run ⟨.text t, some (.text p), TypeRegistry.builtin.conversions⟩) := by
  obtain ⟨owner, resolved, named⟩ := resolved
  obtain ⟨c, body, hc, value⟩ := compile_operation h he base_text (lower.symm ▸ resolved) ha
  refine ⟨c, body, hc, fun slots vars => ?_⟩
  rw [value, named]
  rfl

theorem equals_ignore_case_value (h : compile .builtin instructions predefined = .ok code)
    (he : e ∈ code.entries.toList)
    (ha : e.instruction.args[k]? = some (.operation "text" t "equals_ignore_case" p)) :
    ∃ c, e.args[k]? = some c ∧ ∀ slots vars, c.evaluate (code.environment slots vars) =
      .ok (.boolean (Text.lower t == Text.lower p)) := by
  have lower : Text.lower "equals_ignore_case" = "equals_ignore_case" := by decide
  obtain ⟨c, _, hc, value⟩ := text_operation_value h he lower ⟨_, rfl, rfl⟩ ha
  exact ⟨c, hc, value⟩

theorem contains_ignore_case_value (h : compile .builtin instructions predefined = .ok code)
    (he : e ∈ code.entries.toList)
    (ha : e.instruction.args[k]? = some (.operation "text" t "contains_ignore_case" p)) :
    ∃ c, e.args[k]? = some c ∧ ∀ slots vars, c.evaluate (code.environment slots vars) =
      .ok (.boolean (Pattern.occursCaseless p t)) := by
  have lower : Text.lower "contains_ignore_case" = "contains_ignore_case" := by decide
  obtain ⟨c, body, hc, value⟩ := text_operation_value h he lower ⟨_, rfl, rfl⟩ ha
  refine ⟨c, hc, fun slots vars => (value slots vars).trans ?_⟩
  show faultIn body (matchResult p .substring t) = _
  rw [matchResult_substring]
  rfl

/-- Of two texts that are equal up to case, one contains the other up to case exactly if they differ in the case of
    ASCII letters only. -/
theorem contains_of_equals_ignoring_case (h : compile .builtin instructions predefined = .ok code)
    (he : e ∈ code.entries.toList) (he' : e' ∈ code.entries.toList)
    (equals : e.instruction.args[k]? = some (.operation "text" t "equals_ignore_case" p))
    (contains : e'.instruction.args[k']? = some (.operation "text" t "contains_ignore_case" p)) :
    ∃ c c', e.args[k]? = some c ∧ e'.args[k']? = some c' ∧ ∀ slots vars,
      c.evaluate (code.environment slots vars) = .ok (.boolean true) →
        c'.evaluate (code.environment slots vars) = .ok (.boolean (Text.asciiLower t = Text.asciiLower p)) := by
  obtain ⟨c, hc, value⟩ := equals_ignore_case_value h he equals
  obtain ⟨c', hc', value'⟩ := contains_ignore_case_value h he' contains
  refine ⟨c, c', hc, hc', fun slots vars equal => ?_⟩
  rw [value, Except.ok.injEq, Value.boolean.injEq, beq_iff_eq] at equal
  have contained : Pattern.occursCaseless p t = decide (Text.asciiLower t = Text.asciiLower p) := by
    rw [Bool.eq_iff_iff, Text.occursCaseless_iff_of_lower equal, decide_eq_true_iff]
  rw [value', contained]

end

/-- Whether a text is another up to case, and whether it contains it up to case. -/
def equalAndContained (t p : String) : List Argument :=
  [.operation "text" t "equals_ignore_case" p, .operation "text" t "contains_ignore_case" p]

theorem contains_of_equals_ignoring_case_ascii : ∃ code e c c',
    compile .builtin [.ofArguments (equalAndContained "Straße" "sTRAße")] [] = .ok code ∧ e ∈ code.entries.toList ∧
      e.args[0]? = some c ∧ e.args[1]? = some c' ∧
      c.evaluate (code.environment #[] []) = .ok (.boolean true) ∧
      c'.evaluate (code.environment #[] []) = .ok (.boolean true) := by
  obtain ⟨code, e, h, he, args⟩ :=
    exists_entry_ofArguments (equalAndContained "Straße" "sTRAße") (by decide +kernel)
  have equals : e.instruction.args[0]? = some (.operation "text" "Straße" "equals_ignore_case" "sTRAße") := args ▸ rfl
  have contains : e.instruction.args[1]? = some (.operation "text" "Straße" "contains_ignore_case" "sTRAße") :=
    args ▸ rfl
  obtain ⟨c, c', hc, hc', value⟩ := contains_of_equals_ignoring_case h he he equals contains
  obtain ⟨d, hd, equal⟩ := equals_ignore_case_value h he equals
  cases hc.symm.trans hd
  have same : (Text.lower "Straße" == Text.lower "sTRAße") = true := by decide
  have ascii : Text.asciiLower "Straße" = Text.asciiLower "sTRAße" := by decide
  have first := (equal #[] []).trans (congrArg (Except.ok ∘ Value.boolean) same)
  refine ⟨code, e, c, c', h, he, hc, hc', first, ?_⟩
  rw [value _ _ first, decide_eq_true ascii]

/-- A text with a capital outside ASCII is equal to one with the small letter up to case, and does not contain it. -/
theorem contains_misses_equal_text : ¬∀ (t p : String) (code : Code) (e : Entry) (c c' : CompiledArgument),
    compile .builtin [.ofArguments (equalAndContained t p)] [] = .ok code → e ∈ code.entries.toList →
      e.args[0]? = some c → e.args[1]? = some c' → c.evaluate (code.environment #[] []) = .ok (.boolean true) →
        c'.evaluate (code.environment #[] []) = .ok (.boolean true) := by
  intro all
  obtain ⟨code, e, h, he, args⟩ := exists_entry_ofArguments (equalAndContained "É" "é") (by decide +kernel)
  obtain ⟨c, hc, equal⟩ := equals_ignore_case_value (k := 0) (t := "É") (p := "é") h he (args ▸ rfl)
  obtain ⟨c', hc', contained⟩ := contains_ignore_case_value (k := 1) (t := "É") (p := "é") h he (args ▸ rfl)
  have same : (Text.lower "É" == Text.lower "é") = true := by decide
  have missed : Pattern.occursCaseless "é" "É" = false := by decide
  have found := all "É" "é" code e c c' h he hc hc' ((equal #[] []).trans (congrArg (Except.ok ∘ Value.boolean) same))
  rw [contained, missed] at found
  cases found

end CommandScript
