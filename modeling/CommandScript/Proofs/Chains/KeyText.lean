import CommandScript.Proofs.Text.Quoted
import CommandScript.Script.Compile

/-! The text of a key says what the key is. The table compares texts, and two tags share a chain only where their
    keys are the same. -/

namespace CommandScript.ChainKey

/-- A character that the name of a base or a sub-tag may have. The others are what a key puts between names. -/
def isNameChar (c : Char) : Bool :=
  c != '@' && c != '[' && c != '.' && c != '|'

/-- A name that can be told from what a key puts behind it. -/
def IsName (name : String) : Prop :=
  ∀ c ∈ name.toList, isNameChar c = true

instance (name : String) : Decidable (IsName name) :=
  inferInstanceAs (Decidable (∀ c ∈ name.toList, isNameChar c = true))

/-- A key whose names can be told apart. -/
structure Plain (k : ChainKey) : Prop where
  base : IsName k.base
  steps : ∀ step ∈ k.steps, IsName step.1

/-! ### Where a stretch of a key ends -/

section
variable {p : Char → Bool} {r : List Char}

theorem stops_slot (h : p '@' = false) (hr : Stops p r) (slot : Option Nat) : Stops p (ofSlot slot ++ r) := by
  cases slot with
  | none => exact hr
  | some i => exact stops_cons h

theorem stops_param (h : p '[' = false) (hr : Stops p r) (param : Option (List CompiledPart)) :
    Stops p (ofParam param ++ r) := by
  cases param with
  | none => exact hr
  | some parts => exact stops_cons h

theorem stops_steps (h : p '.' = false) (hr : Stops p r) (steps : List (String × Option (List CompiledPart))) :
    Stops p (ofSteps steps ++ r) := by
  cases steps with
  | nil => exact hr
  | cons step rest => exact stops_cons h

theorem stops_fallback (h : p '|' = false) (fallback : Option (List CompiledPart)) :
    Stops p (ofFallback fallback) := by
  cases fallback with
  | none => exact stops_nil
  | some parts => exact stops_cons h

end

/-! ### Reading a key back -/

/-- A character that a stretch of an argument may begin with or go on with behind a chain. -/
def isPartChar (c : Char) : Bool :=
  c == '"' || c == '#' || c.isDigit

theorem stops_digit {r : List Char} (h : Stops isPartChar r) : Stops Char.isDigit r := by
  intro c rest hc
  have := h c rest hc
  rw [isPartChar, Bool.or_eq_false_iff] at this
  exact this.2

theorem ofPart_text (s : String) :
    ofPart (.text s) = '"' :: (s.toList.flatMap Text.quoteChar ++ ['"']) :=
  Text.quoted_eq_cons s

theorem ofPart_chain (i : Nat) : ofPart (.chain i) = '#' :: Decimal.digitsOf i :=
  rfl

theorem ofParts_cons (part : CompiledPart) (rest : List CompiledPart) :
    ofParts (part :: rest) = ofPart part ++ ofParts rest :=
  List.flatMap_cons

theorem stops_parts {r : List Char} (hr : Stops Char.isDigit r) (parts : List CompiledPart) :
    Stops Char.isDigit (ofParts parts ++ r) := by
  cases parts with
  | nil => exact hr
  | cons part rest =>
    rw [ofParts_cons]
    cases part with
    | text s =>
      rw [ofPart_text]
      exact stops_cons (by decide)
    | chain i =>
      rw [ofPart_chain]
      exact stops_cons (by decide)

theorem ofPart_append_inj {a b : CompiledPart} {r r' : List Char} (hr : Stops Char.isDigit r)
    (hr' : Stops Char.isDigit r') (h : ofPart a ++ r = ofPart b ++ r') : a = b ∧ r = r' := by
  cases a with
  | text s =>
    cases b with
    | text t =>
      obtain ⟨rfl, hrest⟩ := Text.quoted_append_inj h
      exact ⟨rfl, hrest⟩
    | chain j =>
      rw [ofPart_text, ofPart_chain] at h
      exact absurd (List.cons.inj h).1 (by decide)
  | chain i =>
    cases b with
    | text t =>
      rw [ofPart_text, ofPart_chain] at h
      exact absurd (List.cons.inj h).1 (by decide)
    | chain j =>
      obtain ⟨rfl, hrest⟩ := digitsOf_append_inj hr hr' (List.cons.inj h).2
      exact ⟨rfl, hrest⟩

/-- A stretch never begins where stretches end. -/
theorem ofPart_append_ne {a : CompiledPart} {r r' : List Char} (hr' : Stops isPartChar r') : ofPart a ++ r ≠ r' := by
  intro h
  cases a with
  | text s =>
    rw [ofPart_text] at h
    have := hr' '"' _ h.symm
    cases this
  | chain i =>
    have := hr' '#' _ h.symm
    cases this

theorem ofParts_append_inj {ps qs : List CompiledPart} {r r' : List Char} (hr : Stops isPartChar r)
    (hr' : Stops isPartChar r') (h : ofParts ps ++ r = ofParts qs ++ r') : ps = qs ∧ r = r' := by
  induction ps generalizing qs with
  | nil =>
    cases qs with
    | nil => exact ⟨rfl, h⟩
    | cons q qs =>
      rw [ofParts_cons, List.append_assoc] at h
      exact absurd h.symm (ofPart_append_ne hr)
  | cons p ps ih =>
    cases qs with
    | nil =>
      rw [ofParts_cons, List.append_assoc] at h
      exact absurd h (ofPart_append_ne hr')
    | cons q qs =>
      rw [ofParts_cons, ofParts_cons, List.append_assoc, List.append_assoc] at h
      obtain ⟨rfl, ht⟩ := ofPart_append_inj (stops_parts (stops_digit hr) ps) (stops_parts (stops_digit hr') qs) h
      obtain ⟨rfl, hrest⟩ := ih ht
      exact ⟨rfl, hrest⟩

theorem ofParam_append_inj {a b : Option (List CompiledPart)} {r r' : List Char} (hr : Stops (· == '[') r)
    (hr' : Stops (· == '[') r') (h : ofParam a ++ r = ofParam b ++ r') : a = b ∧ r = r' := by
  cases a with
  | none =>
    cases b with
    | none => exact ⟨rfl, h⟩
    | some qs =>
      have := hr '[' _ h
      cases this
  | some ps =>
    cases b with
    | none =>
      have := hr' '[' _ h.symm
      cases this
    | some qs =>
      rw [ofParam, ofParam, List.cons_append, List.cons_append, List.append_assoc, List.append_assoc] at h
      obtain ⟨rfl, ht⟩ := ofParts_append_inj (stops_cons (by decide)) (stops_cons (by decide)) (List.cons.inj h).2
      exact ⟨rfl, (List.cons.inj ht).2⟩

theorem ofSlot_append_inj {a b : Option Nat} {r r' : List Char} (hr : Stops (fun c => c == '@' || c.isDigit) r)
    (hr' : Stops (fun c => c == '@' || c.isDigit) r') (h : ofSlot a ++ r = ofSlot b ++ r') : a = b ∧ r = r' := by
  have digits : ∀ {r : List Char}, Stops (fun c => c == '@' || c.isDigit) r → Stops Char.isDigit r :=
    fun hr c rest hc => (Bool.or_eq_false_iff.mp (hr c rest hc)).2
  cases a with
  | none =>
    cases b with
    | none => exact ⟨rfl, h⟩
    | some j =>
      have := hr '@' _ h
      cases this
  | some i =>
    cases b with
    | none =>
      have := hr' '@' _ h.symm
      cases this
    | some j =>
      obtain ⟨rfl, hrest⟩ := digitsOf_append_inj (digits hr) (digits hr') (List.cons.inj h).2
      exact ⟨rfl, hrest⟩

theorem ofFallback_inj {a b : Option (List CompiledPart)} (h : ofFallback a = ofFallback b) : a = b := by
  cases a with
  | none =>
    cases b with
    | none => rfl
    | some qs => cases h
  | some ps =>
    cases b with
    | none => cases h
    | some qs =>
      have h : ofParts ps ++ [] = ofParts qs ++ [] := by
        rw [List.append_nil, List.append_nil]
        exact (List.cons.inj (List.cons.inj h).2).2
      rw [(ofParts_append_inj stops_nil stops_nil h).1]

/-- The keys after the first, with what may follow them. -/
theorem ofSteps_append_inj {xs ys : List (String × Option (List CompiledPart))} {r r' : List Char}
    (hx : ∀ step ∈ xs, IsName step.1) (hy : ∀ step ∈ ys, IsName step.1)
    (hr : ∀ {p : Char → Bool}, p '|' = false → Stops p r) (hr' : ∀ {p : Char → Bool}, p '|' = false → Stops p r')
    (h : ofSteps xs ++ r = ofSteps ys ++ r') : xs = ys ∧ r = r' := by
  have stops : ∀ (steps : List (String × Option (List CompiledPart))) {r : List Char},
      (∀ {p : Char → Bool}, p '|' = false → Stops p r) → ∀ {p : Char → Bool}, p '.' = false → p '|' = false →
        Stops p (ofSteps steps ++ r) := fun steps r hr p hd hb => stops_steps hd (hr hb) steps
  induction xs generalizing ys with
  | nil =>
    cases ys with
    | nil => exact ⟨rfl, h⟩
    | cons y ys =>
      have := hr (p := (· == '.')) (by decide) '.' _ h
      cases this
  | cons x xs ih =>
    cases ys with
    | nil =>
      have := hr' (p := (· == '.')) (by decide) '.' _ h.symm
      cases this
    | cons y ys =>
      obtain ⟨name, param⟩ := x
      obtain ⟨name', param'⟩ := y
      simp only [ofSteps, List.cons_append, List.append_assoc] at h
      obtain ⟨hname, hn⟩ := stretch_inj (hx _ List.mem_cons_self) (hy _ List.mem_cons_self)
        (stops_param (by decide) (stops xs hr (by decide) (by decide)) param)
        (stops_param (by decide) (stops ys hr' (by decide) (by decide)) param') (List.cons.inj h).2
      obtain ⟨hparam, hp⟩ := ofParam_append_inj (stops xs hr (by decide) (by decide))
        (stops ys hr' (by decide) (by decide)) hn
      obtain ⟨hsteps, hrest⟩ := ih (fun step hs => hx step (List.mem_cons_of_mem _ hs))
        (fun step hs => hy step (List.mem_cons_of_mem _ hs)) hp
      have hname : name = name' := String.toList_inj.mp hname
      exact ⟨by rw [hname, hparam, hsteps], hrest⟩

/-- Keys with the same text are the same. -/
theorem text_injective {k k' : ChainKey} (plain : k.Plain) (plain' : k'.Plain) (h : k.text = k'.text) : k = k' := by
  have behind : ∀ {p : Char → Bool} (fallback : Option (List CompiledPart)), p '|' = false →
      Stops p (ofFallback fallback) := fun fallback hb => stops_fallback hb fallback
  obtain ⟨hbase, hb⟩ := stretch_inj plain.base plain'.base
    (stops_slot (by decide) (stops_param (by decide) (stops_steps (by decide) (behind _ (by decide)) _) _) _)
    (stops_slot (by decide) (stops_param (by decide) (stops_steps (by decide) (behind _ (by decide)) _) _) _)
    (String.ofList_injective h)
  obtain ⟨hslot, hs⟩ := ofSlot_append_inj
    (stops_param (by decide) (stops_steps (by decide) (behind _ (by decide)) _) _)
    (stops_param (by decide) (stops_steps (by decide) (behind _ (by decide)) _) _) hb
  obtain ⟨hparam, hp⟩ := ofParam_append_inj (stops_steps (by decide) (behind _ (by decide)) _)
    (stops_steps (by decide) (behind _ (by decide)) _) hs
  obtain ⟨hsteps, hf⟩ := ofSteps_append_inj plain.steps plain'.steps (behind _) (behind _) hp
  calc k = ⟨k.base, k.slot, k.param, k.steps, k.fallback⟩ := rfl
    _ = ⟨k'.base, k'.slot, k'.param, k'.steps, k'.fallback⟩ := by
      rw [String.toList_inj.mp hbase, hslot, hparam, hsteps, ofFallback_inj hf]
    _ = k' := rfl

end CommandScript.ChainKey
