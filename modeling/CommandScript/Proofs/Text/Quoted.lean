import Mathlib.Algebra.Group.Nat.Defs
import CommandScript.Decimal.Shortest
import CommandScript.Text.Quoted

/-! Written forms that can be read in one way only. A number in digits ends where no digit follows, and a quoted text
    ends at its quote whatever it holds, so two forms that begin the same text are the same. -/

namespace CommandScript

/-- A text that does not go on with a character of a kind. -/
def Stops (p : Char → Bool) (r : List Char) : Prop :=
  ∀ c rest, r = c :: rest → p c = false

theorem stops_nil {p : Char → Bool} : Stops p [] := by
  intro c rest h
  cases h

theorem stops_cons {p : Char → Bool} {c : Char} {r : List Char} (h : p c = false) : Stops p (c :: r) := by
  intro c' rest h'
  cases h'
  exact h

/-- Two stretches of one kind that begin the same text are the same, if the text goes on with another kind. -/
theorem stretch_inj {p : Char → Bool} {xs ys r r' : List Char} (hx : ∀ c ∈ xs, p c = true)
    (hy : ∀ c ∈ ys, p c = true) (hr : Stops p r) (hr' : Stops p r') (h : xs ++ r = ys ++ r') :
    xs = ys ∧ r = r' := by
  induction xs generalizing ys with
  | nil =>
    cases ys with
    | nil => exact ⟨rfl, h⟩
    | cons y ys =>
      rw [List.nil_append, List.cons_append] at h
      have := hy y List.mem_cons_self
      rw [hr y _ h] at this
      cases this
  | cons x xs ih =>
    cases ys with
    | nil =>
      rw [List.nil_append, List.cons_append] at h
      have := hx x List.mem_cons_self
      rw [hr' x _ h.symm] at this
      cases this
    | cons y ys =>
      rw [List.cons_append, List.cons_append] at h
      obtain ⟨rfl, ht⟩ := List.cons.inj h
      obtain ⟨rfl, hrest⟩ := ih (fun c hc => hx c (List.mem_cons_of_mem _ hc))
        (fun c hc => hy c (List.mem_cons_of_mem _ hc)) ht
      exact ⟨rfl, hrest⟩

/-! ### Numbers in digits -/

theorem digitsOf_injective {n m : Nat} (h : Decimal.digitsOf n = Decimal.digitsOf m) : n = m := by
  have hn : Nat.ofDigitChars 10 (Decimal.digitsOf n) 0 = n := Nat.ofDigitChars_toDigits (by decide) (by decide)
  have hm : Nat.ofDigitChars 10 (Decimal.digitsOf m) 0 = m := Nat.ofDigitChars_toDigits (by decide) (by decide)
  rw [← hn, ← hm, h]

theorem digitsOf_append_inj {n m : Nat} {r r' : List Char} (hr : Stops Char.isDigit r) (hr' : Stops Char.isDigit r')
    (h : Decimal.digitsOf n ++ r = Decimal.digitsOf m ++ r') : n = m ∧ r = r' := by
  have digits : ∀ k, ∀ c ∈ Decimal.digitsOf k, c.isDigit = true := fun k c hc =>
    Nat.isDigit_of_mem_toDigits (by decide) (by decide) hc
  obtain ⟨hd, hrest⟩ := stretch_inj (digits n) (digits m) hr hr' h
  exact ⟨digitsOf_injective hd, hrest⟩

namespace Text

theorem digitChar_inj : ∀ a < 16, ∀ b < 16, Nat.digitChar a = Nat.digitChar b → a = b := by
  decide

theorem hexDigitsRev_injective {fuel n m : Nat} (hn : n < 16 ^ fuel) (hm : m < 16 ^ fuel)
    (h : hexDigitsRev fuel n = hexDigitsRev fuel m) : n = m := by
  induction fuel generalizing n m with
  | zero => omega
  | succ fuel ih =>
    rw [hexDigitsRev, hexDigitsRev] at h
    obtain ⟨hd, ht⟩ := List.cons.inj h
    have low := digitChar_inj (n % 16) (Nat.mod_lt _ (by decide)) (m % 16) (Nat.mod_lt _ (by decide)) hd
    have nonempty : ∀ k, 16 ≤ k → k < 16 ^ (fuel + 1) → hexDigitsRev fuel (k / 16) ≠ [] := by
      intro k hk hlt
      cases fuel with
      | zero => omega
      | succ fuel => exact List.cons_ne_nil _ _
    rw [Nat.pow_succ] at hn hm
    by_cases hn16 : n < 16 <;> by_cases hm16 : m < 16
    · omega
    · rw [if_pos hn16, if_neg hm16] at ht
      exact absurd ht.symm (nonempty m (Nat.le_of_not_lt hm16) (by rw [Nat.pow_succ]; exact hm))
    · rw [if_neg hn16, if_pos hm16] at ht
      exact absurd ht (nonempty n (Nat.le_of_not_lt hn16) (by rw [Nat.pow_succ]; exact hn))
    · rw [if_neg hn16, if_neg hm16] at ht
      have high := ih (Nat.div_lt_of_lt_mul (by omega)) (Nat.div_lt_of_lt_mul (by omega)) ht
      omega

theorem digitChar_ne_brace : ∀ a < 16, (Nat.digitChar a != '\x7d') = true := by
  decide

theorem hexDigitsRev_ne_brace {fuel n : Nat} : ∀ c ∈ hexDigitsRev fuel n, (c != '\x7d') = true := by
  induction fuel generalizing n with
  | zero => exact fun c hc => absurd hc List.not_mem_nil
  | succ fuel ih =>
    intro c hc
    rw [hexDigitsRev] at hc
    rcases List.mem_cons.mp hc with rfl | hc
    · exact digitChar_ne_brace _ (Nat.mod_lt _ (by decide))
    · split at hc
      · exact absurd hc List.not_mem_nil
      · exact ih c hc

/-- A character written by number. -/
theorem hex_append_inj {c d : Char} {r r' : List Char}
    (h : (hexDigitsRev 8 c.toNat).reverse ++ '\x7d' :: r = (hexDigitsRev 8 d.toNat).reverse ++ '\x7d' :: r') :
    c = d ∧ r = r' := by
  have bound : ∀ x : Char, x.toNat < 16 ^ 8 := fun x => Nat.lt_of_lt_of_le x.val.toNat_lt (by decide)
  obtain ⟨hd, hrest⟩ := stretch_inj (fun x hx => hexDigitsRev_ne_brace x (List.mem_reverse.mp hx))
    (fun x hx => hexDigitsRev_ne_brace x (List.mem_reverse.mp hx)) (stops_cons (by decide)) (stops_cons (by decide)) h
  refine ⟨Char.ext (UInt32.toNat_inj.mp ?_), (List.cons.inj hrest).2⟩
  exact hexDigitsRev_injective (bound c) (bound d) (List.reverse_inj.mp hd)

/-- The character that a letter behind a backslash stands for. -/
def escaped (letter : Char) : Char :=
  if letter = 'n' then '\n'
  else if letter = 'r' then '\r'
  else if letter = 't' then '\t'
  else if letter = '0' then Char.ofNat 0
  else letter

/-- A character inside quotes stands for itself, or it is written by a letter or by number behind a backslash. -/
theorem quoteChar_cases (c : Char) :
    (quoteChar c = [c] ∧ c ≠ '\\' ∧ c ≠ '"') ∨
    (∃ letter, quoteChar c = ['\\', letter] ∧ letter ≠ 'u' ∧ escaped letter = c) ∨
    quoteChar c = '\\' :: 'u' :: '\x7b' :: ((hexDigitsRev 8 c.toNat).reverse ++ ['\x7d']) := by
  unfold quoteChar
  by_cases hq : c = '"'
  · exact Or.inr (Or.inl ⟨'"', by rw [if_pos hq], by decide, by rw [hq]; decide⟩)
  by_cases hb : c = '\\'
  · exact Or.inr (Or.inl ⟨'\\', by rw [if_neg hq, if_pos hb], by decide, by rw [hb]; decide⟩)
  rw [if_neg hq, if_neg hb]
  by_cases hn : c = '\n'
  · exact Or.inr (Or.inl ⟨'n', by rw [if_pos hn], by decide, by rw [hn]; decide⟩)
  by_cases hr : c = '\r'
  · exact Or.inr (Or.inl ⟨'r', by rw [if_neg hn, if_pos hr], by decide, by rw [hr]; decide⟩)
  by_cases ht : c = '\t'
  · exact Or.inr (Or.inl ⟨'t', by rw [if_neg hn, if_neg hr, if_pos ht], by decide, by rw [ht]; decide⟩)
  rw [if_neg hn, if_neg hr, if_neg ht]
  by_cases hz : c.toNat = 0
  · refine Or.inr (Or.inl ⟨'0', by rw [if_pos hz], by decide, ?_⟩)
    exact Char.toNat_inj.mp (Eq.trans (by decide) hz.symm)
  rw [if_neg hz]
  by_cases hp : isPrintable c = true
  · exact Or.inl ⟨by rw [if_pos hp], hb, hq⟩
  · exact Or.inr (Or.inr (by rw [if_neg hp]; rfl))

/-- A character inside quotes can be read in one way only. -/
theorem quoteChar_append_inj {c d : Char} {r r' : List Char} (h : quoteChar c ++ r = quoteChar d ++ r') :
    c = d ∧ r = r' := by
  rcases quoteChar_cases c with ⟨hc, hcb, -⟩ | ⟨a, hc, hau, ha⟩ | hc <;>
    rcases quoteChar_cases d with ⟨hd, hdb, -⟩ | ⟨b, hd, hbu, hb⟩ | hd <;> rw [hc, hd] at h
  · exact List.cons.inj h
  · exact absurd (List.cons.inj h).1 hcb
  · exact absurd (List.cons.inj h).1 hcb
  · exact absurd (List.cons.inj h).1.symm hdb
  · obtain ⟨hab, hrest⟩ := List.cons.inj (List.cons.inj h).2
    exact ⟨by rw [← ha, ← hb, hab], hrest⟩
  · exact absurd (List.cons.inj (List.cons.inj h).2).1 hau
  · exact absurd (List.cons.inj h).1.symm hdb
  · exact absurd (List.cons.inj (List.cons.inj h).2).1.symm hbu
  · simp only [List.cons_append, List.append_assoc, List.nil_append] at h
    exact hex_append_inj (List.cons.inj (List.cons.inj (List.cons.inj h).2).2).2

/-- No character inside quotes is written so that it ends them. -/
theorem quoteChar_ne_quote {c : Char} {r r' : List Char} : quoteChar c ++ r ≠ '"' :: r' := by
  intro h
  rcases quoteChar_cases c with ⟨hc, -, hcq⟩ | ⟨a, hc, -, -⟩ | hc <;> rw [hc] at h
  · exact hcq (List.cons.inj h).1
  · exact absurd (List.cons.inj h).1 (by decide)
  · exact absurd (List.cons.inj h).1 (by decide)

/-- A quoted text begins with its quote. -/
theorem quoted_eq_cons (s : String) : (quoted s).toList = '"' :: (s.toList.flatMap quoteChar ++ ['"']) := by
  rw [quoted, String.toList_ofList]
  rfl

/-- A quoted text can be read in one way only, whatever follows. -/
theorem quoted_append_inj {s t : String} {r r' : List Char} (h : (quoted s).toList ++ r = (quoted t).toList ++ r') :
    s = t ∧ r = r' := by
  have body : ∀ cs ds : List Char, cs.flatMap quoteChar ++ '"' :: r = ds.flatMap quoteChar ++ '"' :: r' →
      cs = ds ∧ r = r' := by
    intro cs
    induction cs with
    | nil =>
      intro ds h
      cases ds with
      | nil => exact ⟨rfl, (List.cons.inj h).2⟩
      | cons d ds =>
        rw [List.flatMap_cons, List.append_assoc] at h
        exact absurd h.symm quoteChar_ne_quote
    | cons c cs ih =>
      intro ds h
      cases ds with
      | nil =>
        rw [List.flatMap_cons, List.append_assoc] at h
        exact absurd h quoteChar_ne_quote
      | cons d ds =>
        rw [List.flatMap_cons, List.flatMap_cons, List.append_assoc, List.append_assoc] at h
        obtain ⟨rfl, ht⟩ := quoteChar_append_inj h
        obtain ⟨rfl, hrest⟩ := ih ds ht
        exact ⟨rfl, hrest⟩
  simp only [quoted_eq_cons, List.cons_append, List.append_assoc, List.nil_append] at h
  obtain ⟨hs, hrest⟩ := body _ _ (List.cons.inj h).2
  exact ⟨String.toList_inj.mp hs, hrest⟩

end Text
end CommandScript
