import Mathlib.Data.List.Forall2
import CommandScript.Pattern
import CommandScript.Proofs.Text.Case

/-! Texts as bytes. Of the bytes of a character the first can only be a first one, and the others cannot, so what occurs
    in a text byte by byte occurs there character by character. -/

namespace CommandScript.Text

theorem occurs_iff [BEq α] [LawfulBEq α] {part cs : List α} : occurs part cs = true ↔ part <:+: cs := by
  induction cs with
  | nil => rw [occurs, List.isEmpty_iff, List.infix_nil]
  | cons c cs ih => rw [occurs, Bool.or_eq_true, List.isPrefixOf_iff_prefix, ih, List.infix_cons_iff]

/-! ### One character -/

theorem encode_eq_cons (c : Char) : ∃ first rest, String.utf8EncodeChar c = first :: rest ∧ first.IsUTF8FirstByte ∧
    ∀ b ∈ rest, ¬b.IsUTF8FirstByte := by
  cases h : String.utf8EncodeChar c with
  | nil => exact absurd h String.utf8EncodeChar_ne_nil
  | cons first rest =>
    have place (i : Nat) (hi : i < (String.utf8EncodeChar c).length) :
        (String.utf8EncodeChar c)[i].IsUTF8FirstByte ↔ i = 0 := UInt8.isUTF8FirstByte_getElem_utf8EncodeChar
    simp only [h] at place
    refine ⟨first, rest, rfl, (place 0 (Nat.succ_pos _)).mpr rfl, fun b hb starts => ?_⟩
    obtain ⟨i, hi, rfl⟩ := List.mem_iff_getElem.mp hb
    exact absurd ((place (i + 1) (Nat.succ_lt_succ hi)).mp starts) (Nat.succ_ne_zero i)

/-- The bytes of a character say where they end. -/
theorem encode_append_inj {c d : Char} {x y : List UInt8}
    (h : String.utf8EncodeChar c ++ x = String.utf8EncodeChar d ++ y) : c = d ∧ x = y := by
  have decoded (c : Char) (x : List UInt8) :
      ByteArray.utf8DecodeChar? (String.utf8EncodeChar c ++ x).toByteArray 0 = some c := by
    rw [List.toByteArray_append]
    exact ByteArray.utf8DecodeChar?_utf8EncodeChar_append
  obtain rfl : c = d := Option.some.inj ((decoded c x).symm.trans (h ▸ decoded d y))
  exact ⟨rfl, List.append_cancel_left h⟩

theorem encode_wide {c : Char} (h : ¬c.toNat < 128) {b : UInt8} (hb : b ∈ String.utf8EncodeChar c) :
    128 ≤ b.toNat := by
  have wide : ¬c.val.toNat ≤ 0x7f := fun le => h (Nat.lt_succ_of_le le)
  have byte (low n : Nat) (hlow : 128 ≤ low) (hn : low + n < 256) : 128 ≤ (UInt8.ofNat (n + low)).toNat := by
    rw [UInt8.toNat_ofNat', Nat.mod_eq_of_lt (by omega)]
    omega
  unfold String.utf8EncodeChar at hb
  dsimp only at hb
  rw [if_neg wide] at hb
  split at hb
  · simp only [List.mem_cons, List.not_mem_nil, or_false] at hb
    rcases hb with rfl | rfl <;> exact byte _ _ (by decide) (by omega)
  · split at hb
    · simp only [List.mem_cons, List.not_mem_nil, or_false] at hb
      rcases hb with rfl | rfl | rfl <;> exact byte _ _ (by decide) (by omega)
    · simp only [List.mem_cons, List.not_mem_nil, or_false] at hb
      rcases hb with rfl | rfl | rfl | rfl <;> exact byte _ _ (by decide) (by omega)

/-! ### Texts -/

/-- The bytes of characters in a row. -/
def bytes (cs : List Char) : List UInt8 :=
  cs.flatMap String.utf8EncodeChar

theorem bytes_cons (c : Char) (cs : List Char) : bytes (c :: cs) = String.utf8EncodeChar c ++ bytes cs :=
  List.flatMap_cons

theorem bytes_append (cs ds : List Char) : bytes (cs ++ ds) = bytes cs ++ bytes ds :=
  List.flatMap_append

/-- Bytes that begin with those of a text are those of a text that begins with it. -/
theorem exists_behind_of_bytes {p t : List Char} {behind : List UInt8} (h : bytes t = bytes p ++ behind) :
    ∃ v, t = p ++ v ∧ behind = bytes v := by
  induction p generalizing t with
  | nil => exact ⟨t, rfl, h.symm⟩
  | cons c p ih =>
    rw [bytes_cons, List.append_assoc] at h
    cases t with
    | nil => exact absurd (List.append_eq_nil_iff.mp h.symm).1 String.utf8EncodeChar_ne_nil
    | cons d t =>
      rw [bytes_cons] at h
      obtain ⟨rfl, same⟩ := encode_append_inj h
      obtain ⟨v, rfl, rfl⟩ := ih same
      exact ⟨v, rfl, rfl⟩

/-- Where the bytes of a text occur, the text occurs, and begins and ends between characters. -/
theorem exists_around_of_bytes {p t : List Char} {before behind : List UInt8} (filled : p ≠ [])
    (h : bytes t = before ++ (bytes p ++ behind)) :
    ∃ u v, t = u ++ (p ++ v) ∧ before = bytes u ∧ behind = bytes v := by
  obtain ⟨c, p, rfl⟩ := List.exists_cons_of_ne_nil filled
  obtain ⟨first, others, hc, starts, -⟩ := encode_eq_cons c
  induction t generalizing before with
  | nil =>
    rw [bytes_cons, hc] at h
    exact absurd h.symm (List.append_ne_nil_of_right_ne_nil _ (List.cons_ne_nil _ _))
  | cons d t ih =>
    obtain ⟨b, rest, hd, -, goesOn⟩ := encode_eq_cons d
    cases before with
    | nil =>
      obtain ⟨v, same, rfl⟩ := exists_behind_of_bytes h
      exact ⟨[], v, same, rfl, rfl⟩
    | cons b' before =>
      -- The bytes of `c` begin behind those of `d`: a first byte is none of the others.
      rw [bytes_cons d, hd, List.cons_append, List.cons_append] at h
      obtain ⟨rfl, after⟩ := List.cons.inj h
      rcases List.append_eq_append_iff.mp after with ⟨as, hbefore, ht⟩ | ⟨bs, hrest, hp⟩
      · obtain ⟨u, v, rfl, rfl, rfl⟩ := ih ht
        exact ⟨d :: u, v, rfl, by rw [bytes_cons, hd, hbefore, List.cons_append], rfl⟩
      · cases bs with
        | nil =>
          obtain ⟨u, v, rfl, hu, rfl⟩ := @ih [] hp.symm
          exact ⟨d :: u, v, rfl, by rw [bytes_cons, hd, hrest, ← hu, List.append_nil, List.append_nil], rfl⟩
        | cons a bs =>
          rw [bytes_cons, hc] at hp
          obtain rfl := (List.cons.inj hp).1
          exact absurd starts (goesOn _ (hrest ▸ List.mem_append_right before List.mem_cons_self))

theorem bytes_infix_iff {p t : List Char} : bytes p <:+: bytes t ↔ p <:+: t := by
  constructor
  · rintro ⟨before, behind, h⟩
    by_cases filled : p = []
    · exact filled ▸ List.nil_infix
    · rw [List.append_assoc] at h
      obtain ⟨u, v, rfl, -, -⟩ := exists_around_of_bytes filled h.symm
      exact ⟨u, v, List.append_assoc ..⟩
  · rintro ⟨u, v, rfl⟩
    exact ⟨bytes u, bytes v, by rw [bytes_append, bytes_append]⟩

end CommandScript.Text

namespace CommandScript.Pattern

/-- The bytes of a character in lower case are those of the character in lower case, of the ASCII letters each time. -/
theorem map_encode (c : Char) : (String.utf8EncodeChar c).map (fun b => if 65 ≤ b && b ≤ 90 then b + 32 else b) =
    String.utf8EncodeChar c.toLower := by
  by_cases ascii : c.toNat < 128
  · have all : ∀ n < 128, (String.utf8EncodeChar (Char.ofNat n)).map
        (fun b => if 65 ≤ b && b ≤ 90 then b + 32 else b) = String.utf8EncodeChar (Char.ofNat n).toLower := by
      decide
    have here := all c.toNat ascii
    rwa [Char.ofNat_toNat] at here
  · rw [Text.toLower_of_not_ascii ascii]
    refine (List.map_congr_left fun b hb => ?_).trans (List.map_id' _)
    have wide := Text.encode_wide ascii hb
    rw [if_neg]
    simp only [Bool.and_eq_true, decide_eq_true_eq, UInt8.le_iff_toNat_le, not_and]
    intro _ le
    exact absurd (Nat.le_trans wide le) (by decide)

/-- The bytes in lower case are those of the text in lower case, of the ASCII letters each time. -/
theorem lowerBytes_eq (s : String) : lowerBytes s = Text.bytes (s.toList.map Char.toLower) := by
  rw [lowerBytes, Text.bytes, List.flatMap_map, List.map_flatMap]
  simp only [map_encode]

theorem length_bytes_toLower (cs : List Char) :
    (Text.bytes (cs.map Char.toLower)).length = (Text.bytes cs).length := by
  induction cs with
  | nil => rfl
  | cons c cs ih =>
    rw [List.map_cons, Text.bytes_cons, Text.bytes_cons, List.length_append, List.length_append, ih, ← map_encode,
      List.length_map]

/-- A text occurs in another byte by byte exactly if it does so character by character, up to the case of ASCII
    letters. -/
theorem occursCaseless_iff {part s : String} :
    occursCaseless part s = true ↔ (Text.asciiLower part).toList <:+: (Text.asciiLower s).toList := by
  rw [occursCaseless, Text.occurs_iff, lowerBytes_eq, lowerBytes_eq, Text.bytes_infix_iff, Text.asciiLower,
    Text.asciiLower, String.toList_ofList, String.toList_ofList]

/-! ### Where a text is found -/

/-- Characters in a row that are the same as others up to the case of ASCII letters. -/
def SameLetters (m p : List Char) : Prop :=
  List.Forall₂ (fun c d => c.toLower = d.toLower) m p

theorem sameLetters_iff {m p : List Char} : SameLetters m p ↔ m.map Char.toLower = p.map Char.toLower := by
  rw [SameLetters, ← List.forall₂_eq_eq_eq, List.forall₂_map_left_iff, List.forall₂_map_right_iff]

/-- A search by bytes finds a text exactly where there are the same characters up to the case of ASCII letters. What it
    finds begins and ends between characters, wherever the bytes agree. -/
theorem substring_exact (source s : String) : ∃ p, compile source .substring = .ok p ∧
    (p.matchesText s = true ↔ ∃ u m v, s.toList = u ++ m ++ v ∧ SameLetters m source.toList) ∧
    ∀ before behind, source ≠ "" → lowerBytes s = before ++ lowerBytes source ++ behind →
      ∃ u m v, s.toList = u ++ m ++ v ∧ SameLetters m source.toList ∧ before.length = (Text.bytes u).length ∧
        (before ++ lowerBytes source).length = (Text.bytes (u ++ m)).length := by
  -- What is found in the texts in lower case stands in the texts themselves.
  have around {u' v' : List Char} (h : s.toList.map Char.toLower = u' ++ (source.toList.map Char.toLower ++ v')) :
      ∃ u m v, s.toList = u ++ m ++ v ∧ SameLetters m source.toList ∧ u.map Char.toLower = u' := by
    obtain ⟨u, r, hs, hu, hr⟩ := List.map_eq_append_iff.mp h
    obtain ⟨m, v, rfl, hm, -⟩ := List.map_eq_append_iff.mp hr
    exact ⟨u, m, v, by rw [hs, List.append_assoc], sameLetters_iff.mpr hm, hu⟩
  refine ⟨⟨source, .substring, .substring⟩, rfl, ?_, fun before behind filled h => ?_⟩
  · show (source.isEmpty || occursCaseless source s) = true ↔ _
    rw [Bool.or_eq_true, occursCaseless_iff, Text.asciiLower, Text.asciiLower, String.toList_ofList,
      String.toList_ofList]
    constructor
    · rintro (empty | ⟨u', v', h⟩)
      · rw [String.isEmpty_iff] at empty
        exact ⟨[], [], s.toList, rfl, empty ▸ .nil⟩
      · rw [List.append_assoc] at h
        obtain ⟨u, m, v, hs, same, -⟩ := around h.symm
        exact ⟨u, m, v, hs, same⟩
    · rintro ⟨u, m, v, hs, same⟩
      refine Or.inr ⟨u.map Char.toLower, v.map Char.toLower, ?_⟩
      rw [hs, List.map_append, List.map_append, sameLetters_iff.mp same]
  · rw [lowerBytes_eq, lowerBytes_eq, List.append_assoc] at h
    have filled : source.toList.map Char.toLower ≠ [] := by simpa using filled
    obtain ⟨u', v', found, rfl, -⟩ := Text.exists_around_of_bytes filled h
    obtain ⟨u, m, v, hs, same, rfl⟩ := around found
    refine ⟨u, m, v, hs, same, length_bytes_toLower u, ?_⟩
    rw [lowerBytes_eq, ← sameLetters_iff.mp same, ← Text.bytes_append, ← List.map_append, length_bytes_toLower]

/-- The search finds a text with wide characters between others, here from the fifth byte on. -/
theorem substring_exact_wide : ∃ p, compile "ßK" .substring = .ok p ∧ p.matchesText "Straßkarte" = true ∧
    ∃ u m v, "Straßkarte".toList = u ++ m ++ v ∧ SameLetters m "ßK".toList ∧ (Text.bytes u).length = 4 := by
  obtain ⟨p, hp, found, places⟩ := substring_exact "ßK" "Straßkarte"
  obtain ⟨u, m, v, hs, same, hu, -⟩ := places [115, 116, 114, 97] [97, 114, 116, 101] (by decide) (by decide)
  exact ⟨p, hp, found.mpr ⟨u, m, v, hs, same⟩, u, m, v, hs, same, hu.symm⟩

end CommandScript.Pattern
