import CommandScript.Pattern.Property
import CommandScript.Proofs.Tag.Content
import CommandScript.Proofs.Text.Blank

/-! The names of properties hold no backslash, and neither do those of their values. So the text of a property that is
    known ends at its first closing brace, whether backslashes escape or not. -/

namespace CommandScript.Pattern

/-! ### Tables -/

theorem plain_ofList {cs : List Char} (h : cs.contains '\\' = false) : '\\' ∉ (String.ofList cs).toList := by
  rw [String.toList_ofList]
  simpa using h

theorem plain_of_tableWords {lines : List String} (h : ∀ line ∈ lines, '\\' ∉ line.toList) :
    ∀ word ∈ tableWords lines, '\\' ∉ word := by
  intro word hw hc
  obtain ⟨line, hl, hword⟩ := List.mem_flatMap.mp hw
  exact h line hl (Text.mem_of_splitChar hword hc)

theorem plain_of_readNames {lines : List String} (h : ∀ line ∈ lines, '\\' ∉ line.toList) :
    ∀ group ∈ readNames lines, ∀ name ∈ group, '\\' ∉ name.toList := by
  intro group hg name hn hc
  obtain ⟨word, hw, rfl⟩ := List.mem_map.mp hg
  obtain ⟨piece, hp, rfl⟩ := List.mem_map.mp hn
  rw [String.toList_ofList] at hc
  exact plain_of_tableWords h word hw (Text.mem_of_splitChar hp hc)

theorem plain_of_binaryProperties : ∀ p ∈ binaryProperties, ∀ name ∈ p.names, '\\' ∉ name.toList := by
  simp only [binaryProperties, List.forall_mem_cons]
  and_intros
  all_goals first | exact plain_ofList rfl | exact nofun

theorem plain_of_valuedProperties : ∀ p ∈ valuedProperties, ∀ name ∈ p.names, '\\' ∉ name.toList := by
  simp only [valuedProperties, generalCategory, script, scriptExtensions, age, graphemeBreak, wordBreak,
    sentenceBreak, ValuedProperty.ofClasses, List.forall_mem_cons]
  and_intros
  all_goals first | exact plain_ofList rfl | exact nofun

theorem plain_of_otherProperties : ∀ name ∈ otherProperties, '\\' ∉ name.toList := by
  intro name hn
  obtain ⟨word, hw, rfl⟩ := List.mem_map.mp hn
  rw [String.toList_ofList]
  refine plain_of_tableWords ?_ word hw
  simp only [List.forall_mem_cons]
  and_intros
  all_goals first | exact plain_ofList rfl | exact nofun

theorem plain_of_values : ∀ p ∈ valuedProperties, ∀ group ∈ p.values, ∀ name ∈ group, '\\' ∉ name.toList := by
  simp only [valuedProperties, List.forall_mem_cons]
  refine ⟨plain_of_readNames ?_, plain_of_readNames ?_, plain_of_readNames ?_, plain_of_readNames ?_, ?_, ?_, ?_,
    nofun⟩
  all_goals simp only [graphemeBreak, wordBreak, sentenceBreak, ValuedProperty.ofClasses, List.map_cons,
    List.forall_mem_cons]
  all_goals and_intros
  all_goals first | exact plain_ofList rfl | exact nofun

/-! ### Looking names up -/

theorem mem_plainName {name : List Char} (h : '\\' ∈ name) : '\\' ∈ (plainName name).toList := by
  have kept (cs : List Char) (hc : '\\' ∈ cs) : '\\' ∈ (String.ofList
      ((cs.filter fun c => c.toNat < 128 && c != ' ' && c != '_' && c != '-').map Char.toLower)).toList := by
    rw [String.toList_ofList]
    exact List.mem_map.mpr ⟨'\\', List.mem_filter.mpr ⟨hc, by decide⟩, by decide⟩
  have beyond (plain : String) (hp : '\\' ∈ plain.toList) : '\\' ∈ (if plain = "c" then "isc" else plain).toList := by
    split
    · rename_i heq
      subst heq
      exact absurd hp (plain_ofList rfl)
    · exact hp
  unfold plainName
  dsimp only
  split
  case h_5 => exact kept name h
  all_goals exact beyond _ (kept _ (by simpa using h))

theorem mem_of_find?_contains {l : List α} {names : α → List String} {name : String} {a : α}
    (h : l.find? (fun x => (names x).contains name) = some a) : a ∈ l ∧ name ∈ names a :=
  ⟨List.mem_of_find?_eq_some h, by simpa using List.find?_some h⟩

theorem plain_of_property? {name : String} {p : Property} (h : property? name = some p) : '\\' ∉ name.toList := by
  rw [property?] at h
  split at h
  · rename_i found
    obtain ⟨known, named⟩ := mem_of_find?_contains found
    exact plain_of_binaryProperties _ known name named
  · split at h
    · rename_i found
      obtain ⟨known, named⟩ := mem_of_find?_contains found
      exact plain_of_valuedProperties _ known name named
    · split at h
      · rename_i known
        exact plain_of_otherProperties name (List.contains_iff_mem.mp known)
      · cases h

theorem mem_of_property? {name : String} {p : ValuedProperty} (h : property? name = some (.valued p)) :
    p ∈ valuedProperties := by
  rw [property?] at h
  split at h
  · cases h
  · split at h
    · rename_i found
      cases h
      exact List.mem_of_find?_eq_some found
    · split at h <;> cases h

theorem plain_of_value? {p : ValuedProperty} {name value : String} (hp : p ∈ valuedProperties)
    (h : p.value? name = some value) : '\\' ∉ name.toList := by
  obtain ⟨group, found, _⟩ := Option.bind_eq_some_iff.mp h
  obtain ⟨known, named⟩ := @mem_of_find?_contains _ _ id _ _ found
  exact plain_of_values p hp group known name named

theorem plain_of_named {name : List Char} {s : CharSet} (h : CharSet.named name = .ok s) : '\\' ∉ name := by
  intro hc
  have escaped := mem_plainName hc
  rw [CharSet.named] at h
  split at h
  · rename_i found
    split at found
    · cases found
    · exact plain_of_property? found escaped
  · cases h
  · split at h
    · rename_i found
      exact plain_of_value? (by simp [valuedProperties]) found escaped
    · rename_i found
      exact plain_of_value? (by simp [valuedProperties]) found escaped
    · cases h

theorem plain_of_valued {name value : List Char} {s : CharSet} (h : CharSet.valued name value = .ok s) :
    '\\' ∉ name ∧ '\\' ∉ value := by
  rw [CharSet.valued] at h
  split at h
  · cases h
  · rename_i known
    split at h
    · rename_i found
      exact ⟨fun hc => plain_of_property? known (mem_plainName hc),
        fun hc => plain_of_value? (mem_of_property? known) found (mem_plainName hc)⟩
    · cases h
  · cases h

theorem eq_of_splitUnequal {text before after : List Char} (h : splitUnequal text = some (before, after)) :
    text = before ++ '!' :: '=' :: after := by
  fun_induction splitUnequal text generalizing before with
  | case1 => cases h
  | case2 rest =>
    cases h
    rfl
  | case3 c rest _ ih =>
    simp only [Option.map_eq_some_iff, Prod.mk.injEq, Prod.exists] at h
    obtain ⟨b, a, hr, rfl, rfl⟩ := h
    rw [ih hr, List.cons_append]

/-- The text of a known property has no backslash. -/
theorem plain_of_property {text : List Char} {s : CharSet} (h : CharSet.property text = .ok s) : '\\' ∉ text := by
  rw [CharSet.property] at h
  split at h
  · rename_i split_
    obtain ⟨name, value⟩ := plain_of_valued h
    rw [eq_of_splitUnequal split_]
    simp [name, value]
  · split at h
    · rename_i split_
      obtain ⟨name, value⟩ := plain_of_valued h
      rw [(Text.splitFirst_eq_some.mp split_).2]
      simp [name, value]
    · split at h
      · rename_i split_
        obtain ⟨name, value⟩ := plain_of_valued h
        rw [(Text.splitFirst_eq_some.mp split_).2]
        simp [name, value]
      · exact plain_of_named h

end CommandScript.Pattern
