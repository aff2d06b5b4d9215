import CommandScript.Proofs.Bodies.Alike
import CommandScript.Proofs.Tag.Rereading

/-! How tags that share a chain are spelled. The key of a chain forgets the letter case of the keys of its tag and how
    the name of its variable is written, and nothing else, so that the tags of a chain have one canonical form. -/

namespace CommandScript

/-! ### Canonical forms -/

section
variable (bases : BaseRegistry)

mutual

/-- An argument with its tags in canonical form. -/
def Argument.canonical : Argument → Argument
  | ⟨segments, _⟩ => ⟨canonicalSegments segments, false⟩

/-- Segments with their tags in canonical form. -/
def canonicalSegments : List Segment → List Segment
  | [] => []
  | segment :: rest => segment.canonical :: canonicalSegments rest

/-- A segment in canonical form, if it is a tag. -/
def Segment.canonical : Segment → Segment
  | .text s => .text s
  | .tag t => .tag t.canonical

/-- The canonical form of a tag: its keys in lower case, and the name of its variable as the compiler looks it up. -/
def Tag.canonical : Tag → Tag
  | ⟨parts, fallback⟩ => ⟨canonicalParts parts, canonicalOptional fallback⟩

/-- The keys of a tag in canonical form. -/
def canonicalParts : List Part → List Part
  | [] => []
  | first :: rest => canonicalFirst first :: canonicalSteps rest

/-- The first key of a tag in canonical form. -/
def canonicalFirst : Part → Part
  | ⟨key, param⟩ =>
    match (Part.mk key param).reads? bases with
    | some name => ⟨Text.lower key, some (.ofText name)⟩
    | none => ⟨Text.lower key, canonicalOptional param⟩

/-- The keys after the first in canonical form. -/
def canonicalSteps : List Part → List Part
  | [] => []
  | ⟨key, param⟩ :: rest => ⟨Text.lower key, canonicalOptional param⟩ :: canonicalSteps rest

/-- A parameter or a fallback with its tags in canonical form. -/
def canonicalOptional : Option Argument → Option Argument
  | none => none
  | some a => some a.canonical

end

theorem Part.tagsWithin_eq (p : Part) : p.tagsWithin = tagsInOptional p.param := by
  cases p
  rfl

section
variable {bases} {first : Part}

theorem canonicalFirst_of_reads {name : String} (h : first.reads? bases = some name) :
    canonicalFirst bases first = ⟨Text.lower first.key, some (.ofText name)⟩ := by
  cases first
  rw [canonicalFirst, h]

theorem canonicalFirst_of_base (h : first.reads? bases = none) :
    canonicalFirst bases first = ⟨Text.lower first.key, canonicalOptional bases first.param⟩ := by
  cases first
  rw [canonicalFirst, h]

end

theorem tagsInSegments_of_literal {segments : List Segment} {text : String} (h : literalText segments = some text) :
    tagsInSegments segments = [] := by
  induction segments generalizing text with
  | nil => rfl
  | cons segment rest ih =>
    cases segment with
    | text s =>
      obtain ⟨more, hmore, -⟩ := Option.map_eq_some_iff.mp h
      rw [tagsInSegments, ih hmore]
      rfl
    | tag t => cases h

theorem Part.tagsWithin_of_reads {first : Part} {name : String} (h : first.reads? bases = some name) :
    first.tagsWithin = [] := by
  obtain ⟨key, param⟩ := first
  rw [Part.reads?] at h
  split at h
  · obtain ⟨text, literal, -⟩ := Option.map_eq_some_iff.mp h
    obtain ⟨a, rfl, literal⟩ := Option.bind_eq_some_iff.mp literal
    obtain ⟨segments, quoted⟩ := a
    rw [Part.tagsWithin, tagsInOptional, Argument.tagsWithin, tagsInSegments_of_literal literal]
  · cases h

mutual

/-- The tags inside a canonical form are the canonical forms of the tags inside. -/
theorem Argument.tagsWithin_canonical : ∀ a : Argument,
    (a.canonical bases).tagsWithin = a.tagsWithin.map (Tag.canonical bases)
  | ⟨segments, _⟩ => by
    rw [Argument.canonical, Argument.tagsWithin, Argument.tagsWithin, tagsInSegments_canonical segments]

theorem tagsInSegments_canonical : ∀ segments : List Segment,
    tagsInSegments (canonicalSegments bases segments) = (tagsInSegments segments).map (Tag.canonical bases)
  | [] => rfl
  | segment :: rest => by
    rw [canonicalSegments, tagsInSegments, tagsInSegments, List.map_append, segment.tagsWithin_canonical,
      tagsInSegments_canonical rest]

theorem Segment.tagsWithin_canonical : ∀ segment : Segment,
    (segment.canonical bases).tagsWithin = segment.tagsWithin.map (Tag.canonical bases)
  | .text _ => rfl
  | .tag t => by
    rw [Segment.canonical, Segment.tagsWithin, Segment.tagsWithin, List.map_cons, t.tagsWithin_canonical]

theorem Tag.tagsWithin_canonical : ∀ t : Tag,
    (t.canonical bases).tagsWithin = t.tagsWithin.map (Tag.canonical bases)
  | ⟨parts, fallback⟩ => by
    rw [Tag.canonical, Tag.tagsWithin, Tag.tagsWithin, List.map_append, tagsInParts_canonical parts,
      tagsInOptional_canonical fallback]

theorem tagsInParts_canonical : ∀ parts : List Part,
    tagsInParts (canonicalParts bases parts) = (tagsInParts parts).map (Tag.canonical bases)
  | [] => rfl
  | first :: rest => by
    rw [canonicalParts, tagsInParts, tagsInParts, List.map_append, first.tagsWithin_canonicalFirst,
      tagsInParts_canonicalSteps rest]

theorem Part.tagsWithin_canonicalFirst : ∀ first : Part,
    (canonicalFirst bases first).tagsWithin = first.tagsWithin.map (Tag.canonical bases)
  | ⟨key, param⟩ => by
    cases reads : (Part.mk key param).reads? bases with
    | some name =>
      rw [canonicalFirst_of_reads reads, Part.tagsWithin_of_reads bases reads]
      rfl
    | none =>
      rw [canonicalFirst_of_base reads]
      exact tagsInOptional_canonical param

theorem tagsInParts_canonicalSteps : ∀ steps : List Part,
    tagsInParts (canonicalSteps bases steps) = (tagsInParts steps).map (Tag.canonical bases)
  | [] => rfl
  | ⟨key, param⟩ :: rest => by
    rw [canonicalSteps, tagsInParts, tagsInParts, List.map_append, tagsInParts_canonicalSteps rest, Part.tagsWithin,
      Part.tagsWithin, tagsInOptional_canonical param]

theorem tagsInOptional_canonical : ∀ param : Option Argument,
    tagsInOptional (canonicalOptional bases param) = (tagsInOptional param).map (Tag.canonical bases)
  | none => rfl
  | some a => a.tagsWithin_canonical

end

mutual

/-- What is inside a tag of an argument is inside the argument. -/
theorem Argument.tagsWithin_trans : ∀ a : Argument, ∀ t ∈ a.tagsWithin, ∀ inner ∈ t.tagsWithin, inner ∈ a.tagsWithin
  | ⟨segments, _⟩ => tagsInSegments_trans segments

theorem tagsInSegments_trans : ∀ segments : List Segment, ∀ t ∈ tagsInSegments segments, ∀ inner ∈ t.tagsWithin,
    inner ∈ tagsInSegments segments
  | [], _, ht, _, _ => absurd ht List.not_mem_nil
  | segment :: rest, t, ht, inner, hi => by
    rw [tagsInSegments] at ht ⊢
    exact List.mem_append.mpr ((List.mem_append.mp ht).imp (fun ht => segment.tagsWithin_trans t ht inner hi)
      fun ht => tagsInSegments_trans rest t ht inner hi)

theorem Segment.tagsWithin_trans : ∀ segment : Segment, ∀ t ∈ segment.tagsWithin, ∀ inner ∈ t.tagsWithin,
    inner ∈ segment.tagsWithin
  | .text _, _, ht, _, _ => absurd ht List.not_mem_nil
  | .tag own, t, ht, inner, hi => by
    rw [Segment.tagsWithin] at ht ⊢
    rcases List.mem_cons.mp ht with rfl | ht
    · exact List.mem_cons_of_mem _ hi
    · exact List.mem_cons_of_mem _ (own.tagsWithin_trans t ht inner hi)

theorem Tag.tagsWithin_trans : ∀ own t : Tag, t ∈ own.tagsWithin → ∀ inner ∈ t.tagsWithin, inner ∈ own.tagsWithin
  | ⟨parts, fallback⟩, t, ht, inner, hi => by
    rw [Tag.tagsWithin] at ht ⊢
    exact List.mem_append.mpr ((List.mem_append.mp ht).imp (fun ht => tagsInParts_trans parts t ht inner hi)
      fun ht => tagsInOptional_trans fallback t ht inner hi)

theorem tagsInParts_trans : ∀ parts : List Part, ∀ t ∈ tagsInParts parts, ∀ inner ∈ t.tagsWithin,
    inner ∈ tagsInParts parts
  | [], _, ht, _, _ => absurd ht List.not_mem_nil
  | part :: rest, t, ht, inner, hi => by
    rw [tagsInParts] at ht ⊢
    exact List.mem_append.mpr ((List.mem_append.mp ht).imp (fun ht => part.tagsWithin_trans t ht inner hi)
      fun ht => tagsInParts_trans rest t ht inner hi)

theorem Part.tagsWithin_trans : ∀ part : Part, ∀ t ∈ part.tagsWithin, ∀ inner ∈ t.tagsWithin,
    inner ∈ part.tagsWithin
  | ⟨_, param⟩ => tagsInOptional_trans param

theorem tagsInOptional_trans : ∀ param : Option Argument, ∀ t ∈ tagsInOptional param, ∀ inner ∈ t.tagsWithin,
    inner ∈ tagsInOptional param
  | none, _, ht, _, _ => absurd ht List.not_mem_nil
  | some a, t, ht, inner, hi => a.tagsWithin_trans t ht inner hi

end

/-- Tags with one canonical form have the same inside, up to canonical forms. -/
theorem Tag.exists_alike {bases} {t u inner : Tag} (alike : u.canonical bases = t.canonical bases)
    (h : inner ∈ u :: u.tagsWithin) : ∃ own ∈ t :: t.tagsWithin, inner.canonical bases = own.canonical bases := by
  have same : (u :: u.tagsWithin).map (Tag.canonical bases) = (t :: t.tagsWithin).map (Tag.canonical bases) := by
    rw [List.map_cons, List.map_cons, ← u.tagsWithin_canonical, ← t.tagsWithin_canonical, alike]
  obtain ⟨own, mem, eq⟩ := List.mem_map.mp (same ▸ List.mem_map_of_mem h)
  exact ⟨own, mem, eq.symm⟩

end

/-! ### Keys of tags -/

section
variable (bases : BaseRegistry) (slots : Array Slot) (tags : List Tag)

/-- A part that stands for a segment, where the chains have been made of the tags of a list. -/
inductive SegmentOf : Segment → CompiledPart → Prop where
  | text (s : String) : SegmentOf (.text s) (.text s)
  | tag {t u : Tag} {i : Nat} (made : tags[i]? = some u) (alike : u.canonical bases = t.canonical bases) :
    SegmentOf (.tag t) (.chain i)

/-- Parts that stand for an argument. -/
def ArgumentOf (a : Argument) (parts : List CompiledPart) : Prop :=
  List.Forall₂ (SegmentOf bases tags) a.segments parts

/-- Parts that stand for a parameter or a fallback. -/
def OptionalOf : Option Argument → Option (List CompiledPart) → Prop :=
  Option.Rel (ArgumentOf bases tags)

/-- What a key of a chain says of the first key of a tag. -/
inductive StartOf (first : Part) (base : String) :
    (slot : Option Nat) → (param : Option (List CompiledPart)) → Prop where
  | slot {name : String} {i : Nat} (key : Text.lower first.key = base) (reads : first.reads? bases = some name)
    (named : slots[i]?.map (·.name) = some name) : StartOf first base (some i) none
  | base {param : Option (List CompiledPart)} (key : Text.lower first.key = base)
    (reads : first.reads? bases = none) (own : OptionalOf bases tags first.param param) :
    StartOf first base none param

/-- What a key of a chain says of a key after the first of a tag. -/
structure StepOf (part : Part) (step : String × Option (List CompiledPart)) : Prop where
  name : step.1 = Text.lower part.key
  param : OptionalOf bases tags part.param step.2

/-- The key of a chain as it comes from a tag. -/
inductive ChainKeyOf : Tag → ChainKey → Prop where
  | intro {first : Part} {rest : List Part} {fallback : Option Argument} {base : String} {slot : Option Nat}
    {param last : Option (List CompiledPart)} {steps : List (String × Option (List CompiledPart))}
    (start : StartOf bases slots tags first base slot param) (more : List.Forall₂ (StepOf bases tags) rest steps)
    (behind : OptionalOf bases tags fallback last) :
    ChainKeyOf ⟨first :: rest, fallback⟩ ⟨base, slot, param, steps, last⟩

end

section
variable {bases : BaseRegistry} {slots : Array Slot} {tags : List Tag}

theorem SegmentOf.append {segment : Segment} {part : CompiledPart} (h : SegmentOf bases tags segment part)
    (more : List Tag) : SegmentOf bases (tags ++ more) segment part := by
  cases h with
  | text s => exact .text s
  | tag made alike =>
    have lt := (List.getElem?_eq_some_iff.mp made).1
    exact .tag ((List.getElem?_append_left lt).trans made) alike

theorem ArgumentOf.append {a : Argument} {parts : List CompiledPart} (h : ArgumentOf bases tags a parts)
    (more : List Tag) : ArgumentOf bases (tags ++ more) a parts :=
  List.Forall₂.imp (fun _ _ part => part.append more) h

theorem OptionalOf.append {a : Option Argument} {parts : Option (List CompiledPart)}
    (h : OptionalOf bases tags a parts) (more : List Tag) : OptionalOf bases (tags ++ more) a parts := by
  cases h with
  | none => exact .none
  | some own => exact .some (own.append more)

theorem StartOf.append {first : Part} {base : String} {slot : Option Nat} {param : Option (List CompiledPart)}
    (h : StartOf bases slots tags first base slot param) (more : List Tag) :
    StartOf bases slots (tags ++ more) first base slot param := by
  cases h with
  | slot key reads named => exact .slot key reads named
  | base key reads own => exact .base key reads (own.append more)

theorem StepOf.append {part : Part} {step : String × Option (List CompiledPart)} (h : StepOf bases tags part step)
    (more : List Tag) : StepOf bases (tags ++ more) part step :=
  ⟨h.name, h.param.append more⟩

theorem ChainKeyOf.append {t : Tag} {k : ChainKey} (h : ChainKeyOf bases slots tags t k) (more : List Tag) :
    ChainKeyOf bases slots (tags ++ more) t k := by
  cases h with
  | intro start steps behind =>
    exact .intro (start.append more) (steps.imp fun _ _ step => step.append more) (behind.append more)

/-! Tags with one key have one canonical form. -/

theorem SegmentOf.canonical_eq {a b : Segment} {part : CompiledPart} (ha : SegmentOf bases tags a part)
    (hb : SegmentOf bases tags b part) : a.canonical bases = b.canonical bases := by
  cases ha with
  | text s =>
    cases hb
    rfl
  | tag made alike =>
    cases hb with
    | tag made' alike' =>
      cases made.symm.trans made'
      rw [Segment.canonical, Segment.canonical, ← alike, ← alike']

theorem ArgumentOf.canonical_eq {a b : Argument} {parts : List CompiledPart} (ha : ArgumentOf bases tags a parts)
    (hb : ArgumentOf bases tags b parts) : a.canonical bases = b.canonical bases := by
  obtain ⟨segments, _⟩ := a
  obtain ⟨segments', _⟩ := b
  suffices same : canonicalSegments bases segments = canonicalSegments bases segments' by
    rw [Argument.canonical, Argument.canonical, same]
  unfold ArgumentOf at ha hb
  dsimp only at ha hb
  induction ha generalizing segments' with
  | nil =>
    cases hb
    rfl
  | cons first _ ih =>
    cases hb with
    | cons first' rest' => rw [canonicalSegments, canonicalSegments, first.canonical_eq first', ih _ rest']

theorem OptionalOf.canonical_eq {a b : Option Argument} {parts : Option (List CompiledPart)}
    (ha : OptionalOf bases tags a parts) (hb : OptionalOf bases tags b parts) :
    canonicalOptional bases a = canonicalOptional bases b := by
  cases ha with
  | none =>
    cases hb
    rfl
  | some own =>
    cases hb with
    | some own' => rw [canonicalOptional, canonicalOptional, own.canonical_eq own']

theorem StartOf.canonical_eq {a b : Part} {base : String} {slot : Option Nat} {param : Option (List CompiledPart)}
    (ha : StartOf bases slots tags a base slot param) (hb : StartOf bases slots tags b base slot param) :
    canonicalFirst bases a = canonicalFirst bases b := by
  cases ha with
  | slot key reads named =>
    cases hb with
    | slot key' reads' named' =>
      cases named.symm.trans named'
      rw [canonicalFirst_of_reads reads, canonicalFirst_of_reads reads', key, key']
  | base key reads own =>
    cases hb with
    | base key' reads' own' =>
      rw [canonicalFirst_of_base reads, canonicalFirst_of_base reads', key, key', own.canonical_eq own']

theorem steps_canonical_eq {as bs : List Part} {steps : List (String × Option (List CompiledPart))}
    (ha : List.Forall₂ (StepOf bases tags) as steps) (hb : List.Forall₂ (StepOf bases tags) bs steps) :
    canonicalSteps bases as = canonicalSteps bases bs := by
  induction ha generalizing bs with
  | nil =>
    cases hb
    rfl
  | @cons a _ _ _ step _ ih =>
    cases hb with
    | @cons b _ _ _ step' rest' =>
      obtain ⟨key, own⟩ := a
      obtain ⟨key', own'⟩ := b
      have name : Text.lower key = Text.lower key' := step.name.symm.trans step'.name
      rw [canonicalSteps, canonicalSteps, name, step.param.canonical_eq step'.param, ih rest']

theorem ChainKeyOf.canonical_eq {t u : Tag} {k : ChainKey} (ht : ChainKeyOf bases slots tags t k)
    (hu : ChainKeyOf bases slots tags u k) : t.canonical bases = u.canonical bases := by
  cases ht with
  | intro start more behind =>
    cases hu with
    | intro start' more' behind' =>
      rw [Tag.canonical, Tag.canonical, canonicalParts, canonicalParts, start.canonical_eq start',
        steps_canonical_eq more more', behind.canonical_eq behind']

/-! A key names chains of tags inside its own. -/

/-- The arguments of a key. -/
def ChainKey.arguments (k : ChainKey) : List (List CompiledPart) :=
  k.param.toList ++ (k.steps.filterMap (·.2) ++ k.fallback.toList)

theorem ArgumentOf.exists_tag {a : Argument} {parts : List CompiledPart} (h : ArgumentOf bases tags a parts) {i : Nat}
    (hi : .chain i ∈ parts) :
    ∃ t ∈ a.tagsWithin, ∃ u, tags[i]? = some u ∧ u.canonical bases = t.canonical bases := by
  obtain ⟨segments, quoted⟩ := a
  unfold ArgumentOf at h
  dsimp only at h
  rw [Argument.tagsWithin]
  induction h with
  | nil => cases hi
  | cons first _ ih =>
    rw [tagsInSegments]
    rcases List.mem_cons.mp hi with rfl | hi
    · cases first with
      | tag made alike => exact ⟨_, List.mem_append_left _ List.mem_cons_self, _, made, alike⟩
    · obtain ⟨t, ht, found⟩ := ih hi
      exact ⟨t, List.mem_append_right _ ht, found⟩

theorem OptionalOf.exists_tag {a : Option Argument} {parts : Option (List CompiledPart)}
    (h : OptionalOf bases tags a parts) {own : List CompiledPart} (ho : own ∈ parts) {i : Nat} (hi : .chain i ∈ own) :
    ∃ t ∈ tagsInOptional a, ∃ u, tags[i]? = some u ∧ u.canonical bases = t.canonical bases := by
  cases h with
  | none => cases ho
  | some argument =>
    cases ho
    exact argument.exists_tag hi

theorem steps_exists_tag {parts : List Part} {steps : List (String × Option (List CompiledPart))}
    (h : List.Forall₂ (StepOf bases tags) parts steps) {step : String × Option (List CompiledPart)}
    (hs : step ∈ steps) {own : List CompiledPart} (ho : own ∈ step.2) {i : Nat} (hi : .chain i ∈ own) :
    ∃ t ∈ tagsInParts parts, ∃ u, tags[i]? = some u ∧ u.canonical bases = t.canonical bases := by
  induction h with
  | nil => cases hs
  | @cons part _ _ _ first _ ih =>
    rw [tagsInParts]
    rcases List.mem_cons.mp hs with rfl | hs
    · obtain ⟨t, ht, found⟩ := first.param.exists_tag ho hi
      exact ⟨t, List.mem_append_left _ (part.tagsWithin_eq ▸ ht), found⟩
    · obtain ⟨t, ht, found⟩ := ih hs
      exact ⟨t, List.mem_append_right _ ht, found⟩

theorem ChainKeyOf.exists_tag {t : Tag} {k : ChainKey} (h : ChainKeyOf bases slots tags t k) {own : List CompiledPart}
    (ho : own ∈ k.arguments) {i : Nat} (hi : .chain i ∈ own) :
    ∃ inner ∈ t.tagsWithin, ∃ u, tags[i]? = some u ∧ u.canonical bases = inner.canonical bases := by
  cases h with
  | @intro first rest _ _ _ _ _ _ start more behind =>
    rw [Tag.tagsWithin, tagsInParts]
    rcases List.mem_append.mp ho with ho | ho
    · cases start with
      | slot => cases ho
      | base key reads param =>
        obtain ⟨inner, ht, found⟩ := param.exists_tag (Option.mem_toList.mp ho) hi
        exact ⟨inner, List.mem_append_left _ (List.mem_append_left _ (first.tagsWithin_eq ▸ ht)), found⟩
    · rcases List.mem_append.mp ho with ho | ho
      · obtain ⟨step, hs, ho⟩ := List.mem_filterMap.mp ho
        obtain ⟨inner, ht, found⟩ := steps_exists_tag more hs ho hi
        exact ⟨inner, List.mem_append_left _ (List.mem_append_right _ ht), found⟩
      · obtain ⟨inner, ht, found⟩ := behind.exists_tag (Option.mem_toList.mp ho) hi
        exact ⟨inner, List.mem_append_right _ ht, found⟩

end

end CommandScript
