import CommandScript.Proofs.Chains.Operations
import CommandScript.Proofs.Chains.Spelling
import CommandScript.Proofs.Guards.Tables
import CommandScript.Proofs.Typing.Initial
import CommandScript.Proofs.Typing.Soundness

/-! Which tag a fault quotes. The chains of a table are made of tags, one each, and quote them; a tag that shares a
    chain is quoted as the tag that the chain was made of, which has the same canonical form and may stand in an
    instruction before. -/

namespace CommandScript

/-! ### Tables -/

/-- The arguments of a chain are those of its key. -/
theorem Chain.arguments_parts {start : ChainStart} {steps : List ChainStep} {fallback : Option CompiledArgument}
    {body base : String} {slot : Option Nat} {param : Option (List CompiledPart)}
    {keys : List (String × Option (List CompiledPart))} (first : start.argument?.toList.map (·.parts) = param.toList)
    (later : (steps.filterMap (·.param)).map (·.parts) = keys.filterMap (·.2)) :
    (Chain.mk start steps fallback body).arguments.map (·.parts) =
      ChainKey.arguments ⟨base, slot, param, keys, fallback.map (·.parts)⟩ := by
  have last : fallback.toList.map (·.parts) = (fallback.map (·.parts)).toList := by cases fallback <;> rfl
  rw [Chain.arguments, List.map_append, List.map_append, first, later, last, ChainKey.arguments]

section
variable (bases : BaseRegistry) (slots : Array Slot)

/-- A table whose chains have been made of the tags of a list, one of each, and quote them. -/
structure MadeOf (tags : List Tag) (table : ChainTable) : Prop where
  length : tags.length = table.size
  made : ∀ {i : Nat} {e : TableEntry}, table[i]? = some e →
    ∃ t k, tags[i]? = some t ∧ ChainKeyOf bases slots tags t k ∧
    k.Plain ∧ e.key = k.text ∧ e.chain.body = t.bodyText ∧ e.chain.arguments.map (·.parts) = k.arguments

/-- A table whose chains have been made of a list of tags and more tags among those written, with what holds of them
    all. -/
def Adds (written tags : List Tag) (table : ChainTable) (Q : List Tag → Prop) : Prop :=
  ∃ more, (∀ t ∈ more, t ∈ written) ∧ MadeOf bases slots (tags ++ more) table ∧ Q (tags ++ more)

end

section
variable {bases : BaseRegistry} {slots : Array Slot} {tags written : List Tag} {table table' : ChainTable}
  {Q R : List Tag → Prop}

theorem madeOf_empty : MadeOf bases slots [] #[] :=
  ⟨rfl, fun he => by simp at he⟩

namespace Adds

theorem nothing (made : MadeOf bases slots tags table) (h : Q tags) : Adds bases slots written tags table Q :=
  ⟨[], List.forall_mem_nil _, by rwa [List.append_nil], by rwa [List.append_nil]⟩

theorem imp (h : Adds bases slots written tags table Q) (weaken : ∀ more, Q (tags ++ more) → R (tags ++ more)) :
    Adds bases slots written tags table R := by
  obtain ⟨more, among, made, holds⟩ := h
  exact ⟨more, among, made, weaken more holds⟩

theorem among {all : List Tag} (h : Adds bases slots written tags table Q) (le : ∀ t ∈ written, t ∈ all) :
    Adds bases slots all tags table Q := by
  obtain ⟨more, among, made, holds⟩ := h
  exact ⟨more, fun t ht => le t (among t ht), made, holds⟩

theorem trans {written' : List Tag} (h : Adds bases slots written tags table Q)
    (next : ∀ more, MadeOf bases slots (tags ++ more) table → Q (tags ++ more) →
      Adds bases slots written' (tags ++ more) table' R) :
    Adds bases slots (written ++ written') tags table' R := by
  obtain ⟨more, among, made, holds⟩ := h
  obtain ⟨more', among', made', holds'⟩ := next _ made holds
  rw [List.append_assoc] at made' holds'
  refine ⟨more ++ more', fun t ht => ?_, made', holds'⟩
  exact List.mem_append.mpr ((List.mem_append.mp ht).imp (among t) (among' t))

end Adds

/-- A tag whose key is there shares the chain of a tag with its canonical form. -/
theorem shareChain_adds (made : MadeOf bases slots tags table) {t : Tag} {k : ChainKey} {chain : Chain}
    {typeName : String} {i : Nat} (key : ChainKeyOf bases slots tags t k) (plain : k.Plain)
    (body : chain.body = t.bodyText) (arguments : chain.arguments.map (·.parts) = k.arguments)
    (h : (shareChain k.text chain typeName).run table = .ok (i, table')) :
    Adds bases slots [t] tags table' fun tags => SegmentOf bases tags (.tag t) (.chain i) := by
  rcases shareChain_eq_ok h with ⟨e, he, hkey, rfl⟩ | ⟨rfl, rfl⟩
  · obtain ⟨u, k', hu, key', plain', hk', -, -⟩ := made.made he
    obtain rfl : k' = k := ChainKey.text_injective plain' plain (hk'.symm.trans hkey)
    exact .nothing made (.tag hu (key'.canonical_eq key))
  · have last : (tags ++ [t])[table.size]? = some t := by
      rw [← made.length, List.getElem?_concat_length]
    refine ⟨[t], fun _ h => h, ⟨by simp [made.length], fun {j e} he => ?_⟩, .tag last rfl⟩
    rw [Array.getElem?_push] at he
    split at he
    · rename_i hj
      cases he
      exact ⟨t, k, hj ▸ last, key.append [t], plain, rfl, body, arguments⟩
    · obtain ⟨u, k', hu, key', rest⟩ := made.made he
      have lt := (List.getElem?_eq_some_iff.mp hu).1
      exact ⟨u, k', (List.getElem?_append_left lt).trans hu, key'.append [t], rest⟩

end

/-- A scope that looks up slots by their names. -/
def TagScope.Named (s : TagScope) (slots : Array Slot) : Prop :=
  ∀ n i, s.lookup n = some i → slots[i]?.map (·.name) = some n

theorem Part.base_of_reads {bases : BaseRegistry} {first : Part} {name : String}
    (h : first.reads? bases = some name) :
    ∃ b, bases.get? (Text.lower first.key) = some b := by
  obtain ⟨key, param⟩ := first
  rw [Part.reads?] at h
  split at h
  · rename_i reads
    obtain ⟨b, hb, -⟩ := (Option.any_eq_true _ _).mp reads
    exact ⟨b, hb⟩
  · cases h

section
variable {s : TagScope} {slots : Array Slot}

mutual

theorem compileArgument_adds (named : s.Named slots) (plain : s.registries.PlainNames) :
    ∀ (a : Argument) {tags : List Tag} {table table' : ChainTable} {c : CompiledArgument},
    MadeOf s.registries.bases slots tags table → (compileArgument s a).run table = .ok (c, table') →
    Adds s.registries.bases slots a.tagsWithin tags table' fun tags => ArgumentOf s.registries.bases tags a c.parts
  | ⟨segments, quoted⟩, tags, table, table', c, made, h => by
    rw [compileArgument] at h
    obtain ⟨parts, between, hparts, h⟩ := run_bind_eq_ok.mp h
    cases h
    exact compileSegments_adds named plain segments made hparts

theorem compileSegments_adds (named : s.Named slots) (plain : s.registries.PlainNames) :
    ∀ (segments : List Segment) {tags : List Tag} {table table' : ChainTable}
    {parts : List CompiledPart}, MadeOf s.registries.bases slots tags table →
    (compileSegments s segments).run table = .ok (parts, table') →
    Adds s.registries.bases slots (tagsInSegments segments) tags table' fun tags =>
      List.Forall₂ (SegmentOf s.registries.bases tags) segments parts
  | [], tags, table, table', parts, made, h => by
    rw [compileSegments] at h
    cases h
    exact .nothing made .nil
  | segment :: rest, tags, table, table', parts, made, h => by
    rw [compileSegments] at h
    obtain ⟨part, between, hpart, h⟩ := run_bind_eq_ok.mp h
    obtain ⟨more, last, hmore, h⟩ := run_bind_eq_ok.mp h
    cases h
    exact (compileSegment_adds named plain segment made hpart).trans fun _ made' first =>
      (compileSegments_adds named plain rest made' hmore).imp fun more' later => .cons (first.append more') later

theorem compileSegment_adds (named : s.Named slots) (plain : s.registries.PlainNames) :
    ∀ (segment : Segment) {tags : List Tag} {table table' : ChainTable}
    {part : CompiledPart}, MadeOf s.registries.bases slots tags table →
    (compileSegment s segment).run table = .ok (part, table') →
    Adds s.registries.bases slots segment.tagsWithin tags table' fun tags =>
      SegmentOf s.registries.bases tags segment part
  | .text w, tags, table, table', part, made, h => by
    rw [compileSegment] at h
    cases h
    exact .nothing made (.text w)
  | .tag t, tags, table, table', part, made, h => by
    rw [compileSegment] at h
    obtain ⟨i, last, ht, h⟩ := run_bind_eq_ok.mp h
    cases h
    exact compileTag_adds named plain t made ht

theorem compileTag_adds (named : s.Named slots) (plain : s.registries.PlainNames) :
    ∀ (t : Tag) {tags : List Tag} {table table' : ChainTable} {i : Nat},
    MadeOf s.registries.bases slots tags table → (compileTag s t).run table = .ok (i, table') →
    Adds s.registries.bases slots (t :: t.tagsWithin) tags table' fun tags =>
      SegmentOf s.registries.bases tags (.tag t) (.chain i)
  | ⟨[], fallback⟩, tags, table, table', i, made, h => absurd h compileTag_nil_ne_ok
  | ⟨first :: rest, fallback⟩, tags, table, table', i, made, h => by
    obtain ⟨body, start, t₁, steps, t₂, f, t₃, hbody, hstart, hsteps, hf, h⟩ := compileTag_cons_eq_ok h
    have added := (compileStart_adds named plain first made hstart).trans fun _ made₁ ⟨own, name, argument⟩ =>
      (compileSteps_adds named plain rest made₁ hsteps).trans fun more₂ made₂ ⟨later, names, arguments⟩ =>
        (compileOptional_adds named plain fallback made₂ hf).trans fun more₃ made₃ behind =>
          shareChain_adds made₃ (.intro ((own.append more₂).append more₃)
            (later.imp fun _ _ step => step.append more₃)
            behind) ⟨name, names⟩ hbody (Chain.arguments_parts argument arguments) h
    refine added.among fun t ht => ?_
    simp only [List.mem_append, List.mem_singleton] at ht
    simp only [List.mem_cons, Tag.tagsWithin, tagsInParts, List.mem_append]
    tauto

theorem compileStart_adds (named : s.Named slots) (plain : s.registries.PlainNames) :
    ∀ (first : Part) {body : String} {tags : List Tag} {table table' : ChainTable}
    {c : CompiledStart}, MadeOf s.registries.bases slots tags table →
    (compileStart s body first).run table = .ok (c, table') →
    Adds s.registries.bases slots first.tagsWithin tags table' fun tags =>
      StartOf s.registries.bases slots tags first c.base c.slot c.param ∧ ChainKey.IsName c.base ∧
        c.start.argument?.toList.map (·.parts) = c.param.toList
  | ⟨key, param⟩, body, tags, table, table', c, made, h => by
    rcases compileStart_eq_ok h with ⟨n, x, reads, hx, rfl, rfl⟩ | ⟨reads, base, p, t, hb, hp, -, rfl⟩
    · obtain ⟨b, hb⟩ := Part.base_of_reads reads
      exact .nothing made ⟨.slot rfl reads (named n x hx), plain.base hb, rfl⟩
    · refine (compileOptional_adds named plain param made hp).imp fun more own => ?_
      refine ⟨.base rfl reads own, plain.base hb, ?_⟩
      cases p <;> rfl

theorem compileSteps_adds (named : s.Named slots) (plain : s.registries.PlainNames) :
    ∀ (steps : List Part) {body : String} {index : Nat} {current : String} {tags : List Tag}
    {table table' : ChainTable} {c : CompiledSteps}, MadeOf s.registries.bases slots tags table →
    (compileSteps s body index current steps).run table = .ok (c, table') →
    Adds s.registries.bases slots (tagsInParts steps) tags table' fun tags =>
      List.Forall₂ (StepOf s.registries.bases tags) steps c.keys ∧ (∀ step ∈ c.keys, ChainKey.IsName step.1) ∧
        (c.steps.filterMap (·.param)).map (·.parts) = c.keys.filterMap (·.2)
  | [], body, index, current, tags, table, table', c, made, h => by
    rw [compileSteps] at h
    cases h
    exact .nothing made ⟨.nil, List.forall_mem_nil _, rfl⟩
  | ⟨key, param⟩ :: rest, body, index, current, tags, table, table', c, made, h => by
    obtain ⟨owner, subTag, p, t₁, typeName, more, hr, hp, -, hmore, rfl⟩ := compileSteps_cons_eq_ok h
    refine (compileOptional_adds named plain param made hp).trans fun _ made₁ own => ?_
    refine (compileSteps_adds named plain rest made₁ hmore).imp fun more' ⟨later, names, arguments⟩ => ?_
    refine ⟨.cons ⟨rfl, own.append more'⟩ later, List.forall_mem_cons.mpr ⟨plain.step hr, names⟩, ?_⟩
    cases p <;> simp [arguments]

theorem compileOptional_adds (named : s.Named slots) (plain : s.registries.PlainNames) :
    ∀ (param : Option Argument) {tags : List Tag} {table table' : ChainTable}
    {c : Option CompiledArgument}, MadeOf s.registries.bases slots tags table →
    (compileOptional s param).run table = .ok (c, table') →
    Adds s.registries.bases slots (tagsInOptional param) tags table' fun tags =>
      OptionalOf s.registries.bases tags param (c.map (·.parts))
  | none, tags, table, table', c, made, h => by
    rw [compileOptional] at h
    cases h
    exact .nothing made .none
  | some a, tags, table, table', c, made, h => by
    rw [compileOptional] at h
    obtain ⟨c, between, hc, h⟩ := run_bind_eq_ok.mp h
    cases h
    exact (compileArgument_adds named plain a made hc).imp fun _ own => .some own

end

theorem mapM_adds {α β : Type} {f : α → Compiling β} {P : List Tag → α → β → Prop} (within : α → List Tag)
    (append : ∀ {tags a b} more, P tags a b → P (tags ++ more) a b)
    (spec : ∀ a {tags table table' b}, MadeOf s.registries.bases slots tags table →
      (f a).run table = .ok (b, table') →
      Adds s.registries.bases slots (within a) tags table' fun tags => P tags a b) :
    ∀ (as : List α) {tags : List Tag} {table table' : ChainTable} {bs : List β},
      MadeOf s.registries.bases slots tags table → (as.mapM f).run table = .ok (bs, table') →
      Adds s.registries.bases slots (as.flatMap within) tags table' fun tags => List.Forall₂ (P tags) as bs
  | [], tags, table, table', bs, made, h => by
    rw [List.mapM_nil] at h
    cases h
    exact .nothing made .nil
  | a :: rest, tags, table, table', bs, made, h => by
    rw [List.mapM_cons] at h
    obtain ⟨b, t₁, hb, h⟩ := run_bind_eq_ok.mp h
    obtain ⟨more, t₂, hmore, h⟩ := run_bind_eq_ok.mp h
    cases h
    exact (spec a made hb).trans fun _ made' first =>
      (mapM_adds within append spec rest made' hmore).imp fun more' later => .cons (append more' first) later

/-- The tags in the arguments of an instruction, with those inside other tags. -/
def Instruction.tagsWithin (i : Instruction) : List Tag :=
  (i.args ++ i.named.map (·.2)).flatMap Argument.tagsWithin

theorem exists_of_forall₂ {α β : Type} {P : α → β → Prop} {as : List α} {bs : List β} (h : List.Forall₂ P as bs)
    {b : β} (hb : b ∈ bs) : ∃ a ∈ as, P a b := by
  induction h with
  | nil => cases hb
  | cons first _ ih =>
    rcases List.mem_cons.mp hb with rfl | hb
    · exact ⟨_, List.mem_cons_self, first⟩
    · obtain ⟨a, ha, holds⟩ := ih hb
      exact ⟨a, List.mem_cons_of_mem _ ha, holds⟩

theorem compileNamed_adds (named : s.Named slots) (plain : s.registries.PlainNames) (a : String × Argument)
    {tags : List Tag} {table table' : ChainTable} {c : String × CompiledArgument}
    (made : MadeOf s.registries.bases slots tags table) (h : (compileNamed s a).run table = .ok (c, table')) :
    Adds s.registries.bases slots a.2.tagsWithin tags table' fun tags =>
      ArgumentOf s.registries.bases tags a.2 c.2.parts := by
  obtain ⟨own, _, hown, h⟩ := run_bind_eq_ok.mp h
  cases h
  exact compileArgument_adds named plain a.2 made hown

/-- Compiling the arguments of an instruction adds chains of its own tags. -/
theorem instruction_adds (named : s.Named slots) (plain : s.registries.PlainNames) {i : Instruction} {tags : List Tag}
    {table t₁ t₂ : ChainTable} {args : List CompiledArgument} {namedArgs : List (String × CompiledArgument)}
    (made : MadeOf s.registries.bases slots tags table)
    (hargs : (i.args.mapM (compileArgument s)).run table = .ok (args, t₁))
    (hnamed : (i.named.mapM (compileNamed s)).run t₁ = .ok (namedArgs, t₂)) :
    Adds s.registries.bases slots i.tagsWithin tags t₂ fun tags => ∀ c ∈ args ++ namedArgs.map (·.2),
      ∃ a ∈ i.args ++ i.named.map (·.2), ArgumentOf s.registries.bases tags a c.parts := by
  have first : Adds s.registries.bases slots (i.args.flatMap Argument.tagsWithin) tags t₁ fun tags =>
      List.Forall₂ (fun a c => ArgumentOf s.registries.bases tags a c.parts) i.args args :=
    mapM_adds (P := fun tags a (c : CompiledArgument) => ArgumentOf s.registries.bases tags a c.parts) _
      (fun {_ _ _} more own => ArgumentOf.append own more)
      (fun a {_ _ _ _} made ha => compileArgument_adds named plain a made ha) i.args made hargs
  have second : ∀ tags, MadeOf s.registries.bases slots tags t₁ →
      Adds s.registries.bases slots (i.named.flatMap fun a => a.2.tagsWithin) tags t₂ fun tags =>
        List.Forall₂ (fun a c => ArgumentOf s.registries.bases tags a.2 c.2.parts) i.named namedArgs :=
      fun tags made =>
    mapM_adds (P := fun tags (a : String × Argument) (c : String × CompiledArgument) =>
        ArgumentOf s.registries.bases tags a.2 c.2.parts) _
      (fun {_ _ _} more own => ArgumentOf.append own more)
      (fun a {_ _ _ _} made ha => compileNamed_adds named plain a made ha) i.named made hnamed
  rw [Instruction.tagsWithin, List.flatMap_append, List.flatMap_map]
  refine first.trans fun more made' own => (second _ made').imp fun more' own' c hc => ?_
  rcases List.mem_append.mp hc with hc | hc
  · obtain ⟨a, ha, holds⟩ := exists_of_forall₂ own hc
    exact ⟨a, List.mem_append_left _ ha, holds.append more'⟩
  · obtain ⟨c', hc', rfl⟩ := List.mem_map.mp hc
    obtain ⟨a, ha, holds⟩ := exists_of_forall₂ own' hc'
    exact ⟨a.2, List.mem_append_right _ (List.mem_map_of_mem ha), holds⟩

end

/-! ### Names of slots -/

/-- Scopes whose variables have slots of their names. -/
def Compilation.Named (c : Compilation) : Prop :=
  ∀ s ∈ c.scopes, ∀ p ∈ s.names, c.slots[p.2]?.map (·.name) = some p.1

namespace Compilation.Named

variable {c : Compilation} (h : c.Named)
include h

theorem leave (index : Nat) : (c.leave index).Named :=
  fun s hs => h s ((List.dropWhile_sublist _).mem hs)

theorem openBlock (i : Instruction) : (c.openBlock i).Named := by
  unfold Compilation.openBlock
  split
  · split
    · exact h
    · intro s hs
      rcases List.mem_cons.mp hs with rfl | hs
      · exact List.forall_mem_nil _
      · exact h s hs
  · exact h

theorem declare (d : Declaration) : (c.declare d).2.Named := by
  have before : ∀ s ∈ c.scopes, ∀ p ∈ s.names, (c.declare d).2.slots[p.2]?.map (·.name) = some p.1 := by
    intro s hs p hp
    obtain ⟨slot, hslot, name⟩ := Option.map_eq_some_iff.mp (h s hs p hp)
    rw [← name]
    exact congrArg (Option.map Slot.name) (slots_push _ hslot)
  intro s hs p hp
  unfold Compilation.declare at hs
  dsimp only at hs
  split at hs
  · exact absurd hs List.not_mem_nil
  · rename_i inner outer hscopes
    rw [hscopes] at before
    rcases List.mem_cons.mp hs with rfl | hs
    · rcases mem_setKey hp with rfl | hp
      · exact congrArg (Option.map Slot.name) Array.getElem?_push_size
      · exact before inner List.mem_cons_self p hp
    · exact before s (List.mem_cons_of_mem _ hs) p hp

theorem declareAny (d : Option Declaration) : (c.declareAny d).2.Named := by
  cases d with
  | none => exact h
  | some d => exact h.declare d

theorem declared (i : Instruction) (table : ChainTable) (d : Option Declaration) :
    (c.declared i table d).2.Named := by
  have same : ({ c with table := table } : Compilation).Named := h
  exact (same.openBlock i).declareAny d

/-- Scopes look slots up by their names, whatever slots there are later. -/
theorem tagScope {slots : Array Slot} (grows : ∀ {i : Nat} {s : Slot}, c.slots[i]? = some s → slots[i]? = some s)
    (r : Registries) (line : Nat) : (c.tagScope r line).Named slots := by
  intro n i hi
  obtain ⟨s, hm, hl⟩ := List.exists_of_findSome?_eq_some hi
  obtain ⟨slot, hslot, name⟩ := Option.map_eq_some_iff.mp (h s hm _ (mem_of_lookup hl))
  rw [grows hslot]
  exact congrArg some name

end Compilation.Named

namespace Compilation

theorem named_start (predefined : List (String × String)) : (Compilation.start predefined).Named := by
  have empty : Compilation.Named ⟨[⟨none, []⟩], #[], #[], #[]⟩ := by
    intro s hs
    rcases List.mem_singleton.mp hs with rfl
    exact List.forall_mem_nil _
  exact List.foldlRecOn predefined _ empty fun c hc p _ => hc.declare ⟨p.1, p.2⟩

theorem Named.add {c c' : Compilation} {r : Registries} {i : Instruction} (h : c.Named) (ha : c.add r i = .ok c') :
    c'.Named := by
  obtain ⟨args, _, named, table, d, -, -, -, rfl⟩ := add_eq_ok ha
  exact (h.leave c.entries.size).declared i table d

end Compilation

/-- Compiling instructions adds chains of their tags. -/
theorem foldlM_adds {r : Registries} (plain : r.PlainNames) {is : List Instruction} {c c' : Compilation}
    {slots : Array Slot} {tags : List Tag} (named : c.Named)
    (grows : ∀ {i : Nat} {s : Slot}, c'.slots[i]? = some s → slots[i]? = some s)
    (made : MadeOf r.bases slots tags c.table) (h : is.foldlM (fun c i => c.add r i) c = .ok c') :
    Adds r.bases slots (is.flatMap Instruction.tagsWithin) tags c'.table fun _ => True := by
  induction is generalizing c tags with
  | nil =>
    cases h
    exact .nothing made trivial
  | cons i rest ih =>
    rw [List.foldlM_cons] at h
    obtain ⟨c₁, hadd, h⟩ := bind_eq_ok.mp h
    have named₁ := named.add hadd
    obtain ⟨args, t₁, namedArgs, t₂, d, hargs, hnamed, -, rfl⟩ := Compilation.add_eq_ok hadd
    have scope : ((c.leave c.entries.size).tagScope r i.line).Named slots :=
      (named.leave c.entries.size).tagScope (fun hs => grows (slots_of_foldlM h
        (Compilation.declareAny_slots _ d (by rw [Compilation.openBlock_slots]; exact hs)))) r i.line
    refine (instruction_adds scope plain made hargs hnamed).trans fun more made' _ => ih named₁ ?_ h
    exact (Compilation.declared_table (c.leave c.entries.size) i t₂ d).symm ▸ made'

/-! ### Faults -/

section
variable {run : Nat → Except Failure Value} {env : Environment} {failure : Failure} {fault : RuntimeFault}

theorem bind_eq_error {α β : Type} {x : Except Failure α} {f : α → Except Failure β}
    (h : (x >>= f) = .error failure) : x = .error failure ∨ ∃ a, x = .ok a ∧ f a = .error failure := by
  cases x with
  | error e => exact Or.inl (by cases h; rfl)
  | ok a => exact Or.inr ⟨a, rfl, h⟩

theorem joinParts_eq_error {parts : List CompiledPart} (h : joinParts run parts = .error failure) :
    ∃ i, .chain i ∈ parts ∧ run i = .error failure := by
  induction parts with
  | nil => cases h
  | cons part rest ih =>
    have later (h : joinParts run rest = .error failure) : ∃ i, .chain i ∈ part :: rest ∧ run i = .error failure := by
      obtain ⟨i, hi, fails⟩ := ih h
      exact ⟨i, List.mem_cons_of_mem _ hi, fails⟩
    cases part with
    | text s =>
      rcases bind_eq_error h with h | ⟨_, -, h⟩
      · exact later h
      · cases h
    | chain i =>
      rcases bind_eq_error h with h | ⟨v, -, h⟩
      · exact ⟨i, List.mem_cons_self, h⟩
      · rcases bind_eq_error h with h | ⟨_, -, h⟩
        · exact later h
        · cases h

/-- An argument fails as one of its chains does. -/
theorem CompiledArgument.evaluateWith_eq_error {a : CompiledArgument} (h : a.evaluateWith run = .error failure) :
    ∃ i, .chain i ∈ a.parts ∧ run i = .error failure := by
  unfold CompiledArgument.evaluateWith at h
  split at h
  · rename_i i hparts
    exact ⟨i, by rw [hparts]; exact List.mem_cons_self, h⟩
  · cases h
  · rcases bind_eq_error h with h | ⟨_, -, h⟩
    · exact joinParts_eq_error h
    · cases h

theorem paramWith_eq_error {param : Option CompiledArgument} {prepare : Value → Value}
    (h : paramWith run param prepare = .error failure) : ∃ a ∈ param, a.evaluateWith run = .error failure := by
  cases param with
  | none => cases h
  | some a =>
    rcases bind_eq_error h with h | ⟨_, -, h⟩
    · exact ⟨a, rfl, h⟩
    · cases h

theorem faultIn_eq_error {body : String} {x : Except TagFault Value}
    (h : faultIn body x = .error (.error (.runtime fault))) : ∃ f, fault = .inTag f body := by
  cases x with
  | ok v => cases h
  | error f =>
    refine ⟨f, ?_⟩
    cases f <;> cases h <;> rfl

theorem stepsWith_eq_error {body : String} {steps : List ChainStep} {v : Value}
    (h : stepsWith run env body v steps = .error (.error (.runtime fault))) : (∃ f, fault = .inTag f body) ∨
      ∃ a ∈ steps.filterMap (·.param), a.evaluateWith run = .error (.error (.runtime fault)) := by
  induction steps generalizing v with
  | nil => cases h
  | cons step rest ih =>
    rw [stepsWith] at h
    split at h
    · cases h
    dsimp only at h
    split at h
    · cases h
    rcases bind_eq_error h with h | ⟨param, -, h⟩
    · obtain ⟨a, ha, fails⟩ := paramWith_eq_error h
      exact Or.inr ⟨a, List.mem_filterMap.mpr ⟨step, List.mem_cons_self, ha⟩, fails⟩
    split at h
    · cases h
    rcases bind_eq_error h with h | ⟨next, -, h⟩
    · exact Or.inl (faultIn_eq_error h)
    · refine (ih h).imp id ?_
      rintro ⟨a, ha, fails⟩
      obtain ⟨step', hs, ha⟩ := List.mem_filterMap.mp ha
      exact ⟨a, List.mem_filterMap.mpr ⟨step', List.mem_cons_of_mem _ hs, ha⟩, fails⟩

/-- A runtime fault of a chain quotes the chain, or comes from one of its arguments. -/
theorem Chain.evaluateWith_eq_error {c : Chain} (h : c.evaluateWith run env = .error (.error (.runtime fault))) :
    (∃ f, fault = .inTag f c.body) ∨
      ∃ a ∈ c.arguments, a.evaluateWith run = .error (.error (.runtime fault)) := by
  unfold Chain.arguments
  rcases bind_eq_error h with h | ⟨first, -, h⟩
  · cases hs : c.start with
    | slot i =>
      rw [hs] at h
      cases h
    | base b param prepare =>
      rw [hs] at h
      rcases bind_eq_error h with h | ⟨p, -, h⟩
      · obtain ⟨a, ha, fails⟩ := paramWith_eq_error h
        exact Or.inr ⟨a, List.mem_append_left _ (Option.mem_toList.mpr ha), fails⟩
      · exact Or.inl (faultIn_eq_error h)
  rcases bind_eq_error h with h | ⟨v, -, h⟩
  · exact (stepsWith_eq_error h).imp id fun ⟨a, ha, fails⟩ =>
      ⟨a, List.mem_append_right _ (List.mem_append_left _ ha), fails⟩
  · cases hf : c.fallback with
    | none =>
      rw [hf] at h
      cases h
    | some a =>
      rw [hf] at h
      dsimp only at h
      split at h
      · exact Or.inr ⟨a, List.mem_append_right _ (List.mem_append_right _ (Option.mem_toList.mpr rfl)), h⟩
      · cases h

end

section
variable {bases : BaseRegistry} {slots : Array Slot} {tags : List Tag} {table : ChainTable} {env : Environment}
  {fault : RuntimeFault}

/-- A runtime fault of a chain quotes the tag of that chain or of one before it, whose canonical form is that of a tag
    within its own. -/
theorem MadeOf.quotes (made : MadeOf bases slots tags table) (ordered : env.Ordered)
    (chains : env.chains = table.map (·.chain)) {i : Nat} {t : Tag} (ht : tags[i]? = some t)
    (h : env.value i = .error (.error (.runtime fault))) : ∃ f j quoted own, j ≤ i ∧ tags[j]? = some quoted ∧
      fault = .inTag f quoted.bodyText ∧ own ∈ t :: t.tagsWithin ∧ quoted.canonical bases = own.canonical bases := by
  induction i using Nat.strongRecOn generalizing t with
  | ind i ih =>
    have lt : i < table.size := made.length ▸ (List.getElem?_eq_some_iff.mp ht).1
    have he : table[i]? = some table[i] := Array.getElem?_eq_getElem lt
    have hc : env.chains[i]? = some table[i].chain := by rw [chains, Array.getElem?_map, he]; rfl
    obtain ⟨t', k, ht', key, -, -, body, arguments⟩ := made.made he
    cases ht.symm.trans ht'
    rw [Environment.value_eq ordered hc] at h
    rcases Chain.evaluateWith_eq_error h with ⟨f, hf⟩ | ⟨a, ha, fails⟩
    · exact ⟨f, i, t, t, Nat.le_refl i, ht, body ▸ hf, List.mem_cons_self, rfl⟩
    · obtain ⟨n, hn, fails⟩ := CompiledArgument.evaluateWith_eq_error fails
      have before : n < i := (ordered hc).argument ha n hn
      obtain ⟨inner, hinner, u, hu, alike⟩ := key.exists_tag (arguments ▸ List.mem_map_of_mem ha) hn
      obtain ⟨f, j, quoted, own, le, hj, hf, hown, same⟩ := ih n before hu fails
      obtain ⟨own', hown', same'⟩ := Tag.exists_alike alike hown
      refine ⟨f, j, quoted, own', Nat.le_of_lt (Nat.lt_of_le_of_lt le before), hj, hf, List.mem_cons_of_mem _ ?_,
        same.trans same'⟩
      rcases List.mem_cons.mp hown' with rfl | hown'
      · exact hinner
      · exact t.tagsWithin_trans inner hinner own' hown'

end

/-! ### What is in sight -/

section
variable {r : Registries} (plain : r.PlainNames) {row : List Instruction} {predefined : List (String × String)}
  {code : Code} (h : compile r row predefined = .ok code) {index : Nat} {e : Entry}
  (he : code.entries[index]? = some e)
include plain h he

/-- An instruction sees variables by their names, their slots have their types, and an argument has the type and the
    value that it comes to in sight of them. -/
theorem argument_at : ∃ s : Sight, s.registries = r ∧
    (∀ {n : String} {x : Variable}, s.find? n = some x → code.slots[x.slot]? = some ⟨n, x.typeName⟩) ∧
      ∀ {k : Nat} {a : Argument}, e.instruction.args[k]? = some a → ∃ c, e.args[k]? = some c ∧
        s.argumentType a = some c.typeName ∧ ∀ slots vars,
          (c.evaluate ⟨slots, vars, r.types.conversions, code.chains⟩).toOption =
          s.argumentValue r.adapt slots vars a := by
  obtain ⟨c, c₁, c₂, hi, hc, hadd, hrest, hcode⟩ := compile_at h he
  have named : c.Named := foldlM_keeps Compilation.Named (fun _ _ _ named add => named.add add)
    (Compilation.named_start predefined) hc
  obtain ⟨v, follows⟩ := follows_of_foldlM plain hc
  obtain ⟨follows₁, -, e', he', -, agree⟩ := follows.add plain hadd
  obtain ⟨sound, grows, es, hes, -, -⟩ := follows₁.foldlM plain hrest
  have extended {i : Nat} {s : Slot} (hs : c.slots[i]? = some s) : code.slots[i]? = some s := by
    have onwards : (e.instruction :: row.drop (index + 1)).foldlM (fun c i => c.add r i) c = .ok c₂ := by
      rw [List.foldlM_cons]
      exact bind_eq_ok.mpr ⟨c₁, hadd, hrest⟩
    rw [hcode]
    exact slots_of_foldlM onwards hs
  obtain rfl : e' = e := by
    have here : c₂.entries.toList[index]? = some e' := by
      rw [hes, he', Array.toList_push, List.append_assoc,
        List.getElem?_append_right (Nat.le_of_eq (entries_size hi hc)), Array.length_toList, entries_size hi hc,
        Nat.sub_self]
      rfl
    rw [hcode, ← Array.getElem?_toList] at he
    exact Option.some.inj (here.symm.trans he)
  refine ⟨(v.leave c.entries.size).sight r, rfl, fun {n x} hx => ?_, fun {k a} ha => ?_⟩
  · have finds := (follows.view.leave c.entries.size).finds r e'.instruction.line
    obtain ⟨slot, hslot, type⟩ := finds.typed hx
    have lookup := finds.lookup n
    rw [show (v.leave c.entries.size).find? n = some x from hx] at lookup
    have name := (named.leave c.entries.size).tagScope extended r e'.instruction.line n x.slot lookup
    have hslot := extended hslot
    rw [hslot] at name ⊢
    rw [← type, ← Option.some.inj name]
  · obtain ⟨length, agree⟩ := List.forall₂_iff_get.mp (agree.mono grows).args
    obtain ⟨lt, rfl⟩ := List.getElem?_eq_some_iff.mp ha
    have own := agree k lt (length ▸ lt)
    refine ⟨_, List.getElem?_eq_getElem (length ▸ lt), own.typed, fun slots vars => ?_⟩
    rw [hcode]
    exact own.value (holds_of_sound sound slots vars)

end

/-! ### Compiled code -/

theorem Tag.toText_eq (t : Tag) : t.toText = "<\x7b" ++ t.bodyText ++ "\x7d>" := by
  apply String.toList_inj.mp
  rw [Tag.toText, Segment.write, t.write_eq]
  simp [Tag.bodyText]

/-- The message of a fault in a tag ends in the source text of the tag. -/
theorem message_inTag (f : TagFault) (t : Tag) :
    (RuntimeFault.inTag f t.bodyText).message = f.message ++ (" (in tag '" ++ t.toText ++ "')") := by
  have opening : " (in tag '<\x7b" = " (in tag '" ++ "<\x7b" := by decide
  have closing : "\x7d>')" = "\x7d>" ++ "')" := by decide
  have message : (RuntimeFault.inTag f t.bodyText).message =
      f.message ++ " (in tag '<\x7b" ++ t.bodyText ++ "\x7d>')" := rfl
  rw [message, t.toText_eq, opening, closing]
  simp only [String.append_assoc]

/-- The chains of compiled code have been made of the tags of its instructions, and those that an instruction names, of
    the tags up to its own. -/
theorem compile_madeOf {r : Registries} (plain : r.PlainNames) {row : List Instruction}
    {predefined : List (String × String)} {code : Code} (h : compile r row predefined = .ok code) {index : Nat}
    {e : Entry} (he : code.entries[index]? = some e) : ∃ tags more table,
      MadeOf r.bases code.slots (tags ++ more) table ∧ code.chains = table.map (·.chain) ∧
      (∀ t ∈ tags, ∃ i ∈ row.take (index + 1), t ∈ i.tagsWithin) ∧
      ∀ c ∈ e.args ++ e.named.map (·.2), ∃ a ∈ e.instruction.args ++ e.instruction.named.map (·.2),
        ArgumentOf r.bases tags a c.parts := by
  obtain ⟨c, args, t₁, namedArgs, t₂, d, c₂, hi, hc, hargs, hnamed, -, hentry, hrest, hcode⟩ := entry_compiled_at h he
  have slots : code.slots = c₂.slots := by rw [hcode]
  have extended {i : Nat} {s : Slot} (hs : c.slots[i]? = some s) : code.slots[i]? = some s := by
    rw [slots]
    refine slots_of_foldlM hrest (Compilation.declareAny_slots _ d ?_)
    rw [Compilation.openBlock_slots]
    exact hs
  have named : c.Named := foldlM_keeps Compilation.Named (fun _ _ _ named add => named.add add)
    (Compilation.named_start predefined) hc
  have start : MadeOf r.bases code.slots [] (Compilation.start predefined).table := by
    rw [(start_empty predefined).2]
    exact madeOf_empty
  obtain ⟨before, within, made, -⟩ := foldlM_adds plain (Compilation.named_start predefined) extended start hc
  obtain ⟨own, within', made', arguments⟩ :=
    instruction_adds ((named.leave index).tagScope extended r e.instruction.line) plain made hargs hnamed
  have declared : ((c.leave index).extend r e.instruction args namedArgs t₂ d).Named :=
    (named.leave index).declared e.instruction t₂ d
  have extend : MadeOf r.bases code.slots ([] ++ before ++ own)
      ((c.leave index).extend r e.instruction args namedArgs t₂ d).table :=
    (Compilation.declared_table (c.leave index) e.instruction t₂ d).symm ▸ made'
  obtain ⟨more, -, all, -⟩ := foldlM_adds plain declared (fun hs => slots ▸ hs) extend hrest
  have chains : code.chains = c₂.table.map (·.chain) := by rw [hcode]
  refine ⟨before ++ own, more, c₂.table, all, chains, fun t ht => ?_, ?_⟩
  · rw [List.take_add_one, hi]
    rcases List.mem_append.mp ht with ht | ht
    · obtain ⟨i, hi, ht⟩ := List.mem_flatMap.mp (within t ht)
      exact ⟨i, List.mem_append_left _ hi, ht⟩
    · exact ⟨e.instruction, List.mem_append_right _ List.mem_cons_self, within' t ht⟩
  · rw [hentry]
    exact arguments

/-- A runtime fault in an argument of an instruction quotes a tag of this instruction or of one before it, and the
    canonical form of what it quotes is that of a tag in the arguments of this instruction. -/
theorem compile_quotes {row : List Instruction} {predefined : List (String × String)} {code : Code}
    (h : compile .builtin row predefined = .ok code) {index : Nat} {e : Entry} (he : code.entries[index]? = some e)
    {c : CompiledArgument} (hc : c ∈ e.args ++ e.named.map (·.2)) {slots : Array Value} {vars : Vars}
    {fault : RuntimeFault} (fails : c.evaluate (code.environment slots vars) = .error (.error (.runtime fault))) :
    ∃ f quoted own, fault = .inTag f quoted.bodyText ∧
      fault.message = f.message ++ (" (in tag '" ++ quoted.toText ++ "')") ∧
      (∃ i ∈ row.take (index + 1), quoted ∈ i.tagsWithin) ∧ own ∈ e.instruction.tagsWithin ∧
      quoted.canonical .builtin = own.canonical .builtin := by
  obtain ⟨tags, more, table, made, chains, within, arguments⟩ := compile_madeOf plainNames_builtin h he
  obtain ⟨a, ha, parts⟩ := arguments c hc
  obtain ⟨i, hi, fails⟩ := CompiledArgument.evaluateWith_eq_error fails
  obtain ⟨t, ht, u, hu, alike⟩ := ArgumentOf.exists_tag parts hi
  have lt := (List.getElem?_eq_some_iff.mp hu).1
  have ordered : (code.environment slots vars).Ordered := fun hc => (Code.fits_of_compile h).chains _ _ hc
  obtain ⟨f, j, quoted, inner, le, hj, hf, hinner, same⟩ :=
    made.quotes ordered chains ((List.getElem?_append_left lt).trans hu) fails
  obtain ⟨own, hown, same'⟩ := Tag.exists_alike alike hinner
  rw [List.getElem?_append_left (Nat.lt_of_le_of_lt le lt)] at hj
  have same : quoted.canonical Registries.builtin.bases = own.canonical Registries.builtin.bases := same.trans same'
  have builtin : Registries.builtin.bases = .builtin := rfl
  rw [builtin] at same
  refine ⟨f, quoted, own, hf, hf ▸ message_inTag f quoted, within quoted (List.mem_of_getElem? hj), ?_, same⟩
  refine List.mem_flatMap.mpr ⟨a, ha, ?_⟩
  rcases List.mem_cons.mp hown with rfl | hown
  · exact ht
  · exact a.tagsWithin_trans t ht own hown

/-- A source text with two tags of one canonical form that fail. -/
def respelledTag : String :=
  "try \x7b echo <\x7btext[a].substring[x]\x7d> \x7d; echo <\x7bTEXT[a].substring[x]\x7d>"

/-- The entry at a place of code, and the fault of its first argument. -/
def Code.faultAt? (code : Code) (index : Nat) : Option (Entry × CompiledArgument × RuntimeFault) :=
  match code.entries[index]? with
  | some e =>
    match e.args with
    | c :: _ =>
      match c.evaluate (code.environment #[] []) with
      | .error (.error (.runtime fault)) => some (e, c, fault)
      | _ => none
    | [] => none
  | none => none

theorem Code.faultAt?_eq_some {code : Code} {index : Nat} {e : Entry} {c : CompiledArgument} {fault : RuntimeFault}
    (h : code.faultAt? index = some (e, c, fault)) : code.entries[index]? = some e ∧
      c ∈ e.args ++ e.named.map (·.2) ∧
      c.evaluate (code.environment #[] []) = .error (.error (.runtime fault)) := by
  unfold Code.faultAt? at h
  split at h
  · rename_i e' he
    split at h
    · rename_i c' rest hargs
      split at h
      · rename_i fails
        cases h
        exact ⟨he, by rw [hargs]; exact List.mem_cons_self, fails⟩
      · cases h
    · cases h
  · cases h

theorem compile_quotes_respelled : ∃ row code e c fault, parseScript CommandRegistry.builtin respelledTag = .ok row ∧
    compile .builtin row [] = .ok code ∧ code.entries[3]? = some e ∧ c ∈ e.args ++ e.named.map (·.2) ∧
    c.evaluate (code.environment #[] []) = .error (.error (.runtime fault)) ∧
    ∃ f quoted own, fault = .inTag f quoted.bodyText ∧
      fault.message = f.message ++ (" (in tag '" ++ quoted.toText ++ "')") ∧
      (∃ i ∈ row.take 4, quoted ∈ i.tagsWithin) ∧ own ∈ e.instruction.tagsWithin ∧
      quoted.canonical .builtin = own.canonical .builtin := by
  have found : (tableOfSource? respelledTag).any (fun (_, code, _) => (code.faultAt? 3).isSome) = true := by
    decide +kernel
  obtain ⟨row, code, _, hrow, hcode, -, found⟩ := of_tableOfSource? found
  obtain ⟨⟨e, c, fault⟩, found⟩ := Option.isSome_iff_exists.mp found
  obtain ⟨he, hc, fails⟩ := Code.faultAt?_eq_some found
  exact ⟨row, code, e, c, fault, hrow, hcode, he, hc, fails, compile_quotes hcode he hc fails⟩

/-- The last instruction has one tag, and its fault quotes the tag of another instruction. -/
theorem quotes_other_instruction : ∃ row code e c fault f body,
    parseScript CommandRegistry.builtin respelledTag = .ok row ∧ compile .builtin row [] = .ok code ∧
      code.entries[3]? = some e ∧ c ∈ e.args ++ e.named.map (·.2) ∧
      c.evaluate (code.environment #[] []) = .error (.error (.runtime fault)) ∧ fault = .inTag f body ∧
      ∀ own ∈ e.instruction.tagsWithin, own.bodyText ≠ body := by
  have found : (tableOfSource? respelledTag).any (fun (_, code, _) => (code.faultAt? 3).any fun (e, _, fault) =>
      match fault with
      | .inTag _ body => e.instruction.tagsWithin.all fun own => own.bodyText != body
      | _ => false) = true := by
    decide +kernel
  obtain ⟨row, code, _, hrow, hcode, -, found⟩ := of_tableOfSource? found
  obtain ⟨⟨e, c, fault⟩, hfault, found⟩ := (Option.any_eq_true _ _).mp found
  obtain ⟨he, hc, fails⟩ := Code.faultAt?_eq_some hfault
  dsimp only at found
  split at found
  · rename_i f body
    refine ⟨row, code, e, c, _, f, body, hrow, hcode, he, hc, fails, rfl, fun own hown => ?_⟩
    exact bne_iff_ne.mp (List.all_eq_true.mp found own hown)
  · cases found

end CommandScript
