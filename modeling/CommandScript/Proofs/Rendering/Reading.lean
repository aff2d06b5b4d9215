import CommandScript.Proofs.Rendering.Core
import CommandScript.Proofs.Rendering.SourceLines
import CommandScript.Proofs.Rendering.Words

/-! Reading the source form of a script. An instruction that is read back when it is written by itself begins no
    comment, is not cut, and leaves no quote open, since any of these would cost it a mark or its block. It is then
    scanned in the same way on any line of a script, and the lines of a tree make the tree again. -/

namespace CommandScript
open Text

/-! ### Blanks -/

section
variable {bs : List Char} (h : ∀ c ∈ bs, isBlank c = true)
include h

theorem uncommented_blank (quote next : Option Char) : uncommented quote next bs = true := by
  induction bs generalizing quote with
  | nil => rfl
  | cons c bs ih =>
    obtain ⟨hc, h⟩ := List.forall_mem_cons.mp h
    have none_here : commentAt quote (bs.head?.or next) c = false := by
      rw [commentAt, decide_eq_false, Bool.and_false, Bool.false_and]
      rintro rfl
      cases hc
    rw [uncommented, none_here, ih h]
    rfl

theorem unbroken_blank (quote previous next : Option Char) : unbroken quote previous next bs = true := by
  induction bs generalizing quote previous with
  | nil => rfl
  | cons c bs ih =>
    obtain ⟨hc, h⟩ := List.forall_mem_cons.mp h
    have none_here : separates quote previous (bs.head?.or next) c = false := by
      refine Bool.eq_false_iff.mpr fun hs => ?_
      have hs := (Bool.and_eq_true_iff.mp hs).2
      simp only [Bool.or_eq_true, Bool.and_eq_true, decide_eq_true_eq] at hs
      rcases hs with (rfl | ⟨rfl, -⟩) | ⟨rfl, -⟩ <;> cases hc
    rw [unbroken, none_here, ih h]
    rfl

theorem foldl_quoteAfter_blank (quote : Option Char) : bs.foldl quoteAfter quote = quote := by
  refine foldl_quoteAfter fun c hc => if_neg ?_
  rintro (rfl | rfl) <;> cases h _ hc

theorem map_flat_blank : ∀ c ∈ bs.map flat, isBlank c = true := by
  intro c hc
  obtain ⟨d, hd, rfl⟩ := List.mem_map.mp hc
  rw [flat]
  split
  · rfl
  · exact h d hd

end

theorem indent_blank (depth : Nat) : ∀ c ∈ indent depth, isBlank c = true := by
  intro c hc
  rw [List.eq_of_mem_replicate hc]
  rfl

/-! ### Between commands -/

/-- The text of a command that writes an instruction. -/
def Instruction.text (i : Instruction) : List Char :=
  trimChars (i.renderChars.map flat)

/-- The scanner between two commands. -/
structure Scan.Between (s : Scan) : Prop where
  region : s.region = .code
  quote : s.quote = none
  blank : ∀ c ∈ s.current, isBlank c = true
  previous : s.previous ≠ some '<'

/-- The tokens of a command, unless it is blank. -/
def commandTokens (text : List Char) (line : Nat) : List Token :=
  if text.isEmpty then [] else [.command (String.ofList text) line]

namespace Scan

theorem flush_tokens_eq (s : Scan) :
    s.flush.tokens = commandTokens (trimChars s.current.reverse) s.startLine ++ s.tokens := by
  unfold flush commandTokens
  dsimp only
  split <;> rfl

variable {s : Scan}

/-- Blanks are passed over. -/
theorem Between.steps_blank (b : s.Between) (next : Option Char) {bs : List Char}
    (h : ∀ c ∈ bs, isBlank c = true) : (s.steps next bs).Between ∧ (s.steps next bs).tokens = s.tokens := by
  obtain ⟨tokens, current⟩ := steps_unbroken (s := s) (unbroken_blank h s.quote s.previous next)
  refine ⟨⟨?_, ?_, fun c hc => ?_, ?_⟩, tokens⟩
  · rw [steps_region, b.region]
  · rw [steps_quote, foldl_quoteAfter_blank h, b.quote]
  · rw [current, List.mem_append, List.mem_reverse] at hc
    exact hc.elim (map_flat_blank h c) (b.blank c)
  · rw [steps_previous]
    cases hl : bs.getLast? with
    | none => exact b.previous
    | some d =>
      intro hd
      cases hd
      cases h '<' (List.mem_of_getLast? hl)

/-- A separator ends the command before it. -/
theorem between_of_separates {c : Char} {next : Option Char} (region : s.region = .code)
    (h : separates s.quote s.previous next c = true) : (s.step c next).Between ∧
      ∃ line, (s.step c next).tokens =
        separatorTokens c (commandTokens (trimChars s.current.reverse) line ++ s.tokens) := by
  obtain ⟨tokens, current⟩ := step_separates h
  obtain ⟨free, hc⟩ := Bool.and_eq_true_iff.mp h
  simp only [Bool.or_eq_true, Bool.and_eq_true, decide_eq_true_eq] at hc
  refine ⟨⟨?_, ?_, fun d hd => ?_, ?_⟩, (s.begin c).startLine, ?_⟩
  · rw [step_region, region]
  · rw [step_quote, Option.isNone_iff_eq_none.mp free]
    rcases hc with (rfl | ⟨rfl, -⟩) | ⟨rfl, -⟩ <;> rfl
  · rw [current] at hd
    cases hd
  · rw [step_previous]
    rcases hc with (rfl | ⟨rfl, -⟩) | ⟨rfl, -⟩ <;> decide
  · rw [tokens, flush_tokens_eq, begin_current, begin_tokens]

/-- Text that is not cut makes the text of a command. -/
theorem Between.steps_text (b : s.Between) {next : Option Char} (hn : next ≠ some '>') {cs : List Char}
    (h : unbroken none none (some ' ') cs = true) : (s.steps next cs).tokens = s.tokens ∧
      trimChars (s.steps next cs).current.reverse = trimChars (cs.map flat) := by
  have here : unbroken s.quote s.previous next cs = true := by
    rw [b.quote, ← h]
    refine unbroken_congr ?_ ?_ cs
    · exact ⟨fun h => absurd h b.previous, nofun⟩
    · exact ⟨fun h => absurd h hn, nofun⟩
  obtain ⟨tokens, current⟩ := steps_unbroken here
  refine ⟨tokens, ?_⟩
  rw [current, List.reverse_append, List.reverse_reverse]
  exact trimChars_blank_append (fun c hc => b.blank c (List.mem_reverse.mp hc)) _

/-- What stands behind a command on its line ends it. -/
theorem steps_commandEnd (region : s.region = .code) (quote : s.quote = none) (owner : Bool) (next : Option Char) :
    (s.steps next (commandEnd owner)).Between ∧ ∃ line, (s.steps next (commandEnd owner)).tokens =
      (if owner then [.openBrace] else []) ++ (commandTokens (trimChars s.current.reverse) line ++ s.tokens) := by
  have lineBreak : ∀ c ∈ ['\n'], isBlank c = true := List.forall_mem_singleton.mpr rfl
  cases owner with
  | false =>
    have ends : separates s.quote s.previous (some '\n') ';' = true := by rw [quote]; rfl
    obtain ⟨between, line, tokens⟩ := between_of_separates region ends
    obtain ⟨after, same⟩ := between.steps_blank next lineBreak
    exact ⟨after, line, same.trans tokens⟩
  | true =>
    have free : separates s.quote s.previous (some '\x7b') ' ' = false := by rw [quote]; rfl
    obtain ⟨tokens, current⟩ := step_within free
    have text : trimChars (s.step ' ' (some '\x7b')).current.reverse = trimChars s.current.reverse := by
      rw [current, List.reverse_cons]
      exact trimChars_append_blank (List.forall_mem_singleton.mpr rfl) _
    have opens : separates (s.step ' ' (some '\x7b')).quote (s.step ' ' (some '\x7b')).previous (some '\n') '\x7b' =
        true := by
      rw [step_quote, step_previous, quote]
      decide
    obtain ⟨between, line, opened⟩ := between_of_separates ((step_region ..).trans region) opens
    rw [text, tokens] at opened
    obtain ⟨after, same⟩ := between.steps_blank next lineBreak
    exact ⟨after, line, same.trans opened⟩

/-- A command that is not cut and leaves no quote open is read from its line. -/
theorem Between.steps_command (b : s.Between) {i : Instruction}
    (h : unbroken none none (some ' ') i.renderChars = true)
    (closed : i.renderChars.foldl quoteAfter none = none) (depth : Nat) (owner : Bool) (next : Option Char) :
    (s.steps next (SourceLine.chars (.command depth i owner))).Between ∧
      ∃ line, (s.steps next (SourceLine.chars (.command depth i owner))).tokens =
        (if owner then [.openBrace] else []) ++ (commandTokens i.text line ++ s.tokens) := by
  rw [SourceLine.chars, steps_append, steps_append]
  obtain ⟨between, same⟩ := b.steps_blank (((i.renderChars ++ commandEnd owner).head?).or next) (indent_blank depth)
  have behind : (commandEnd owner).head?.or next ≠ some '>' := by cases owner <;> simp [commandEnd]
  obtain ⟨tokens, text⟩ := between.steps_text behind h
  obtain ⟨after, line, ended⟩ := steps_commandEnd
    ((steps_region _ ((commandEnd owner).head?.or next) i.renderChars).trans between.region)
    (by rw [steps_quote, between.quote, closed]) owner next
  refine ⟨after, line, ?_⟩
  rw [ended, tokens, text, same]
  rfl

/-- The line that ends a block is read as a brace. -/
theorem Between.steps_close (b : s.Between) (depth : Nat) (next : Option Char) :
    (s.steps next (SourceLine.chars (.close depth))).Between ∧
      (s.steps next (SourceLine.chars (.close depth))).tokens = .closeBrace :: s.tokens := by
  rw [SourceLine.chars, steps_append]
  obtain ⟨between, same⟩ := b.steps_blank ((['\x7d', '\n'].head?).or next) (indent_blank depth)
  have ends : separates (s.steps (['\x7d', '\n'].head?.or next) (indent depth)).quote
      (s.steps (['\x7d', '\n'].head?.or next) (indent depth)).previous (some '\n') '\x7d' = true := by
    rw [between.quote]
    rfl
  obtain ⟨closed, line, tokens⟩ := between_of_separates between.region ends
  have lineBreak : ∀ c ∈ ['\n'], isBlank c = true := List.forall_mem_singleton.mpr rfl
  obtain ⟨after, unchanged⟩ := closed.steps_blank next lineBreak
  refine ⟨after, unchanged.trans ?_⟩
  have blank :
      commandTokens (trimChars (s.steps (['\x7d', '\n'].head?.or next) (indent depth)).current.reverse) line =
        [] := by
    rw [trimChars_eq_nil.mpr fun c hc => between.blank c (List.mem_reverse.mp hc)]
    rfl
  rw [tokens, blank, same]
  rfl

end Scan

/-! ### Arguments -/

/-- The word that an argument without a key is written as. -/
def Argument.word (a : Argument) : Word :=
  ⟨a.source, a.quoted || a.source.isEmpty || needsQuotes 0 a.source⟩

/-- The text of an argument with its key. -/
def namedText (entry : String × Argument) : List Char :=
  '-' :: '-' :: (entry.1.toList ++ '=' :: entry.2.source)

/-- A text that is read as it is written where no quotes stand around it: it needs none, closes the tags that it opens,
    and no comment begins in it. -/
structure PlainText (cs : List Char) : Prop where
  whole : needsQuotes 0 cs = false
  closed : openTags 0 cs = 0
  noComment : uncommented none none cs = true

/-- An argument without a key that is read as it is written: it holds quotes of one kind at most, and no comment begins
    in it if no quotes stand around it. -/
structure Argument.Writable (a : Argument) : Prop where
  oneKind : '"' ∉ a.source ∨ '\'' ∉ a.source
  noComment : a.word.quoted = false → uncommented none none a.source = true

instance : DecidablePred PlainText := fun cs =>
  decidable_of_iff (needsQuotes 0 cs = false ∧ openTags 0 cs = 0 ∧ uncommented none none cs = true)
    ⟨fun ⟨whole, closed, noComment⟩ => ⟨whole, closed, noComment⟩, fun h => ⟨h.whole, h.closed, h.noComment⟩⟩

instance : DecidablePred Argument.Writable := fun a =>
  decidable_of_iff (('"' ∉ a.source ∨ '\'' ∉ a.source) ∧
      (a.word.quoted = false → uncommented none none a.source = true))
    ⟨fun ⟨oneKind, noComment⟩ => ⟨oneKind, noComment⟩, fun h => ⟨h.oneKind, h.noComment⟩⟩

theorem PlainText.writes {cs : List Char} (h : PlainText cs) (filled : cs ≠ []) : Writes cs ⟨cs, false⟩ :=
  writes_plain filled h.whole h.closed

theorem PlainText.phrase {cs : List Char} (h : PlainText cs) (filled : cs ≠ []) : Phrase cs :=
  phrase_plain filled h.whole h.closed h.noComment

theorem quoteWord_plain {cs : List Char} (filled : cs ≠ []) (h : needsQuotes 0 cs = false) :
    quoteWord false cs = cs := by
  simp [quoteWord, h, filled]

/-- An argument is written as its word. -/
theorem Argument.Writable.written {a : Argument} (h : a.Writable) (closed : openTags 0 a.source = 0) :
    Writes (quoteWord a.quoted a.source) a.word ∧ Phrase (quoteWord a.quoted a.source) := by
  cases hw : a.word.quoted with
  | false =>
    have bare := hw
    simp only [Argument.word, Bool.or_eq_false_iff, List.isEmpty_eq_false_iff] at bare
    obtain ⟨⟨unquoted, filled⟩, whole⟩ := bare
    have same : a.word = ⟨a.source, false⟩ := by rw [← hw]; rfl
    rw [unquoted, quoteWord_plain filled whole, same]
    exact ⟨writes_plain filled whole closed, phrase_plain filled whole closed (h.noComment hw)⟩
  | true =>
    have same : a.word = ⟨a.source, true⟩ := by rw [← hw]; rfl
    have quotes : (!a.quoted && !a.source.isEmpty && !needsQuotes 0 a.source) = false := by
      rw [← Bool.not_or, ← Bool.not_or, show (_ || _ || _) = true from hw]
      rfl
    rw [quoteWord, quotes, if_neg Bool.false_ne_true, same]
    split
    · rename_i double
      have single : '\'' ∉ a.source := h.oneKind.resolve_left (not_not_intro (by simpa using double))
      exact ⟨writes_quoted (Or.inr rfl) single closed, phrase_quoted (Or.inr rfl) single⟩
    · rename_i double
      have double : '"' ∉ a.source := by simpa using double
      exact ⟨writes_quoted (Or.inl rfl) double closed, phrase_quoted (Or.inl rfl) double⟩

theorem cons_of_outsideTags {cs : List Char} {c : Char} {more : List (Option Char)}
    (h : outsideTags 0 cs = some c :: more) : ∃ rest, cs = c :: rest ∧ outsideTags 0 rest = more := by
  cases cs with
  | nil => cases h
  | cons d rest =>
    by_cases opens : ∃ rest', d = '<' ∧ rest = '\x7b' :: rest'
    · obtain ⟨rest, rfl, rfl⟩ := opens
      cases h
    · rw [outsideTags_cons fun rest' hd heq => opens ⟨rest', hd, heq⟩] at h
      cases h
      exact ⟨rest, rfl, rfl⟩

section
variable {cs : List Char} {a : Argument} (h : ReadsArgument cs a)
include h

theorem ReadsArgument.openTags_source : openTags 0 a.source = 0 :=
  openTags_of_pieces (not_broken_of_alike h.alike).2

theorem ReadsArgument.lineBreak_source (noBreak : '\n' ∉ cs) : '\n' ∉ a.source :=
  fun hc => noBreak (h.trims.losesBlanks.sublist.subset hc)

/-- The source form of an argument without a key is not read as a key and its argument. -/
theorem ReadsArgument.named?_source (unnamed : (⟨cs, false⟩ : Word).named? = none) :
    (⟨a.source, false⟩ : Word).named? = none := by
  rw [Option.eq_none_iff_forall_ne_some]
  rintro ⟨key, value⟩ hn
  obtain ⟨rest, dashes, cut⟩ := Option.bind_eq_some_iff.mp hn
  have source : a.source = '-' :: '-' :: rest := eq_of_dropStart? dashes
  -- Outside tags the text is the same, so it begins with the same dashes.
  have outside : outsideTags 0 cs = some '-' :: some '-' :: outsideTags 0 rest := by
    rw [← h.alike.outside, source, outsideTags_cons (by simp), outsideTags_cons (by simp)]
  obtain ⟨behind, rfl, later⟩ := cons_of_outsideTags outside
  obtain ⟨own, rfl, -⟩ := cons_of_outsideTags later
  have sign : '=' ∈ a.source := by
    rw [source, (splitFirst_eq_some.mp cut).2]
    simp
  have own_sign : '=' ∈ '-' :: '-' :: own := by
    rw [← List.count_pos_iff, ← h.count_source rfl]
    exact List.count_pos_iff.mpr sign
  have unsigned : '=' ∉ own := splitFirst_eq_none.mp unnamed
  simp [unsigned] at own_sign

end

/-! ### An instruction by itself -/

namespace Instruction

/-- An instruction that is read as it is written. No quotes may stand around its name and its named arguments, since a
    word between quotes is an argument without a key, and in no tag a bar may stand at the end of a key right before
    those of a fallback. -/
structure Writable (i : Instruction) : Prop where
  name : PlainText i.name.toList
  args : ∀ a ∈ i.args, a.Writable
  named : ∀ entry ∈ i.named, PlainText (namedText entry)
  clear : ∀ a ∈ i.args ++ i.named.map Prod.snd, ∀ t ∈ a.tagsWithin, t.barred = false

instance : DecidablePred Writable := fun i =>
  decidable_of_iff (PlainText i.name.toList ∧ (∀ a ∈ i.args, a.Writable) ∧
      (∀ entry ∈ i.named, PlainText (namedText entry)) ∧
      ∀ a ∈ i.args ++ i.named.map Prod.snd, ∀ t ∈ a.tagsWithin, t.barred = false)
    ⟨fun ⟨name, args, named, clear⟩ => ⟨name, args, named, clear⟩, fun h => ⟨h.name, h.args, h.named, h.clear⟩⟩

/-- What holds of every instruction that is read from a text without line breaks. -/
structure Sourced (i : Instruction) : Prop where
  filled : i.name.toList ≠ []
  lower : asciiLower i.name = i.name
  waiting : i.waitFor = false → ∀ c ∈ i.name.toList.head?, c ≠ '&'
  unbroken : '\n' ∉ i.name.toList
  args : ∀ a ∈ i.args, ∃ cs, ReadsArgument cs a.bare ∧ '\n' ∉ cs ∧
    (a.quoted = false → (⟨cs, false⟩ : Word).named? = none)
  named : ∀ entry ∈ i.named, ∃ cs, ReadsArgument cs entry.2 ∧ '\n' ∉ cs
  keys : ∀ entry ∈ i.named, asciiLower entry.1 = entry.1 ∧ '=' ∉ entry.1.toList ∧ '\n' ∉ entry.1.toList
  ascending : i.named.Pairwise fun a b => a.1 < b.1

/-- An instruction whose source form begins no comment, is not cut, leaves no quote open, and is read back. -/
structure Scanned (i : Instruction) : Prop where
  noComment : uncommented none (some ' ') i.renderChars = true
  notCut : unbroken none none (some ' ') i.renderChars = true
  closed : i.renderChars.foldl quoteAfter none = none
  reads : ∀ line, ∃ j, read (String.ofList i.text) line = .ok j ∧ j.written = i.written

end Instruction

/-! #### What is read -/

theorem mem_insertNamed {key : String} {a : Argument} {named : NamedArguments} {entry : String × Argument}
    (h : entry ∈ insertNamed key a named) : entry = (key, a) ∨ entry ∈ named := by
  induction named with
  | nil => exact Or.inl (List.mem_singleton.mp h)
  | cons first rest ih =>
    obtain ⟨k, b⟩ := first
    rw [insertNamed] at h
    split at h
    · exact (List.mem_cons.mp h).imp id (List.mem_cons_of_mem _)
    · split at h
      · exact List.mem_cons.mp h
      · rcases List.mem_cons.mp h with rfl | h
        · exact Or.inr List.mem_cons_self
        · exact (ih h).imp id (List.mem_cons_of_mem _)

theorem ascending_insertNamed (key : String) (a : Argument) {named : NamedArguments}
    (h : named.Pairwise fun a b => a.1 < b.1) : (insertNamed key a named).Pairwise fun a b => a.1 < b.1 := by
  induction named with
  | nil => exact List.pairwise_singleton _ _
  | cons first rest ih =>
    obtain ⟨k, b⟩ := first
    obtain ⟨least, later⟩ := List.pairwise_cons.mp h
    rw [insertNamed]
    split
    · rename_i same
      exact List.pairwise_cons.mpr ⟨same ▸ least, later⟩
    · rename_i other
      split
      · rename_i lt
        exact List.pairwise_cons.mpr
          ⟨List.forall_mem_cons.mpr ⟨lt, fun e he => String.lt_trans lt (least e he)⟩, h⟩
      · rename_i not_lt
        have gt : k < key := (Std.lt_trichotomy key k).resolve_left not_lt |>.resolve_left other
        refine List.pairwise_cons.mpr ⟨fun e he => ?_, ih later⟩
        rcases mem_insertNamed he with rfl | he
        · exact gt
        · exact least e he

theorem insertNamed_of_last {key : String} {a : Argument} {named : NamedArguments}
    (h : ∀ entry ∈ named, entry.1 < key) : insertNamed key a named = named ++ [(key, a)] := by
  induction named with
  | nil => rfl
  | cons first rest ih =>
    obtain ⟨lt, later⟩ := List.forall_mem_cons.mp h
    rw [insertNamed, if_neg fun same => String.lt_irrefl _ (same ▸ lt), if_neg (String.lt_asymm lt), ih later]
    rfl

theorem commandName_subset (cs : List Char) : (commandName cs).2 ⊆ cs := by
  unfold commandName
  split
  · exact List.subset_cons_self _ _
  · exact List.Subset.refl _

theorem commandName_of_plain {cs : List Char} (h : ∀ c ∈ cs.head?, c ≠ '&') : commandName cs = (false, cs) := by
  unfold commandName
  split
  · exact absurd rfl (h _ rfl)
  · rfl

theorem plain_of_commandName {cs : List Char} (h : (commandName cs).1 = false) :
    ∀ c ∈ (commandName cs).2.head?, c ≠ '&' := by
  unfold commandName at h ⊢
  split
  · cases h
  · rename_i other
    rintro c hc rfl
    obtain ⟨rest, rfl⟩ := List.head?_eq_some_iff.mp hc
    exact other _ rfl

namespace Instruction.Sourced
variable {i j : Instruction}

theorem ofHead {head : Word} {line : Nat} {source : String} (filled : (commandName head.chars).2 ≠ [])
    (noBreak : '\n' ∉ head.chars) : (Instruction.ofHead head line source).Sourced := by
  have name : (Instruction.ofHead head line source).name =
    asciiLower (String.ofList (commandName head.chars).2) := rfl
  have chars : (Instruction.ofHead head line source).name.toList = (commandName head.chars).2.map Char.toLower := by
    rw [name, asciiLower, String.toList_ofList, String.toList_ofList]
  refine ⟨?_, asciiLower_asciiLower _, fun free c hc => ?_, fun hn => ?_, List.forall_mem_nil _, List.forall_mem_nil _,
    List.forall_mem_nil _, .nil⟩
  · rw [chars]
    exact mt List.map_eq_nil_iff.mp filled
  · rintro rfl
    rw [chars, List.head?_map] at hc
    obtain ⟨d, hd, same⟩ := Option.map_eq_some_iff.mp hc
    exact plain_of_commandName free d hd (eq_of_toLower same (by decide))
  · have raw := mem_of_mem_asciiLower hn (by decide)
    rw [String.toList_ofList] at raw
    exact noBreak (commandName_subset _ raw)

theorem addWord {w : Word} (s : i.Sourced) (noBreak : '\n' ∉ w.chars) (h : i.addWord w = .ok j) : j.Sourced := by
  unfold Instruction.addWord at h
  split at h
  · rename_i key value hn
    obtain ⟨a, ha, h⟩ := bind_eq_ok.mp h
    cases h
    obtain ⟨chars, absent⟩ : w.chars = '-' :: '-' :: (key ++ '=' :: value) ∧ '=' ∉ key := by
      unfold Word.named? at hn
      split at hn
      · cases hn
      · obtain ⟨rest, dashes, cut⟩ := Option.bind_eq_some_iff.mp hn
        obtain ⟨absent, rfl⟩ := splitFirst_eq_some.mp cut
        exact ⟨eq_of_dropStart? dashes, absent⟩
    rw [chars] at noBreak
    have raw : ∀ c, c.toNat < 97 → c ∈ (asciiLower (String.ofList key)).toList → c ∈ key := fun c small hc => by
      rw [← String.toList_ofList (l := key)]
      exact mem_of_mem_asciiLower hc small
    refine { s with
      named := fun entry he => ?_, keys := fun entry he => ?_
      ascending := ascending_insertNamed _ a s.ascending }
    · rcases mem_insertNamed he with rfl | he
      · exact ⟨value, readArgument_eq_ok.mp ha, fun hc => noBreak (by simp [hc])⟩
      · exact s.named entry he
    · rcases mem_insertNamed he with rfl | he
      · exact ⟨asciiLower_asciiLower _, fun hc => absent (raw _ (by decide) hc),
          fun hc => noBreak (by simp [raw _ (by decide) hc])⟩
      · exact s.keys entry he
  · rename_i hn
    obtain ⟨a, ha, h⟩ := bind_eq_ok.mp h
    cases h
    have reads := readArgument_eq_ok.mp ha
    refine { s with args := List.forall_mem_append.mpr ⟨s.args, List.forall_mem_singleton.mpr ?_⟩ }
    have bare : ({ a with quoted := w.quoted } : Argument).bare = a := by cases reads; rfl
    refine ⟨w.chars, bare ▸ reads, noBreak, fun free => ?_⟩
    rw [← hn, ← show w.quoted = false from free]

theorem addWords {ws : List Word} (s : i.Sourced) (noBreak : ∀ w ∈ ws, '\n' ∉ w.chars)
    (h : ws.foldlM Instruction.addWord i = .ok j) : j.Sourced := by
  induction ws generalizing i with
  | nil =>
    cases h
    exact s
  | cons w ws ih =>
    obtain ⟨first, more⟩ := List.forall_mem_cons.mp noBreak
    rw [List.foldlM_cons] at h
    obtain ⟨i', hi, h⟩ := bind_eq_ok.mp h
    exact ih (s.addWord first hi) more h

theorem of_read {text : String} {line : Nat} (h : read text line = .ok i) (noBreak : '\n' ∉ text.toList) :
    i.Sourced := by
  obtain ⟨head, rest, hw, filled, hf⟩ := read_eq_ok.mp h
  have each : ∀ w ∈ head :: rest, '\n' ∉ w.chars := fun w hm hc => noBreak (subset_of_mem_words (hw ▸ hm) hc)
  obtain ⟨first, more⟩ := List.forall_mem_cons.mp each
  exact (ofHead filled first).addWords more hf

end Instruction.Sourced

/-! #### What is written -/

/-- The text of the first word of an instruction. -/
def Instruction.headText (i : Instruction) : List Char :=
  (if i.waitFor then ['&'] else []) ++ i.name.toList

/-- The texts of the arguments of an instruction. -/
def Instruction.argTexts (i : Instruction) : List (List Char) :=
  i.args.map (fun a => quoteWord a.quoted a.source) ++
    i.named.map fun entry => quoteWord entry.2.quoted (namedText entry)

/-- The words of the arguments of an instruction. -/
def Instruction.argWords (i : Instruction) : List Word :=
  i.args.map Argument.word ++ i.named.map fun entry => ⟨namedText entry, false⟩

namespace Instruction
variable {i : Instruction}

theorem renderChars_eq (i : Instruction) : i.renderChars = i.headText ++ i.argTexts.flatMap (' ' :: ·) := by
  rw [renderChars, headText, argTexts, List.flatMap_append, List.flatMap_map, List.flatMap_map, List.append_assoc]
  rfl

theorem Sourced.commandName_headText (s : i.Sourced) : commandName i.headText = (i.waitFor, i.name.toList) := by
  unfold headText
  cases free : i.waitFor with
  | false => exact commandName_of_plain (s.waiting free)
  | true => rfl

/-- The first word of an instruction begins it. -/
theorem Sourced.ofHead_headText (s : i.Sourced) (line : Nat) (source : String) :
    Instruction.ofHead ⟨i.headText, false⟩ line source =
      { name := i.name, line := line, source := source, waitFor := i.waitFor } := by
  rw [Instruction.ofHead, s.commandName_headText, String.ofList_toList, ofName, s.lower]

theorem foldlM_args {args : List Argument}
    (each : ∀ a ∈ args, a.word.named? = none ∧ readArgument a.source = .ok a.bare)
    (i : Instruction) : (args.map Argument.word).foldlM addWord i =
      .ok { i with args := i.args ++ args.map fun a => { a with quoted := a.word.quoted } } := by
  induction args generalizing i with
  | nil => simp [pure, Except.pure]
  | cons a args ih =>
    obtain ⟨⟨unnamed, reads⟩, more⟩ := List.forall_mem_cons.mp each
    have first : i.addWord a.word = .ok { i with args := i.args ++ [{ a with quoted := a.word.quoted }] } := by
      rw [addWord, unnamed]
      dsimp only
      rw [show a.word.chars = a.source from rfl, reads]
      rfl
    rw [List.map_cons, List.foldlM_cons, first]
    refine (ih more _).trans ?_
    simp

theorem foldlM_named {named : NamedArguments} (each : ∀ entry ∈ named, asciiLower entry.1 = entry.1 ∧
      '=' ∉ entry.1.toList ∧ readArgument entry.2.source = .ok entry.2) (i : Instruction)
    (ascending : (i.named ++ named).Pairwise fun a b => a.1 < b.1) :
    (named.map fun entry => (⟨namedText entry, false⟩ : Word)).foldlM addWord i =
      .ok { i with named := i.named ++ named } := by
  induction named generalizing i with
  | nil => simp [pure, Except.pure]
  | cons entry named ih =>
    obtain ⟨⟨lower, absent, reads⟩, more⟩ := List.forall_mem_cons.mp each
    have cut : (⟨namedText entry, false⟩ : Word).named? = some (entry.1.toList, entry.2.source) :=
      splitFirst_eq_some.mpr ⟨absent, rfl⟩
    have last : ∀ e ∈ i.named, e.1 < entry.1 := fun e he =>
      (List.pairwise_append.mp ascending).2.2 e he entry List.mem_cons_self
    have first : i.addWord ⟨namedText entry, false⟩ = .ok { i with named := i.named ++ [entry] } := by
      rw [addWord, cut]
      dsimp only
      rw [reads, String.ofList_toList, lower]
      exact congrArg (fun named => Except.ok { i with named := named }) (insertNamed_of_last last)
    rw [List.map_cons, List.foldlM_cons, first]
    refine (ih more _ (by simpa using ascending)).trans ?_
    simp

theorem lineBreak_quoteWord {quoted : Bool} {cs : List Char} (h : '\n' ∉ cs) : '\n' ∉ quoteWord quoted cs := by
  unfold quoteWord
  repeat' split
  all_goals simp [h]

theorem plainText_headText (h : PlainText i.name.toList) : PlainText i.headText := by
  unfold headText
  split
  · obtain ⟨whole, closed, noComment⟩ := h
    refine ⟨?_, ?_, ?_⟩
    · simp [needsQuotes, whole, isBlank]
    · simp [openTags, closed]
    · simp [uncommented, commentAt, quoteAfter, noComment]
  · exact h

section
variable (w : i.Writable) (s : i.Sourced)
include w s

/-- The source form of an argument without a key is read as the argument. -/
theorem Writable.arg {a : Argument} (ha : a ∈ i.args) :
    (openTags 0 a.source = 0 ∧ '\n' ∉ a.source) ∧ a.word.named? = none ∧ readArgument a.source = .ok a.bare := by
  have clear : ∀ t ∈ a.bare.tagsWithin, t.barred = false := by
    have same : a.bare.tagsWithin = a.tagsWithin := by cases a; rfl
    rw [same]
    exact w.clear a (List.mem_append_left _ ha)
  obtain ⟨cs, reads, noBreak, unnamed⟩ := s.args a ha
  rw [← a.source_bare]
  refine ⟨⟨reads.openTags_source, reads.lineBreak_source noBreak⟩, ?_, (reads.again clear).read⟩
  cases hw : a.word.quoted with
  | true => exact if_pos hw
  | false =>
    have free : a.quoted = false := by
      simp only [Argument.word, Bool.or_eq_false_iff] at hw
      exact hw.1.1
    rw [show a.word = ⟨a.bare.source, false⟩ by rw [← hw, a.source_bare]; rfl]
    exact reads.named?_source (unnamed free)

/-- The source form of an argument with a key is read as the argument. -/
theorem Writable.namedArg {entry : String × Argument} (he : entry ∈ i.named) :
    (quoteWord entry.2.quoted (namedText entry) = namedText entry ∧ '\n' ∉ namedText entry) ∧
      readArgument entry.2.source = .ok entry.2 := by
  obtain ⟨cs, reads, noBreak⟩ := s.named entry he
  obtain ⟨-, -, key_noBreak⟩ := s.keys entry he
  have unquoted : entry.2.quoted = false := by
    generalize entry.2 = a at reads
    cases reads
    rfl
  have clear := w.clear _ (List.mem_append_right _ (List.mem_map_of_mem he))
  refine ⟨⟨?_, ?_⟩, (reads.again clear).read⟩
  · rw [unquoted]
    exact quoteWord_plain (List.cons_ne_nil _ _) (w.named entry he).whole
  · simp [namedText, key_noBreak, reads.lineBreak_source noBreak]

theorem Writable.argTexts : List.Forall₂ Writes i.argTexts i.argWords ∧
    ∀ text ∈ i.argTexts, Phrase text ∧ '\n' ∉ text := by
  have args := fun a ha => (w.args a ha).written (w.arg s ha).1.1
  constructor
  · refine List.rel_append ?_ ?_
    · rw [List.forall₂_map_left_iff, List.forall₂_map_right_iff, List.forall₂_same]
      exact fun a ha => (args a ha).1
    · rw [List.forall₂_map_left_iff, List.forall₂_map_right_iff, List.forall₂_same]
      intro entry he
      rw [(w.namedArg s he).1.1]
      exact (w.named entry he).writes (List.cons_ne_nil _ _)
  · refine List.forall_mem_append.mpr
      ⟨List.forall_mem_map.mpr fun a ha => ?_, List.forall_mem_map.mpr fun entry he => ?_⟩
    · exact ⟨(args a ha).2, lineBreak_quoteWord (w.arg s ha).1.2⟩
    · rw [(w.namedArg s he).1.1]
      exact ⟨(w.named entry he).phrase (List.cons_ne_nil _ _), (w.namedArg s he).1.2⟩

theorem Writable.headText : i.headText ≠ [] ∧ PlainText i.headText ∧ '\n' ∉ i.headText := by
  refine ⟨List.append_ne_nil_of_right_ne_nil _ s.filled, plainText_headText w.name, ?_⟩
  unfold Instruction.headText
  split <;> simp [s.unbroken]

theorem Writable.phrase : Phrase i.renderChars := by
  obtain ⟨filled, head, -⟩ := w.headText s
  rw [renderChars_eq]
  exact (head.phrase filled).append_all fun text ht => ((w.argTexts s).2 text ht).1

theorem Writable.words : words i.renderChars = ⟨i.headText, false⟩ :: i.argWords := by
  obtain ⟨filled, head, -⟩ := w.headText s
  rw [renderChars_eq]
  exact words_of_writes (head.writes filled) (w.argTexts s).1

/-- The text of a command that is written on a line by itself is what is written there. -/
theorem Writable.text_eq : i.text = i.renderChars := by
  have noBreak : '\n' ∉ i.renderChars := by
    obtain ⟨-, -, head⟩ := w.headText s
    rw [renderChars_eq, List.mem_append, List.mem_flatMap]
    rintro (hc | ⟨text, ht, hc⟩)
    · exact head hc
    · exact ((w.argTexts s).2 text ht).2 (by simpa using hc)
  have flat_eq : i.renderChars.map flat = i.renderChars := by
    refine (List.map_congr_left fun c hc => ?_).trans (List.map_id _)
    exact if_neg fun (same : c = '\n') => noBreak (same ▸ hc)
  rw [Instruction.text, flat_eq]
  exact trimChars_eq_self (w.phrase s).first (w.phrase s).last

/-- The source form of an instruction is read as the instruction, but for the quotes around its arguments. -/
theorem Writable.read_text (line : Nat) : read (String.ofList i.text) line = .ok
    { name := i.name, args := i.args.map fun a => { a with quoted := a.word.quoted }, named := i.named, line := line,
      source := String.ofList i.text, waitFor := i.waitFor } := by
  refine read_eq_ok.mpr ⟨⟨i.headText, false⟩, i.argWords, ?_, ?_, ?_⟩
  · rw [String.toList_ofList, w.text_eq s, w.words s]
  · rw [s.commandName_headText]
    exact s.filled
  · have named : ∀ entry ∈ i.named, asciiLower entry.1 = entry.1 ∧ '=' ∉ entry.1.toList ∧
        readArgument entry.2.source = .ok entry.2 := fun entry he =>
      ⟨(s.keys entry he).1, (s.keys entry he).2.1, (w.namedArg s he).2⟩
    rw [s.ofHead_headText, argWords, List.foldlM_append, foldlM_args fun a ha => (w.arg s ha).2]
    exact foldlM_named named _ s.ascending

/-- An instruction that is writable is scanned and read back as it is written. -/
theorem Writable.scanned : i.Scanned := by
  have phrase := w.phrase s
  refine ⟨phrase.noComment, phrase.notCut _ _, phrase.closed, fun line => ⟨_, w.read_text s line, ?_⟩⟩
  simp only [Instruction.written, List.map_map]
  rfl

end

end Instruction

/-! ### Lines -/

/-- A token without its line. -/
def Token.unplaced : Token → Token
  | .command text _ => .command text 0
  | .openBrace => .openBrace
  | .closeBrace => .closeBrace

namespace SourceLine

/-- The tokens of a line. -/
def tokens : SourceLine → List Token
  | .command _ i owner => .command (String.ofList i.text) 0 :: if owner then [.openBrace] else []
  | .close _ => [.closeBrace]

/-- A line whose command is scanned without being cut. -/
def Scanned : SourceLine → Prop
  | .command _ i _ => i.Scanned
  | .close _ => True

end SourceLine

theorem Instruction.Scanned.text_ne_nil {i : Instruction} (h : i.Scanned) : i.text ≠ [] := by
  intro empty
  obtain ⟨j, hj, -⟩ := h.reads 0
  rw [empty] at hj
  obtain ⟨head, rest, hw, -⟩ := read_eq_ok.mp hj
  cases hw

theorem Instruction.Scanned.line_noComment {i : Instruction} (h : i.Scanned) (depth : Nat) (owner : Bool)
    (next : Option Char) : uncommented none next (SourceLine.chars (.command depth i owner)) = true := by
  have body : uncommented none ((commandEnd owner).head?.or next) i.renderChars = true := by
    rw [← h.noComment]
    refine uncommented_congr ?_ _
    cases owner <;> simp [commandEnd]
  rw [SourceLine.chars, uncommented_append, uncommented_blank (indent_blank depth),
    foldl_quoteAfter_blank (indent_blank depth), uncommented_append, body, h.closed]
  cases owner <;> rfl

theorem SourceLine.Scanned.noComment {l : SourceLine} (h : l.Scanned) (next : Option Char) :
    uncommented none next l.chars = true := by
  cases l with
  | command depth i owner => exact Instruction.Scanned.line_noComment h depth owner next
  | close depth =>
    rw [chars, uncommented_append, uncommented_blank (indent_blank depth),
      foldl_quoteAfter_blank (indent_blank depth)]
    rfl

namespace Scan
variable {s : Scan}

theorem Between.steps_line (b : s.Between) {l : SourceLine} (h : l.Scanned) (next : Option Char) :
    (s.steps next l.chars).Between ∧
      ∃ ts : List Token, (s.steps next l.chars).tokens = ts.reverse ++ s.tokens ∧
        ts.map Token.unplaced = l.tokens := by
  cases l with
  | command depth i owner =>
    have h : i.Scanned := h
    obtain ⟨after, line, tokens⟩ := b.steps_command h.notCut h.closed depth owner next
    have text : commandTokens i.text line = [.command (String.ofList i.text) line] :=
      if_neg (by simpa using h.text_ne_nil)
    rw [text] at tokens
    refine ⟨after, .command (String.ofList i.text) line :: if owner then [.openBrace] else [], ?_, ?_⟩
    · rw [tokens]
      cases owner <;> rfl
    · cases owner <;> rfl
  | close depth =>
    obtain ⟨after, tokens⟩ := b.steps_close depth next
    exact ⟨after, [.closeBrace], tokens, rfl⟩

theorem Between.steps_lines (b : s.Between) {lines : List SourceLine} (h : ∀ l ∈ lines, l.Scanned)
    (next : Option Char) : (s.steps next (linesText lines)).Between ∧
      ∃ ts : List Token, (s.steps next (linesText lines)).tokens = ts.reverse ++ s.tokens ∧
        ts.map Token.unplaced = lines.flatMap SourceLine.tokens := by
  induction lines generalizing s with
  | nil => exact ⟨b, [], rfl, rfl⟩
  | cons l lines ih =>
    obtain ⟨hl, h⟩ := List.forall_mem_cons.mp h
    obtain ⟨between, ts, tokens, same⟩ := b.steps_line hl ((linesText lines).head?.or next)
    obtain ⟨after, more, moreTokens, moreSame⟩ := ih between h
    rw [linesText_cons, steps_append]
    refine ⟨after, ts ++ more, ?_, ?_⟩
    · rw [moreTokens, tokens, List.reverse_append, List.append_assoc]
    · rw [List.map_append, same, moreSame, List.flatMap_cons]

end Scan

theorem between_start : Scan.Between {} :=
  ⟨rfl, rfl, fun _ h => absurd h List.not_mem_nil, nofun⟩

theorem uncommented_linesText {lines : List SourceLine} (h : ∀ l ∈ lines, l.Scanned) (next : Option Char) :
    uncommented none next (linesText lines) = true := by
  induction lines with
  | nil => rfl
  | cons l lines ih =>
    obtain ⟨hl, h⟩ := List.forall_mem_cons.mp h
    have closed : l.chars.foldl quoteAfter none = none :=
      (Scan.steps_quote {} none l.chars).symm.trans (between_start.steps_line hl none).1.quote
    rw [linesText_cons, uncommented_append, hl.noComment, closed, ih h]
    rfl

/-- The tokens of lines. -/
theorem tokens_linesText {lines : List SourceLine} (h : ∀ l ∈ lines, l.Scanned) :
    (tokens (String.ofList (linesText lines))).map Token.unplaced = lines.flatMap SourceLine.tokens := by
  obtain ⟨after, ts, scanned, same⟩ := between_start.steps_lines h none
  have run := Scan.run_eq_steps (s := {}) rfl (uncommented_linesText h none)
  have blank := trimChars_eq_nil.mpr fun c hc => after.blank c (List.mem_reverse.mp hc)
  rw [tokens, String.toList_ofList, run, Scan.flush_tokens_eq, blank, scanned, ← same]
  simp [commandTokens]

/-! ### Trees -/

mutual

/-- Nodes with what the text of their instructions writes. -/
def writtenNodes : List Node → List Node
  | [] => []
  | ⟨i, block⟩ :: rest => ⟨i.written, writtenBlock block⟩ :: writtenNodes rest

/-- A block with what the text of its instructions writes. -/
def writtenBlock : Option (List Node) → Option (List Node)
  | none => none
  | some nodes => some (writtenNodes nodes)

end

theorem eq_of_unplaced_command {t : Token} {text : String} (h : t.unplaced = .command text 0) :
    ∃ line, t = .command text line := by
  cases t with
  | command text' line =>
    cases h
    exact ⟨line, rfl⟩
  | openBrace | closeBrace => cases h

theorem eq_of_unplaced_openBrace {t : Token} (h : t.unplaced = .openBrace) : t = .openBrace := by
  cases t <;> first | rfl | cases h

theorem eq_of_unplaced_closeBrace {t : Token} (h : t.unplaced = .closeBrace) : t = .closeBrace := by
  cases t <;> first | rfl | cases h

/-- The lines of a tree make the tree again. -/
theorem build_sourceLines : ∀ {nodes : List Node} {depth : Nat} {ts : List Token},
    (∀ i ∈ commandsOf nodes, i.Scanned) →
      ts.map Token.unplaced = (sourceLines depth nodes).flatMap SourceLine.tokens →
      ∃ nodes', writtenNodes nodes' = writtenNodes nodes ∧ ∀ level outer more,
        Node.build level outer (ts ++ more) = Node.build (nodes'.reverse ++ level) outer more
  | [], depth, ts, _, h => by
    rw [sourceLines, List.flatMap_nil, List.map_eq_nil_iff] at h
    subst h
    exact ⟨[], rfl, fun _ _ _ => rfl⟩
  | ⟨i, none⟩ :: rest, depth, ts, hs, h => by
    have here : i.Scanned := hs i (by simp [commandsOf])
    rw [sourceLines, List.flatMap_cons, blockLines, List.nil_append] at h
    obtain ⟨t, ts, rfl, ht, hts⟩ := List.map_eq_cons_iff.mp h
    obtain ⟨line, rfl⟩ := eq_of_unplaced_command ht
    obtain ⟨j, hj, same⟩ := here.reads line
    obtain ⟨nodes', written, built⟩ := build_sourceLines (fun k hk => hs k (by simp [commandsOf, hk])) hts
    refine ⟨⟨j, none⟩ :: nodes', ?_, fun level outer more => ?_⟩
    · rw [writtenNodes, writtenNodes, written, same, writtenBlock]
    · rw [List.cons_append, Node.build, hj]
      refine (built (⟨j, none⟩ :: level) outer more).trans ?_
      rw [List.reverse_cons, List.append_assoc]
      rfl
  | ⟨i, some children⟩ :: rest, depth, ts, hs, h => by
    have here : i.Scanned := hs i (by simp [commandsOf])
    rw [sourceLines, List.flatMap_cons, blockLines, List.flatMap_append, List.flatMap_append] at h
    have h : ts.map Token.unplaced = .command (String.ofList i.text) 0 :: .openBrace ::
        ((sourceLines (depth + 1) children).flatMap SourceLine.tokens ++ [.closeBrace] ++
          (sourceLines depth rest).flatMap SourceLine.tokens) := h
    -- The tokens are cut as the lines are: the command, the brace, the block, the other brace, and the rest.
    obtain ⟨t, _, rfl, ht, behind⟩ := List.map_eq_cons_iff.mp h
    obtain ⟨u, _, rfl, hu, inside⟩ := List.map_eq_cons_iff.mp behind
    obtain ⟨line, rfl⟩ := eq_of_unplaced_command ht
    cases eq_of_unplaced_openBrace hu
    obtain ⟨body, tail, rfl, hbody, htail⟩ := List.map_eq_append_iff.mp inside
    obtain ⟨inner, close, rfl, hinner, hclose⟩ := List.map_eq_append_iff.mp hbody
    obtain ⟨c, _, rfl, hc, hnil⟩ := List.map_eq_cons_iff.mp hclose
    cases List.map_eq_nil_iff.mp hnil
    cases eq_of_unplaced_closeBrace hc
    obtain ⟨j, hj, same⟩ := here.reads line
    obtain ⟨children', writtenChildren, builtChildren⟩ := build_sourceLines
      (fun k hk => hs k (by simp [commandsOf, blockCommands, hk])) hinner
    obtain ⟨rest', writtenRest, builtRest⟩ := build_sourceLines (fun k hk => hs k (by simp [commandsOf, hk])) htail
    refine ⟨⟨j, some children'⟩ :: rest', ?_, fun level outer more => ?_⟩
    · rw [writtenNodes, writtenNodes, writtenRest, same, writtenBlock, writtenBlock, writtenChildren]
    · have own : Node.build level outer
          (.command (String.ofList i.text) line :: .openBrace :: (inner ++ [.closeBrace] ++ tail) ++ more) =
            Node.build [] ((⟨j, none⟩ :: level) :: outer) (inner ++ (.closeBrace :: (tail ++ more))) := by
        rw [List.cons_append, List.cons_append, Node.build, hj, List.append_assoc, List.append_assoc]
        rfl
      rw [own, builtChildren, List.append_nil, Node.build, List.reverse_reverse]
      refine (builtRest (⟨j, some children'⟩ :: level) outer more).trans ?_
      rw [List.reverse_cons, List.append_assoc]
      rfl

end CommandScript
