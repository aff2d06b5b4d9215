import Mathlib.Data.List.TakeWhile
import CommandScript.Engine.State
import CommandScript.Proofs.Machine.Spares
import CommandScript.Proofs.Text.Case

/-! The handlers of events and what is scheduled, told by a log of all changes: what the log leaves in force, and that
    each change brings the lists of an engine in line with the longer log. These lists are in order of priority. What
    a list keeps is told by time: an item may be kept from each time on. Among items of one priority the list is in the
    order of their times. -/

namespace CommandScript

/-! ### Lists in order of priority -/

section
variable {α β : Type} {priority : α → Int} {kept kept' : Nat → α → Prop} {items : List α}

/-- Whether an item of a time comes before another: it has a lower priority, or the same priority and an earlier
    time. -/
def Before (priority : α → Int) (a b : Nat × α) : Prop :=
  priority a.2 < priority b.2 ∨ priority a.2 = priority b.2 ∧ a.1 < b.1

theorem Before.le {a b : Nat × α} (h : Before priority a b) : priority a.2 ≤ priority b.2 := by
  rcases h with h | ⟨h, -⟩
  · exact Int.le_of_lt h
  · exact Int.le_of_eq h

theorem Before.irrefl {a : Nat × α} : ¬Before priority a a := by
  rintro (h | ⟨-, h⟩)
  · exact Int.lt_irrefl _ h
  · exact Nat.lt_irrefl _ h

/-- A list of exactly the items that are kept, ascending by priority and, among those of one priority, by the times that
    they are kept from. -/
def Arranged (priority : α → Int) (kept : Nat → α → Prop) (items : List α) : Prop :=
  ∃ dated : List (Nat × α), dated.map (·.2) = items ∧ (∀ t x, (t, x) ∈ dated ↔ kept t x) ∧
    dated.Pairwise (Before priority)

namespace Arranged

theorem nil (none : ∀ t x, ¬kept t x) : Arranged priority kept [] :=
  ⟨[], rfl, fun t x => iff_of_false List.not_mem_nil (none t x), .nil⟩

theorem congr (h : Arranged priority kept items) (same : ∀ t x, kept t x ↔ kept' t x) :
    Arranged priority kept' items := by
  obtain ⟨dated, rfl, only, ordered⟩ := h
  exact ⟨dated, rfl, fun t x => (only t x).trans (same t x), ordered⟩

theorem mem (h : Arranged priority kept items) {x : α} : x ∈ items ↔ ∃ t, kept t x := by
  obtain ⟨dated, rfl, only, -⟩ := h
  constructor
  · intro hx
    obtain ⟨⟨t, _⟩, hm, rfl⟩ := List.mem_map.mp hx
    exact ⟨t, (only t _).mp hm⟩
  · rintro ⟨t, ht⟩
    exact List.mem_map.mpr ⟨(t, x), (only t x).mpr ht, rfl⟩

/-- Items that a key tells apart are in the list once each. -/
theorem nodup_map (h : Arranged priority kept items) (key : α → β)
    (apart : ∀ t x t' x', kept t x → kept t' x' → key x = key x' → t = t' ∧ x = x') : (items.map key).Nodup := by
  obtain ⟨dated, rfl, only, ordered⟩ := h
  rw [List.map_map, List.Nodup, List.pairwise_map]
  refine ordered.imp_of_mem fun {a b} ha hb before same => ?_
  obtain ⟨time, item⟩ := apart a.1 a.2 b.1 b.2 ((only _ _).mp ha) ((only _ _).mp hb) same
  obtain rfl : a = b := Prod.ext time item
  exact before.irrefl

theorem filter (h : Arranged priority kept items) (p : α → Bool) :
    Arranged priority (fun t x => kept t x ∧ p x = true) (items.filter p) := by
  obtain ⟨dated, rfl, only, ordered⟩ := h
  refine ⟨dated.filter (p ∘ (·.2)), (List.filter_map).symm, fun t x => ?_, ordered.filter _⟩
  rw [List.mem_filter, only]
  rfl

/-- Behind the items of no greater priority, all have a greater one. -/
theorem lt_of_mem_dropWhile {dated : List (Nat × α)} (ordered : dated.Pairwise (Before priority)) {limit : Int}
    {b : Nat × α} (hb : b ∈ dated.dropWhile fun a => priority a.2 ≤ limit) : limit < priority b.2 := by
  induction dated with
  | nil => cases hb
  | cons a rest ih =>
    obtain ⟨first, ordered⟩ := List.pairwise_cons.mp ordered
    by_cases le : priority a.2 ≤ limit
    · rw [List.dropWhile_cons_of_pos (by simpa using le)] at hb
      exact ih ordered hb
    · rw [List.dropWhile_cons_of_neg (by simpa using le)] at hb
      rcases List.mem_cons.mp hb with rfl | hb
      · exact Int.not_le.mp le
      · exact Int.lt_of_lt_of_le (Int.not_le.mp le) (first b hb).le

/-- An item that is kept from a later time than all others is put in its place. -/
theorem insert (h : Arranged priority kept items) {time : Nat} (latest : ∀ t x, kept t x → t < time) (item : α) :
    Arranged priority (fun t x => kept t x ∨ t = time ∧ x = item) (Engine.insertByPriority priority item items) := by
  obtain ⟨dated, rfl, only, ordered⟩ := h
  let low : Nat × α → Bool := fun a => priority a.2 ≤ priority item
  have parts : dated.takeWhile low ++ dated.dropWhile low = dated := List.takeWhile_append_dropWhile
  refine ⟨dated.takeWhile low ++ (time, item) :: dated.dropWhile low, ?_, fun t x => ?_, ?_⟩
  · rw [Engine.insertByPriority, List.takeWhile_map, List.dropWhile_map, List.map_append, List.map_cons]
    rfl
  · dsimp only
    rw [← only t x, List.mem_append, List.mem_cons, ← Prod.mk.injEq, or_left_comm, ← List.mem_append, parts, or_comm]
  · rw [← parts, List.pairwise_append] at ordered
    obtain ⟨front, back, across⟩ := ordered
    rw [List.pairwise_append, List.pairwise_cons]
    refine ⟨front, ⟨fun b hb => Or.inl ?_, back⟩, fun a ha b hb => ?_⟩
    · exact lt_of_mem_dropWhile (by rw [← parts]; exact List.pairwise_append.mpr ⟨front, back, across⟩) hb
    · rcases List.mem_cons.mp hb with rfl | hb
      · have le : priority a.2 ≤ priority item := by simpa [low] using List.mem_takeWhile_imp ha
        rcases Int.lt_or_eq_of_le le with lt | same
        · exact Or.inl lt
        · -- Of those of its priority, the new item is the latest.
          exact Or.inr ⟨same, latest a.1 a.2 ((only _ _).mp ((List.takeWhile_prefix low).subset ha))⟩
      · exact across a ha b hb

end Arranged

end

/-! ### Changes -/

/-- A change of the handlers of an event or of what is scheduled. -/
inductive Change where
  /-- A handler is added to an event, in place of one of its name. -/
  | add (event : String) (handler : Handler)
  /-- An event loses its handler of a name. -/
  | remove (event name : String)
  /-- The engine forgets what scripts added and what is scheduled. -/
  | reload
  /-- A script is scheduled. -/
  | schedule (priority : Int) (script : Script)

/-! ### Logs -/

section
variable {log : List Change} {made c : Change} {ends : Change → Prop} {t : Nat}

/-- A change of a log that no later one ends. -/
def Lasting (log : List Change) (t : Nat) (made : Change) (ends : Change → Prop) : Prop :=
  log[t]? = some made ∧ ∀ t' c, t < t' → log[t']? = some c → ¬ends c

theorem Lasting.lt (h : Lasting log t made ends) : t < log.length :=
  (List.getElem?_eq_some_iff.mp h.1).1

theorem getElem?_concat {t : Nat} {made : Change} :
    (log ++ [c])[t]? = some made ↔ log[t]? = some made ∨ t = log.length ∧ c = made := by
  rcases Nat.lt_trichotomy t log.length with lt | rfl | gt
  · rw [List.getElem?_append_left lt]
    exact (or_iff_left fun h => Nat.ne_of_lt lt h.1).symm
  · rw [List.getElem?_concat_length, List.getElem?_eq_none (Nat.le_refl _)]
    simp
  · rw [List.getElem?_eq_none (by simp; omega), List.getElem?_eq_none (by omega)]
    simp
    omega

/-- One more change ends what it ends, and lasts itself. -/
theorem lasting_concat : Lasting (log ++ [c]) t made ends ↔
    Lasting log t made ends ∧ ¬ends c ∨ t = log.length ∧ c = made := by
  constructor
  · rintro ⟨here, later⟩
    rcases getElem?_concat.mp here with before | last
    · refine Or.inl ⟨⟨before, fun t' c' lt there => later t' c' lt (getElem?_concat.mpr (Or.inl there))⟩, ?_⟩
      exact later log.length c (List.getElem?_eq_some_iff.mp before).1 (getElem?_concat.mpr (Or.inr ⟨rfl, rfl⟩))
    · exact Or.inr last
  · rintro (⟨⟨here, later⟩, lasts⟩ | ⟨rfl, rfl⟩)
    · refine ⟨getElem?_concat.mpr (Or.inl here), fun t' c' lt there => ?_⟩
      rcases getElem?_concat.mp there with there | ⟨-, rfl⟩
      · exact later t' c' lt there
      · exact lasts
    · refine ⟨getElem?_concat.mpr (Or.inr ⟨rfl, rfl⟩), fun t' c' lt there => ?_⟩
      have := (List.getElem?_eq_some_iff.mp there).1
      simp at this
      omega

end

/-- Whether a change takes a handler of an event out of the list: another of its name is put in its place, it is
    removed, or it was added by a script and the engine reloads. -/
def Change.Displaces (event : String) (h : Handler) : Change → Prop
  | add event' h' => event' = event ∧ h'.name = h.name
  | remove event' name => event' = event ∧ name = h.name
  | reload => h.fromScript = true
  | schedule _ _ => False

/-- The handlers that a log leaves to an event: each was added at some time, and nothing has displaced it since. -/
def InForce (log : List Change) (event : String) (t : Nat) (h : Handler) : Prop :=
  Lasting log t (.add event h) (Change.Displaces event h)

/-- The scripts that a log leaves scheduled, with their priorities: there was no reload since. -/
def Scheduled (log : List Change) (t : Nat) (x : Int × Script) : Prop :=
  Lasting log t (.schedule x.1 x.2) (· = .reload)

theorem inForce_concat {log : List Change} {c : Change} {event : String} {t : Nat} {h : Handler} :
    InForce (log ++ [c]) event t h ↔
      InForce log event t h ∧ ¬c.Displaces event h ∨ t = log.length ∧ c = .add event h :=
  lasting_concat

theorem scheduled_concat {log : List Change} {c : Change} {t : Nat} {x : Int × Script} :
    Scheduled (log ++ [c]) t x ↔ Scheduled log t x ∧ c ≠ .reload ∨ t = log.length ∧ c = .schedule x.1 x.2 :=
  lasting_concat

/-- Of two handlers of a name, the earlier one was displaced. -/
theorem InForce.unique {log : List Change} {event : String} {t t' : Nat} {h h' : Handler}
    (one : InForce log event t h) (other : InForce log event t' h') (same : h.name = h'.name) : t = t' ∧ h = h' := by
  rcases Nat.lt_trichotomy t t' with lt | rfl | gt
  · exact absurd ⟨rfl, same.symm⟩ (one.2 t' _ lt other.1)
  · cases one.1.symm.trans other.1
    exact ⟨rfl, rfl⟩
  · exact absurd ⟨rfl, same⟩ (other.2 t _ gt one.1)

/-- A row of a table that is filtered, and left out once it is empty. -/
theorem lookup_filter_rows {rows : List (String × List α)} (p : α → Bool) (distinct : (rows.map (·.1)).Nodup)
    (key : String) :
    (((rows.map fun (k, row) => (k, row.filter p)).filter fun (_, row) => !row.isEmpty).lookup key).getD [] =
      ((rows.lookup key).getD []).filter p := by
  induction rows with
  | nil => rfl
  | cons first rest ih =>
    obtain ⟨k, row⟩ := first
    obtain ⟨absent, distinct⟩ := List.nodup_cons.mp distinct
    have ih := ih distinct
    rw [List.map_cons, List.filter_cons]
    dsimp only
    by_cases hk : key = k
    · subst hk
      have none : rest.lookup key = none := List.lookup_eq_none_iff.mpr fun pair hpair =>
        bne_iff_ne.mpr fun h => absent (List.mem_map.mpr ⟨pair, hpair, h.symm⟩)
      rw [none] at ih
      rw [List.lookup_cons_self, Option.getD_some]
      by_cases empty : row.filter p = []
      · rw [if_neg (by simp only [empty, List.isEmpty_nil, Bool.not_true, Bool.false_eq_true, not_false_iff]), empty]
        exact ih
      · rw [if_pos (by simpa only [Bool.not_eq_true', List.isEmpty_eq_false_iff] using empty), List.lookup_cons_self,
          Option.getD_some]
    · have other : (key == k) = false := beq_eq_false_iff_ne.mpr hk
      rw [List.lookup_cons, other]
      split
      · rw [List.lookup_cons, other]
        exact ih
      · exact ih

/-! ### Changes of an engine -/

/-- Whether the names of a change are in lower case. -/
def Change.Lower : Change → Prop
  | add event h => Text.lower event = event ∧ Text.lower h.name = h.name
  | remove event name => Text.lower event = event ∧ Text.lower name = name
  | reload | schedule _ _ => True

/-- Makes a change. -/
def Change.make (e : Engine) : Change → Engine
  | add event h => e.registerHandler event h
  | remove event name => (e.removeHandler event name).2
  | reload => e.reload
  | schedule priority script =>
    { e with autorun := Engine.insertByPriority Prod.fst (priority, script) e.autorun }

namespace Engine

variable {log : List Change} {c : Change} {e e' : Engine}

/-- The handlers and the scheduled scripts of an engine are those that a log leaves, in their order. -/
structure Follows (log : List Change) (e : Engine) : Prop where
  lower : ∀ c ∈ log, c.Lower
  keys : (e.events.map (·.1)).Nodup
  handlers : ∀ event, Arranged Handler.priority (InForce log event) ((e.events.lookup event).getD [])
  autorun : Arranged Prod.fst (Scheduled log) e.autorun

namespace Follows

theorem new (events : e.events = []) (autorun : e.autorun = []) : Follows [] e where
  lower _ h := absurd h List.not_mem_nil
  keys := by rw [events]; exact List.nodup_nil
  handlers event := by
    rw [events]
    exact .nil fun t h kept => by cases kept.1
  autorun := by
    rw [autorun]
    exact .nil fun t x kept => by cases kept.1

theorem same (h : Follows log e) (same : SameLists e e') : Follows log e' where
  lower := h.lower
  keys := by rw [same.events]; exact h.keys
  handlers := by rw [same.events]; exact h.handlers
  autorun := by rw [same.autorun]; exact h.autorun

variable (h : Follows log e)
include h

theorem lower_concat (lower : c.Lower) : ∀ d ∈ log ++ [c], d.Lower := by
  intro d hd
  rcases List.mem_append.mp hd with hd | hd
  · exact h.lower d hd
  · rw [List.mem_singleton.mp hd]
    exact lower

/-- The names of the handlers of an event differ, also in lower case. -/
theorem nodup (event : String) :
    (((e.events.lookup event).getD []).map fun x => Text.lower x.name).Nodup := by
  refine (h.handlers event).nodup_map _ fun t x t' x' kept kept' same => kept.unique kept' ?_
  have lower := h.lower _ (List.mem_of_getElem? kept.1)
  have lower' := h.lower _ (List.mem_of_getElem? kept'.1)
  rw [← lower.2, ← lower'.2, same]

theorem add {event : String} {x : Handler} (lower : (Change.add event x).Lower) :
    Follows (log ++ [.add event x]) (e.registerHandler event x) where
  lower := h.lower_concat lower
  keys := nodup_setKey _ _ h.keys
  handlers other := by
    rw [registerHandler, Engine.handlers, lower.1]
    by_cases hother : other = event
    · subst hother
      rw [lookup_setKey_self, Option.getD_some]
      refine (((h.handlers other).filter (·.name != x.name)).insert (fun t y kept => kept.1.lt) x).congr fun t y => ?_
      rw [inForce_concat, bne_iff_ne, Change.add.injEq]
      simp only [Change.Displaces, true_and, eq_comm (a := x.name), eq_comm (a := x), ne_eq]
    · rw [lookup_setKey_ne hother]
      refine (h.handlers other).congr fun t y => ?_
      rw [inForce_concat, Change.add.injEq]
      simp [Change.Displaces, Ne.symm hother]
  autorun := by
    refine h.autorun.congr fun t y => ?_
    rw [scheduled_concat]
    simp

theorem remove {event name : String} (lower : (Change.remove event name).Lower) :
    Follows (log ++ [.remove event name]) (e.removeHandler event name).2 := by
  have kept (other : String) (y : Handler) (t : Nat) : InForce (log ++ [.remove event name]) other t y ↔
      InForce log other t y ∧ ¬(event = other ∧ name = y.name) := by
    rw [inForce_concat]
    simp [Change.Displaces]
  have scheduled : Arranged Prod.fst (Scheduled (log ++ [.remove event name])) e.autorun := by
    refine h.autorun.congr fun t y => ?_
    rw [scheduled_concat]
    simp
  unfold removeHandler
  rw [lower.1, lower.2]
  split
  · rename_i none
    refine ⟨h.lower_concat lower, h.keys, fun other => (h.handlers other).congr fun t y => ?_, scheduled⟩
    rw [kept]
    refine (and_iff_left_of_imp fun inForce => ?_).symm
    -- An event without a row has no handler in force that the change could displace.
    rintro ⟨rfl, -⟩
    have found := (h.handlers event).mem.mpr ⟨t, inForce⟩
    rw [none] at found
    cases found
  · rename_i hs found
    refine ⟨h.lower_concat lower, nodup_setKey _ _ h.keys, fun other => ?_, scheduled⟩
    by_cases hother : other = event
    · subst hother
      have before := h.handlers other
      rw [found, Option.getD_some] at before
      rw [lookup_setKey_self, Option.getD_some]
      refine (before.filter (·.name != name)).congr fun t y => ?_
      rw [kept, bne_iff_ne, ne_eq, eq_comm (a := name)]
      simp
    · rw [lookup_setKey_ne hother]
      refine (h.handlers other).congr fun t y => ?_
      rw [kept]
      simp [Ne.symm hother]

theorem reload : Follows (log ++ [.reload]) e.reload where
  lower := h.lower_concat trivial
  keys := by
    refine List.Nodup.sublist (List.filter_sublist.map _) ?_
    rw [List.map_map]
    exact h.keys
  handlers event := by
    rw [Engine.reload, lookup_filter_rows (fun h => !h.fromScript) h.keys]
    refine ((h.handlers event).filter (fun x => !x.fromScript)).congr fun t y => ?_
    rw [inForce_concat]
    simp [Change.Displaces]
  autorun := by
    refine .nil fun t y kept => ?_
    rw [scheduled_concat] at kept
    simp at kept

theorem schedule (priority : Int) (script : Script) : Follows (log ++ [.schedule priority script])
    { e with autorun := insertByPriority Prod.fst (priority, script) e.autorun } where
  lower := h.lower_concat trivial
  keys := h.keys
  handlers event := by
    refine (h.handlers event).congr fun t y => ?_
    rw [inForce_concat]
    simp [Change.Displaces]
  autorun := by
    refine (h.autorun.insert (fun t y kept => kept.lt) (priority, script)).congr fun t y => ?_
    rw [scheduled_concat, Change.schedule.injEq, Prod.ext_iff]
    simp [eq_comm]

theorem make (lower : c.Lower) : Follows (log ++ [c]) (c.make e) := by
  cases c with
  | add event x => exact h.add lower
  | remove event name => exact h.remove lower
  | reload => exact h.reload
  | schedule priority script => exact h.schedule priority script

/-- Changes made one after another are those that the log goes on with. -/
theorem makeAll {changes : List Change} (lower : ∀ c ∈ changes, c.Lower) :
    Follows (log ++ changes) (changes.foldl Change.make e) := by
  induction changes generalizing log e with
  | nil => rwa [List.append_nil]
  | cons c changes ih =>
    rw [List.append_cons]
    exact ih (h.make (lower c List.mem_cons_self)) fun d hd => lower d (List.mem_cons_of_mem _ hd)

end Follows

/-- The handlers of each event have different names. -/
def NamesDistinct (e : Engine) : Prop :=
  ∀ row ∈ e.events, (row.2.map (·.name)).Nodup

namespace NamesDistinct

variable (h : e.NamesDistinct)
include h

theorem lookup (event : String) : (((e.events.lookup event).getD []).map (·.name)).Nodup := by
  cases found : e.events.lookup event with
  | none => exact List.nodup_nil
  | some row => exact h _ (mem_of_lookup found)

theorem same (same : SameLists e e') : e'.NamesDistinct := by
  rw [NamesDistinct, same.events]
  exact h

theorem add (event : String) (x : Handler) : (e.registerHandler event x).NamesDistinct := by
  intro row hrow
  rcases mem_setKey hrow with rfl | hrow
  · have inserted : (insertByPriority Handler.priority x ((e.handlers event).filter (·.name != x.name))).Perm
        (x :: (e.handlers event).filter (·.name != x.name)) := by
      refine List.perm_middle.trans ?_
      rw [List.takeWhile_append_dropWhile]
    refine (inserted.map (·.name)).nodup_iff.mpr (List.nodup_cons.mpr ⟨fun hm => ?_, ?_⟩)
    · obtain ⟨y, hy, name⟩ := List.mem_map.mp hm
      exact bne_iff_ne.mp (List.mem_filter.mp hy).2 name
    · exact (h.lookup (Text.lower event)).sublist (List.filter_sublist.map _)
  · exact h row hrow

theorem remove (event name : String) : (e.removeHandler event name).2.NamesDistinct := by
  unfold removeHandler
  dsimp only
  split
  · exact h
  · rename_i row found
    intro other hother
    rcases mem_setKey hother with rfl | hother
    · exact (h _ (mem_of_lookup found)).sublist (List.filter_sublist.map _)
    · exact h other hother

theorem reload : e.reload.NamesDistinct := by
  intro row hrow
  obtain ⟨⟨event, hs⟩, hmem, rfl⟩ := List.mem_map.mp (List.mem_filter.mp hrow).1
  exact (h _ hmem).sublist (List.filter_sublist.map _)

theorem make (c : Change) : (c.make e).NamesDistinct := by
  cases c with
  | add event x => exact h.add event x
  | remove event name => exact h.remove event name
  | reload => exact h.reload
  | schedule priority script => exact h

theorem makeAll (changes : List Change) : (changes.foldl Change.make e).NamesDistinct := by
  induction changes generalizing e with
  | nil => exact h
  | cons c changes ih => exact ih (h.make c)

end NamesDistinct

end Engine

end CommandScript
