import CommandScript.Pattern.CharSet
import CommandScript.Pattern.Regex
import Std.Data.HashMap

/-! How large the automata of an expression are. One automaton reads a text byte by byte forwards, and another one
    backwards; an expression is refused if one of them takes too much room. A state takes a fixed room, and more
    for the ways that it can be left: through an edge for each span of bytes, or without reading. Only the room is
    counted here. Where states stand matters too, since those with equal edges are shared only as long as a table
    of limited size remembers them. -/

namespace CommandScript.Pattern

/-- The greatest room that an automaton may take, in bytes. -/
def sizeLimit : Nat := 10485760

/-- The room of a state without the ways that lead on. -/
def stateRoom : Nat := 32

/-- The room of an edge for a span of bytes. -/
def edgeRoom : Nat := 8

/-- The room of a way on without reading. -/
def wayRoom : Nat := 4

/-- How many states the table for reading forwards remembers. -/
def forwardPlaces : Nat := 10000

/-- How many states the table for reading backwards remembers. -/
def backwardPlaces : Nat := 1000

/-- The number of states so far, and the room of the ways that lead on from them. -/
structure Tally where
  states : Nat
  ways : Nat

/-- One state more, with `ways` bytes for the ways on, if there is room. -/
def Tally.add (ways : Nat) (t : Tally) : Option Tally :=
  let t : Tally := ⟨t.states + 1, t.ways + ways⟩
  if stateRoom * t.states + t.ways ≤ sizeLimit then some t else none

/-- `step` done `count` times. -/
def Tally.repeated (step : Tally → Option Tally) : (count : Nat) → Tally → Option Tally
  | 0, t => some t
  | count + 1, t =>
    match step t with
    | some t => Tally.repeated step count t
    | none => none

/-- A state that is left in either of two ways without reading. -/
def Tally.addFork : Tally → Option Tally :=
  Tally.add (2 * wayRoom)

/-! ### Sets of characters -/

/-- The states of a set of characters so far. A table remembers states by what they are made of: every key has one
    place in it, and a newer key takes the place of an older one. -/
structure SetBuild where
  tally : Tally
  table : Std.HashMap Nat (List Nat × Nat)

/-- Building the states of a set, while there is room. -/
abbrev SetBuilding := StateT SetBuild Option

namespace SetBuilding

/-- Adds a state, and gives its number. -/
def state (ways : Nat) : SetBuilding Nat := do
  let b ← get
  let tally ← b.tally.add ways
  set { b with tally := tally }
  return b.tally.states

/-- A number that scatters keys over a table: each part of a key is mixed in and multiplied by a large prime. -/
def scatter (key : List Nat) : UInt64 :=
  key.foldl (fun h n => (h ^^^ n.toUInt64) * 1099511628211) 14695981039346656037

/-- The state for a key: the one that a table with `places` remembers, or a new one. -/
def shared (places : Nat) (key : List Nat) (ways : Nat) : SetBuilding Nat := do
  let place := (scatter key).toNat % places
  match (← get).table[place]? with
  | some (known, number) => if known == key then return number
  | none => pure ()
  let number ← state ways
  modify fun b => { b with table := b.table.insert place (key, number) }
  return number

/-- The state from which the sequences of byte spans lead to `target`. Sequences that begin alike share an edge,
    and states with equal edges are shared. `levels` bounds the length of the sequences. -/
def forwards (target : Nat) : (levels : Nat) → (sequences : List (List ByteSpan)) → SetBuilding Nat
  | 0, _ => return target
  | levels + 1, sequences => do
    let edges ← (sequences.splitBy fun s t => s.head? == t.head?).mapM fun alike => do
      let rests := alike.map List.tail
      let next ← if rests.all List.isEmpty then pure target else forwards target levels rests
      let (first, last) := (alike.head?.bind List.head?).getD (0, 0)
      return [first, last, next]
    shared forwardPlaces edges.flatten (edgeRoom * edges.length)

/-- The state from which a sequence of byte spans leads to `target` when it is read from its end. -/
def backwards (target : Nat) (sequence : List ByteSpan) : SetBuilding Nat :=
  sequence.foldlM (fun next (first, last) => shared backwardPlaces [next, first, last] 0) target

end SetBuilding

/-- Adds the states of a set of characters. -/
def Tally.addSet (back : Bool) (s : CharSet) (t : Tally) : Option Tally :=
  if s.isAscii then do (← t.add 0).add (edgeRoom * s.spans.length)
  else
    let build : SetBuilding Unit := do
      let sequences := s.byteSpans
      if back then
        let _ ← SetBuilding.state (wayRoom * sequences.length)
        let target ← SetBuilding.state 0
        for sequence in sequences do
          let _ ← SetBuilding.backwards target sequence
      else
        let target ← SetBuilding.state 0
        let _ ← SetBuilding.forwards target 4 sequences
    (build.run ⟨t, ∅⟩).map fun (_, b) => b.tally

/-! ### Choices between texts -/

/-- The bytes of a text. -/
def utf8 (cs : List Char) : List Nat :=
  cs.flatMap fun c => (String.utf8EncodeChar c).map UInt8.toNat

/-- The texts before, between and after the empty ones. -/
def betweenEmpty (texts : List (List Nat)) : List (List (List Nat)) :=
  texts.foldr (fun text chunks =>
    match text, chunks with
    | [], _ => [] :: chunks
    | _, chunk :: rest => (text :: chunk) :: rest
    | _, [] => [[text]]) [[]]

/-- What is left of the texts that begin with a byte. -/
def restsAfter (byte : Nat) (texts : List (List Nat)) : List (List Nat) :=
  texts.filterMap fun text =>
    match text with
    | b :: rest => if b = byte then some rest else none
    | [] => none

/-- The sums of both parts of pairs. -/
def sumBoth (pairs : List (Nat × Nat)) : Nat × Nat :=
  pairs.foldl (fun sum pair => (sum.1 + pair.1, sum.2 + pair.2)) (0, 0)

/-- The states of a tree of texts, and the room of the ways on from them. The texts are in order of preference, so
    where one of them ends, those before it and those after it have edges of their own. -/
def treeRoom : (levels : Nat) → (texts : List (List Nat)) → Nat × Nat
  | 0, _ => (0, 0)
  | levels + 1, texts =>
    let going := texts.dropWhile List.isEmpty
    if going.isEmpty then (0, 0)
    else
      let chunks := betweenEmpty (if going.length < texts.length then [] :: going else going)
      let kept := chunks.filter fun chunk => !chunk.isEmpty
      let own := kept.map fun chunk =>
        let bytes := (chunk.filterMap List.head?).eraseDups
        let (states, ways) := sumBoth (bytes.map fun byte => treeRoom levels (restsAfter byte chunk))
        (states + 1, ways + if bytes.length = 1 then 0 else edgeRoom * bytes.length)
      let (states, ways) := sumBoth own
      (states + 1, ways + wayRoom * (kept.length + chunks.length - 1))

/-- Adds the states of a choice between texts, which is a tree. -/
def Tally.addTexts (texts : List (List Nat)) (t : Tally) : Option Tally := do
  let levels := (texts.map List.length).foldl max 0
  let (states, ways) := treeRoom (levels + 1) texts
  Tally.repeated (Tally.add 0) states (← t.add ways)

/-! ### Expressions -/

namespace Regex

/-- The texts of expressions that are all texts. -/
def texts? (rs : List Regex) : Option (List (List Char)) :=
  rs.mapM fun r =>
    match r with
    | text cs => some cs
    | _ => none

mutual

/-- Adds the states of an expression. -/
def weigh (back : Bool) : Regex → Tally → Option Tally
  | empty, t => t.add 0
  | text cs, t => Tally.repeated (Tally.add 0) (textBytes cs) t
  | oneOf s, t => t.addSet back s
  | assert _, t => t.add 0
  | concat rs, t => weighAll back rs t
  | either rs, t =>
    match texts? rs with
    | some texts => t.addTexts (texts.map fun cs => if back then (utf8 cs).reverse else utf8 cs)
    | none => weighWays back 0 rs t
  | repeated r low high _, t =>
    match high with
    | none =>
      if low = 0 then
        if r.shortest.any (0 < ·) then t.addFork.bind (weigh back r)
        else do (← (← (← weigh back r t).addFork).addFork).add 0
      else do (← Tally.repeated (weigh back r) low t).addFork
    | some high =>
      if low = 0 ∧ high = 1 then do (← weigh back r (← t.addFork)).add 0
      else do
        let t ← if low = 0 then t.add 0 else Tally.repeated (weigh back r) low t
        if low = high then return t
        Tally.repeated (fun t => t.addFork.bind (weigh back r)) (high - low) (← t.add 0)
  | group _ r, t =>
    if back then weigh back r t else do (← weigh back r (← t.add 0)).add 0

/-- Adds the states of a sequence, in the order in which they are read. -/
def weighAll (back : Bool) : List Regex → Tally → Option Tally
  | [], t => some t
  | r :: rs, t => if back then (weighAll back rs t).bind (weigh back r) else (weigh back r t).bind (weighAll back rs)

/-- Adds the states of the ways of a choice, after `done` others. The state where they part and the one where they
    meet come after the first two ways. -/
def weighWays (back : Bool) (done : Nat) : List Regex → Tally → Option Tally
  | [], t => some t
  | r :: rs, t => do
    let t ← weigh back r t
    if done = 1 then weighWays back (done + 1) rs (← (← t.add (wayRoom * (rs.length + 2))).add 0)
    else weighWays back (done + 1) rs t

end

/-- The automaton of a whole pattern. It begins with a loop over any bytes, unless a match can only begin where
    reading begins, and ends with a state that accepts. -/
def automaton (back : Bool) (r : Regex) : Option Tally := do
  let start : Tally := ⟨0, 0⟩
  let t ←
    if (if back then r.endsText else r.beginsText) then start.add 0
    else do (← (← start.addFork).add 0).add edgeRoom
  let t ← if back then weigh back r t else do (← weigh back r (← t.add 0)).add 0
  t.add 0

/-- Whether there is room for the automata of an expression. -/
def fits (r : Regex) : Bool :=
  (automaton false r).isSome && (automaton true r).isSome

end Regex

end CommandScript.Pattern
