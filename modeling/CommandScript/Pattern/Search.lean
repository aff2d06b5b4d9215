import CommandScript.Pattern.Classes
import CommandScript.Pattern.Regex

/-! Searching a text with a regular expression. The expression becomes a program, and all ways through the program
    are followed at once: for every position of the text there is the list of the steps that wait for the next
    character. A text matches if the program can end anywhere, begun anywhere. -/

namespace CommandScript.Pattern

/-- A step of a program. It leads on to steps that are given by their places in the program. -/
inductive Step where
  /-- Reads a character of the set. -/
  | read (s : CharSet) (next : Nat)
  /-- Goes on at either place. -/
  | fork (first second : Nat)
  /-- Goes on if the condition holds. -/
  | check (a : Assertion) (next : Nat)
  | done

/-- The steps of a program. -/
abbrev Program := Array Step

namespace Program

/-- A program with a step more, and the place of that step. -/
def add (p : Program) (s : Step) : Nat × Program :=
  (p.size, p.push s)

/-- A program with `count` copies of what `emit` adds, one leading to the next and the last one to `next`. -/
def copies (emit : Nat → Program → Nat × Program) : (count : Nat) → (next : Nat) → Program → Nat × Program
  | 0, next, p => (next, p)
  | count + 1, next, p =>
    let (next, p) := emit next p
    copies emit count next p

/-- A program with `count` copies of what `emit` adds, each of which may be left out with those after it. -/
def optionals (emit : Nat → Program → Nat × Program) (stop : Nat) :
    (count : Nat) → (next : Nat) → Program → Nat × Program
  | 0, next, p => (next, p)
  | count + 1, next, p =>
    let (first, p) := emit next p
    let (next, p) := p.add (.fork first stop)
    optionals emit stop count next p

/-- A program with a loop over what `emit` adds, which goes on at `next`. Gives the place where the loop is entered
    with its first round, and the one where it may be passed over. -/
def loop (emit : Nat → Program → Nat × Program) (next : Nat) (p : Program) : Nat × Nat × Program :=
  let (again, p) := p.add (.fork next next)
  let (first, p) := emit again p
  (first, again, p.setIfInBounds again (.fork first next))

end Program

namespace Regex

mutual

/-- A program with the steps of an expression, which lead on to `next`, and the place where they begin. -/
def emit : Regex → (next : Nat) → Program → Nat × Program
  | empty, next, p => (next, p)
  | text cs, next, p => cs.foldr (fun c (next, p) => p.add (.read (.single c) next)) (next, p)
  | oneOf s, next, p => p.add (.read s next)
  | assert a, next, p => p.add (.check a next)
  | concat rs, next, p => emitAll rs next p
  | either rs, next, p => emitWays rs next p
  | repeated r low high _, next, p =>
    match high with
    | none =>
      let (first, again, p) := Program.loop (emit r) next p
      if low = 0 then (again, p) else Program.copies (emit r) (low - 1) first p
    | some high =>
      let (first, p) := Program.optionals (emit r) next (high - low) next p
      Program.copies (emit r) low first p
  | group _ r, next, p => emit r next p

/-- A program with the steps of several expressions, one after the other. -/
def emitAll : List Regex → (next : Nat) → Program → Nat × Program
  | [], next, p => (next, p)
  | r :: rs, next, p =>
    let (next, p) := emitAll rs next p
    emit r next p

/-- A program with the steps of several expressions, of which one is taken. -/
def emitWays : List Regex → (next : Nat) → Program → Nat × Program
  | [], _, p => p.add (.read .empty 0)
  | [r], next, p => emit r next p
  | r :: rs, next, p =>
    let (others, p) := emitWays rs next p
    let (first, p) := emit r next p
    p.add (.fork first others)

end

end Regex

/-- The characters before and after a position. -/
structure Surround where
  before : Option Char
  after : Option Char

/-- Whether a place between characters lies as an edge says, where `before` and `after` say on which sides
    characters of words stand. -/
def WordEdge.holds (edge : WordEdge) (before after : Bool) : Bool :=
  match edge with
  | boundary => before != after
  | noBoundary => before == after
  | start => !before && after
  | stop => before && !after
  | startHalf => !before
  | stopHalf => !after

/-- Whether a condition holds at a position. No line begins or ends between a carriage return and a line feed, if
    carriage returns end lines. -/
def Assertion.holds (a : Assertion) (p : Surround) : Bool :=
  match a with
  | textStart => p.before.isNone
  | textEnd => p.after.isNone
  | lineStart returns =>
    p.before.all (· == '\n') || returns && p.before == some '\r' && p.after != some '\n'
  | lineEnd returns =>
    if returns then p.after.all (· == '\r') || p.after == some '\n' && p.before != some '\r'
    else p.after.all (· == '\n')
  | word ascii edge =>
    let ofWord (c : Char) : Bool := CharSet.mem c (EscapeClass.word.set ascii)
    edge.holds (p.before.any ofWord) (p.after.any ofWord)

/-- The steps that wait for a character, whether the program can end, and when each step was reached last. -/
structure Front where
  waiting : List (CharSet × Nat)
  ended : Bool
  reached : Array Nat

/-- Follows the steps `todo` as far as they go without reading. A step that was reached in this `round` already is
    not followed again. -/
def Program.follow (p : Program) (here : Surround) (round : Nat) : (fuel : Nat) → (todo : List Nat) → Front → Front
  | 0, _, f => f
  | _, [], f => f
  | fuel + 1, place :: todo, f =>
    if f.reached[place]? == some round then p.follow here round fuel todo f
    else
      let f := { f with reached := f.reached.setIfInBounds place round }
      match p[place]? with
      | some (.read s next) => p.follow here round fuel todo { f with waiting := (s, next) :: f.waiting }
      | some (.fork first second) => p.follow here round fuel (first :: second :: todo) f
      | some (.check a next) => p.follow here round fuel (if a.holds here then next :: todo else todo) f
      | some .done => p.follow here round fuel todo { f with ended := true }
      | none => p.follow here round fuel todo f

/-- Whether a program that begins at `start` can end somewhere in a text, when it also goes on at `todo`. -/
def Program.ends (p : Program) (start : Nat) (before : Option Char) (round : Nat) (todo : List Nat)
    (reached : Array Nat) (cs : List Char) : Bool :=
  let todo := start :: todo
  let front := p.follow ⟨before, cs.head?⟩ round (todo.length + 2 * p.size) todo ⟨[], false, reached⟩
  front.ended ||
    match cs with
    | [] => false
    | c :: rest =>
      let next := front.waiting.filterMap fun (s, next) => if s.mem c then some next else none
      p.ends start (some c) (round + 1) next front.reached rest

/-- Whether an expression matches somewhere in a text. -/
def Regex.search (r : Regex) (text : String) : Bool :=
  let (start, p) := r.emit 0 #[.done]
  p.ends start none 1 [] (Array.replicate p.size 0) text.toList

end CommandScript.Pattern
