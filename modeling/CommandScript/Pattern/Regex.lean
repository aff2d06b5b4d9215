import CommandScript.Pattern.CharSet

/-! Regular expressions in a simple form: sequences and choices are flat, neighbouring characters are joined to one
    text, choices between single characters are sets, and what a choice has in common at its beginning stands
    before it. The functions `chars`, `sequence`, `choice` and `times` keep to this form. -/

namespace CommandScript.Pattern

/-- Which side of a place the characters of words stand on. -/
inductive WordEdge where
  /-- Right on one side. -/
  | boundary
  /-- On both sides or on none. -/
  | noBoundary
  | start
  | stop
  /-- Not before the place. -/
  | startHalf
  /-- Not after the place. -/
  | stopHalf
  deriving DecidableEq

/-- A condition on a place between characters. -/
inductive Assertion where
  | textStart
  | textEnd
  /-- With `returns`, carriage returns end lines too. -/
  | lineStart (returns : Bool)
  | lineEnd (returns : Bool)
  /-- With `ascii`, only ASCII characters are those of words. -/
  | word (ascii : Bool) (edge : WordEdge)
  deriving DecidableEq

/-- A regular expression. -/
inductive Regex where
  | empty
  | text (cs : List Char)
  | oneOf (s : CharSet)
  | assert (a : Assertion)
  | concat (parts : List Regex)
  | either (ways : List Regex)
  /-- At least `low` times, and at most `high` times if that is given; `lazy` prefers fewer times. -/
  | repeated (r : Regex) (low : Nat) (high : Option Nat) (lazy : Bool)
  /-- A part with a number, under which its match is remembered. -/
  | group (number : Nat) (r : Regex)

namespace Regex

mutual

/-- Whether two expressions are written alike. -/
def same : Regex → Regex → Bool
  | empty, empty => true
  | text cs, text ds => cs == ds
  | oneOf s, oneOf t => s == t
  | assert a, assert b => a == b
  | concat rs, concat ss => sameAll rs ss
  | either rs, either ss => sameAll rs ss
  | repeated r low high lazy, repeated s low' high' lazy' =>
    low == low' && high == high' && lazy == lazy' && same r s
  | group n r, group m s => n == m && same r s
  | _, _ => false

/-- Whether the expressions of two lists are written alike. -/
def sameAll : List Regex → List Regex → Bool
  | [], [] => true
  | r :: rs, s :: ss => same r s && sameAll rs ss
  | _, _ => false

end

/-! ### Lengths -/

/-- The number of bytes that a code point takes. -/
def codeBytes (n : Nat) : Nat :=
  if n < 0x80 then 1 else if n < 0x800 then 2 else if n < 0x10000 then 3 else 4

/-- The number of bytes of a text. -/
def textBytes (cs : List Char) : Nat :=
  cs.foldl (fun n c => n + codeBytes c.toNat) 0

mutual

/-- The least number of bytes that a match takes, if there is any match. -/
def shortest : Regex → Option Nat
  | empty | assert _ => some 0
  | text cs => some (textBytes cs)
  | oneOf s => s.spans.head?.map fun (first, _) => codeBytes first
  | concat rs => shortestSum rs
  | either rs => shortestOf rs
  | repeated r low _ _ => r.shortest.map (low * ·)
  | group _ r => r.shortest

/-- The least number of bytes that matches of all parts take together. -/
def shortestSum : List Regex → Option Nat
  | [] => some 0
  | r :: rs => do return (← r.shortest) + (← shortestSum rs)

/-- The least number of bytes that a match of one of several takes. -/
def shortestOf : List Regex → Option Nat
  | [] => none
  | [r] => r.shortest
  | r :: rs => do return min (← r.shortest) (← shortestOf rs)

end

mutual

/-- The greatest number of bytes that a match takes, if there is a bound and any match. -/
def longest : Regex → Option Nat
  | empty | assert _ => some 0
  | text cs => some (textBytes cs)
  | oneOf s => s.spans.getLast?.map fun (_, last) => codeBytes last
  | concat rs => longestSum rs
  | either rs => longestOf rs
  | repeated r _ high _ => do return (← r.longest) * (← high)
  | group _ r => r.longest

/-- The greatest number of bytes that matches of all parts take together. -/
def longestSum : List Regex → Option Nat
  | [] => some 0
  | r :: rs => do return (← r.longest) + (← longestSum rs)

/-- The greatest number of bytes that a match of one of several takes. -/
def longestOf : List Regex → Option Nat
  | [] => none
  | [r] => r.longest
  | r :: rs => do return max (← r.longest) (← longestOf rs)

end

/-- Whether an expression matches nothing but the empty text. -/
def isVoid (r : Regex) : Bool :=
  r.longest == some 0

mutual

/-- Whether every match begins at the beginning of the text. -/
def beginsText : Regex → Bool
  | assert a => a == .textStart
  | concat rs => beginsTextAll rs
  | either rs => beginsTextEach rs
  | repeated r low _ _ => low != 0 && r.beginsText
  | group _ r => r.beginsText
  | _ => false

/-- Whether a part does so, with only void parts before it. -/
def beginsTextAll : List Regex → Bool
  | [] => false
  | r :: rs => r.beginsText || r.isVoid && beginsTextAll rs

/-- Whether each of several does so. -/
def beginsTextEach : List Regex → Bool
  | [] => true
  | r :: rs => r.beginsText && beginsTextEach rs

end

mutual

/-- Whether every match ends at the end of the text. -/
def endsText : Regex → Bool
  | assert a => a == .textEnd
  | concat rs => endsTextAll rs
  | either rs => endsTextEach rs
  | repeated r low _ _ => low != 0 && r.endsText
  | group _ r => r.endsText
  | _ => false

/-- Whether a part does so, with only void parts after it. -/
def endsTextAll : List Regex → Bool
  | [] => false
  | r :: rs => rs.all isVoid && r.endsText || endsTextAll rs

/-- Whether each of several does so. -/
def endsTextEach : List Regex → Bool
  | [] => true
  | r :: rs => r.endsText && endsTextEach rs

end

/-! ### Simple forms -/

/-- A set of characters, or the text of its only one. -/
def chars (s : CharSet) : Regex :=
  match s.only? with
  | some c => text [c]
  | none => oneOf s

/-- The parts that an expression has as a sequence. -/
def parts : Regex → List Regex
  | empty => []
  | concat rs => rs
  | r => [r]

/-- The ways that an expression has as a choice. -/
def ways : Regex → List Regex
  | either rs => rs
  | r => [r]

/-- Puts a part before others, and joins two texts. -/
def before (r : Regex) (rest : List Regex) : List Regex :=
  match r, rest with
  | text cs, text ds :: rest => text (cs ++ ds) :: rest
  | _, _ => r :: rest

/-- Expressions one after the other. -/
def sequence (rs : List Regex) : Regex :=
  match (rs.flatMap parts).foldr before [] with
  | [] => empty
  | [r] => r
  | rs => concat rs

/-- The sets of expressions that are all single characters. -/
def singles? (rs : List Regex) : Option (List CharSet) :=
  rs.mapM fun r =>
    match r with
    | text [c] => some (.single c)
    | _ => none

/-- The sets of expressions that are all sets of characters. -/
def sets? (rs : List Regex) : Option (List CharSet) :=
  rs.mapM fun r =>
    match r with
    | oneOf s => some s
    | _ => none

/-- How many expressions two lists have in common at their beginnings. -/
def commonCount : List Regex → List Regex → Nat
  | r :: rs, s :: ss => if r.same s then commonCount rs ss + 1 else 0
  | _, _ => 0

/-- How many parts the sequences in a choice have in common at their beginnings; none unless all are sequences. -/
def commonParts (rs : List Regex) : Nat :=
  match rs with
  | concat first :: rest =>
    rest.foldl (fun n r =>
      match r with
      | concat parts => min n (commonCount first parts)
      | _ => 0) first.length
  | _ => 0

/-- A choice between ways that are no choices, without a look at what they have in common. -/
def choiceOf (rs : List Regex) : Regex :=
  match rs with
  | [] => oneOf .empty
  | [r] => r
  | _ =>
    match singles? rs, sets? rs with
    | some sets, _ | _, some sets => chars (.unionAll sets)
    | _, _ => either rs

/-- A choice between expressions. -/
def choice (rs : List Regex) : Regex :=
  let ways := rs.flatMap ways
  match choiceOf ways with
  | either _ =>
    let n := commonParts ways
    if n = 0 then either ways
    else
      let rests := ways.map fun r => sequence (r.parts.drop n)
      match ways with
      | first :: _ => sequence (first.parts.take n ++ [choiceOf (rests.flatMap Regex.ways)])
      | [] => oneOf .empty
  | r => r

/-- An expression repeated. One that is void need not be repeated. -/
def times (r : Regex) (low : Nat) (high : Option Nat) (lazy : Bool) : Regex :=
  let (low, high) := if r.isVoid then (min low 1, some (min (high.getD 1) 1)) else (low, high)
  if high = some 0 then empty
  else if low = 1 ∧ high = some 1 then r
  else repeated r low high lazy

end Regex

end CommandScript.Pattern
