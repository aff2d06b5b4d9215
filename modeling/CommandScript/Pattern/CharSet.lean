import CommandScript.Decimal.Whole
import CommandScript.Text.CaseTable

/-! Sets of characters that a pattern accepts at one place. A set is written in one way only, as the stretches of
    code points that it has, in order and apart from each other; so two sets are equal if they have the same
    characters. -/

namespace CommandScript.Pattern

/-- A set of characters: the first and last code points of its stretches. -/
structure CharSet where
  spans : List (Nat × Nat)
  deriving DecidableEq

/-- The greatest code point. -/
def lastCode : Nat := 0x10FFFF

/-- A stretch and those after it, in order of their beginnings, with those joined that touch or overlap. -/
def joinSpans (span : Nat × Nat) : List (Nat × Nat) → List (Nat × Nat)
  | [] => [span]
  | next :: rest =>
    if next.1 ≤ span.2 + 1 then joinSpans (span.1, max span.2 next.2) rest else span :: joinSpans next rest

/-- The stretches between others, from the code point `start` on. -/
def gaps (start : Nat) : List (Nat × Nat) → List (Nat × Nat)
  | [] => if start ≤ lastCode then [(start, lastCode)] else []
  | (first, last) :: rest =>
    if start < first then (start, first - 1) :: gaps (last + 1) rest else gaps (last + 1) rest

/-- Whether a code point is a surrogate, which is no character. -/
def isSurrogate (n : Nat) : Bool :=
  0xD800 ≤ n && n ≤ 0xDFFF

/-- A stretch that neither begins nor ends with surrogates, if any character is left. -/
def trimSurrogates (span : Nat × Nat) : Option (Nat × Nat) :=
  let first := if isSurrogate span.1 then 0xE000 else span.1
  let last := if isSurrogate span.2 then 0xD7FF else span.2
  if first ≤ last then some (first, last) else none

namespace CharSet

/-- Whether a character is in a set. -/
def mem (c : Char) (s : CharSet) : Bool :=
  Text.insidePairs c.toNat s.spans

/-- The set of the characters in any of some stretches. -/
def ofSpans (spans : List (Nat × Nat)) : CharSet :=
  match spans.mergeSort fun a b => a.1 ≤ b.1 with
  | [] => ⟨[]⟩
  | span :: rest => ⟨joinSpans span rest⟩

/-- No character. -/
def empty : CharSet := ⟨[]⟩

/-- All characters. -/
def all : CharSet := ⟨[(0, lastCode)]⟩

/-- The characters from `first` to `last`. -/
def range (first last : Char) : CharSet := ⟨[(first.toNat, last.toNat)]⟩

/-- One character. -/
def single (c : Char) : CharSet := range c c

/-- The blank characters. -/
def blank : CharSet :=
  ⟨[(9, 13), (32, 32), (0x85, 0x85), (0xA0, 0xA0), (0x1680, 0x1680), (0x2000, 0x200A), (0x2028, 0x2029),
    (0x202F, 0x202F), (0x205F, 0x205F), (0x3000, 0x3000)]⟩

/-- The characters in either set. -/
def union (s t : CharSet) : CharSet :=
  ofSpans (s.spans ++ t.spans)

/-- The characters in one of several sets. -/
def unionAll (sets : List CharSet) : CharSet :=
  ofSpans (sets.flatMap spans)

/-- The characters not in a set. -/
def complement (s : CharSet) : CharSet :=
  ⟨(gaps 0 s.spans).filterMap trimSurrogates⟩

/-- The characters in both sets. -/
def inter (s t : CharSet) : CharSet :=
  (s.complement.union t.complement).complement

/-- The characters in the first set only. -/
def diff (s t : CharSet) : CharSet :=
  s.inter t.complement

/-- The simple case foldings, in runs: those of ASCII letters and all others. -/
def foldRuns : List Text.CaseRun :=
  ⟨'A'.toNat, 'Z'.toNat, 1, 'a'.toNat⟩ :: Text.CaseTable.foldRuns

/-- Whether a set has a code point from `first` to `last`. -/
def meets (s : CharSet) (first last : Nat) : Bool :=
  s.spans.any fun span => span.1 ≤ last && first ≤ span.2

/-- The code points of a run with those that they fold to. -/
def foldPairs (r : Text.CaseRun) : List (Nat × Nat) :=
  (List.range ((r.last - r.first) / r.stride + 1)).map fun i => (r.first + i * r.stride, r.target + i * r.stride)

/-- What the characters of a set fold to, as far as a folding changes them or leads to them. -/
def folded (s : CharSet) : CharSet :=
  ofSpans (foldRuns.flatMap fun r =>
    if s.meets r.first r.last || s.meets r.target (r.target + (r.last - r.first)) then
      (foldPairs r).filterMap fun (n, target) =>
        if Text.insidePairs n s.spans || Text.insidePairs target s.spans then some (target, target) else none
    else [])

/-- The characters equal up to case to one of `s`. -/
def caseless (s : CharSet) : CharSet :=
  let targets := s.folded
  let others := foldRuns.flatMap fun r =>
    if targets.meets r.target (r.target + (r.last - r.first)) then
      (foldPairs r).filterMap fun (n, target) => if Text.insidePairs target targets.spans then some (n, n) else none
    else []
  ofSpans (s.spans ++ targets.spans ++ others)

/-- The characters of `s`, with the ASCII letters equal up to case to one of them. -/
def caselessAscii (s : CharSet) : CharSet :=
  let shift (first last target : Char) : List (Nat × Nat) :=
    s.spans.filterMap fun span =>
      let low := max span.1 first.toNat
      let high := min span.2 last.toNat
      if low ≤ high then some (target.toNat + (low - first.toNat), target.toNat + (high - first.toNat)) else none
  ofSpans (s.spans ++ shift 'a' 'z' 'A' ++ shift 'A' 'Z' 'a')

/-- The set of ASCII characters with a name of their own, such as `alpha`. -/
def named? (name : String) : Option CharSet :=
  let of (ranges : List (Char × Char)) : Option CharSet :=
    some ⟨ranges.map fun (a, b) => (a.toNat, b.toNat)⟩
  match name with
  | "alnum" => of [('0', '9'), ('A', 'Z'), ('a', 'z')]
  | "alpha" => of [('A', 'Z'), ('a', 'z')]
  | "ascii" => of [('\x00', '\x7f')]
  | "blank" => of [('\t', '\t'), (' ', ' ')]
  | "cntrl" => of [('\x00', '\x1f'), ('\x7f', '\x7f')]
  | "digit" => of [('0', '9')]
  | "graph" => of [('!', '~')]
  | "lower" => of [('a', 'z')]
  | "print" => of [(' ', '~')]
  | "punct" => of [('!', '/'), (':', '@'), ('[', '\x60'), ('\x7b', '~')]
  | "space" => of [('\t', '\r'), (' ', ' ')]
  | "upper" => of [('A', 'Z')]
  | "word" => of [('0', '9'), ('A', 'Z'), ('_', '_'), ('a', 'z')]
  | "xdigit" => of [('0', '9'), ('A', 'F'), ('a', 'f')]
  | _ => none

/-- The only character of a set, if it has just one. -/
def only? (s : CharSet) : Option Char :=
  match s.spans with
  | [(first, last)] => if first = last then some (Char.ofNat first) else none
  | _ => none

/-- Whether all characters of a set are ASCII. -/
def isAscii (s : CharSet) : Bool :=
  s.spans.all fun (_, last) => last < 128

end CharSet

/-! ### Bytes

The characters of a stretch that take the same number of bytes are numbers in digits of six bits each, with marks added
to the digits; so a stretch falls into sequences of byte spans, and a character is in the stretch if its bytes lie in
the spans of one of the sequences. -/

/-- The bytes from a first to a last one. -/
abbrev ByteSpan := Nat × Nat

/-- A byte that goes on with a character is a digit above this mark. -/
def tailMark : Nat := 0x80

/-- Puts the same first byte, a digit above `mark`, before all sequences. -/
def withFirst (mark digit : Nat) (sequences : List (List ByteSpan)) : List (List ByteSpan) :=
  sequences.map ((mark + digit, mark + digit) :: ·)

/-- The sequences that write the numbers from `a` to `b`, in order. The first digit stands above `mark`, and
    `count` more digits follow. First digits whose other digits are not restricted stand in one sequence. -/
def numberSpans (mark : Nat) : (count : Nat) → (a b : Nat) → List (List ByteSpan)
  | 0, a, b => [[(mark + a, mark + b)]]
  | count + 1, a, b =>
    let size := Decimal.twoTo (6 * (count + 1))
    let low := a / size
    let high := b / size
    if low = high then withFirst mark low (numberSpans tailMark count (a % size) (b % size))
    else
      let head := if a % size = 0 then [] else withFirst mark low (numberSpans tailMark count (a % size) (size - 1))
      let tail := if b % size = size - 1 then [] else withFirst mark high (numberSpans tailMark count 0 (b % size))
      let first := if a % size = 0 then low else low + 1
      let stop := if b % size = size - 1 then high + 1 else high
      let full :=
        if first < stop then
          [(mark + first, mark + stop - 1) :: List.replicate (count + 1) (tailMark, tailMark + 63)]
        else []
      head ++ full ++ tail

/-- The stretches of code points that take the same number of bytes: the mark of the first byte, how many bytes
    follow, and the first and last code points. Surrogates are in none. -/
def byteLengths : List (Nat × Nat × Nat × Nat) :=
  [(0, 0, 0, 0x7F), (0xC0, 1, 0x80, 0x7FF), (0xE0, 2, 0x800, 0xD7FF), (0xE0, 2, 0xE000, 0xFFFF),
    (0xF0, 3, 0x10000, lastCode)]

/-- The sequences that write the characters of a stretch, in order. -/
def byteSpans (span : Nat × Nat) : List (List ByteSpan) :=
  byteLengths.flatMap fun (mark, count, first, last) =>
    let a := max span.1 first
    let b := min span.2 last
    if a ≤ b then numberSpans mark count a b else []

/-- The sequences that write the characters of a set. -/
def CharSet.byteSpans (s : CharSet) : List (List ByteSpan) :=
  s.spans.flatMap Pattern.byteSpans

end CommandScript.Pattern
