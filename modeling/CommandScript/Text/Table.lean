/-! Compact tables of character properties. A property is written as its flips, the code points where
    membership begins and ends in turn, and a case mapping as runs of evenly spaced characters. -/

namespace CommandScript.Text

/-- Whether `n` lies inside a set that begins and ends in turn at the code points `flips`, which ascend. -/
def insideFlips (flips : List Nat) (n : Nat) : Bool :=
  (flips.takeWhile (· ≤ n)).length % 2 == 1

/-- Whether `n` lies in one of the stretches `(first, last)`, which ascend. -/
def insidePairs (n : Nat) : List (Nat × Nat) → Bool
  | [] => false
  | (first, last) :: rest => first ≤ n && (n ≤ last || insidePairs n rest)

/-- The characters `first, first + stride, …, last`, mapped to characters as far apart from `target` on. -/
structure CaseRun where
  first : Nat
  last : Nat
  stride : Nat
  target : Nat

/-- Where a run maps `n`, if `n` is one of its characters. -/
def CaseRun.image? (r : CaseRun) (n : Nat) : Option Nat :=
  if r.first ≤ n && n ≤ r.last && (n - r.first) % r.stride == 0 then some (r.target + (n - r.first)) else none

/-- The character that `runs` maps `c` to, or `c` itself. -/
def mapByRuns (runs : List CaseRun) (c : Char) : Char :=
  match runs.findSome? (·.image? c.toNat) with
  | some n => Char.ofNat n
  | none => c

/-- The value of a hexadecimal digit. -/
def hexDigit? (c : Char) : Option Nat :=
  if c.isDigit then some (c.toNat - '0'.toNat)
  else if 'a' ≤ c ∧ c ≤ 'f' then some (c.toNat - 'a'.toNat + 10)
  else if 'A' ≤ c ∧ c ≤ 'F' then some (c.toNat - 'A'.toNat + 10)
  else none

/-- The number that hexadecimal digits write. Other characters count as zero. -/
def hexNumber (cs : List Char) : Nat :=
  cs.foldl (fun n c => 16 * n + (hexDigit? c).getD 0) 0

/-- Whether `n` is in one of the spans `(first, last, stride)`. -/
def insideSpans (spans : List (Nat × Nat × Nat)) (n : Nat) : Bool :=
  spans.any fun (first, last, stride) => first ≤ n && n ≤ last && (n - first) % stride == 0

end CommandScript.Text
