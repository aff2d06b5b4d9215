/-! Powers of two and of ten, and whole numbers in decimal: an optional sign and ASCII digits, within bounds. -/

namespace CommandScript.Decimal

/-- Two to the `n`. -/
def twoTo (n : Nat) : Nat :=
  Nat.pow 2 n

/-- Ten to the `n`. -/
def tenTo (n : Nat) : Nat :=
  Nat.pow 10 n

/-- The number that a list of decimal digits writes after `high`. -/
def digitsValue (high : Nat) (cs : List Char) : Nat :=
  cs.foldl (fun n c => 10 * n + (c.toNat - '0'.toNat)) high

/-- The number that a non-empty list of decimal digits writes. -/
def readDigits? (cs : List Char) : Option Nat :=
  if !cs.isEmpty && cs.all Char.isDigit then some (digitsValue 0 cs) else none

/-- The whole number that `s` writes with at most one sign, if it lies between `low` and `high`. -/
def readWhole? (low high : Int) (s : String) : Option Int :=
  let signed : Option Int :=
    match s.toList with
    | '-' :: cs => (readDigits? cs).map fun n => -(n : Int)
    | '+' :: cs => (readDigits? cs).map fun n => (n : Int)
    | cs => (readDigits? cs).map fun n => (n : Int)
  signed.filter fun n => low ≤ n && n ≤ high

/-- The natural number up to `high` that `s` writes. A plus sign may stand before it, a minus sign may not. -/
def readNatural? (high : Nat) (s : String) : Option Nat :=
  let digits :=
    match s.toList with
    | '+' :: cs => cs
    | cs => cs
  (readDigits? digits).filter (· ≤ high)

end CommandScript.Decimal
