import CommandScript.Decimal.Whole

/-! Reading numbers. A text is an exact fraction first, and then the float nearest to it; of two floats equally
    near, the one with the even mantissa. -/

namespace CommandScript.Decimal

/-- The bits of the float nearest to the positive fraction `num / den`. -/
def nearestBits (num den : Nat) : Nat :=
  if num = 0 then 0
  else
    let magnitude : Int := (num.log2 : Int) - den.log2
    let low : Int := max (magnitude - 53) (-1074)
    let scaled (e : Int) : Nat × Nat := (num * twoTo (-e).toNat, den * twoTo e.toNat)
    let (n, d) := scaled low
    let e := if n / d ≥ twoTo 53 then low + 1 else low
    let (n, d) := scaled e
    let q := n / d
    let r := n % d
    let rounded := if 2 * r > d || (2 * r == d && q % 2 == 1) then q + 1 else q
    let bits := if rounded < twoTo 52 then rounded else (e + 1075).toNat * twoTo 52 + (rounded - twoTo 52)
    min bits (2047 * twoTo 52)

/-- The float nearest to `mantissa · 10 ^ exponent`. Exponents out of all range give zero or infinity at once. -/
def nearestFloat (negative : Bool) (mantissa : Nat) (exponent : Int) : Float :=
  let places : Int := mantissa.log2 / 3 + 1
  let bits :=
    if mantissa = 0 || exponent + places < -330 then 0
    else if exponent > 310 then 2047 * twoTo 52
    else nearestBits (mantissa * tenTo exponent.toNat) (tenTo (-exponent).toNat)
  Float.ofBits (UInt64.ofNat (if negative then bits + twoTo 63 else bits))

/-- The float nearest to a whole number. -/
def wholeFloat (n : Int) : Float :=
  nearestFloat (n < 0) n.natAbs 0

/-- The exponent part of a number: nothing, or a letter `e`, a sign and digits. -/
def readExponent? : List Char → Option Int
  | [] => some 0
  | c :: cs =>
    if c = 'e' ∨ c = 'E' then
      match cs with
      | '-' :: ds => (readDigits? ds).map fun n => -(n : Int)
      | '+' :: ds => (readDigits? ds).map fun n => (n : Int)
      | ds => (readDigits? ds).map fun n => (n : Int)
    else none

/-- The float that an unsigned number writes: digits, a point and digits, and an exponent. Digits may be missing
    on one side of the point. -/
def readUnsigned? (negative : Bool) (cs : List Char) : Option Float :=
  let whole := cs.takeWhile Char.isDigit
  let rest := cs.dropWhile Char.isDigit
  let (fraction, tail) :=
    match rest with
    | '.' :: after => (after.takeWhile Char.isDigit, after.dropWhile Char.isDigit)
    | _ => ([], rest)
  if whole.isEmpty && fraction.isEmpty then none
  else
    (readExponent? tail).map fun exponent =>
      nearestFloat negative (digitsValue 0 (whole ++ fraction)) (exponent - fraction.length)

/-- The float that a number with at most one sign writes. It may be infinite when the number is too large. -/
def readFloat? (s : String) : Option Float :=
  match s.toList with
  | '-' :: cs => readUnsigned? true cs
  | '+' :: cs => readUnsigned? false cs
  | cs => readUnsigned? false cs

end CommandScript.Decimal
