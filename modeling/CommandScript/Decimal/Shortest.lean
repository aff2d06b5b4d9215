import CommandScript.Decimal.Whole

/-! The shortest decimal that reads back as the same float, in exact arithmetic. A positive float is
    `mantissa · 2 ^ exponent`. The reals nearer to it than to any other float form an interval around it, with its
    ends if the mantissa is even. The grids of one, two, three, … digits are searched in turn for a point of the
    interval next to the float. -/

namespace CommandScript.Decimal

/-- A positive binary fraction `mantissa · 2 ^ exponent`. -/
structure Binary where
  mantissa : Nat
  exponent : Int

/-- The parts of the positive finite float whose bits, without the sign, are `bits`. -/
def Binary.ofBits (bits : Nat) : Binary :=
  let field : Nat := bits / twoTo 52
  let fraction : Nat := bits % twoTo 52
  if field = 0 then ⟨fraction, -1074⟩ else ⟨twoTo 52 + fraction, (field : Int) - 1075⟩

/-- A decimal `digits · 10 ^ exponent`. -/
structure Scaled where
  digits : Nat
  exponent : Int
  deriving Repr, DecidableEq

/-- The distances of a binary fraction to the ends of its interval, below and above, in quarters of the unit
    `2 ^ exponent`. The gap below a power of two is half as wide. -/
def Binary.gaps (b : Binary) : Nat × Nat :=
  if b.mantissa = twoTo 52 && b.exponent > -1074 then (1, 2) else (2, 2)

/-- How many decimal digits a number has. -/
def decimalLength (fuel n : Nat) : Nat :=
  match fuel with
  | 0 => 0
  | fuel + 1 => if n < 10 then 1 else decimalLength fuel (n / 10) + 1

/-- The power of ten that the first digit of a binary fraction stands for. -/
def Binary.leading (b : Binary) : Int :=
  let scaled := b.mantissa * tenTo 400 * twoTo b.exponent.toNat / twoTo (-b.exponent).toNat
  (decimalLength 800 scaled : Int) - 401

/-- The point of the grid `10 ^ k` in the interval of `b` and nearest to it, if there is one. Of two points
    equally near, the upper. -/
def Binary.onGrid? (b : Binary) (k : Int) : Option Scaled :=
  let (down, up) := b.gaps
  let e := b.exponent - 2
  let step := tenTo k.toNat * twoTo (-e).toNat
  let unit := tenTo (-k).toNat * twoTo e.toNat
  let value := 4 * b.mantissa * unit
  let low := (4 * b.mantissa - down) * unit
  let high := (4 * b.mantissa + up) * unit
  let inside (x : Nat) : Bool := if b.mantissa % 2 == 0 then low ≤ x && x ≤ high else low < x && x < high
  let below := value / step
  let above := below + 1
  let takeBelow := below ≠ 0 && inside (below * step)
  let takeAbove := inside (above * step)
  if takeBelow && takeAbove then
    if value - below * step < above * step - value then some ⟨below, k⟩ else some ⟨above, k⟩
  else if takeBelow then some ⟨below, k⟩
  else if takeAbove then some ⟨above, k⟩
  else none

/-- The first of the grids `10 ^ k, 10 ^ (k - 1), …` that has a point in the interval. -/
def Binary.search (b : Binary) : (grids : Nat) → (k : Int) → Scaled
  | 0, k => ⟨b.mantissa, k⟩
  | grids + 1, k =>
    match b.onGrid? k with
    | some d => d
    | none => b.search grids (k - 1)

/-- A decimal without zeros at the end of its digits. -/
def Scaled.reduce (d : Scaled) : (fuel : Nat) → Scaled
  | 0 => d
  | fuel + 1 => if d.digits ≠ 0 && d.digits % 10 == 0 then Scaled.reduce ⟨d.digits / 10, d.exponent + 1⟩ fuel else d

/-- The shortest decimal in the interval of a positive binary fraction. -/
def Binary.shortest (b : Binary) : Scaled :=
  (b.search 18 b.leading).reduce 400

/-- The decimal digits of a number. -/
def digitsOf (n : Nat) : List Char :=
  Nat.toDigits 10 n

/-- A decimal in positional notation, without a point if it is whole. -/
def Scaled.positional (d : Scaled) : List Char :=
  let digits := digitsOf d.digits
  if d.exponent ≥ 0 then digits ++ List.replicate d.exponent.toNat '0'
  else
    let places := (-d.exponent).toNat
    let padded := List.replicate (places + 1 - digits.length) '0' ++ digits
    padded.take (padded.length - places) ++ '.' :: padded.drop (padded.length - places)

/-- A decimal in scientific notation: one digit before the point, no point after a single digit. -/
def Scaled.scientific (d : Scaled) : List Char :=
  let digits := digitsOf d.digits
  let power := d.exponent + (digits.length - 1 : Nat)
  let sign := if power < 0 then ['-'] else []
  let mantissa :=
    match digits with
    | first :: second :: more => first :: '.' :: second :: more
    | _ => digits
  mantissa ++ 'e' :: sign ++ digitsOf power.natAbs

/-- The shortest text that reads back as `x`, always positional. The sign of a negative zero is written. -/
def floatText (x : Float) : String :=
  if x.isNaN then "NaN"
  else
    let bits := x.toBits.toNat
    let magnitude := bits % twoTo 63
    let body :=
      if magnitude = 2047 * twoTo 52 then ['i', 'n', 'f']
      else if magnitude = 0 then ['0']
      else (Binary.ofBits magnitude).shortest.positional
    String.ofList (if bits ≥ twoTo 63 then '-' :: body else body)

/-- The shortest text that reads back as `x` and shows that it is no whole number: with a point, or scientific
    from `10 ^ 16` on and below `10 ^ (-4)`. -/
def floatTextMarked (x : Float) : String :=
  if x.isNaN then "NaN"
  else
    let bits := x.toBits.toNat
    let magnitude := bits % twoTo 63
    let body :=
      if magnitude = 2047 * twoTo 52 then ['i', 'n', 'f']
      else if magnitude = 0 then ['0', '.', '0']
      else
        let d := (Binary.ofBits magnitude).shortest
        let power := d.exponent + ((digitsOf d.digits).length - 1 : Nat)
        if power ≥ 16 || power < -4 then d.scientific
        else if d.exponent ≥ 0 then d.positional ++ ['.', '0']
        else d.positional
    String.ofList (if bits ≥ twoTo 63 then '-' :: body else body)

end CommandScript.Decimal
