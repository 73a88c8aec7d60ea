import VectorKernel.Decimal.Binary64

/-!
# Shortest decimals

The decimal with the fewest digits that reads back as a given double; of
several such decimals the one nearest to the double's value. Comparisons are
exact, on natural numbers.
-/

namespace VectorKernel.Decimal

/-- A positive decimal number `digits * 10 ^ exponent`. -/
structure Numeral where
  digits : Nat
  exponent : Int
  deriving DecidableEq, Repr

/-- A positive value with the bounds of the numbers that round to it, all
over one denominator. The bounds belong to the interval if `closed`. -/
structure Interval where
  low : Nat
  value : Nat
  high : Nat
  denominator : Nat
  closed : Bool
  deriving DecidableEq, Repr

/-- The interval of a finite double `mantissa * 2 ^ exponent`. It reaches half
way to the neighbours; below a power of two the neighbour is nearer. -/
def Interval.ofBinary (mantissa : Nat) (exponent : Int) : Interval :=
  let atPower : Bool := mantissa = Nat.pow 2 52 && exponent > Binary64.minExponent
  let (up, down) := Binary64.ratio 1 (exponent - 2)
  { low := (4 * mantissa - if atPower then 1 else 2) * up
    value := 4 * mantissa * up
    high := (4 * mantissa + 2) * up
    denominator := down
    closed := mantissa % 2 = 0 }

/-- A numerator and a denominator for `digits * 10 ^ exponent`. -/
def Numeral.ratio (decimal : Numeral) : Nat × Nat :=
  if 0 ≤ decimal.exponent then (decimal.digits * Nat.pow 10 decimal.exponent.toNat, 1)
  else (decimal.digits, Nat.pow 10 (-decimal.exponent).toNat)

/-- Whether a decimal lies in an interval. -/
def Interval.contains (interval : Interval) (decimal : Numeral) : Bool :=
  let (numerator, denominator) := decimal.ratio
  let point := numerator * interval.denominator
  let low := interval.low * denominator
  let high := interval.high * denominator
  if interval.closed then low ≤ point && point ≤ high
  else low < point && point < high

/-- The place of the decimal point of a positive ratio: the least power of ten
above it. The scale by `10 ^ 400` brings every positive double above one. -/
def pointOf (numerator denominator : Nat) : Int :=
  let scaled := numerator * Nat.pow 10 400 / denominator
  ((Nat.toDigits 10 scaled).length : Int) - 400

/-- Which of two equally near decimals is taken. -/
inductive Tie where
  /-- The larger one. -/
  | up
  /-- The one whose last digit is even. -/
  | even
  deriving DecidableEq, Repr

/-- The decimal taken of two neighbours on a grid that are equally near. -/
def Tie.choose (tie : Tie) (below above : Numeral) : Numeral :=
  match tie with
  | .up => above
  | .even => if below.digits % 2 = 0 then below else above

/-- Of the two neighbours of the value on the grid `10 ^ exponent`, the one in
the interval, and of both the nearer. -/
def Interval.onGrid? (interval : Interval) (tie : Tie) (exponent : Int) : Option Numeral :=
  let (up, down) := ({ digits := 1, exponent } : Numeral).ratio
  let unit := interval.denominator * up
  let scaled := interval.value * down
  let below : Numeral := { digits := scaled / unit, exponent }
  let above : Numeral := { below with digits := below.digits + 1 }
  match interval.contains below, interval.contains above with
  | true, true =>
    let twice := 2 * (scaled % unit)
    some (if twice < unit then below else if unit < twice then above else tie.choose below above)
  | true, false => some below
  | false, true => some above
  | false, false => none

/-- Removes trailing zeros from the digits of a decimal. The fuel is the number
of digits. -/
def Numeral.normalize : Nat → Numeral → Numeral
  | 0, decimal => decimal
  | fuel + 1, decimal =>
    if decimal.digits % 10 = 0 then
      normalize fuel { digits := decimal.digits / 10, exponent := decimal.exponent + 1 }
    else decimal

/-- The shortest decimal of a positive finite double. Seventeen digits always
suffice. -/
def shortest (tie : Tie) (mantissa : Nat) (exponent : Int) : Numeral :=
  let interval := Interval.ofBinary mantissa exponent
  let point := pointOf interval.value interval.denominator
  let hit := (List.range 17).findSome? fun count => interval.onGrid? tie (point - (count + 1 : Nat))
  (hit.getD { digits := mantissa, exponent }).normalize 18

end VectorKernel.Decimal
