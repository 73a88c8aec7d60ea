import VectorKernel.Decimal.Binary64
import VectorKernel.Json.Basic
import VectorKernel.Text.Numeral

/-!
# Meaning of JSON numbers

A number is used as a bounded natural number or as a double. The double is
formed from a significand of at most 64 bits and a power of ten: digits that no
longer fit are counted where they stand before the point and ignored after it,
and the significand is then scaled in double precision. The result can be off
the nearest double by its last bit.
-/

namespace VectorKernel.Json.Number

open VectorKernel.Decimal

/-- The number as a natural number up to `limit`. A sign, a fraction or an
exponent is refused, whatever the value. -/
def natural? (limit : Nat) (number : Number) : Option Nat :=
  if number.negative || !number.fraction.isEmpty || number.exponent.isSome then none
  else
    let value := Text.digitsValue number.whole
    if value ≤ limit then some value else none

/-- Appends digits to a significand as long as it fits into 64 bits. Returns
the significand and the digits left over. -/
def absorb (significand : Nat) : List Char → Nat × List Char
  | [] => (significand, [])
  | digit :: digits =>
    let next := 10 * significand + (digit.toNat - '0'.toNat)
    if next ≤ Text.limit64 then absorb next digits else (significand, digit :: digits)

/-- The largest power of ten that is a finite double. -/
def maxPower : Nat := 308

/-- A magnitude times a power of ten, which is itself rounded to a double.
Magnitudes beyond the range are refused. -/
def scaleUp? (magnitude : Binary64) (power : Nat) : Option Binary64 := do
  let product ← magnitude.mulMagnitude? (.ofNat (Nat.pow 10 power))
  if product.isFinite then some product else none

/-- A magnitude divided by a power of ten in as many steps as it takes, each by
a finite power. The fuel bounds the steps; two of the largest power leave
nothing of any significand. -/
def scaleDown? : Nat → Binary64 → Nat → Option Binary64
  | 0, magnitude, _ => some magnitude
  | fuel + 1, magnitude, power =>
    if power ≤ maxPower then magnitude.divMagnitude? (.ofNat (Nat.pow 10 power))
    else do
      let reduced ← magnitude.divMagnitude? (.ofNat (Nat.pow 10 maxPower))
      scaleDown? fuel reduced (power - maxPower)

/-- The significand times a power of ten, as a double. Zero is zero whatever
the power. -/
def scale? (significand : Nat) (power : Int) : Option Binary64 :=
  let magnitude := Binary64.ofNat significand
  if significand = 0 then some magnitude
  else if power < 0 then scaleDown? 3 magnitude (-power).toNat
  else if power.toNat ≤ maxPower then scaleUp? magnitude power.toNat
  else none

/-- The number as a double; `none` if it is beyond the range. -/
def double? (number : Number) : Option Binary64 := do
  let (afterWhole, wholeLeft) := absorb 0 number.whole
  let (significand, fractionLeft) := absorb afterWhole number.fraction
  let shift : Int := (wholeLeft.length : Int) - ((number.fraction.length : Int) - fractionLeft.length)
  let power : Int := match number.exponent with
    | none => shift
    | some (true, digits) => shift - Text.digitsValue digits
    | some (false, digits) => shift + Text.digitsValue digits
  return (← scale? significand power).withSign number.negative

end VectorKernel.Json.Number
