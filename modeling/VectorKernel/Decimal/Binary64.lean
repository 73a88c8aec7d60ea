/-!
# Double-precision numbers

A double is kept as its 64 bits, so that two of them are equal exactly when
they are written alike, zeros of both signs and not-a-numbers included. This
module decodes the bits and rounds exact ratios to the nearest double.
-/

namespace VectorKernel.Decimal

/-- A double-precision number, by its bits: sign, exponent of 11 bits,
fraction of 52. -/
structure Binary64 where
  bits : UInt64
  deriving DecidableEq, Repr

/-- What the bits of a double stand for. -/
inductive Decoded where
  /-- The value `mantissa * 2 ^ exponent` with a sign. -/
  | finite (negative : Bool) (mantissa : Nat) (exponent : Int)
  | infinite (negative : Bool)
  | nan
  deriving DecidableEq, Repr

namespace Binary64

/-- The smallest exponent of a finite double. -/
def minExponent : Int := -1074

/-- Reads the bits. Subnormal numbers have the least exponent and no hidden
leading bit. -/
def decode (number : Binary64) : Decoded :=
  let word : Nat := number.bits.toNat
  let negative : Bool := word ≥ Nat.pow 2 63
  let exponent : Nat := word / Nat.pow 2 52 % Nat.pow 2 11
  let fraction : Nat := word % Nat.pow 2 52
  if exponent = Nat.pow 2 11 - 1 then
    if fraction = 0 then .infinite negative else .nan
  else if exponent = 0 then .finite negative fraction minExponent
  else .finite negative (Nat.pow 2 52 + fraction) ((exponent : Int) - 1 + minExponent)

/-- Whether the number is neither infinite nor a not-a-number. -/
def isFinite (number : Binary64) : Bool :=
  match number.decode with
  | .finite .. => true
  | _ => false

/-- A numerator and a denominator for `mantissa * 2 ^ exponent`. -/
def ratio (mantissa : Nat) (exponent : Int) : Nat × Nat :=
  if 0 ≤ exponent then (mantissa * Nat.pow 2 exponent.toNat, 1)
  else (mantissa, Nat.pow 2 (-exponent).toNat)

/-- The quotient rounded to the nearest natural number, a half to the even one. -/
def roundDiv (numerator denominator : Nat) : Nat :=
  let quotient := numerator / denominator
  let twice := 2 * (numerator % denominator)
  if twice < denominator then quotient
  else if twice > denominator then quotient + 1
  else quotient + quotient % 2

/-- The largest integer whose power of two does not exceed the ratio of two
positive numbers. -/
def floorLog2 (numerator denominator : Nat) : Int :=
  let estimate : Int := (numerator.log2 : Int) - denominator.log2
  let (up, down) := ratio 1 estimate
  if denominator * up ≤ numerator * down then estimate else estimate - 1

/-- The double nearest to a ratio with a positive denominator, a tie going to
the even mantissa. Ratios beyond the range give an infinity. -/
def round (negative : Bool) (numerator denominator : Nat) : Binary64 :=
  let sign : Nat := if negative then Nat.pow 2 63 else 0
  if numerator = 0 then ⟨.ofNat sign⟩
  else
    let exponent := max (floorLog2 numerator denominator - 52) minExponent
    let (up, down) := ratio 1 exponent
    let mantissa := roundDiv (numerator * down) (denominator * up)
    -- A mantissa that reaches 2 ^ 53 carries into the exponent by itself.
    let magnitude := (exponent - minExponent).toNat * Nat.pow 2 52 + mantissa
    ⟨.ofNat (sign + min magnitude ((Nat.pow 2 11 - 1) * Nat.pow 2 52))⟩

/-- The double nearest to a natural number. -/
def ofNat (value : Nat) : Binary64 :=
  round false value 1

/-- The product of two magnitudes, rounded; `none` if either is not finite. -/
def mulMagnitude? (left right : Binary64) : Option Binary64 :=
  match left.decode, right.decode with
  | .finite _ leftMantissa leftExponent, .finite _ rightMantissa rightExponent =>
    let (numerator, denominator) := ratio (leftMantissa * rightMantissa) (leftExponent + rightExponent)
    some (round false numerator denominator)
  | _, _ => none

/-- The quotient of two magnitudes, rounded; `none` if either is not finite or
the divisor is zero. -/
def divMagnitude? (left right : Binary64) : Option Binary64 :=
  match left.decode, right.decode with
  | .finite _ leftMantissa leftExponent, .finite _ rightMantissa rightExponent =>
    if rightMantissa = 0 then none
    else
      let (up, down) := ratio 1 (leftExponent - rightExponent)
      some (round false (leftMantissa * up) (rightMantissa * down))
  | _, _ => none

/-- The same magnitude with the sign bit set or cleared. -/
def withSign (negative : Bool) (number : Binary64) : Binary64 :=
  let magnitude := number.bits.toNat % Nat.pow 2 63
  ⟨.ofNat (if negative then Nat.pow 2 63 + magnitude else magnitude)⟩

end Binary64

end VectorKernel.Decimal
