import VectorKernel.Decimal.Shortest

/-!
# Text of doubles

Doubles are written with their shortest digits, positionally with at least one
digit on either side of the point in a middle range, and with an exponent
outside it. A style fixes where that range begins and ends, how exponents are
signed and which of two equally near decimals is taken.
-/

namespace VectorKernel.Decimal

/-- How doubles are laid out. -/
structure Style where
  /-- The decimal exponent of the smallest magnitudes written positionally. -/
  leastPositional : Int
  /-- The decimal exponent of the largest magnitudes written positionally. -/
  mostPositional : Int
  /-- What stands before an exponent that is not negative. -/
  exponentSign : String
  tie : Tie
  deriving DecidableEq, Repr

/-- Constants in generated text are positional from 1e-4 up to below 1e16. Only
negative exponents have a sign, and a tie goes up. -/
def Style.literal : Style where
  leastPositional := -4
  mostPositional := 15
  exponentSign := ""
  tie := .up

/-- Numbers in reports are positional from 1e-5 up to below 1e16. Exponents are
always signed, and a tie goes to the even digit. -/
def Style.report : Style where
  leastPositional := -5
  mostPositional := 15
  exponentSign := "+"
  tie := .even

/-- A sign for negative numbers. -/
def signText (negative : Bool) : String :=
  if negative then "-" else ""

/-- Digits with a point after `before` of them, filled with zeros so that a
digit stands on either side. -/
def positional (digits : List Char) (before : Int) : List Char :=
  if before ≤ 0 then '0' :: '.' :: (List.replicate (-before).toNat '0' ++ digits)
  else
    let count := before.toNat
    if digits.length ≤ count then
      digits ++ List.replicate (count - digits.length) '0' ++ ['.', '0']
    else digits.take count ++ '.' :: digits.drop count

/-- Digits with a point after the first of them, if there are more, and an
exponent, which has `sign` before it if it is not negative. -/
def scientific (sign : String) (digits : List Char) (exponent : Int) : List Char :=
  let mantissa := match digits with
    | first :: second :: rest => first :: '.' :: second :: rest
    | few => few
  let mark := if 0 ≤ exponent then sign.toList else []
  mantissa ++ 'e' :: (mark ++ (toString exponent).toList)

/-- The text of a positive finite magnitude. -/
def magnitudeText (style : Style) (mantissa : Nat) (exponent : Int) : String :=
  let decimal := shortest style.tie mantissa exponent
  let digits := Nat.toDigits 10 decimal.digits
  let before : Int := digits.length + decimal.exponent
  .ofList <|
    if style.leastPositional < before && before ≤ style.mostPositional + 1 then positional digits before
    else scientific style.exponentSign digits (before - 1)

namespace Binary64

/-- The text of a double. -/
def render (style : Style) (number : Binary64) : String :=
  match number.decode with
  | .nan => "NaN"
  | .infinite negative => signText negative ++ "inf"
  | .finite negative mantissa exponent =>
    signText negative ++ if mantissa = 0 then "0.0" else magnitudeText style mantissa exponent

end Binary64

end VectorKernel.Decimal
