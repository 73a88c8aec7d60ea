/-!
# Natural numbers in text

Reading of decimal numerals that must fit a bound, as type names and settings
write them.
-/

namespace VectorKernel.Text

/-- The number that a list of decimal digits denotes, most significant first. -/
def digitsValue (digits : List Char) : Nat :=
  digits.foldl (fun value digit => 10 * value + (digit.toNat - '0'.toNat)) 0

/-- Reads one or more ASCII digits, with an optional plus sign before them, as
a number up to `limit`. Anything else, a larger number included, is refused. -/
def readNatural (limit : Nat) (text : List Char) : Option Nat :=
  let digits := match text with
    | '+' :: digits => digits
    | digits => digits
  if digits.isEmpty || !digits.all Char.isDigit then none
  else if digitsValue digits ≤ limit then some (digitsValue digits)
  else none

/-- The largest number of 32 bits. -/
def limit32 : Nat := 0xffffffff

/-- The largest number of 64 bits. -/
def limit64 : Nat := 0xffffffffffffffff

end VectorKernel.Text
