/-!
# JSON values

The values that JSON texts denote. Numbers keep their digits, because what a
number means depends on where it is used; members of objects keep their order,
and a repeated key occurs repeatedly.
-/

namespace VectorKernel.Json

/-- A number as it is written. -/
structure Number where
  negative : Bool
  /-- The digits before the point. -/
  whole : List Char
  /-- The digits after the point; none if there is no point. -/
  fraction : List Char
  /-- Whether the exponent is negative, and its digits. -/
  exponent : Option (Bool × List Char)
  deriving DecidableEq, Repr

/-- A JSON value. -/
inductive Value where
  | null
  | bool (value : Bool)
  | number (value : Number)
  | string (text : String)
  | array (items : List Value)
  | object (members : List (String × Value))
  /-- A well-formed value that denotes nothing: a string, or an object with a
  key, whose escapes leave half a surrogate pair. It may be skipped and not
  used. -/
  | broken
  deriving Repr

end VectorKernel.Json
