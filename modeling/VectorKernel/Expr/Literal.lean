import VectorKernel.Decimal.Layout
import VectorKernel.Fault
import VectorKernel.Operand

/-!
# Literals

Constants written into an expression. Integers are of 32 bits if they fit and
of 64 bits otherwise, floating constants are doubles, and raw text has no type.
-/

namespace VectorKernel

/-- A constant written into an expression. -/
inductive Literal where
  | int (value : Int)
  | float (value : Decimal.Binary64)
  /-- Text taken as it is. -/
  | raw (text : String)
  deriving DecidableEq, Repr

namespace Literal

/-- The text of a literal. -/
def text : Literal → String
  | .int value => toString value
  | .float value => value.render .literal
  | .raw text => text

/-- The type of a literal, if it has one. -/
def type? : Literal → Option NumericType
  | .int value => some (if -2147483648 ≤ value ∧ value ≤ 2147483647 then .int 32 else .int 64)
  | .float _ => some (.float 64)
  | .raw _ => none

/-- The literal as an operand, if it has a type. -/
def operand? (literal : Literal) : Option Operand :=
  literal.type?.map (Operand.constantOf literal.text ·)

/-- The number that no language can spell, if the literal is one. -/
def nonFinite? : Literal → Option NonFinite
  | .float value =>
    match value.decode with
    | .nan => some .nan
    | .infinite negative => some (.infinity negative)
    | .finite .. => none
  | _ => none

end Literal

end VectorKernel
