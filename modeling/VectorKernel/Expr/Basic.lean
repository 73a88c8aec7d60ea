import VectorKernel.Expr.Literal

/-!
# Expressions

Trees of operators and vector operations over literals and operands, with the
functions that build them. A tree says nothing about a target.
-/

namespace VectorKernel

/-- An expression. -/
inductive Expr where
  | literal (literal : Literal)
  | value (operand : Operand)
  /-- An operator between two sides. -/
  | binary (operator : Operator) (left right : Expr)
  /-- An operator with a right side only. -/
  | unary (operator : Operator) (right : Expr)
  /-- An operator that lacks its right side. -/
  | dangling (operator : Operator) (left : Expr)
  /-- An operator without any side, which no target accepts. -/
  | bare (operator : Operator)
  /-- A vector of type `type` read from a source. -/
  | load (source : Expr) (type : NumericType)
  | store (destination source : Expr)
  /-- A value put into every lane of `type`, or converted to it. -/
  | broadcast (source : Expr) (type : NumericType)
  /-- A vector of one expression per lane. -/
  | ofLanes (lanes : List Expr) (type : NumericType)
  | maskedLoad (source : Expr) (mask : List Bool) (type : NumericType)
  | maskedStore (destination source : Expr) (mask : List Bool)
  /-- The product of `a` and `b` added to `c`. -/
  | fma (a b c : Expr)
  | conditional (condition positive negative : Expr)
  deriving Repr

instance : Inhabited Expr := ⟨.literal (.int 0)⟩

instance : Coe Operand Expr := ⟨.value⟩

instance : Coe Literal Expr := ⟨.literal⟩

instance : Add Expr := ⟨.binary .add⟩

instance : Sub Expr := ⟨.binary .sub⟩

instance : Mul Expr := ⟨.binary .mul⟩

instance : Div Expr := ⟨.binary .div⟩

instance : Neg Expr := ⟨.unary .neg⟩

namespace Expr

/-- An assignment. -/
def assign (destination value : Expr) : Expr :=
  .binary .assign destination value

/-- Access to an element. -/
def index (base position : Expr) : Expr :=
  .binary .index base position

/-- An operator with the sides that are there. -/
def operation (operator : Operator) : (left right : Option Expr) → Expr
  | some left, some right => .binary operator left right
  | none, some right => .unary operator right
  | some left, none => .dangling operator left
  | none, none => .bare operator

end Expr

end VectorKernel
