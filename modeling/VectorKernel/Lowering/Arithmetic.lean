import VectorKernel.Lowering.Memory

/-!
# Binary operations

An operation on two realized operands. The registry gives the type of the
result and the operator to use; assignments move vectors, and arithmetic on
vectors becomes instructions in C.
-/

namespace VectorKernel.Lowering

/-- The text of a value brought to a numeric type: a scalar goes into every
lane of a vector, and any other value is converted. -/
def coerce (context : Context) (value : Operand) (type : NumericType) : Except Fault String :=
  match value.numeric? with
  | none => .ok value.text
  | some held =>
    if !held.isVector && type.isVector then broadcastText context value type
    else convert context value type

/-- The text of C vector arithmetic. The instruction is looked up before the
operands are brought to its type. -/
def vectorText (context : Context) (operation : Intrinsic) (left right : Operand) (type : NumericType) :
    Except Fault String := do
  let instruction ← context.instruction operation type
  let a ← coerce context left type
  let b ← coerce context right type
  return s!"{instruction}( {a}, {b} )"

/-- The text of an assignment to a destination that is no vector. A vector
value is stored. -/
def scalarAssignText (context : Context) (left right : Operand) : Except Fault String :=
  if right.isVector then storeText context left right
  else .ok (Operator.assign.render (some left.text) (some right.text) context.language)

/-- The text of an assignment. A vector destination loads its value. -/
def assignText (context : Context) (left right : Operand) : Except Fault String :=
  match left.numeric? with
  | some type =>
    if type.isVector then (loadText context right type).map fun value => s!"{left.text} = {value}"
    else scalarAssignText context left right
  | none => scalarAssignText context left right

/-- The text of an operation whose result type is known. -/
def binaryText (context : Context) (operator : Operator) (left right : Operand) (type : DataType) :
    Except Fault String :=
  let plain := operator.render (some left.text) (some right.text) context.language
  if operator = .assign then assignText context left right
  else match operator.intrinsic?, type with
    | some operation, .numeric type =>
      if context.language = .c && type.isVector then vectorText context operation left right type
      else .ok plain
    | _, _ => .ok plain

/-- An operation on two operands. -/
def binary (context : Context) (operator : Operator) (left right : Operand) : Except Fault Operand := do
  let (type, operator) ← context.rules.transition left.type right.type operator
  let text ← binaryText context operator left right type
  return .computed text type

end VectorKernel.Lowering
