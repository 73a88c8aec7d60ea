import VectorKernel.Text.Blank
import VectorKernel.Types.Data

/-!
# Operands

A realized value: the text that computes it and its type. Named operands are
storage and may carry a direction, a constant qualifier and an alignment; the
result of an operation never does.
-/

namespace VectorKernel

/-- How a parameter is passed. -/
inductive Direction where
  | input
  | output
  | inout
  deriving DecidableEq, Repr

/-- The name of a direction, as manifests and Fortran intents spell it. -/
def Direction.name : Direction → String
  | .input => "in"
  | .output => "out"
  | .inout => "inout"

/-- A realized value. -/
structure Operand where
  text : String
  type : DataType
  name : Option String := none
  direction : Option Direction := none
  constant : Bool := false
  /-- Alignment in bytes that the storage is declared to have. -/
  alignment : Option Nat := none
  /-- A constant written in the tree, which has no address. -/
  literal : Bool := false
  deriving DecidableEq, Repr

namespace Operand

/-- A named storage location. -/
def named (name : String) (type : DataType) : Operand :=
  { text := name, type, name := some name }

/-- The result of an operation: no name and no storage attributes. -/
def computed (text : String) (type : DataType) : Operand :=
  { text, type }

/-- A numeric constant. -/
def constantOf (text : String) (type : DataType) : Operand :=
  { text, type, literal := true }

/-- The numeric type, unless the operand is a handle. -/
def numeric? (operand : Operand) : Option NumericType :=
  operand.type.numeric?

/-- The number of lanes. -/
def lanes (operand : Operand) : Nat :=
  operand.type.lanes

/-- Whether there is more than one lane. -/
def isVector (operand : Operand) : Bool :=
  operand.type.isVector

/-- Text of a pointer to the operand: a leading dereference is dropped, and
anything else gets an address-of. -/
def address (operand : Operand) : String :=
  let text := Text.trimStart operand.text
  match text.toList with
  | '*' :: pointer => Text.trimStart (.ofList pointer)
  | _ => "&" ++ text

end Operand

end VectorKernel
