import VectorKernel.Types.Spelling

/-!
# Data types

The type of a generated value: numeric, or a handle of the host program, which
takes part in operations only through registered rules.
-/

namespace VectorKernel

/-- The type of a generated value. -/
inductive DataType where
  | numeric (type : NumericType)
  | handle (name : String)
  deriving DecidableEq, Repr

/-- The coarse class by which rules are registered. -/
inductive TypeClass where
  | integer
  | floating
  | handle (name : String)
  deriving DecidableEq, Repr

namespace DataType

/-- The numeric type, unless this is a handle. -/
def numeric? : DataType → Option NumericType
  | .numeric type => some type
  | .handle _ => none

/-- The number of lanes; handles have one. -/
def lanes : DataType → Nat
  | .numeric type => type.lanes
  | .handle _ => 1

/-- Whether there is more than one lane. -/
def isVector (type : DataType) : Bool :=
  type.lanes > 1

/-- The class under which rules for this type are registered. -/
def typeClass : DataType → TypeClass
  | .numeric type => if type.kind.isFloat then .floating else .integer
  | .handle name => .handle name

/-- The declaration spelling for a target; a handle is spelled by its name. -/
def spelling (type : DataType) (target : Target) : String :=
  match type with
  | .numeric type => type.toSignature.spelling target
  | .handle name => name

/-- The name shown to people. -/
def name : DataType → String
  | .numeric type => type.toSignature.name
  | .handle name => name

end DataType

instance : Coe NumericType DataType := ⟨.numeric⟩

end VectorKernel
