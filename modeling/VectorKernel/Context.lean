import VectorKernel.Catalog.Path
import VectorKernel.Catalog.Standard
import VectorKernel.Transition

/-!
# Contexts

Everything that the text of an expression depends on besides the expression:
the target, the instructions, the typing rules and the search for conversions.
-/

namespace VectorKernel

/-- What an expression is rendered against. -/
structure Context where
  target : Target
  catalog : Catalog := .standard
  rules : Registry := .empty
  /-- Finds the types that a conversion goes through. -/
  search : PathSearch Signature := .nearestFirst

namespace Context

/-- The output language. -/
def language (context : Context) : Language :=
  context.target.language

/-- The processor family. -/
def architecture (context : Context) : Architecture :=
  context.target.architecture

/-- The instruction of an operation on a type, if there is one. -/
def instruction? (context : Context) (operation : Intrinsic) (type : NumericType) : Option String :=
  context.catalog.lookup operation context.architecture type.toSignature

/-- The instruction of an operation on a type that cannot do without one. -/
def instruction (context : Context) (operation : Intrinsic) (type : NumericType) : Except Fault String :=
  match context.instruction? operation type with
  | some name => .ok name
  | none => .error (.noInstruction operation type.toSignature context.architecture)

/-- The declaration spelling of a numeric type. -/
def spelling (context : Context) (type : NumericType) : String :=
  type.toSignature.spelling context.target

end Context

end VectorKernel
