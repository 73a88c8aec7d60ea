import VectorKernel.Catalog.Path
import VectorKernel.Context
import VectorKernel.Operand

/-!
# Conversion of values

The text of a value brought to another numeric type. Equal signatures need no
change. C nests the instructions of a conversion chain around a vector, the
first one innermost.
-/

namespace VectorKernel.Lowering

/-- A value with instructions applied to it, the first one innermost. -/
def nest (text : String) (instructions : List String) : String :=
  instructions.foldl (fun text instruction => s!"{instruction}( {text} )") text

/-- The text of a value of type `source` converted to `target`, which has
another signature. Scalars are cast. A scalar and a vector never convert into
one another, and CUDA converts no vectors. -/
def convertNumeric (context : Context) (text : String) (source target : NumericType) :
    Except Fault String :=
  let spelling := context.spelling target
  let cast := s!"({spelling})( {text} )"
  let refused := Fault.noConversion source.toSignature target.toSignature context.architecture
  match context.language with
  | .openCl => .ok s!"convert_{spelling}( {text} )"
  | .fortran =>
    let function := if target.kind.isFloat then "real" else "int"
    .ok s!"{function}( {text}, {target.elementSize} )"
  | .cuda => if source.isVector || target.isVector then .error refused else .ok cast
  | .c =>
    match source.isVector, target.isVector with
    | false, false => .ok cast
    | true, true =>
      (context.catalog.conversionPath source.toSignature target.toSignature context.architecture
        context.search).map (nest text)
    | _, _ => .error refused

/-- The text of a value converted to a numeric type. Handles are left alone. -/
def convert (context : Context) (value : Operand) (target : NumericType) : Except Fault String :=
  match value.numeric? with
  | none => .ok value.text
  | some source =>
    if source.toSignature = target.toSignature then .ok value.text
    else convertNumeric context value.text source target

end VectorKernel.Lowering
