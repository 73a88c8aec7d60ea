import VectorKernel.Operand
import VectorKernel.Text.Split

/-!
# Procedures

The name, the parameters and the return type of a generated procedure, and the
lines that each language puts around a body.
-/

namespace VectorKernel

/-- A parameter of a procedure. -/
structure Parameter where
  name : String
  type : DataType
  direction : Direction
  /-- The extent of an array as text; none for scalars. -/
  dimension : Option String := none
  deriving DecidableEq, Repr

namespace Parameter

/-- Whether the parameter is an array. -/
def isArray (parameter : Parameter) : Bool :=
  parameter.dimension.isSome

/-- The parameter as an operand of expressions. -/
def operand (parameter : Parameter) : Operand :=
  { Operand.named parameter.name parameter.type with direction := some parameter.direction }

/-- The declaration in a parameter list of the C family. Arrays and results are
passed by pointer, to constant data if they are only read. -/
def cDeclaration (parameter : Parameter) (target : Target) : String :=
  let spelling := parameter.type.spelling target
  if parameter.isArray || parameter.direction ≠ .input then
    let space := if target.language = .openCl then "__global " else ""
    let constant := if parameter.direction = .input then "const " else ""
    s!"{space}{constant}{spelling} * {parameter.name}"
  else s!"{spelling} {parameter.name}"

/-- The declaration in the body of a Fortran procedure. -/
def fortranDeclaration (parameter : Parameter) (architecture : Architecture) : String :=
  let spelling := parameter.type.spelling ⟨.fortran, architecture⟩
  let dimension := match parameter.dimension with
    | some extent => s!", dimension({extent})"
    | none => ""
  s!"{spelling}, intent({parameter.direction.name}){dimension} :: {parameter.name}"

end Parameter

/-- A generated procedure. -/
structure Procedure where
  name : String
  parameters : List Parameter
  returns : Option DataType := none
  deriving DecidableEq, Repr

namespace Procedure

/-- The first parameter of a name. -/
def parameter? (procedure : Procedure) (name : String) : Option Parameter :=
  procedure.parameters.find? (·.name = name)

/-- What stands before the name in a language of the C family. Kernels of
OpenCL C and CUDA return nothing. -/
def qualifier (procedure : Procedure) (target : Target) : String :=
  match target.language with
  | .openCl => "__kernel void"
  | .cuda => "__global__ void"
  | _ =>
    match procedure.returns with
    | some type => type.spelling target
    | none => "void"

/-- The line that opens the body. -/
def header (procedure : Procedure) (target : Target) : String :=
  if target.language = .fortran then
    let kind := if procedure.returns.isSome then "FUNCTION" else "SUBROUTINE"
    let names := Text.join ", " (procedure.parameters.map (·.name))
    s!"{kind} {procedure.name}({names})"
  else
    let parameters := Text.join ", " (procedure.parameters.map (·.cDeclaration target))
    s!"{procedure.qualifier target} {procedure.name}({parameters}) \x7b"

/-- The declarations at the start of the body, which only Fortran has. -/
def declarations (procedure : Procedure) (target : Target) : List String :=
  if target.language = .fortran then
    let parameters := procedure.parameters.map (·.fortranDeclaration target.architecture)
    let result := match procedure.returns with
      | some type => [s!"{type.spelling target} :: {procedure.name}"]
      | none => []
    "implicit none" :: (parameters ++ result)
  else []

/-- The line that closes the body. -/
def footer (procedure : Procedure) (language : Language) : String :=
  match language, procedure.returns with
  | .fortran, some _ => s!"END FUNCTION {procedure.name}"
  | .fortran, none => s!"END SUBROUTINE {procedure.name}"
  | _, _ => "\x7d"

end Procedure

end VectorKernel
