import VectorKernel.Target
import VectorKernel.Types.Numeric

/-!
# Spelling of numeric types

How a numeric type is declared in each language. Vector types of C depend on
the architecture; OpenCL C and CUDA have vector types of their own; Fortran
declares an array.
-/

namespace VectorKernel.Signature

/-- An integer type name with `u` before it for unsigned elements. -/
def signedName (signature : Signature) (base : String) : String :=
  if signature.kind.isSigned then base else "u" ++ base

/-- The spelling of one element. Widths without a type of their own take the
32-bit spelling. -/
def elementSpelling (signature : Signature) (language : Language) : String :=
  match language, signature.kind.isFloat with
  | .fortran, false => s!"integer(kind={signature.elementSize})"
  | .fortran, true => s!"real(kind={signature.elementSize})"
  | _, true =>
    match language, signature.width with
    | _, 64 => "double"
    | .openCl, 16 => "half"
    | .cuda, 16 => "__half"
    | _, 16 => "_Float16"
    | _, _ => "float"
  | .openCl, false =>
    signature.signedName <| match signature.width with
      | 8 => "char"
      | 16 => "short"
      | 64 => "long"
      | _ => "int"
  | _, false => signature.signedName s!"int{signature.width}_t"

/-- The element part of a CUDA vector type. -/
def cudaBase (signature : Signature) : String :=
  match signature.kind.isFloat, signature.width with
  | true, 64 => "double"
  | true, _ => "float"
  | false, 8 => signature.signedName "char"
  | false, 16 => signature.signedName "short"
  | false, 64 => signature.signedName "longlong"
  | false, _ => signature.signedName "int"

/-- The x86 register type of a vector, if one has its size. The number of bits has 32 bits
itself and starts again from zero where it does not fit. -/
def registerSpelling? (signature : Signature) : Option String :=
  let bits := signature.totalSize * 8 % (Text.limit32 + 1)
  if bits = 64 then some "__m64"
  else if bits ∈ [128, 256, 512] then
    match signature.kind.isFloat, signature.width with
    | true, 32 => some s!"__m{bits}"
    | true, 64 => some s!"__m{bits}d"
    | true, 16 => some s!"__m{bits}h"
    | true, _ => none
    | false, _ => some s!"__m{bits}i"
  else none

/-- The vector type named by element, width and lanes, such as `float32x4_t`. -/
def laneSpelling (signature : Signature) : String :=
  let base := match signature.kind with
    | .float => "float"
    | .signed => "int"
    | .unsigned => "uint"
  s!"{base}{signature.width}x{signature.lanes}_t"

/-- The declaration spelling of a type for a target. -/
def spelling (signature : Signature) (target : Target) : String :=
  if !signature.isVector then signature.elementSpelling target.language
  else match target.language with
    | .openCl => s!"{signature.elementSpelling .openCl}{signature.lanes}"
    | .cuda => s!"{signature.cudaBase}{signature.lanes}"
    | .fortran => s!"{signature.elementSpelling .fortran}, dimension({signature.lanes})"
    | .c =>
      if target.architecture = .x86 then signature.registerSpelling?.getD signature.laneSpelling
      else signature.laneSpelling

end VectorKernel.Signature
