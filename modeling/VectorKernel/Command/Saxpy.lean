import VectorKernel.Kernel.Basic

/-!
# The saxpy kernel

The kernel that the `demo` command generates: a scaled vector added to another
one, `y = a * x + y`.
-/

namespace VectorKernel.Saxpy

/-- The single-precision element type. -/
def element : NumericType := .float 32

/-- The number of elements. -/
def count : Parameter := { name := "n", type := NumericType.int 32, direction := .input }

/-- The factor. -/
def factor : Parameter := { name := "a", type := element, direction := .input }

/-- The array that is scaled. -/
def source : Parameter :=
  { name := "x", type := element, direction := .input, dimension := some "n" }

/-- The array that is added to. -/
def destination : Parameter :=
  { name := "y", type := element, direction := .inout, dimension := some "n" }

/-- The procedure. -/
def procedure : Procedure where
  name := "saxpy"
  parameters := [count, factor, source, destination]

/-- The lanes that an architecture's registers have for the element type. -/
def lanes : Architecture → Nat
  | .x86 => 8
  | .arm => 4
  | _ => 1

/-- The register that holds elements of `x`. -/
def vx (lanes : Nat) : Operand := .named "vx" (element.vector lanes)

/-- The register that holds elements of `y`. -/
def vy (lanes : Nat) : Operand := .named "vy" (element.vector lanes)

/-- The loop variable. -/
def position : Operand := .named "i" (NumericType.int 32)

/-- The update of a register, `vy = a * vx + vy`. -/
def update (lanes : Nat) : Expr :=
  .assign (vy lanes) (.fma factor.operand (vx lanes) (vy lanes))

/-- The body for one position: load, update and store. -/
def body (lanes : Nat) : List Statement :=
  [.declare position, .declare (vx lanes), .declare (vy lanes),
    .run (.assign (vx lanes) (.index source.operand position)),
    .run (.assign (vy lanes) (.index destination.operand position)),
    .run (update lanes),
    .run (.assign (.index destination.operand position) (vy lanes))]

end VectorKernel.Saxpy
