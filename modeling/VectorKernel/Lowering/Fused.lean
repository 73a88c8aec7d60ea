import VectorKernel.Lowering.Arithmetic

/-!
# Fused multiply-add

The product of two operands added to a third. Where a target has the operation
in one step it is typed like the third operand; else it is a product and a sum.
-/

namespace VectorKernel.Lowering

/-- The product and the sum as two operations, the third operand on the left. -/
def separate (context : Context) (a b c : Operand) : Except Fault Operand := do
  let product ← binary context .mul a b
  binary context .add c product

/-- The text of an operand brought to the type of the third one, if that is
numeric. -/
def fusedOperand (context : Context) (type : DataType) (value : Operand) : Except Fault String :=
  match type with
  | .numeric type => coerce context value type
  | .handle _ => .ok value.text

/-- The fused instruction for a type, if there is one. -/
def fusedInstruction? (context : Context) : DataType → Option String
  | .numeric type => context.instruction? .fusedMultiplyAdd type
  | .handle _ => none

/-- The product of `a` and `b` added to `c`. NEON takes the third operand first.
An architecture whose argument order is not known gets a product and a sum,
once the operands have been brought to one type. -/
def fused (context : Context) (a b c : Operand) : Except Fault Operand :=
  let operand := fusedOperand context c.type
  let operands : Except Fault (String × String × String) := do
    return (← operand a, ← operand b, ← operand c)
  match context.language.hasFma, context.language, fusedInstruction? context c.type with
  | true, _, _ => do
    let (x, y, z) ← operands
    return .computed s!"fma({x},{y},{z})" c.type
  | false, .fortran, _ | false, _, none => separate context a b c
  | false, _, some instruction => do
    let (x, y, z) ← operands
    match context.architecture with
    | .x86 => return .computed s!"{instruction}({x},{y},{z})" c.type
    | .arm => return .computed s!"{instruction}({z},{x},{y})" c.type
    | _ => do
      let product ← binary context .mul a b
      binary context .add product c

end VectorKernel.Lowering
