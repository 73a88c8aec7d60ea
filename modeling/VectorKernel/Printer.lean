import VectorKernel.Expr.Evaluate
import VectorKernel.Procedure

/-!
# Printing of statements

A printer writes lines to a sink and keeps a nesting depth. A sink takes or
refuses each line as a whole. A step that fails keeps what it had done: the
lines written before the failure, and the depth at that point.
-/

namespace VectorKernel

/-- A place that lines are written to. -/
class Sink (σ : Type) where
  /-- Offers a line; the answer is why it was refused, if it was. -/
  offer : σ → String → Option FileFault × σ

/-- A sink that keeps the text, or refuses every line while it is closed. -/
structure Buffer where
  text : String := ""
  refusal : Option FileFault := none
  deriving DecidableEq, Repr

instance : Sink Buffer where
  offer buffer line :=
    match buffer.refusal with
    | some fault => (some fault, buffer)
    | none => (none, { buffer with text := buffer.text ++ line })

/-- A sink with the nesting depth of the next line. -/
structure Printer (σ : Type) where
  out : σ
  /-- Spaces for each level. -/
  width : UInt64 := 2
  depth : Nat := 0

/-- Steps of a printer. A failed step leaves the printer as it was when the
failure happened. -/
abbrev PrintM (σ : Type) := ExceptT Fault (StateM (Printer σ))

namespace Printer

variable {σ : Type}

/-- Goes one level deeper. -/
def indent : PrintM σ Unit :=
  modify fun printer => { printer with depth := printer.depth + 1 }

/-- Goes one level back, but not beyond the outermost one. -/
def dedent : PrintM σ Unit :=
  modify fun printer => { printer with depth := printer.depth - 1 }

/-- A line as it is written at a depth. The number of spaces is a machine word, so that it
starts again from zero where the product does not fit. -/
def layout (width : UInt64) (depth : Nat) (text : String) : String :=
  Text.spaces (.ofNat depth * width : UInt64).toNat ++ text ++ "\n"

variable [Sink σ]

/-- Writes a text on a line of its own. -/
def line (text : String) : PrintM σ Unit := do
  let printer ← get
  let (refusal, out) := Sink.offer printer.out (layout printer.width printer.depth text)
  set { printer with out }
  match refusal with
  | some fault => throw (.file fault)
  | none => pure ()

/-- The line of an expression as a statement. -/
def statementText (context : Context) (expression : Expr) : Except Fault String := do
  let text ← expression.render context
  return Text.trimStart text ++ context.language.terminator

/-- Writes an expression as a statement; nothing if it does not render. -/
def print (context : Context) (expression : Expr) : PrintM σ Unit := do
  match statementText context expression with
  | .ok text => line text
  | .error fault => throw fault

/-- The line that declares a local variable. -/
def declarationText (context : Context) (operand : Operand) : String :=
  let spelling := operand.type.spelling context.target
  let name := operand.name.getD operand.text
  if context.language = .fortran then s!"{spelling} :: {name}"
  else
    let qualifier := if operand.constant then "const " else ""
    s!"{qualifier}{spelling} {name};"

/-- Declares a local variable. -/
def declare (context : Context) (operand : Operand) : PrintM σ Unit :=
  line (declarationText context operand)

/-- Opens a procedure. What follows is one level deeper. -/
def openProcedure (context : Context) (procedure : Procedure) : PrintM σ Unit := do
  line (procedure.header context.target)
  indent
  (procedure.declarations context.target).forM line

/-- Closes a procedure, one level back. -/
def closeProcedure (context : Context) (procedure : Procedure) : PrintM σ Unit := do
  dedent
  line (procedure.footer context.language)

end Printer

end VectorKernel
