import VectorKernel.Digest.Blake3
import VectorKernel.Printer

/-!
# Kernels

A kernel is the source of one procedure for one target, with a fingerprint of
both. Kernels are generated from a body of statements, whole or not at all.
-/

namespace VectorKernel

/-- A line of a kernel's body. -/
inductive Statement where
  /-- A declaration of a local variable. -/
  | declare (operand : Operand)
  | run (expression : Expr)

/-- The message that a fingerprint is the hash of: the names of language and
architecture, each ended by a zero byte, and the source. -/
def fingerprintMessage (target : Target) (source : String) : List UInt8 :=
  target.language.name.toUTF8.data.toList ++ 0 :: target.architecture.name.toUTF8.data.toList ++
    0 :: source.toUTF8.data.toList

/-- The fingerprint of a source for a target, in hexadecimal digits. -/
def fingerprint (target : Target) (source : String) : String :=
  Digest.Blake3.hexDigest ⟨(fingerprintMessage target source).toArray⟩

/-- The source of a procedure for a target. -/
structure Kernel where
  target : Target
  procedure : Procedure
  source : String
  fingerprint : String
  deriving DecidableEq, Repr

namespace Kernel

/-- A kernel from a finished source. -/
def ofSource (procedure : Procedure) (source : String) (target : Target) : Kernel :=
  { target, procedure, source, fingerprint := VectorKernel.fingerprint target source }

/-- Prints a statement. -/
def printStatement {σ : Type} [Sink σ] (context : Context) : Statement → PrintM σ Unit
  | .declare operand => Printer.declare context operand
  | .run expression => Printer.print context expression

/-- Prints a procedure with its body. -/
def printProcedure {σ : Type} [Sink σ] (context : Context) (procedure : Procedure)
    (body : List Statement) : PrintM σ Unit := do
  Printer.openProcedure context procedure
  body.forM (printStatement context)
  Printer.closeProcedure context procedure

/-- The kernel of a procedure with a body, indented by `width` spaces. The
first statement that does not render is the fault of the whole. -/
def generate (context : Context) (procedure : Procedure) (body : List Statement) (width : UInt64) :
    Except Fault Kernel :=
  let blank : Printer Buffer := { out := {}, width }
  match (printProcedure context procedure body).run.run blank with
  | (.ok (), printer) => .ok (ofSource procedure printer.out.text context.target)
  | (.error fault, _) => .error fault

/-- The file name of the source. -/
def fileName (kernel : Kernel) : String :=
  kernel.procedure.name ++ kernel.target.language.extension

/-- The file name of the manifest. -/
def manifestName (kernel : Kernel) : String :=
  kernel.procedure.name ++ ".json"

end Kernel

end VectorKernel
