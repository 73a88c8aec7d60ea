import VectorKernel.Kernel.Basic
import VectorKernel.Kernel.Report

/-!
# Running kernels

Compiling, linking and calling a kernel is the work of a runner with a state of
its own. A kernel is handed to a runner only with arguments that fit its
parameters.
-/

namespace VectorKernel

/-- Something that runs kernels. -/
structure Runner (σ : Type) where
  run : Kernel → List Argument → StateM σ (Except Fault Report)

namespace Kernel

/-- The first parameter whose argument has the wrong shape. -/
def misfit? : List Parameter → List Argument → Option Parameter
  | parameter :: parameters, argument :: arguments =>
    if parameter.isArray = argument.isArray then misfit? parameters arguments else some parameter
  | _, _ => none

/-- Checks that there is one argument for each parameter, and then that arrays
are passed for arrays and scalars for scalars. -/
def checkArguments (kernel : Kernel) (arguments : List Argument) : Except Fault Unit :=
  let parameters := kernel.procedure.parameters
  if arguments.length ≠ parameters.length then
    -- The number of parameters is told in 32 bits.
    .error (.wrongCount .arguments (parameters.length % (Text.limit32 + 1)) arguments.length)
  else match misfit? parameters arguments with
    | some parameter => .error (.malformed (.argumentShape parameter.name parameter.isArray))
    | none => .ok ()

/-- Runs a kernel if the arguments fit. -/
def run {σ : Type} (kernel : Kernel) (runner : Runner σ) (arguments : List Argument) :
    StateM σ (Except Fault Report) :=
  match kernel.checkArguments arguments with
  | .ok () => runner.run kernel arguments
  | .error fault => return .error fault

end Kernel

end VectorKernel
