import VectorKernel.Files.Disk
import VectorKernel.Kernel.Manifest

/-!
# Writing kernels

The source and the manifest of a kernel go into one directory.
-/

namespace VectorKernel.Kernel

variable {m : Type → Type} [Monad m] [Disk m]

/-- A file operation whose failure is a fault. -/
def fileStep {α : Type} (step : m (Except FileFault α)) : ExceptT Fault m α :=
  .mk do return (← step).mapError .file

/-- Writes the source and then the manifest into a directory, which is made if
need be. Returns the path of the source. -/
def write (kernel : Kernel) (directory : Path) : ExceptT Fault m Path := do
  fileStep (Disk.ensureDirectories directory)
  let path := Path.join directory kernel.fileName
  fileStep (Disk.write path kernel.source.toUTF8)
  fileStep (Disk.write (Path.join directory kernel.manifestName) kernel.manifest.text.toUTF8)
  return path

end VectorKernel.Kernel
