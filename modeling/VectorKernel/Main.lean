import VectorKernel.Command.Run

/-!
# The program

Gives the commands the files of the system, and prints their responses.
-/

namespace VectorKernel

/-- The cause of a failed system call. -/
def FileFault.ofSystem : IO.Error → FileFault
  | .noFileOrDirectory .. => .notFound
  | .alreadyExists .. => .alreadyExists
  | .inappropriateType .. => .notADirectory
  | fault => .other (toString fault)

/-- A system call with the cause of its failure as a value. -/
def attempt {α : Type} (call : IO α) : IO (Except FileFault α) := do
  match ← call.toBaseIO with
  | .ok value => return .ok value
  | .error fault => return .error (.ofSystem fault)

/-- Whether a path leads to something of a type. -/
def leadsTo (path : Path) (wanted : IO.FS.FileType) : IO Bool := do
  let file := (← IO.currentDir) / path
  match ← file.metadata.toBaseIO with
  | .ok found => return found.type == wanted
  | .error _ => return false

instance : Disk IO where
  read path := do
    if ← leadsTo path .dir then return .error .isADirectory
    attempt (IO.FS.readBinFile path)
  write path content := do
    if ← leadsTo path .dir then return .error .isADirectory
    attempt (IO.FS.writeBinFile path content)
  makeDirectory path := attempt (IO.FS.createDir path)
  isFile path := leadsTo path .file
  isDirectory path := leadsTo path .dir

end VectorKernel

/-- Runs the command that the arguments name. -/
def main (arguments : List String) : IO UInt32 := do
  let start := (← IO.currentDir).toString
  let response ← VectorKernel.Command.respond start arguments
  IO.print response.output
  IO.eprint response.messages
  return response.exitCode.toUInt32
