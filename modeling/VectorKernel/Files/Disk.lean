import VectorKernel.Files.Fault
import VectorKernel.Files.Path

/-!
# File operations

The operations on files that the program needs, for any monad that offers
them, and what is built from them.
-/

namespace VectorKernel

/-- Operations on files. -/
class Disk (m : Type → Type) where
  read : Path → m (Except FileFault ByteArray)
  write : Path → ByteArray → m (Except FileFault Unit)
  makeDirectory : Path → m (Except FileFault Unit)
  isFile : Path → m Bool
  isDirectory : Path → m Bool

namespace Disk

variable {m : Type → Type} [Monad m] [Disk m]

/-- Reads a file as text. -/
def readText (path : Path) : m (Except FileFault String) := do
  match ← read path with
  | .error fault => return .error fault
  | .ok bytes =>
    match String.fromUTF8? bytes with
    | some text => return .ok text
    | none => return .error .notUtf8

/-- Makes a directory, or accepts one that is there. -/
def ensureDirectory (path : Path) : m (Except FileFault Unit) := do
  match ← makeDirectory path with
  | .ok () => return .ok ()
  | .error fault => return if ← isDirectory path then .ok () else .error fault

/-- Makes a directory and the directories above it, as far as the fuel goes. -/
def ensureDirectoriesFrom : Nat → Path → m (Except FileFault Unit)
  | 0, _ => return .ok ()
  | fuel + 1, path => do
    if path.isEmpty then return .ok ()
    match ← ensureDirectory path with
    | .error .notFound =>
      match Path.parent? path with
      | none => return .error (.other "failed to create whole tree")
      | some parent =>
        match ← ensureDirectoriesFrom fuel parent with
        | .error fault => return .error fault
        | .ok () => ensureDirectory path
    | done => return done

/-- Makes a directory and all directories above it. -/
def ensureDirectories (path : Path) : m (Except FileFault Unit) :=
  ensureDirectoriesFrom (path.length + 1) path

/-- The first of several paths that is a file. -/
def firstFile? : List Path → m (Option Path)
  | [] => return none
  | path :: paths => do
    if ← isFile path then return some path
    firstFile? paths

end Disk

end VectorKernel
