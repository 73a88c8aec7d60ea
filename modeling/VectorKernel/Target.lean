/-!
# Targets

The output languages and the processor families that kernels are generated
for, with the names under which settings and commands refer to them.
-/

namespace VectorKernel

/-- A text with its ASCII letters in lower case; other characters are kept. -/
def asciiLowercase (text : String) : String :=
  .ofList (text.toList.map Char.toLower)

/-- Output language of the generated text. -/
inductive Language where
  | c
  | openCl
  | cuda
  | fortran
  deriving DecidableEq, Repr

namespace Language

/-- Every language, in listing order. -/
def all : List Language := [.c, .openCl, .cuda, .fortran]

/-- The canonical name, as manifests and fingerprints spell it. -/
def name : Language → String
  | .c => "c"
  | .openCl => "opencl"
  | .cuda => "cuda"
  | .fortran => "fortran"

/-- The name shown to people. -/
def title : Language → String
  | .c => "C"
  | .openCl => "OpenCL C"
  | .cuda => "CUDA"
  | .fortran => "Fortran"

/-- The language that a name or one of its aliases stands for, in any case. -/
def ofName? (text : String) : Option Language :=
  match asciiLowercase text with
  | "c" => some .c
  | "cl" | "opencl" | "opencl-c" => some .openCl
  | "cuda" | "cu" => some .cuda
  | "fortran" | "f90" => some .fortran
  | _ => none

/-- The language with exactly this name. -/
def ofExactName? (text : String) : Option Language :=
  all.find? (·.name == text)

/-- C, OpenCL C and CUDA share the syntax of expressions. -/
def isCFamily : Language → Bool
  | .fortran => false
  | _ => true

/-- Whether the language itself offers `fma(a, b, c)`. -/
def hasFma : Language → Bool
  | .openCl | .cuda => true
  | _ => false

/-- Whether vector values are moved by explicit operations. -/
def movesVectors : Language → Bool
  | .c | .openCl => true
  | _ => false

/-- Text that ends a statement. -/
def terminator (language : Language) : String :=
  if language.isCFamily then ";" else ""

/-- File extension of generated text, with its dot. -/
def extension : Language → String
  | .c => ".c"
  | .openCl => ".cl"
  | .cuda => ".cu"
  | .fortran => ".f90"

end Language

/-- Processor family, which decides the instructions available. -/
inductive Architecture where
  | generic
  | x86
  | arm
  | mppa
  deriving DecidableEq, Repr

namespace Architecture

/-- Every architecture, in listing order. -/
def all : List Architecture := [.generic, .x86, .arm, .mppa]

/-- The canonical name, which is also the one shown to people. -/
def name : Architecture → String
  | .generic => "generic"
  | .x86 => "x86"
  | .arm => "arm"
  | .mppa => "mppa"

/-- The architecture that a name or one of its aliases stands for, in any case. -/
def ofName? (text : String) : Option Architecture :=
  match asciiLowercase text with
  | "generic" | "none" => some .generic
  | "x86" | "x86_64" | "x86-64" | "amd64" => some .x86
  | "arm" | "arm64" | "aarch64" | "neon" => some .arm
  | "mppa" | "kalray" => some .mppa
  | _ => none

/-- The architecture with exactly this name. -/
def ofExactName? (text : String) : Option Architecture :=
  all.find? (·.name == text)

end Architecture

/-- A language on an architecture. -/
structure Target where
  language : Language
  architecture : Architecture
  deriving DecidableEq, Repr

namespace Target

/-- Every language on every architecture, by language first. -/
def all : List Target :=
  Language.all.flatMap fun language => Architecture.all.map fun architecture => ⟨language, architecture⟩

/-- The name of a target, `language/architecture`. -/
def name (target : Target) : String :=
  target.language.name ++ "/" ++ target.architecture.name

end Target

end VectorKernel
