import VectorKernel.Catalog.Basic

/-!
# Instructions of x86

The vector instructions for registers of 128, 256 and 512 bits. Signed and
unsigned integers share their instructions.
-/

namespace VectorKernel.Catalog.X86

/-- A register size in bits with the start of its instruction names. -/
structure Register where
  bits : Nat
  stem : String

/-- The register sizes. -/
def registers : List Register :=
  [⟨128, "_mm"⟩, ⟨256, "_mm256"⟩, ⟨512, "_mm512"⟩]

/-- Rows for one type, from operations and instruction names. -/
def rowsOf (signature : Signature) (instructions : List (Intrinsic × String)) : List (Key × String) :=
  instructions.map fun (operation, name) => ({ operation, architecture := .x86, signature }, name)

/-- Rows for floating elements in a register. -/
def floatRows (register : Register) (width : Nat) (suffix : String) : List (Key × String) :=
  let named (verb : String) := s!"{register.stem}_{verb}_{suffix}"
  rowsOf { kind := .float, width, lanes := register.bits / width } <|
    [(.add, named "add"), (.sub, named "sub"), (.mul, named "mul"), (.div, named "div"),
      (.fusedMultiplyAdd, named "fmadd"), (.load, named "loadu"), (.loadAligned, named "load"),
      (.store, named "storeu"), (.storeAligned, named "store")] ++
    (if register.bits < 512 then
      [(.maskedLoad, named "maskload"), (.maskedStore, named "maskstore")]
    else []) ++
    [(.build, named "setr"), (.broadcast, named "set1")]

/-- Rows for integer elements in a register. Products exist for some widths
only, masked access from 32 bits on in the smaller registers, and the widest
elements have constructors of their own names there. -/
def integerRows (register : Register) (width : Nat) (kind : Kind) : List (Key × String) :=
  let named (verb : String) := s!"{register.stem}_{verb}_epi{width}"
  let whole (verb : String) := s!"{register.stem}_{verb}_si{register.bits}"
  rowsOf { kind, width, lanes := register.bits / width } <|
    [(.add, named "add"), (.sub, named "sub")] ++
    (if width = 16 ∨ width = 32 ∨ (width = 64 ∧ register.bits = 512) then
      [(.mul, named "mullo")]
    else []) ++
    [(.load, whole "loadu"), (.loadAligned, whole "load"), (.store, whole "storeu"),
      (.storeAligned, whole "store")] ++
    (if register.bits < 512 ∧ 32 ≤ width then
      [(.maskedLoad, named "maskload"), (.maskedStore, named "maskstore")]
    else []) ++
    (if register.bits = 128 ∧ width = 64 then []
    else if register.bits = 256 ∧ width = 64 then [(.build, named "setr" ++ "x")]
    else if register.bits = 512 ∧ width < 32 then []
    else [(.build, named "setr")]) ++
    [(.broadcast, if width = 64 ∧ register.bits < 512 then named "set1" ++ "x" else named "set1")]

/-- Every instruction. -/
def rows : List (Key × String) :=
  registers.flatMap fun register =>
    floatRows register 32 "ps" ++ floatRows register 64 "pd" ++
      [8, 16, 32, 64].flatMap fun width =>
        integerRows register width .signed ++ integerRows register width .unsigned

/-- Every conversion: between integers and floats of equal lanes, between float
precisions, and widening of integers. -/
def conversions : List (Edge × String) :=
  let convert (source target : Signature) (name : String) : Edge × String :=
    ({ architecture := .x86, source, target }, name)
  [convert ⟨.signed, 32, 4⟩ ⟨.float, 32, 4⟩ "_mm_cvtepi32_ps",
    convert ⟨.float, 32, 4⟩ ⟨.signed, 32, 4⟩ "_mm_cvtps_epi32",
    convert ⟨.signed, 32, 8⟩ ⟨.float, 32, 8⟩ "_mm256_cvtepi32_ps",
    convert ⟨.float, 32, 8⟩ ⟨.signed, 32, 8⟩ "_mm256_cvtps_epi32",
    convert ⟨.signed, 32, 16⟩ ⟨.float, 32, 16⟩ "_mm512_cvtepi32_ps",
    convert ⟨.float, 32, 16⟩ ⟨.signed, 32, 16⟩ "_mm512_cvtps_epi32",
    convert ⟨.signed, 32, 4⟩ ⟨.float, 64, 4⟩ "_mm256_cvtepi32_pd",
    convert ⟨.float, 64, 4⟩ ⟨.signed, 32, 4⟩ "_mm256_cvtpd_epi32",
    convert ⟨.float, 32, 4⟩ ⟨.float, 64, 4⟩ "_mm256_cvtps_pd",
    convert ⟨.float, 64, 4⟩ ⟨.float, 32, 4⟩ "_mm256_cvtpd_ps",
    convert ⟨.float, 32, 8⟩ ⟨.float, 64, 8⟩ "_mm512_cvtps_pd",
    convert ⟨.float, 64, 8⟩ ⟨.float, 32, 8⟩ "_mm512_cvtpd_ps",
    convert ⟨.signed, 8, 16⟩ ⟨.signed, 16, 16⟩ "_mm256_cvtepi8_epi16",
    convert ⟨.unsigned, 8, 16⟩ ⟨.signed, 16, 16⟩ "_mm256_cvtepu8_epi16",
    convert ⟨.signed, 16, 8⟩ ⟨.signed, 32, 8⟩ "_mm256_cvtepi16_epi32",
    convert ⟨.unsigned, 16, 8⟩ ⟨.signed, 32, 8⟩ "_mm256_cvtepu16_epi32",
    convert ⟨.signed, 32, 4⟩ ⟨.signed, 64, 4⟩ "_mm256_cvtepi32_epi64",
    convert ⟨.signed, 8, 16⟩ ⟨.signed, 32, 16⟩ "_mm512_cvtepi8_epi32",
    convert ⟨.signed, 16, 16⟩ ⟨.signed, 32, 16⟩ "_mm512_cvtepi16_epi32",
    convert ⟨.signed, 32, 8⟩ ⟨.signed, 64, 8⟩ "_mm512_cvtepi32_epi64"]

end VectorKernel.Catalog.X86
