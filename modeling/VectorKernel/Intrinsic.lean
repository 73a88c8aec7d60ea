/-!
# Intrinsics

The primitive vector operations that an architecture may have an instruction
for.
-/

namespace VectorKernel

/-- A primitive vector operation. -/
inductive Intrinsic where
  | add
  | sub
  | mul
  | div
  /-- Load without an alignment requirement. -/
  | load
  | loadAligned
  /-- Store without an alignment requirement. -/
  | store
  | storeAligned
  /-- Build a vector from one scalar per lane. -/
  | build
  /-- Put one scalar into every lane. -/
  | broadcast
  /-- Replace one lane: value, vector, lane index. -/
  | insertLane
  | maskedLoad
  | maskedStore
  /-- Multiply and add in one step. -/
  | fusedMultiplyAdd
  deriving DecidableEq, Repr

namespace Intrinsic

/-- The name of an operation, as tables and messages spell it. -/
def name : Intrinsic → String
  | .add => "add"
  | .sub => "sub"
  | .mul => "mul"
  | .div => "div"
  | .load => "load"
  | .loadAligned => "load_aligned"
  | .store => "store"
  | .storeAligned => "store_aligned"
  | .build => "set"
  | .broadcast => "set1"
  | .insertLane => "set_lane"
  | .maskedLoad => "mask_load"
  | .maskedStore => "mask_store"
  | .fusedMultiplyAdd => "fmadd"

/-- Every operation, in listing order. -/
def all : List Intrinsic :=
  [.add, .sub, .mul, .div, .load, .loadAligned, .store, .storeAligned, .build, .broadcast,
    .insertLane, .maskedLoad, .maskedStore, .fusedMultiplyAdd]

/-- The operation with exactly this name. -/
def ofExactName? (text : String) : Option Intrinsic :=
  all.find? (·.name == text)

/-- The operation that a name or one of its aliases stands for. -/
def ofName? : String → Option Intrinsic
  | "loada" => some .loadAligned
  | "storea" => some .storeAligned
  | "maskload" => some .maskedLoad
  | "maskstore" => some .maskedStore
  | "fma" => some .fusedMultiplyAdd
  | text => ofExactName? text

/-- The place of an operation in listings. -/
def rank (operation : Intrinsic) : Nat :=
  operation.ctorIdx

end Intrinsic

end VectorKernel
