import VectorKernel.Fault
import VectorKernel.Table

/-!
# Catalogs

A catalog names the instruction that does a primitive operation on a type, for
each architecture, and the instructions that convert between two types in one
step. Alignment plays no part: keys hold signatures.
-/

namespace VectorKernel

namespace Catalog

/-- What an instruction is looked up by. -/
structure Key where
  operation : Intrinsic
  architecture : Architecture
  signature : Signature
  deriving DecidableEq, Repr

/-- The place of a key in listings: by operation, architecture, kind, width,
sign and lanes, integers before floats and unsigned before signed. -/
def Key.order (key : Key) : List Nat :=
  let signature := key.signature
  [key.operation.rank, key.architecture.ctorIdx, signature.kind.isFloat.toNat, signature.width,
    signature.kind.isSigned.toNat, signature.lanes]

/-- Whether a list of numbers comes before another one or is equal to it: the
first place where they differ decides, and a shorter list comes first. -/
def comesBefore : List Nat → List Nat → Bool
  | [], _ => true
  | _ :: _, [] => false
  | left :: lefts, right :: rights => left < right || (left = right && comesBefore lefts rights)

/-- A conversion in one step. -/
structure Edge where
  architecture : Architecture
  source : Signature
  target : Signature
  deriving DecidableEq, Repr

end Catalog

/-- The instructions known for every architecture. -/
structure Catalog where
  instructions : Table Catalog.Key String
  conversions : Table Catalog.Edge String

namespace Catalog

/-- The catalog in which every look-up misses. -/
def empty : Catalog := ⟨.empty, .empty⟩

/-- Names the instruction of an operation, in place of an earlier name. -/
def insert (catalog : Catalog) (key : Key) (name : String) : Catalog :=
  { catalog with instructions := catalog.instructions.insert key name }

/-- Names the instruction of a conversion, in place of an earlier name. -/
def insertConversion (catalog : Catalog) (edge : Edge) (name : String) : Catalog :=
  { catalog with conversions := catalog.conversions.insert edge name }

/-- Enters rows of instructions, in order. -/
def insertAll (catalog : Catalog) (rows : List (Key × String)) : Catalog :=
  rows.foldl (fun catalog row => catalog.insert row.1 row.2) catalog

/-- Enters rows of conversions, in order. -/
def insertConversions (catalog : Catalog) (rows : List (Edge × String)) : Catalog :=
  rows.foldl (fun catalog row => catalog.insertConversion row.1 row.2) catalog

/-- The instruction of an operation on a type, if there is one. -/
def lookup (catalog : Catalog) (operation : Intrinsic) (architecture : Architecture)
    (signature : Signature) : Option String :=
  catalog.instructions.find? { operation, architecture, signature }

/-- The instruction that converts in one step, if there is one. -/
def conversion (catalog : Catalog) (architecture : Architecture) (source target : Signature) :
    Option String :=
  catalog.conversions.find? { architecture, source, target }

/-- The instructions of an architecture, in key order. -/
def entries (catalog : Catalog) (architecture : Architecture) : List (Key × String) :=
  (catalog.instructions.rows.filter (·.1.architecture = architecture)).mergeSort
    fun left right => comesBefore left.1.order right.1.order

/-- The conversions of an architecture, in the order of their first entry. -/
def edges (catalog : Catalog) (architecture : Architecture) : List (Edge × String) :=
  catalog.conversions.rows.filter (·.1.architecture = architecture)

end Catalog

end VectorKernel
