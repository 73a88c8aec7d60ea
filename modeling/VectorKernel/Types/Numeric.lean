import VectorKernel.Text.Numeral

/-!
# Numeric types

A signature says what the lanes of a value are and how many there are. A
numeric type adds an alignment. Instructions, names and promotion depend on the
signature alone.
-/

namespace VectorKernel

/-- What the elements of a value are. Floating elements are always signed. -/
inductive Kind where
  | unsigned
  | signed
  | float
  deriving DecidableEq, Repr

namespace Kind

/-- Whether elements are floating. -/
def isFloat : Kind → Bool
  | .float => true
  | _ => false

/-- Whether elements have a sign. -/
def isSigned : Kind → Bool
  | .unsigned => false
  | _ => true

/-- The letter that starts a type name. -/
def letter : Kind → Char
  | .unsigned => 'u'
  | .signed => 'i'
  | .float => 'f'

end Kind

/-- A scalar or vector type up to alignment. -/
structure Signature where
  kind : Kind
  /-- Element width in bits. -/
  width : Nat
  /-- Number of lanes; one for scalars. -/
  lanes : Nat
  deriving DecidableEq, Repr

namespace Signature

/-- Whether there is more than one lane. -/
def isVector (signature : Signature) : Bool :=
  signature.lanes > 1

/-- Element size in bytes. -/
def elementSize (signature : Signature) : Nat :=
  signature.width / 8

/-- Size in bytes of a value. Sizes have 32 bits and stay at the largest one. -/
def totalSize (signature : Signature) : Nat :=
  min (signature.elementSize * signature.lanes) Text.limit32

/-- The short name: letter, width, and `x` with the lane count for vectors. -/
def name (signature : Signature) : String :=
  let element := s!"{signature.kind.letter}{signature.width}"
  if signature.isVector then s!"{element}x{signature.lanes}" else element

end Signature

/-- A signature with an alignment in bytes. -/
structure NumericType extends Signature where
  alignment : Nat
  deriving DecidableEq, Repr

/-- The type of a signature whose alignment is the size of its values. -/
def Signature.natural (signature : Signature) : NumericType :=
  { signature with alignment := signature.totalSize }

namespace NumericType

/-- A scalar of the given kind and width. -/
def scalarOf (kind : Kind) (width : Nat) : NumericType :=
  { kind, width, lanes := 1, alignment := width / 8 }

/-- The signed integer of a width. -/
def int (width : Nat) : NumericType := scalarOf .signed width

/-- The unsigned integer of a width. -/
def uint (width : Nat) : NumericType := scalarOf .unsigned width

/-- The floating type of a width. -/
def float (width : Nat) : NumericType := scalarOf .float width

/-- The same elements in `lanes` lanes, naturally aligned. -/
def vector (type : NumericType) (lanes : Nat) : NumericType :=
  { type.toSignature with lanes }.natural

/-- The element type, naturally aligned. -/
def scalar (type : NumericType) : NumericType :=
  type.vector 1

/-- The same kind and lanes with another element width, naturally aligned. -/
def withWidth (type : NumericType) (width : Nat) : NumericType :=
  { type.toSignature with width }.natural

/-- The same type with another alignment. -/
def withAlignment (type : NumericType) (alignment : Nat) : NumericType :=
  { type with alignment }

@[simp] theorem toSignature_vector (type : NumericType) (lanes : Nat) :
    (type.vector lanes).toSignature = { type.toSignature with lanes } := rfl

end NumericType

end VectorKernel
