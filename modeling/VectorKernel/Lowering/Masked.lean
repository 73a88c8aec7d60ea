import VectorKernel.Lowering.Memory

/-!
# Masked loads and stores

Access to the lanes whose flag is set. The mask becomes a vector of signed
integers of the element width, with all bits set in the chosen lanes.
-/

namespace VectorKernel.Lowering

/-- The type of the mask for a vector type. -/
def maskType (type : NumericType) : NumericType :=
  (NumericType.int type.width).vector type.lanes

/-- The text of a flag as a lane. -/
def flagText (flag : Bool) : String :=
  if flag then "-1" else "0"

/-- The text of the mask vector. -/
def maskText (context : Context) (mask : List Bool) (type : NumericType) : Except Fault String :=
  laneListText context (mask.map flagText) (maskType type)

/-- Checks that the mask has a flag for every lane, and then that the language
has masked access. -/
def checkMask (context : Context) (mask : List Bool) (type : NumericType) : Except Fault Unit :=
  if mask.length ≠ type.lanes then .error (.wrongCount .mask type.lanes mask.length)
  else if context.language ≠ .c then .error (.noFeature .maskedAccess context.language)
  else .ok ()

/-- The text of a masked load. -/
def maskedLoadText (context : Context) (source : Operand) (mask : List Bool) (type : NumericType) :
    Except Fault String := do
  checkMask context mask type
  let instruction ← context.instruction .maskedLoad type
  let flags ← maskText context mask type
  return s!"{instruction}(({context.spelling type.scalar} * ){source.address}, {flags})"

/-- The lanes of `type` whose flag is set, read from a location. -/
def maskedLoad (context : Context) (source : Operand) (mask : List Bool) (type : NumericType) :
    Except Fault Operand :=
  (maskedLoadText context source mask type).map (.computed · type)

/-- The text of a masked store. -/
def maskedStoreText (context : Context) (destination source : Operand) (mask : List Bool)
    (type : NumericType) : Except Fault String := do
  checkMask context mask type
  let instruction ← context.instruction .maskedStore type
  let flags ← maskText context mask type
  let value ← convert context source type
  return s!"{instruction}(({context.spelling type.scalar} * ){destination.address}, {flags}, {value})"

/-- The lanes whose flag is set, written to a location as `type`. -/
def maskedStore (context : Context) (destination source : Operand) (mask : List Bool)
    (type : NumericType) : Except Fault Operand :=
  (maskedStoreText context destination source mask type).map (.computed · type)

end VectorKernel.Lowering
