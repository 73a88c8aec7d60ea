import VectorKernel.Lowering.Construct

/-!
# Loads and stores

Vectors are read from and written to memory through an address. The aligned
instruction is used only where the memory side declares an alignment equal to
the size of the vector.
-/

namespace VectorKernel.Lowering

/-- The element type of pointers handed to a store: the vector type itself for
integers on x86, else the type of one lane. -/
def pointerSpelling (context : Context) (type : NumericType) : String :=
  if context.architecture = .x86 && !type.kind.isFloat then context.spelling type
  else context.spelling type.scalar

/-- Whether storage is declared to be aligned to the size of a type. -/
def isAligned (storage : Operand) (type : NumericType) : Bool :=
  storage.alignment = some type.totalSize

/-- Whether values of a type go through the 64-bit integer moves of x86. -/
def isWordSized (context : Context) (type : NumericType) : Bool :=
  context.architecture = .x86 && type.totalSize = 8

/-- The text of a C load of a vector from storage. -/
def memoryLoadText (context : Context) (source : Operand) (type : NumericType) : Except Fault String :=
  if isWordSized context type then .ok s!"_m_from_int64( *((int64_t * ) {source.address} ) )"
  else do
    let instruction ← context.instruction (if isAligned source type then .loadAligned else .load) type
    return if context.architecture = .x86 && !type.kind.isFloat then
      s!"{instruction}( ({pointerSpelling context type} * ) {source.address} )"
    else s!"{instruction}( {source.address} )"

/-- The text of a value read as `type`. Values of that signature, handles and
languages without explicit vector moves pass; vectors are converted; literals
have no address and are broadcast; anything else is read from its address. -/
def loadText (context : Context) (source : Operand) (type : NumericType) : Except Fault String :=
  if context.language.movesVectors then
    match source.numeric? with
    | none => .ok source.text
    | some held =>
      if held.toSignature = type.toSignature then .ok source.text
      else if held.isVector then convert context source type
      else if source.literal then broadcastText context source type
      else if context.language = .openCl then .ok s!"vload{type.lanes}(0, {source.address})"
      else memoryLoadText context source type
  else .ok source.text

/-- A value read as `type`. -/
def load (context : Context) (source : Operand) (type : NumericType) : Except Fault Operand :=
  (loadText context source type).map (.computed · type)

/-- The text of a vector written to a location. -/
def memoryStoreText (context : Context) (destination : Operand) (text : String) (type : NumericType) :
    Except Fault String :=
  if context.language = .openCl then .ok s!"vstore{type.lanes}({text}, 0, {destination.address})"
  else if isWordSized context type then
    .ok s!"*((int64_t * ) {destination.address}) = _m_to_int64( {text} )"
  else do
    let instruction ← context.instruction (if isAligned destination type then .storeAligned else .store) type
    return s!"{instruction}( ({pointerSpelling context type} * ) {destination.address}, {text} )"

/-- The text of a value written to a location. Only vectors in languages with
explicit vector moves are more than an assignment. -/
def storeText (context : Context) (destination source : Operand) : Except Fault String :=
  let plain := Operator.assign.render (some destination.text) (some source.text) context.language
  match context.language.movesVectors, source.numeric? with
  | true, some type =>
    if type.isVector then memoryStoreText context destination source.text type else .ok plain
  | _, _ => .ok plain

/-- A value written to a location, which has the type of the value. -/
def store (context : Context) (destination source : Operand) : Except Fault Operand :=
  (storeText context destination source).map (.computed · source.type)

end VectorKernel.Lowering
