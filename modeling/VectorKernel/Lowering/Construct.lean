import VectorKernel.Lowering.Convert
import VectorKernel.Text.Split

/-!
# Construction of vectors

A vector is made by putting one scalar into every lane, or from one scalar per
lane. Where C has no instruction for the latter, lanes are inserted one by one
into a vector of zeros.
-/

namespace VectorKernel.Lowering

/-- The text of a scalar put into every lane. -/
def splatText (context : Context) (text : String) (type : NumericType) : Except Fault String :=
  if context.language = .openCl then .ok s!"({context.spelling type})( {text} )"
  else do
    let instruction ← context.instruction .broadcast type
    return s!"{instruction}( {text} )"

/-- The text of a value made into `type`: a scalar goes into every lane, and a
vector is converted. Scalar types, handles and languages without explicit
vector moves take the value as it is. -/
def broadcastText (context : Context) (value : Operand) (type : NumericType) : Except Fault String :=
  if context.language.movesVectors && type.isVector then
    match value.numeric? with
    | none => .ok value.text
    | some source =>
      if source.isVector then convert context value type
      else splatText context value.text type
  else .ok value.text

/-- A value made into `type`. -/
def broadcast (context : Context) (value : Operand) (type : NumericType) : Except Fault Operand :=
  (broadcastText context value type).map (.computed · type)

/-- The text of lanes inserted into a vector, starting at a lane index. -/
def insertLanes (instruction : String) : (lane : Nat) → (vector : String) → List String → String
  | _, vector, [] => vector
  | lane, vector, value :: values =>
    insertLanes instruction (lane + 1) s!"{instruction}({value}, {vector}, {lane})" values

/-- The text of a C vector of one scalar per lane. -/
def buildText (context : Context) (lanes : List String) (type : NumericType) : Except Fault String :=
  match context.instruction? .build type with
  | some instruction =>
    let values := Text.join ", " lanes
    .ok s!"{instruction}( {values} )"
  | none => do
    let instruction ← context.instruction .insertLane type
    let zeros ← broadcastText context (.computed "0" type.scalar) type
    return insertLanes instruction 0 zeros lanes

/-- The text of a vector of one scalar per lane. The number of scalars is
checked first, then the language. -/
def laneListText (context : Context) (lanes : List String) (type : NumericType) : Except Fault String :=
  if lanes.length = type.lanes then
    match context.language with
    | .openCl =>
      let values := Text.join ", " lanes
      .ok s!"({context.spelling type})( {values} )"
    | .c => buildText context lanes type
    | language => .error (.noFeature .laneList language)
  else .error (.wrongCount .laneList type.lanes lanes.length)

/-- A vector of one scalar per lane. -/
def ofLanes (context : Context) (lanes : List String) (type : NumericType) : Except Fault Operand :=
  (laneListText context lanes type).map (.computed · type)

end VectorKernel.Lowering
