import VectorKernel.Text.Blank
import VectorKernel.Text.Split
import VectorKernel.Types.Numeric

/-!
# Type names

Reading of short type names such as `f32`, `i16x8` or `u8x16`, and the causes
for which a name is refused.
-/

namespace VectorKernel

/-- The most lanes that a type name may ask for. -/
def maxLanes : Nat := 64

/-- Why a type name is refused. Every cause but the empty name keeps the
trimmed text. -/
inductive TypeNameFault where
  | laneCount (text : String)
  | zeroLanes (text : String)
  | tooManyLanes (text : String)
  | empty
  | width (text : String)
  | unknown (text : String)
  deriving DecidableEq, Repr

/-- The wording of a refused type name. -/
def TypeNameFault.message : TypeNameFault → String
  | .laneCount text => s!"invalid lane count in '{text}'"
  | .zeroLanes text => s!"zero lanes in '{text}'"
  | .tooManyLanes text => s!"'{text}' exceeds {maxLanes} lanes"
  | .empty => "empty type name"
  | .width text => s!"invalid width in '{text}'"
  | .unknown text => s!"unknown numeric type '{text}'"

/-- The kind that a letter stands for, if it has elements of that width. -/
def Kind.ofLetter? (letter : Char) (width : Nat) : Option Kind :=
  match letter with
  | 'f' => if width ∈ [16, 32, 64] then some .float else none
  | 'i' => if width ∈ [8, 16, 32, 64] then some .signed else none
  | 'u' => if width ∈ [8, 16, 32, 64] then some .unsigned else none
  | _ => none

namespace NumericType

/-- The element part of a name and its lane count, one if none is written. -/
def splitLanes (text : String) : Except TypeNameFault (List Char × Nat) :=
  match Text.cutFirst 'x' text with
  | none => .ok (text.toList, 1)
  | some (element, lanes) =>
    match Text.readNatural Text.limit32 lanes.toList with
    | none => .error (.laneCount text)
    | some count => .ok (element.toList, count)

/-- Reads a type name. Blanks around it do not count, numerals may have a plus
sign and leading zeros, and faults of the lane count come before faults of the
element. -/
def ofName (name : String) : Except TypeNameFault NumericType := do
  let text := Text.trim name
  let (element, lanes) ← splitLanes text
  if lanes = 0 then .error (.zeroLanes text)
  else if lanes > maxLanes then .error (.tooManyLanes text)
  else match element with
    | [] => .error .empty
    | letter :: digits =>
      match Text.readNatural Text.limit32 digits with
      | none => .error (.width text)
      | some width =>
        match Kind.ofLetter? letter width with
        | none => .error (.unknown text)
        | some kind => .ok (Signature.natural { kind, width, lanes })

end NumericType

end VectorKernel
