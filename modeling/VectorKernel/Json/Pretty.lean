import VectorKernel.Json.Basic
import VectorKernel.Json.Quoted

/-!
# Writing JSON

The indented form of a value: two spaces for each level, one item or member to
a line, and brackets without anything between them for empty ones.
-/

namespace VectorKernel.Json

/-- A line break followed by the indentation of a level. -/
def newline (level : Nat) : List Char :=
  '\n' :: List.replicate (2 * level) ' '

/-- A number as it is written. -/
def Number.text (number : Number) : List Char :=
  let sign := if number.negative then ['-'] else []
  let fraction := if number.fraction.isEmpty then [] else '.' :: number.fraction
  let exponent := match number.exponent with
    | none => []
    | some (negative, digits) => 'e' :: ((if negative then ['-'] else []) ++ digits)
  sign ++ number.whole ++ fraction ++ exponent

mutual

/-- The indented form of a value that stands at a level. A broken value has no
form of its own and is written as null. -/
def prettyChars (level : Nat) : Value → List Char
  | .null | .broken => "null".toList
  | .bool true => "true".toList
  | .bool false => "false".toList
  | .number number => number.text
  | .string text => quote text
  | .array [] => ['[', ']']
  | .array (item :: items) =>
    '[' :: (newline (level + 1) ++ prettyChars (level + 1) item ++ prettyItems level items ++
      newline level ++ [']'])
  | .object [] => ['\x7b', '\x7d']
  | .object (member :: members) =>
    '\x7b' :: (newline (level + 1) ++ quote member.1 ++ ':' :: ' ' :: prettyChars (level + 1) member.2 ++
      prettyMembers level members ++ newline level ++ ['\x7d'])

/-- The further items of an array at a level, each after a comma. -/
def prettyItems (level : Nat) : List Value → List Char
  | [] => []
  | item :: items =>
    ',' :: (newline (level + 1) ++ prettyChars (level + 1) item ++ prettyItems level items)

/-- The further members of an object at a level, each after a comma. -/
def prettyMembers (level : Nat) : List (String × Value) → List Char
  | [] => []
  | member :: members =>
    ',' :: (newline (level + 1) ++ quote member.1 ++ ':' :: ' ' :: prettyChars (level + 1) member.2 ++
      prettyMembers level members)

end

/-- The indented form of a value. -/
def pretty (value : Value) : String :=
  .ofList (prettyChars 0 value)

end VectorKernel.Json
