import VectorKernel.Json.Basic
import VectorKernel.Json.Quoted

/-!
# Reading JSON

A strict reader: one value with blanks around it and nothing else, no byte
order mark, no trailing commas, no leading zeros.
-/

namespace VectorKernel.Json

/-- A text without the blanks that JSON allows between tokens. -/
def skipBlanks (text : List Char) : List Char :=
  text.dropWhile fun char => char = ' ' || char = '\n' || char = '\r' || char = '\t'

/-- The leading digits of a text and the rest. -/
def spanDigits (text : List Char) : List Char × List Char :=
  text.span Char.isDigit

/-- Reads the digits before the point: a lone zero, or digits that do not start
with one. -/
def readWhole (text : List Char) : Option (List Char × List Char) :=
  match spanDigits text with
  | ([], _) => none
  | ('0' :: _ :: _, _) => none
  | (digits, rest) => some (digits, rest)

/-- Reads a point with digits after it, if there is a point. -/
def readFraction : List Char → Option (List Char × List Char)
  | '.' :: text =>
    match spanDigits text with
    | ([], _) => none
    | (digits, rest) => some (digits, rest)
  | text => some ([], text)

/-- Reads the sign and the digits of an exponent, after its mark. -/
def readExponentDigits (text : List Char) : Option ((Bool × List Char) × List Char) :=
  let (negative, text) := match text with
    | '-' :: text => (true, text)
    | '+' :: text => (false, text)
    | text => (false, text)
  match spanDigits text with
  | ([], _) => none
  | (digits, rest) => some ((negative, digits), rest)

/-- Reads an exponent, if there is one. -/
def readExponent : List Char → Option (Option (Bool × List Char) × List Char)
  | 'e' :: text | 'E' :: text => (readExponentDigits text).map fun (exponent, rest) => (some exponent, rest)
  | text => some (none, text)

/-- Reads a number. -/
def readNumber (text : List Char) : Option (Number × List Char) := do
  let (negative, text) := match text with
    | '-' :: text => (true, text)
    | text => (false, text)
  let (whole, text) ← readWhole text
  let (fraction, text) ← readFraction text
  let (exponent, text) ← readExponent text
  return ({ negative, whole, fraction, exponent }, text)

/-- A string value, broken if its parts denote no text. -/
def ofUnits (units : List CodeUnit) : Value :=
  match CodeUnit.text? units with
  | some text => .string (.ofList text)
  | none => .broken

/-- An object, broken if one of its keys denotes no text. -/
def ofMembers (members : List (List CodeUnit × Value)) : Value :=
  let keyed := members.mapM fun (key, value) => (CodeUnit.text? key).map fun text => (String.ofList text, value)
  match keyed with
  | some members => .object members
  | none => .broken

mutual

/-- Reads a value and returns what follows it. Every step uses up fuel; twice
the length of the text is enough. -/
def readValue : Nat → List Char → Option (Value × List Char)
  | 0, _ => none
  | fuel + 1, text =>
    match skipBlanks text with
    | 'n' :: 'u' :: 'l' :: 'l' :: rest => some (.null, rest)
    | 't' :: 'r' :: 'u' :: 'e' :: rest => some (.bool true, rest)
    | 'f' :: 'a' :: 'l' :: 's' :: 'e' :: rest => some (.bool false, rest)
    | '"' :: rest => (readUnits rest).map fun (units, rest) => (ofUnits units, rest)
    | '[' :: rest =>
      match skipBlanks rest with
      | ']' :: rest => some (.array [], rest)
      | rest => (readItems fuel rest).map fun (items, rest) => (.array items, rest)
    | '\x7b' :: rest =>
      match skipBlanks rest with
      | '\x7d' :: rest => some (.object [], rest)
      | rest => (readMembers fuel rest).map fun (members, rest) => (ofMembers members, rest)
    | rest => (readNumber rest).map fun (number, rest) => (.number number, rest)

/-- Reads the items of an array, of which there is at least one, and its end. -/
def readItems : Nat → List Char → Option (List Value × List Char)
  | 0, _ => none
  | fuel + 1, text => do
    let (item, rest) ← readValue fuel text
    match skipBlanks rest with
    | ',' :: rest => do
      let (items, rest) ← readItems fuel rest
      return (item :: items, rest)
    | ']' :: rest => return ([item], rest)
    | _ => none

/-- Reads the members of an object, of which there is at least one, and its
end. -/
def readMembers : Nat → List Char → Option (List (List CodeUnit × Value) × List Char)
  | 0, _ => none
  | fuel + 1, text =>
    match skipBlanks text with
    | '"' :: rest => do
      let (key, rest) ← readUnits rest
      match skipBlanks rest with
      | ':' :: rest => do
        let (value, rest) ← readValue fuel rest
        match skipBlanks rest with
        | ',' :: rest => do
          let (members, rest) ← readMembers fuel rest
          return ((key, value) :: members, rest)
        | '\x7d' :: rest => return ([(key, value)], rest)
        | _ => none
      | _ => none
    | _ => none

end

/-- Reads a whole text as one value. -/
def read (text : String) : Option Value := do
  let chars := text.toList
  let (value, rest) ← readValue (2 * chars.length + 1) chars
  if (skipBlanks rest).isEmpty then some value else none

end VectorKernel.Json
