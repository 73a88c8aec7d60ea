/-!
# JSON strings

Writing of a text as a JSON string literal, and reading of a literal's inside.
Only quotes, backslashes and control characters are escaped when writing; every
escape of the format is understood when reading.
-/

namespace VectorKernel.Json

/-- The hexadecimal digit of a number below sixteen, in lower case. -/
def hexDigit (value : Nat) : Char :=
  Nat.digitChar value

/-- A character as it stands in a literal. -/
def escape (char : Char) : List Char :=
  match char with
  | '"' => ['\\', '"']
  | '\\' => ['\\', '\\']
  | '\n' => ['\\', 'n']
  | '\r' => ['\\', 'r']
  | '\t' => ['\\', 't']
  | _ =>
    if char.toNat = 0x8 then ['\\', 'b']
    else if char.toNat = 0xC then ['\\', 'f']
    else if char.toNat < 0x20 then
      ['\\', 'u', '0', '0', hexDigit (char.toNat / 16), hexDigit (char.toNat % 16)]
    else [char]

/-- A text as a string literal. -/
def quote (text : String) : List Char :=
  '"' :: (text.toList.flatMap escape ++ ['"'])

/-- A part of a literal's inside: a character, or a code unit given by its
number, which may be half of a pair. -/
inductive CodeUnit where
  | char (char : Char)
  | code (value : Nat)
  deriving DecidableEq, Repr

/-- The value of a hexadecimal digit in either case. -/
def hexValue? (char : Char) : Option Nat :=
  if char.isDigit then some (char.toNat - '0'.toNat)
  else if 'a' ≤ char && char ≤ 'f' then some (char.toNat - 'a'.toNat + 10)
  else if 'A' ≤ char && char ≤ 'F' then some (char.toNat - 'A'.toNat + 10)
  else none

/-- The value of four hexadecimal digits. -/
def hexValues? (a b c d : Char) : Option Nat := do
  return (((← hexValue? a) * 16 + (← hexValue? b)) * 16 + (← hexValue? c)) * 16 + (← hexValue? d)

/-- The character that a one-letter escape stands for. -/
def escaped? : Char → Option Char
  | '"' => some '"'
  | '\\' => some '\\'
  | '/' => some '/'
  | 'b' => some (.ofNat 0x8)
  | 'f' => some (.ofNat 0xC)
  | 'n' => some '\n'
  | 'r' => some '\r'
  | 't' => some '\t'
  | _ => none

/-- Reads a literal after its opening quote: its parts and what follows the
closing quote. Control characters may not stand bare. -/
def readUnits : List Char → Option (List CodeUnit × List Char)
  | [] => none
  | '"' :: rest => some ([], rest)
  | '\\' :: 'u' :: a :: b :: c :: d :: rest => do
    let value ← hexValues? a b c d
    let (units, rest) ← readUnits rest
    return (.code value :: units, rest)
  | '\\' :: char :: rest => do
    let char ← escaped? char
    let (units, rest) ← readUnits rest
    return (.char char :: units, rest)
  | char :: rest =>
    if char.toNat < 0x20 || char = '\\' then none
    else do
      let (units, rest) ← readUnits rest
      return (.char char :: units, rest)

/-- The text of a literal's parts. The two halves of a pair must stand side by
side, both given by number; half a pair denotes no text. -/
def CodeUnit.text? : List CodeUnit → Option (List Char)
  | [] => some []
  | .char plain :: rest => (text? rest).map (plain :: ·)
  | .code high :: rest =>
    if high < 0xD800 || high > 0xDFFF then (text? rest).map (Char.ofNat high :: ·)
    else if high ≥ 0xDC00 then none
    else match rest with
      | .code low :: rest =>
        if low < 0xDC00 || low > 0xDFFF then none
        else
          let paired := Char.ofNat (0x10000 + (high - 0xD800) * 0x400 + (low - 0xDC00))
          (text? rest).map (paired :: ·)
      | _ => none

end VectorKernel.Json
