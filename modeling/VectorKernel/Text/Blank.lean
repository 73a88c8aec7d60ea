/-!
# Blank characters and trimming

A blank is any of the 25 characters that Unicode counts as white space. Type
names, settings and printed statements are trimmed of blanks; nothing else is
ever removed from a text.
-/

namespace VectorKernel.Text

/-- Whether a character is white space: the ASCII controls tab to carriage
return, the space, and the separators beyond ASCII. -/
def isBlank (char : Char) : Bool :=
  let code := char.toNat
  (0x9 ≤ code && code ≤ 0xD) || code == 0x20 || code == 0x85 || code == 0xA0 ||
    code == 0x1680 || (0x2000 ≤ code && code ≤ 0x200A) || code == 0x2028 ||
    code == 0x2029 || code == 0x202F || code == 0x205F || code == 0x3000

/-- A text without its longest leading run of characters in the class. -/
def dropLeading (drops : Char → Bool) (text : String) : String :=
  .ofList (text.toList.dropWhile drops)

/-- A text without its longest trailing run of characters in the class. -/
def dropTrailing (drops : Char → Bool) (text : String) : String :=
  .ofList (text.toList.reverse.dropWhile drops).reverse

/-- A text without the characters of the class at either end. -/
def dropAround (drops : Char → Bool) (text : String) : String :=
  dropTrailing drops (dropLeading drops text)

/-- A text without leading blanks. -/
def trimStart (text : String) : String :=
  dropLeading isBlank text

/-- A text without leading and trailing blanks. -/
def trim (text : String) : String :=
  dropAround isBlank text

/-- A text without the double quotes at either end, however many there are. -/
def unquote (text : String) : String :=
  dropAround (· == '"') text

end VectorKernel.Text
