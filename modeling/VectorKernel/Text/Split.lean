/-!
# Cutting and joining text

Cutting at a separator character, and padding of columns.
-/

namespace VectorKernel.Text

/-- Cuts a text at the first occurrence of the mark, which belongs to neither
part; `none` if the mark does not occur. -/
def cutFirst (mark : Char) (text : String) : Option (String × String) :=
  match text.toList.span (· != mark) with
  | (before, _ :: after) => some (.ofList before, .ofList after)
  | (_, []) => none

/-- The pieces of a text between the occurrences of the mark. There is one
piece more than there are marks, so the empty text has one empty piece. -/
def pieces (mark : Char) (text : String) : List String :=
  (text.toList.splitOn mark).map .ofList

/-- Texts one after the other, with a separator between neighbours. -/
def join (separator : String) : List String → String
  | [] => ""
  | [only] => only
  | first :: second :: rest => first ++ separator ++ join separator (second :: rest)

/-- A text filled up with spaces on the right to at least `width` characters. -/
def padRight (width : Nat) (text : String) : String :=
  text ++ .ofList (List.replicate (width - text.length) ' ')

/-- A run of spaces. -/
def spaces (count : Nat) : String :=
  .ofList (List.replicate count ' ')

end VectorKernel.Text
