import VectorKernel.Text.Split

/-!
# Paths

Paths are texts whose parts are separated by slashes. Empty parts and single
dots name nothing, except that a leading dot stays a part of its own. These
operations are lexical: they look at no file.
-/

namespace VectorKernel

/-- A path to a file or a directory. -/
abbrev Path := String

namespace Path

/-- Whether a path starts at the root. -/
def isAbsolute (path : Path) : Bool :=
  path.toList.head? = some '/'

/-- A part below a base. An absolute part replaces the base. -/
def join (base part : Path) : Path :=
  if isAbsolute part || base.isEmpty then part
  else if base.toList.getLast? = some '/' then base ++ part
  else base ++ "/" ++ part

/-- Whether a part of a path names nothing. -/
def isSilent (part : String) : Bool :=
  part = "" || part = "."

/-- The start of a path that is not made of parts, a slash or a dot, and the
rest. -/
def splitLead (path : Path) : String × String :=
  match path.toList with
  | '/' :: rest => ("/", .ofList rest)
  | ['.'] => (".", "")
  | '.' :: '/' :: rest => (".", .ofList ('/' :: rest))
  | _ => ("", path)

/-- The path without its last part. The root and the empty path have none. -/
def parent? (path : Path) : Option Path :=
  let (lead, body) := splitLead path
  match (Text.pieces '/' body).reverse.dropWhile isSilent with
  | _ :: before => some (lead ++ Text.join "/" (before.dropWhile isSilent).reverse)
  | [] => if lead = "." then some "" else none

/-- A path followed by its parents, as far as the fuel goes. -/
def ancestorsFrom : Nat → Path → List Path
  | 0, _ => []
  | fuel + 1, path =>
    path :: match parent? path with
      | some parent => ancestorsFrom fuel parent
      | none => []

/-- A path followed by all its parents. Each is shorter than the one before. -/
def ancestors (path : Path) : List Path :=
  ancestorsFrom (path.length + 1) path

end Path

end VectorKernel
