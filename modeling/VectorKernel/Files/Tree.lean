import VectorKernel.Files.Disk
import VectorKernel.Table

/-!
# File trees

All files and directories below a root, as a value, with the working directory of the
operations. A location is a list of names from the root. Files have numbers of their own: several
locations may hold the same file, and what is written to it at one of them is read at all. A
symbolic link holds a path, which is followed in its place.
-/

namespace VectorKernel

/-- What a location holds. -/
inductive Entry where
  /-- A file, by its number. -/
  | file (number : Nat)
  | directory
  /-- A symbolic link to a path. -/
  | link (target : Path)
  deriving DecidableEq, Repr

/-- The numbers of files that an entry takes up are below this. -/
def Entry.bound : Entry → Nat
  | .file number => number + 1
  | .directory | .link _ => 0

/-- Files, directories and links by the names that lead to them from the root. -/
structure FileTree where
  entries : Table (List String) Entry
  /-- The contents of files by their numbers. -/
  contents : Table Nat ByteArray
  /-- The location at which relative paths start. -/
  working : List String

namespace FileTree

/-- The tree of an empty working directory, which is all that the root holds. -/
def empty : FileTree where
  entries := Table.empty.insert ["working directory"] .directory
  contents := .empty
  working := ["working directory"]

/-- What is at a location. The root is always a directory. -/
def holds? (tree : FileTree) (location : List String) : Option Entry :=
  if location.isEmpty then some .directory else tree.entries.find? location

/-- The content of a file. A file that was never written is empty. -/
def content (tree : FileTree) (number : Nat) : ByteArray :=
  (tree.contents.find? number).getD .empty

/-- The longest name of a file or a directory, in bytes. -/
def maxNameBytes : Nat := 255

/-- The most links that are followed on the way to a location. -/
def maxLinks : Nat := 40

/-- The target of the link at a location, if it is to be followed. A link at the end of a path,
where no parts are left, is followed only if `last` says so. -/
def link? (tree : FileTree) (last : Bool) (location parts : List String) : Option Path :=
  match tree.holds? location with
  | some (.link target) => if last || !parts.isEmpty then some target else none
  | _ => none

/-- Where a path starts from a location. -/
def startOf (here : List String) (path : Path) : List String :=
  if Path.isAbsolute path then [] else here

/-- Follows parts of a path from a location, which must be a directory before every further part,
up to the first link. There `jump` follows the parts of the link's path and those behind it. The last
part need not exist, and nothing is above the root. -/
def walk (tree : FileTree) (last : Bool)
    (jump : (here parts : List String) → Except FileFault (List String)) :
    (here parts : List String) → Except FileFault (List String)
  | here, [] => .ok here
  | here, part :: parts =>
    match tree.holds? here with
    | none => .error .notFound
    | some (.file _) | some (.link _) => .error .notADirectory
    | some .directory =>
      if Path.isSilent part then tree.walk last jump here parts
      else if part = ".." then tree.walk last jump here.dropLast parts
      else if part.utf8ByteSize > maxNameBytes then .error .nameTooLong
      else match tree.link? last (here ++ [part]) parts with
        | none => tree.walk last jump (here ++ [part]) parts
        | some target => jump (startOf here target) (Text.pieces '/' target ++ parts)

/-- Follows parts of a path from a location, with as many links as are left. -/
def follow (tree : FileTree) (last : Bool) :
    (left : Nat) → (here parts : List String) → Except FileFault (List String)
  | 0 => tree.walk last fun _ _ => .error .tooManyLinks
  | left + 1 => tree.walk last (tree.follow last left)

/-- The location that a path leads to. -/
def resolve (tree : FileTree) (last : Bool) (path : Path) : Except FileFault (List String) :=
  if path.toList.contains (.ofNat 0) then .error .nulInName
  else if path.isEmpty then .error .notFound
  else tree.follow last maxLinks (startOf tree.working path) (Text.pieces '/' path)

/-- The location that a path leads to, through a link at its end as well. -/
def locate (tree : FileTree) (path : Path) : Except FileFault (List String) :=
  tree.resolve true path

/-- The location that a path names, which may hold a link. -/
def place (tree : FileTree) (path : Path) : Except FileFault (List String) :=
  tree.resolve false path

/-- What a path leads to, if there is anything. -/
def find? (tree : FileTree) (path : Path) : Option Entry :=
  match tree.locate path with
  | .ok location => tree.holds? location
  | .error _ => none

/-- The content of the file at a path. -/
def read (tree : FileTree) (path : Path) : Except FileFault ByteArray := do
  match tree.holds? (← tree.locate path) with
  | some (.file number) => .ok (tree.content number)
  | some _ => .error .isADirectory
  | none => .error .notFound

/-- The tree with an entry at a location, in place of an earlier one. -/
def put (tree : FileTree) (location : List String) (entry : Entry) : FileTree :=
  { tree with entries := tree.entries.insert location entry }

/-- The tree with another content of a file. -/
def store (tree : FileTree) (number : Nat) (content : ByteArray) : FileTree :=
  { tree with contents := tree.contents.insert number content }

/-- The first number above those of all files. -/
def unused (tree : FileTree) : Nat :=
  (tree.entries.rows.map fun row => row.2.bound).max?.getD 0

/-- The tree with a new file at a location. -/
def create (tree : FileTree) (location : List String) (content : ByteArray) : FileTree :=
  (tree.put location (.file tree.unused)).store tree.unused content

/-- The tree with a content of the file at a path, which is made if need be. -/
def write (tree : FileTree) (path : Path) (content : ByteArray) : Except FileFault FileTree := do
  let location ← tree.locate path
  match tree.holds? location with
  | some (.file number) => .ok (tree.store number content)
  | some _ => .error .isADirectory
  | none => .ok (tree.create location content)

/-- The tree with a new directory at a path. Slashes at the end do not count. -/
def makeDirectory (tree : FileTree) (path : Path) : Except FileFault FileTree := do
  let chars := (path.toList.reverse.dropWhile (· == '/')).reverse
  let location ← tree.place (if chars.isEmpty then path else .ofList chars)
  match tree.holds? location with
  | some _ => .error .alreadyExists
  | none => .ok (tree.put location .directory)

/-- The tree with an entry at a location below the working directory, and with
directories on the way to it. -/
def plant (tree : FileTree) (location : List String) (entry : Entry) : FileTree :=
  let above := (List.range location.length).filter (· > 0)
  let ready := above.foldl (fun tree count => tree.put (tree.working ++ location.take count) .directory) tree
  ready.put (tree.working ++ location) entry

/-- The tree with a new file at a location below the working directory, and with
directories on the way to it. -/
def plantFile (tree : FileTree) (location : List String) (content : ByteArray) : FileTree :=
  (tree.plant location (.file tree.unused)).store tree.unused content

/-- The files below the working directory with the paths that lead to them. -/
def files (tree : FileTree) : List (Path × ByteArray) :=
  tree.entries.rows.filterMap fun (location, entry) =>
    match entry with
    | .file number =>
      if tree.working.isPrefixOf location then
        some (Text.join "/" (location.drop tree.working.length), tree.content number)
      else none
    | _ => none

/-- The result of a change, and the tree after it; a failed change leaves the
tree. -/
def change (result : Except FileFault FileTree) : StateM FileTree (Except FileFault Unit) :=
  match result with
  | .ok tree => do set tree; return .ok ()
  | .error fault => return .error fault

instance : Disk (StateM FileTree) where
  read path := do return (← get).read path
  write path content := do change ((← get).write path content)
  makeDirectory path := do change ((← get).makeDirectory path)
  isFile path := do return (← get).find? path matches some (.file _)
  isDirectory path := do return (← get).find? path matches some .directory

end FileTree

end VectorKernel
