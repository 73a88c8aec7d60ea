import VectorKernel.Catalog.Extend
import VectorKernel.Context
import VectorKernel.Fault
import VectorKernel.Files.Disk
import VectorKernel.Text.Blank

/-!
# Settings

The settings file chooses the target, the indentation and further instruction
tables. It is read line by line: headings in brackets open sections, and a line
`key = value` is an assignment in the current section. Of several assignments
to one setting the last one counts, and assignments to anything else are
ignored.
-/

namespace VectorKernel

/-- What the settings file chooses. -/
structure Settings where
  language : Language := .c
  architecture : Architecture := .generic
  /-- Spaces for each nesting level. -/
  indent : Nat := 2
  /-- Paths of further instruction tables. -/
  tables : List Path := []
  deriving DecidableEq, Repr

namespace Settings

/-- What a line of a settings file is. -/
inductive Line where
  /-- A blank line or a comment. -/
  | silent
  /-- The start of a section. -/
  | heading (name : String)
  | assignment (key value : String)
  | other (text : String)
  deriving DecidableEq, Repr

/-- The text between brackets, if a text starts with one and ends with one. -/
def bracketed? (text : String) : Option String :=
  match text.toList with
  | '[' :: rest =>
    if rest.getLast? = some ']' then some (.ofList rest.dropLast) else none
  | _ => none

/-- Reads a line. Blanks around its parts do not count. -/
def Line.read (line : String) : Line :=
  let text := Text.trim line
  if text.isEmpty || text.toList.head? = some '#' then .silent
  else match bracketed? text with
    | some name => .heading (Text.trim name)
    | none =>
      match Text.cutFirst '=' text with
      | some (key, value) => .assignment (Text.trim key) (Text.trim value)
      | none => .other text

/-- An assignment that counts. -/
inductive Setting where
  | language (language : Language)
  | architecture (architecture : Architecture)
  | indent (width : Nat)
  | tables (names : List String)
  deriving DecidableEq, Repr

namespace Setting

/-- The names in a bracketed list, without blanks and quotes around them. Empty
names are dropped, and anything but a list has no names. -/
def tableNames (value : String) : List String :=
  match bracketed? value with
  | some items =>
    ((Text.pieces ',' items).map fun item => Text.unquote (Text.trim item)).filter (!·.isEmpty)
  | none => []

/-- Reads an assignment in a section; none if it is not one that counts. Names
may be quoted and numbers may not. -/
def read (heading key value : String) : Except SettingsFault (Option Setting) :=
  match heading, key with
  | "target", "language" =>
    match Language.ofName? (Text.unquote value) with
    | some choice => .ok (some (.language choice))
    | none => .error (.unknownLanguage (Text.unquote value))
  | "target", "architecture" =>
    match Architecture.ofName? (Text.unquote value) with
    | some choice => .ok (some (.architecture choice))
    | none => .error (.unknownArchitecture (Text.unquote value))
  | "output", "indent" =>
    match Text.readNatural Text.limit64 value.toList with
    | some width => .ok (some (.indent width))
    | none => .error (.invalidIndent value)
  | "catalog", "files" => .ok (some (.tables (tableNames value)))
  | _, _ => .ok none

end Setting

/-- The settings after an assignment. Tables are found from the directory `base`. -/
def assign (settings : Settings) (base : Path) : Setting → Settings
  | .language language => { settings with language }
  | .architecture architecture => { settings with architecture }
  | .indent indent => { settings with indent }
  | .tables names => { settings with tables := names.map (Path.join base) }

/-- Reads lines in a section and applies their assignments in order. The first
line that cannot be read is the fault of the whole. -/
def readLines (base : Path) : (settings : Settings) → (heading : String) → List String →
    Except SettingsFault Settings
  | settings, _, [] => .ok settings
  | settings, heading, line :: lines =>
    match Line.read line with
    | .silent => readLines base settings heading lines
    | .heading name => readLines base settings name lines
    | .other text => .error (.notAssignment text)
    | .assignment key value => do
      match ← Setting.read heading key value with
      | some setting => readLines base (settings.assign base setting) heading lines
      | none => readLines base settings heading lines

/-- Reads the settings file at a path from its text. -/
def ofText (path : Path) (text : String) : Except Fault Settings :=
  let base := (Path.parent? path).getD ""
  (readLines base {} "" (Text.pieces '\n' text)).mapError (.settings path)

/-- The name of settings files. -/
def fileName : String := "kernelgen.toml"

/-- The target that the settings choose, over a catalog. -/
def context (settings : Settings) (catalog : Catalog) : Context where
  target := ⟨settings.language, settings.architecture⟩
  catalog := catalog

variable {m : Type → Type} [Monad m] [Disk m]

/-- Reads a settings file. -/
def load (path : Path) : m (Except Fault Settings) := do
  match ← Disk.readText path with
  | .ok text => return ofText path text
  | .error cause => return .error (.settings path (.unreadable cause))

/-- The nearest settings file in a directory or above it. -/
def find? (start : Path) : m (Option Path) :=
  Disk.firstFile? ((Path.ancestors start).map (Path.join · fileName))

/-- The settings of the nearest settings file, or those that hold without one. -/
def discover (start : Path) : m (Except Fault Settings) := do
  match ← find? start with
  | some path => load path
  | none => return .ok {}

/-- A catalog extended by the tables in files, in order. -/
def extendFrom (catalog : Catalog) : List Path → m (Except Fault Catalog)
  | [] => return .ok catalog
  | path :: paths => do
    match ← Disk.readText path with
    | .error cause => return .error (.file cause)
    | .ok text =>
      match catalog.extend text with
      | .error cause => return .error (.table (.inFile path cause))
      | .ok extended => extendFrom extended paths

/-- The standard instructions extended by the tables of the settings. -/
def catalog (settings : Settings) : m (Except Fault Catalog) :=
  extendFrom .standard settings.tables

end Settings

end VectorKernel
