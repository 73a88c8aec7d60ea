import VectorKernel.Catalog.Basic
import VectorKernel.Json.Reader
import VectorKernel.Json.Record

/-!
# Instruction tables

A table is a JSON text that names instructions and conversions of one
architecture. It is merged into a catalog whole or not at all.
-/

namespace VectorKernel

/-- A table as it is written: type names are not yet read. -/
structure InstructionTable where
  architecture : Architecture
  /-- Operation, type name and instruction. -/
  instructions : List (Intrinsic × String × String)
  /-- Source type name, target type name and instruction. -/
  conversions : List (String × String × String)
  deriving DecidableEq, Repr

namespace InstructionTable

/-- Reads the row of an instruction. -/
def instruction? (value : Json.Value) : Option (Intrinsic × String × String) :=
  match Json.fields? ["op", "type", "name"] value with
  | some [some operation, some type, some name] => do
    return (← Json.choice? Intrinsic.ofExactName? operation, ← Json.text? type, ← Json.text? name)
  | _ => none

/-- Reads the row of a conversion. -/
def conversion? (value : Json.Value) : Option (String × String × String) :=
  match Json.fields? ["from", "to", "name"] value with
  | some [some source, some target, some name] => do
    return (← Json.text? source, ← Json.text? target, ← Json.text? name)
  | _ => none

/-- Reads a list of rows; a missing list is empty. -/
def rows? {α : Type} (row? : Json.Value → Option α) : Option Json.Value → Option (List α)
  | none => some []
  | some value => do (← Json.items? value).mapM row?

/-- Reads a table from a JSON value. -/
def ofJson? (value : Json.Value) : Option InstructionTable :=
  match Json.fields? ["architecture", "intrinsics", "conversions"] value with
  | some [some architecture, instructions, conversions] => do
    return {
      architecture := ← Json.choice? Architecture.ofExactName? architecture
      instructions := ← rows? instruction? instructions
      conversions := ← rows? conversion? conversions }
  | _ => none

/-- Reads a table from its text. -/
def ofText? (text : String) : Option InstructionTable :=
  (Json.read text).bind ofJson?

/-- The signature that a type name in a table stands for. -/
def signature (name : String) : Except TableFault Signature :=
  match NumericType.ofName name with
  | .ok type => .ok type.toSignature
  | .error fault => .error (.typeName fault)

/-- The row of an instruction as a catalog row of an architecture. -/
def keyRow (architecture : Architecture) :
    Intrinsic × String × String → Except TableFault (Catalog.Key × String)
  | (operation, type, name) => do
    return ({ operation, architecture, signature := ← signature type }, name)

/-- The row of a conversion as a catalog row of an architecture. -/
def edgeRow (architecture : Architecture) :
    String × String × String → Except TableFault (Catalog.Edge × String)
  | (source, target, name) => do
    return ({ architecture, source := ← signature source, target := ← signature target }, name)

/-- The instructions of a table as catalog rows. -/
def keys (table : InstructionTable) : Except TableFault (List (Catalog.Key × String)) :=
  table.instructions.mapM (keyRow table.architecture)

/-- The conversions of a table as catalog rows. -/
def edges (table : InstructionTable) : Except TableFault (List (Catalog.Edge × String)) :=
  table.conversions.mapM (edgeRow table.architecture)

end InstructionTable

namespace Catalog

/-- Steps that change a catalog in place. A failed step keeps the rows that it
has entered before the failure. -/
abbrev MergeM := ExceptT TableFault (StateM Catalog)

/-- Enters the row of an instruction. -/
def enter (row : Key × String) : MergeM Unit :=
  modify fun catalog => catalog.insert row.1 row.2

/-- Enters the row of a conversion. -/
def enterConversion (row : Edge × String) : MergeM Unit :=
  modify fun catalog => catalog.insertConversion row.1 row.2

/-- Merges a table. The type names of all rows are read before any row is
entered, those of instructions before those of conversions. -/
def merge (table : InstructionTable) : MergeM Unit := do
  let keys ← table.keys
  let edges ← table.edges
  keys.forM enter
  edges.forM enterConversion

/-- Merges a table given by its text. -/
def mergeText (text : String) : MergeM Unit :=
  match InstructionTable.ofText? text with
  | some table => merge table
  | none => throw .notTable

/-- The catalog that merging a text leaves, unless it fails. -/
def extend (catalog : Catalog) (text : String) : Except TableFault Catalog :=
  match (mergeText text).run.run catalog with
  | (.ok (), extended) => .ok extended
  | (.error fault, _) => .error fault

end Catalog

end VectorKernel
