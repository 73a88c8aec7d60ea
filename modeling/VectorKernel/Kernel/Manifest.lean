import VectorKernel.Json.Pretty
import VectorKernel.Json.Reader
import VectorKernel.Json.Record
import VectorKernel.Kernel.Basic

/-!
# Manifests

The description of a kernel that is written next to its source, as indented
JSON, and the reader of such descriptions. Types are kept as names.
-/

namespace VectorKernel

/-- A parameter in a manifest. -/
structure ManifestParameter where
  name : String
  type : String
  direction : Direction
  dimension : Option String
  deriving DecidableEq, Repr

/-- The description of a kernel. -/
structure Manifest where
  name : String
  language : Language
  architecture : Architecture
  file : String
  fingerprint : String
  parameters : List ManifestParameter
  returns : Option String
  deriving DecidableEq, Repr

/-- The manifest of a kernel. -/
def Kernel.manifest (kernel : Kernel) : Manifest where
  name := kernel.procedure.name
  language := kernel.target.language
  architecture := kernel.target.architecture
  file := kernel.fileName
  fingerprint := kernel.fingerprint
  parameters := kernel.procedure.parameters.map fun parameter =>
    { name := parameter.name, type := parameter.type.name, direction := parameter.direction,
      dimension := parameter.dimension }
  returns := kernel.procedure.returns.map (·.name)

/-- A member with a text that may be absent. -/
def optionalMember (key : String) : Option String → List (String × Json.Value)
  | some text => [(key, .string text)]
  | none => []

namespace ManifestParameter

/-- The parameter as a JSON value. -/
def toJson (parameter : ManifestParameter) : Json.Value :=
  .object <|
    [("name", .string parameter.name), ("type", .string parameter.type),
      ("direction", .string parameter.direction.name)] ++
    optionalMember "dimension" parameter.dimension

/-- The direction with exactly this name. -/
def direction? (name : String) : Option Direction :=
  [Direction.input, .output, .inout].find? (·.name == name)

/-- Reads a parameter from a JSON value. -/
def ofJson? (value : Json.Value) : Option ManifestParameter :=
  match Json.fields? ["name", "type", "direction", "dimension"] value with
  | some [some name, some type, some direction, dimension] => do
    return {
      name := ← Json.text? name
      type := ← Json.text? type
      direction := ← Json.choice? direction? direction
      dimension := ← Json.optional? Json.text? dimension }
  | _ => none

end ManifestParameter

namespace Manifest

/-- The manifest as a JSON value. -/
def toJson (manifest : Manifest) : Json.Value :=
  .object <|
    [("name", .string manifest.name), ("language", .string manifest.language.name),
      ("architecture", .string manifest.architecture.name), ("file", .string manifest.file),
      ("fingerprint", .string manifest.fingerprint),
      ("parameters", .array (manifest.parameters.map (·.toJson)))] ++
    optionalMember "return_type" manifest.returns

/-- The text of a manifest. -/
def text (manifest : Manifest) : String :=
  Json.pretty manifest.toJson

/-- Reads a manifest from a JSON value. -/
def ofJson? (value : Json.Value) : Option Manifest :=
  let names := ["name", "language", "architecture", "file", "fingerprint", "parameters", "return_type"]
  match Json.fields? names value with
  | some [some name, some language, some architecture, some file, some fingerprint, some parameters,
      returns] => do
    return {
      name := ← Json.text? name
      language := ← Json.choice? Language.ofExactName? language
      architecture := ← Json.choice? Architecture.ofExactName? architecture
      file := ← Json.text? file
      fingerprint := ← Json.text? fingerprint
      parameters := ← (← Json.items? parameters).mapM ManifestParameter.ofJson?
      returns := ← Json.optional? Json.text? returns }
  | _ => none

/-- Reads a manifest from its text. -/
def ofText? (text : String) : Option Manifest :=
  (Json.read text).bind ofJson?

end Manifest

end VectorKernel
