import VectorKernel.Command.Arguments
import VectorKernel.Command.Saxpy
import VectorKernel.Kernel.Write
import VectorKernel.Settings

/-!
# Commands

What each command prints. Settings are read before names on the command line
are, and those before further tables.
-/

namespace VectorKernel.Command

/-- What a finished program leaves: its exit code and what it has printed. -/
structure Response where
  exitCode : Nat := 0
  output : String := ""
  messages : String := ""
  deriving DecidableEq, Repr

/-- Why a command fails. -/
inductive CommandFault where
  | unknownArchitecture (name : String)
  | unknownLanguage (name : String)
  | unknownOperation (name : String)
  | typeName (fault : TypeNameFault)
  | noInstruction (architecture : Architecture) (operation : Intrinsic) (type : NumericType)
  | cannotWrite (directory : Path) (fault : Fault)
  | stopped (fault : Fault)
  deriving DecidableEq, Repr

/-- The wording of a failure. -/
def CommandFault.message : CommandFault → String
  | .unknownArchitecture name =>
    let names := Text.join ", " (Architecture.all.map (·.name))
    s!"error: unknown architecture '{name}'\n  available: {names}"
  | .unknownLanguage name =>
    let names := Text.join ", " (Language.all.map (·.name))
    s!"error: unknown language '{name}'\n  available: {names}"
  | .unknownOperation name => s!"error: unknown operation '{name}'"
  | .typeName fault => s!"error: {fault.message}"
  | .noInstruction architecture operation type =>
    s!"{architecture.name} has no {operation.name} instruction for {type.toSignature.name}"
  | .cannotWrite directory fault => s!"error: cannot write '{directory}': {fault.message}"
  | .stopped fault => s!"error: {fault.message}"

/-- The response that prints lines. -/
def printing (lines : List String) : Response :=
  { output := String.join (lines.map (· ++ "\n")) }

/-- Reads a type name from the command line. -/
def readType (name : String) : Except CommandFault NumericType :=
  (NumericType.ofName name).mapError .typeName

/-- The instruction of an operation on a type. -/
def lookup (architecture : Architecture) (operation : Intrinsic) (type : NumericType) (catalog : Catalog) :
    Except CommandFault Response :=
  match catalog.lookup operation architecture type.toSignature with
  | some name => .ok (printing [name])
  | none => .error (.noInstruction architecture operation type)

/-- The chain of conversions between two types. -/
def path (architecture : Architecture) (source target : NumericType) (catalog : Catalog) :
    Except CommandFault Response :=
  match catalog.conversionPath source.toSignature target.toSignature architecture with
  | .ok [] =>
    .ok (printing [s!"{source.toSignature.name} and {target.toSignature.name} share a representation"])
  | .ok names => .ok (printing [Text.join " -> " names])
  | .error fault => .error (.stopped fault)

/-- The line of an instruction in a listing. -/
def entryLine (key : Catalog.Key) (name : String) : String :=
  "  " ++ Text.padRight 14 key.operation.name ++ " " ++ Text.padRight 8 key.signature.name ++ " " ++ name

/-- The line of a conversion in a listing. -/
def edgeLine (edge : Catalog.Edge) (name : String) : String :=
  "  " ++ Text.padRight 8 edge.source.name ++ " -> " ++ Text.padRight 8 edge.target.name ++ " " ++ name

/-- The listing of all instructions and conversions of an architecture. -/
def listing (architecture : Architecture) (catalog : Catalog) : List String :=
  let entries := catalog.entries architecture
  let edges := catalog.edges architecture
  if entries.isEmpty && edges.isEmpty then [s!"{architecture.name}: no intrinsics"]
  else
    let conversions :=
      if edges.isEmpty then []
      else s!"conversions ({edges.length})" :: edges.map fun (edge, name) => edgeLine edge name
    s!"{architecture.name} ({entries.length} intrinsics)" ::
      (entries.map (fun (key, name) => entryLine key name) ++ conversions)

/-- The line of a target in the overview of the saxpy update. -/
def overviewLine (target : Target) : Except Fault String → String
  | .ok text => Text.padRight 16 target.name ++ " " ++ Text.trimStart text
  | .error fault => Text.padRight 16 target.name ++ " error: " ++ fault.message

/-- The saxpy update on every target. -/
def overview (lanes : Nat) (catalog : Catalog) : Response :=
  let rendered := (Saxpy.update lanes).renderMatrix Target.all catalog .empty
  let failed := (rendered.filter fun (_, source) => source matches .error _).length
  { printing (rendered.map fun (target, source) => overviewLine target source) with
    messages := if failed > 0 then s!"{failed} targets cannot express the update\n" else "" }

variable {m : Type → Type} [Monad m] [Disk m]

/-- A step of the library whose fault stops the command. -/
def step {α : Type} (action : m (Except Fault α)) : ExceptT CommandFault m α :=
  .mk do return (← action).mapError .stopped

/-- The saxpy kernel, printed or written into a directory. -/
def demo (settings : Settings) (output : Option Path) (catalog : Catalog) :
    ExceptT CommandFault m Response := do
  let lanes := Saxpy.lanes settings.architecture
  let kernel ← step (pure
    (Kernel.generate (settings.context catalog) Saxpy.procedure (Saxpy.body lanes) (.ofNat settings.indent)))
  match output with
  | none => return { output := kernel.source }
  | some directory =>
    let path ← (kernel.write directory).adapt (.cannotWrite directory)
    let digest : String := .ofList (kernel.fingerprint.toList.take 16)
    return { messages := s!"wrote {path} ({digest})\n" }

/-- Carries out a request. -/
def perform (settings : Settings) : Request → ExceptT CommandFault m Response
  | .lookup operation type => do
    match Intrinsic.ofName? operation with
    | none => throw (.unknownOperation operation)
    | some operation =>
      let type ← liftExcept (readType type)
      let catalog ← step settings.catalog
      liftExcept (lookup settings.architecture operation type catalog)
  | .path source target => do
    let source ← liftExcept (readType source)
    let target ← liftExcept (readType target)
    let catalog ← step settings.catalog
    liftExcept (path settings.architecture source target catalog)
  | .catalog => do
    let catalog ← step settings.catalog
    return printing (listing settings.architecture catalog)
  | .demo language output all => do
    let language ← match language with
      | none => pure settings.language
      | some name =>
        match Language.ofName? name with
        | some language => pure language
        | none => throw (.unknownLanguage name)
    let settings := { settings with language }
    let catalog ← step settings.catalog
    if all then return overview (Saxpy.lanes settings.architecture) catalog
    demo settings output catalog

/-- Carries out an invocation in the directory `start`. -/
def run (start : Path) (invocation : Invocation) : ExceptT CommandFault m Response := do
  let settings ← step <| match invocation.config with
    | some path => Settings.load path
    | none => Settings.discover start
  match invocation.architecture with
  | none => perform settings invocation.request
  | some name =>
    match Architecture.ofName? name with
    | some architecture => perform { settings with architecture } invocation.request
    | none => throw (.unknownArchitecture name)

/-- The name and version of the program. -/
def versionText : String := "kernelgen 0.1.0"

/-- How the program is called. -/
def usageText : String :=
  "Usage: kernelgen [--config PATH] [--arch NAME] COMMAND\n\n" ++
  "Commands:\n" ++
  "  lookup OP TYPE   look up the instruction of an operation on a type\n" ++
  "  path FROM TO     show the conversion chain between two vector types\n" ++
  "  catalog          list the instructions and conversions of the architecture\n" ++
  "  demo [--language NAME] [-o DIR] [--all]\n" ++
  "                   generate a vectorized saxpy kernel"

/-- The response of the program to its arguments in the directory `start`. -/
def respond (start : Path) (arguments : List String) : m Response := do
  match Invocation.read arguments with
  | .error .usage => return { exitCode := 2, messages := usageText ++ "\n" }
  | .error .help => return printing [usageText]
  | .error .version => return printing [versionText]
  | .ok invocation =>
    match ← (run start invocation).run with
    | .ok response => return response
    | .error fault => return { exitCode := 1, messages := fault.message ++ "\n" }

end VectorKernel.Command
