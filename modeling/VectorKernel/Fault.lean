import VectorKernel.Decimal.Binary64
import VectorKernel.Files.Fault
import VectorKernel.Intrinsic
import VectorKernel.Operator
import VectorKernel.Types.Data
import VectorKernel.Types.Name

/-!
# Faults

Everything that can stop the generation of a kernel, by cause, and the wording
of each cause. A missing instruction is not a fault by itself: look-ups answer
an option, and only a lowering without another way out turns it into one.
-/

namespace VectorKernel

/-- A double that no language can spell. -/
inductive NonFinite where
  | nan
  | infinity (negative : Bool)
  deriving DecidableEq, Repr

/-- The text of a number that cannot be spelled. -/
def NonFinite.text : NonFinite → String
  | .nan => "NaN"
  | .infinity true => "-inf"
  | .infinity false => "inf"

/-- The part that an operand plays where a type is required. -/
inductive Role where
  | loadSource
  | storeDestination
  | storedValue
  | maskedLoadSource
  | maskedStoreDestination
  | maskedStoredValue
  deriving DecidableEq, Repr

/-- The wording of a role. -/
def Role.text : Role → String
  | .loadSource => "load source"
  | .storeDestination => "store destination"
  | .storedValue => "stored value"
  | .maskedLoadSource => "masked load source"
  | .maskedStoreDestination => "masked store destination"
  | .maskedStoredValue => "masked stored value"

/-- Why an expression or a call makes no sense on any target. -/
inductive Malformed where
  | nonFinite (value : NonFinite)
  | noOperand (operator : Operator)
  | untyped (role : Role)
  | maskedValueNotNumeric
  /-- The whole expression has no type; its text is kept. -/
  | untypedExpression (text : String)
  /-- An argument is a scalar for an array parameter, or the reverse. -/
  | argumentShape (parameter : String) (isArray : Bool)
  deriving DecidableEq, Repr

/-- The wording of a malformed expression or call. -/
def Malformed.text : Malformed → String
  | .nonFinite value => s!"non-finite literal {value.text}"
  | .noOperand operator => s!"{operator.name} has no operand"
  | .untyped role => s!"{role.text} has no type"
  | .maskedValueNotNumeric => "masked stored value is not numeric"
  | .untypedExpression text => s!"`{text}` has no typed operand"
  | .argumentShape parameter isArray =>
    s!"argument for `{parameter}` must be " ++ if isArray then "an array" else "a scalar"

/-- A feature that some languages lack. -/
inductive Feature where
  | conditional
  | maskedAccess
  | laneList
  deriving DecidableEq, Repr

/-- The wording of a feature. -/
def Feature.text : Feature → String
  | .conditional => "the ternary operator"
  | .maskedAccess => "masked memory access"
  | .laneList => "vector construction from a sequence"

/-- A list whose length is prescribed. -/
inductive Counted where
  | mask
  | laneList
  | arguments
  deriving DecidableEq, Repr

/-- The wording of a counted list. -/
def Counted.text : Counted → String
  | .mask => "mask"
  | .laneList => "vector initializer"
  | .arguments => "kernel argument list"

/-- Why an instruction table is refused. -/
inductive TableFault where
  /-- The text is not JSON, or not of a table's shape. -/
  | notTable
  | typeName (fault : TypeNameFault)
  /-- The table came from a file. -/
  | inFile (path : String) (fault : TableFault)
  deriving DecidableEq, Repr

/-- The wording of a refused table. What is wrong with its JSON is not told
apart. -/
def TableFault.message : TableFault → String
  | .notTable => "malformed intrinsic table: <json>"
  | .typeName fault => "malformed intrinsic table: " ++ fault.message
  | .inFile path fault => s!"malformed intrinsic table: {path}: " ++ fault.message

/-- Why settings are refused. -/
inductive SettingsFault where
  | unreadable (cause : FileFault)
  | notAssignment (line : String)
  | unknownLanguage (name : String)
  | unknownArchitecture (name : String)
  | invalidIndent (value : String)
  deriving DecidableEq, Repr

/-- The wording of refused settings. -/
def SettingsFault.text : SettingsFault → String
  | .unreadable cause => "cannot read: " ++ cause.text
  | .notAssignment line => s!"expected `key = value`, found `{line}`"
  | .unknownLanguage name => s!"unknown language: {name}"
  | .unknownArchitecture name => s!"unknown architecture: {name}"
  | .invalidIndent value => s!"invalid output.indent: {value}"

/-- Everything that can stop the generation of a kernel. -/
inductive Fault where
  | malformed (cause : Malformed)
  | noTransition (left right : DataType) (operator : Operator)
  | noInstruction (operation : Intrinsic) (signature : Signature) (architecture : Architecture)
  | noFeature (feature : Feature) (language : Language)
  | wrongCount (list : Counted) (expected found : Nat)
  | noConversion (source target : Signature) (architecture : Architecture)
  | file (cause : FileFault)
  | settings (path : String) (cause : SettingsFault)
  | table (cause : TableFault)
  deriving DecidableEq, Repr

/-- The wording of a fault. -/
def Fault.message : Fault → String
  | .malformed cause => "invalid expression: " ++ cause.text
  | .noTransition left right operator =>
    s!"no type transition from {left.name} and {right.name} for `{operator.name}`"
  | .noInstruction operation signature architecture =>
    s!"{operation.name} is not available for {signature.name} on {architecture.name}"
  | .noFeature feature language => s!"{feature.text} is not supported in {language.title}"
  | .wrongCount list expected found => s!"{list.text} has {found} elements, expected {expected}"
  | .noConversion source target architecture =>
    s!"no conversion path from {source.name} to {target.name} on {architecture.name}"
  | .file cause => "failed to write generated code: " ++ cause.text
  | .settings path cause => s!"{path}: " ++ cause.text
  | .table cause => cause.message

end VectorKernel
