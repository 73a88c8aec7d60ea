import VectorKernel.Decimal.Layout
import VectorKernel.Json.Numeric
import VectorKernel.Json.Quoted
import VectorKernel.Json.Reader
import VectorKernel.Json.Record
import VectorKernel.Text.Split

/-!
# Reports of runs

What a run of a kernel is given and what it reports, with the JSON form of a
report. Outputs are listed by name.
-/

namespace VectorKernel

open VectorKernel.Decimal (Binary64 Style)

/-- The value passed for a parameter. -/
inductive Argument where
  | scalar (value : Binary64)
  | array (values : List Binary64)
  deriving DecidableEq, Repr

/-- A time span in whole seconds and nanoseconds. -/
structure Span where
  seconds : Nat
  nanoseconds : Nat
  deriving DecidableEq, Repr

/-- What a run reports. -/
structure Report where
  /-- Time of the start, in nanoseconds of the runner's clock. -/
  start : Nat
  /-- Time of the end. -/
  finish : Nat
  duration : Span
  returnValue : Option Binary64
  /-- Final contents of the parameters that the kernel writes, by name. -/
  outputs : List (String × Argument)
  deriving DecidableEq, Repr

/-- Outputs with one more, in place of an earlier one of its name, kept in the
order of names. -/
def putOutput (name : String) (value : Argument) : List (String × Argument) → List (String × Argument)
  | [] => [(name, value)]
  | first :: rest =>
    if name < first.1 then (name, value) :: first :: rest
    else if name = first.1 then (name, value) :: rest
    else first :: putOutput name value rest

/-- A double in a report; one that is not finite has no number form. -/
def doubleText (value : Binary64) : String :=
  if value.isFinite then value.render Style.report else "null"

namespace Argument

/-- Whether the argument is an array. -/
def isArray : Argument → Bool
  | .scalar _ => false
  | .array _ => true

/-- The JSON form of an argument. -/
def text : Argument → String
  | .scalar value => doubleText value
  | .array values => "[" ++ Text.join "," (values.map doubleText) ++ "]"

/-- Reads a double from a JSON value. -/
def double? : Json.Value → Option Binary64
  | .number number => number.double?
  | _ => none

/-- Reads an argument from a JSON value. -/
def ofJson? : Json.Value → Option Argument
  | .array items => (items.mapM double?).map .array
  | value => (double? value).map .scalar

end Argument

namespace Span

/-- Nanoseconds in a second. -/
def nanosecondsPerSecond : Nat := 1000000000

/-- A span from seconds and nanoseconds, of which whole seconds are carried. A
span of more seconds than 64 bits hold is refused. -/
def carry? (seconds nanoseconds : Nat) : Option Span :=
  let total := seconds + nanoseconds / nanosecondsPerSecond
  if total ≤ Text.limit64 then
    some { seconds := total, nanoseconds := nanoseconds % nanosecondsPerSecond }
  else none

/-- Reads a natural number up to a limit from a JSON value. -/
def natural? (limit : Nat) : Json.Value → Option Nat
  | .number number => number.natural? limit
  | _ => none

/-- Whether a JSON value is an object with a member that a span does not have. -/
def hasForeignMember : Json.Value → Bool
  | .object members => members.any fun (key, _) => key ≠ "secs" && key ≠ "nanos"
  | _ => false

/-- Reads a span from a JSON value. Unlike other records it may have no further
members. -/
def ofJson? (value : Json.Value) : Option Span :=
  if hasForeignMember value then none
  else match Json.fields? ["secs", "nanos"] value with
    | some [some seconds, some nanoseconds] => do
      carry? (← natural? Text.limit64 seconds) (← natural? Text.limit32 nanoseconds)
    | _ => none

/-- The JSON form of a span. -/
def text (span : Span) : String :=
  s!"\x7b\"secs\":{span.seconds},\"nanos\":{span.nanoseconds}\x7d"

end Span

namespace Report

/-- Reads outputs from a JSON object. Of repeated names the last one counts. -/
def outputs? : Json.Value → Option (List (String × Argument))
  | .object members =>
    members.foldlM (fun outputs (name, value) => do
      return putOutput name (← Argument.ofJson? value) outputs) []
  | _ => none

/-- Reads a report from a JSON value. -/
def ofJson? (value : Json.Value) : Option Report :=
  match Json.fields? ["start", "end", "duration", "return_value", "outputs"] value with
  | some [some start, some finish, some duration, returnValue, some outputs] => do
    return {
      start := ← Span.natural? Text.limit64 start
      finish := ← Span.natural? Text.limit64 finish
      duration := ← Span.ofJson? duration
      returnValue := ← Json.optional? Argument.double? returnValue
      outputs := ← outputs? outputs }
  | _ => none

/-- Reads a report from its text. -/
def ofText? (text : String) : Option Report :=
  (Json.read text).bind ofJson?

/-- The JSON form of a report, without blanks. -/
def text (report : Report) : String :=
  let returnValue := (report.returnValue.map doubleText).getD "null"
  let outputs := report.outputs.map fun (name, value) => .ofList (Json.quote name) ++ ":" ++ value.text
  s!"\x7b\"start\":{report.start},\"end\":{report.finish},\"duration\":{report.duration.text}," ++
    s!"\"return_value\":{returnValue},\"outputs\":\x7b" ++ Text.join "," outputs ++ "\x7d\x7d"

end Report

end VectorKernel
