import VectorKernel.Printer
import VectorKernel.Proofs.Success

/-!
# What a step of a printer writes

A step knows its lines and their depths before it writes the first one: `Step.lines`
has them for each step, and `Step.target` has the depth that a step leads to.
`run_act` says all that a step does to a printer. An expression that does not
render stops it before anything is written. Otherwise the lines are offered to the
sink in order, up to the first that is refused, and a refused line leaves the
printer at the depth of that line.
-/

namespace VectorKernel

namespace Sink

variable {σ : Type} [Sink σ]

/-- A sink that was offered texts one after the other. -/
def receive (out : σ) (texts : List String) : σ :=
  texts.foldl (fun out text => (Sink.offer out text).2) out

/-- Sinks that refuse no line, whatever was written to them before. -/
def Working (out : σ) : Prop :=
  ∀ texts text, (Sink.offer (receive out texts) text).1 = none

/-- A sink that works still works after a text was offered. -/
theorem Working.offer {out : σ} (working : Working out) (text : String) :
    Working (Sink.offer out text).2 :=
  fun texts => working (text :: texts)

end Sink

namespace Buffer

/-- A buffer that is open keeps all that is written to it, in order. -/
theorem receive_eq {buffer : Buffer} (accepts : buffer.refusal = none) (texts : List String) :
    Sink.receive buffer texts = { buffer with text := buffer.text ++ String.join texts } := by
  induction texts generalizing buffer with
  | nil => simp [Sink.receive]
  | cons text texts ih =>
    have taken : (Sink.offer buffer text).2 = { buffer with text := buffer.text ++ text } := by
      simp only [Sink.offer, accepts]
    calc Sink.receive buffer (text :: texts)
      _ = Sink.receive (Sink.offer buffer text).2 texts := rfl
      _ = Sink.receive { buffer with text := buffer.text ++ text } texts := by rw [taken]
      _ = { buffer with text := buffer.text ++ text ++ String.join texts } := ih accepts
      _ = { buffer with text := buffer.text ++ String.join (text :: texts) } := by
        rw [String.join_cons, String.append_assoc]

/-- A buffer without a refusal takes every text. -/
theorem working {buffer : Buffer} (accepts : buffer.refusal = none) : Sink.Working buffer := by
  intro texts text
  simp only [receive_eq accepts, Sink.offer, accepts]

end Buffer

namespace Printer

/-- A printer whose sink refuses every line from now on. -/
def shut (printer : Printer Buffer) (fault : FileFault) : Printer Buffer :=
  { printer with out := { printer.out with refusal := some fault } }

/-- A printer whose sink takes lines from now on. -/
def reopen (printer : Printer Buffer) : Printer Buffer :=
  { printer with out := { printer.out with refusal := none } }

/-- A line with the depth that it is written at. -/
structure Line where
  depth : Nat
  text : String
  deriving DecidableEq, Repr

/-- A line as a sink is offered it. -/
def Line.written (width : UInt64) (line : Line) : String :=
  layout width line.depth line.text

/-- A line is written behind as many spaces as its depth asks for, as far as the number of
them is a machine word. -/
theorem Line.written_eq (width : UInt64) (line : Line) :
    line.written width =
      .ofList (List.replicate (line.depth * width.toNat % UInt64.size) ' ') ++ line.text ++ "\n" := by
  have count : (.ofNat line.depth * width : UInt64).toNat = line.depth * width.toNat % UInt64.size := by
    rw [UInt64.toNat_mul, UInt64.toNat_ofNat', Nat.mod_mul_mod]
  rw [written, layout, count, Text.spaces]

/-- The steps of a printer, each with what it is called with. -/
inductive Step where
  | indent
  | dedent
  | line (text : String)
  | print (context : Context) (expression : Expr)
  | declare (context : Context) (operand : Operand)
  | openProcedure (context : Context) (procedure : Procedure)
  | closeProcedure (context : Context) (procedure : Procedure)

namespace Step

/-- The lines of a step from a depth. Only an expression may keep a step from
having any. -/
def lines (depth : Nat) : Step → Except Fault (List Line)
  | .indent => .ok []
  | .dedent => .ok []
  | .line text => .ok [⟨depth, text⟩]
  | .print context expression => (statementText context expression).map fun text => [⟨depth, text⟩]
  | .declare context operand => .ok [⟨depth, declarationText context operand⟩]
  | .openProcedure context procedure =>
    .ok (⟨depth, procedure.header context.target⟩ ::
      (procedure.declarations context.target).map (⟨depth + 1, ·⟩))
  | .closeProcedure context procedure => .ok [⟨depth - 1, procedure.footer context.language⟩]

/-- The depth that a step leads to from a depth, if it succeeds. -/
def target (depth : Nat) : Step → Nat
  | .indent => depth + 1
  | .dedent => depth - 1
  | .openProcedure _ _ => depth + 1
  | .closeProcedure _ _ => depth - 1
  | _ => depth

variable {σ : Type} [Sink σ]

/-- What a printer does for a step. -/
def act : Step → PrintM σ Unit
  | .indent => Printer.indent
  | .dedent => Printer.dedent
  | .line text => Printer.line text
  | .print context expression => Printer.print context expression
  | .declare context operand => Printer.declare context operand
  | .openProcedure context procedure => Printer.openProcedure context procedure
  | .closeProcedure context procedure => Printer.closeProcedure context procedure

/-- An expression that can be written is one line with a terminator. -/
theorem lines_print {context : Context} {expression : Expr} {text : String}
    (rendered : expression.render context = .ok text) (depth : Nat) :
    (Step.print context expression).lines depth =
      .ok [⟨depth, Text.trimStart text ++ context.language.terminator⟩] := by
  rw [lines, statementText, rendered]
  rfl

/-- An expression that cannot be written plans no lines. -/
theorem lines_print_of_error {context : Context} {expression : Expr} {fault : Fault}
    (failed : expression.render context = .error fault) (depth : Nat) :
    (Step.print context expression).lines depth = .error fault := by
  rw [lines, statementText, failed]
  rfl

/-- Only an expression that does not render leaves a step without lines. -/
theorem lines_eq_error {step : Step} {depth : Nat} {fault : Fault}
    (unplanned : step.lines depth = .error fault) :
    ∃ context expression, step = .print context expression := by
  cases step with
  | print context expression => exact ⟨context, expression, rfl⟩
  | _ => cases unplanned

end Step

variable {σ : Type} [Sink σ]

/-- Offers lines to a sink until one is refused. The answer is the refused line with
the reason, if there is one. -/
def deliver (width : UInt64) : List Line → σ → Option (Line × FileFault) × σ
  | [], out => (none, out)
  | line :: lines, out =>
    match Sink.offer out (line.written width) with
    | (some fault, after) => (some (line, fault), after)
    | (none, after) => deliver width lines after

/-- A sink that works takes all lines. -/
theorem deliver_of_working {out : σ} (working : Sink.Working out) (width : UInt64) (lines : List Line) :
    deliver width lines out = (none, Sink.receive out (lines.map (·.written width))) := by
  induction lines generalizing out with
  | nil => rfl
  | cons line lines ih =>
    have accepted : (Sink.offer out (line.written width)).1 = none := working [] _
    have onward := ih (working.offer (line.written width))
    rw [deliver]
    split
    · next refused => rw [refused] at accepted; cases accepted
    · next after taken =>
      rw [taken] at onward
      simp only [onward, Sink.receive, List.map_cons, List.foldl_cons, taken]

/-- What becomes of a printer that has lines to write and then to go to a depth. -/
def finish (printer : Printer σ) (lines : List Line) (depth : Nat) : Except Fault Unit × Printer σ :=
  match deliver printer.width lines printer.out with
  | (none, out) => (.ok (), { printer with out, depth })
  | (some (line, fault), out) => (.error (.file fault), { printer with out, depth := line.depth })

/-- Lines are written one by one; the depth of the printer itself plays no part. -/
theorem finish_cons (printer : Printer σ) (line : Line) (lines : List Line) (depth between : Nat) :
    printer.finish (line :: lines) depth =
      match Sink.offer printer.out (line.written printer.width) with
      | (some fault, out) => (.error (.file fault), { printer with out, depth := line.depth })
      | (none, out) => finish { printer with out, depth := between } lines depth := by
  simp only [finish, deliver]
  rcases Sink.offer printer.out (line.written printer.width) with ⟨_ | fault, out⟩ <;> rfl

/-- A line is written at the current depth. -/
theorem run_line (text : String) (printer : Printer σ) :
    (line text).run.run printer = printer.finish [⟨printer.depth, text⟩] printer.depth := by
  rw [finish_cons printer _ _ _ printer.depth, Line.written]
  have started : (get : PrintM σ (Printer σ)).run.run printer = (.ok printer, printer) := rfl
  rw [line, run_bind, started]
  dsimp only
  rcases Sink.offer printer.out (layout printer.width printer.depth text) with ⟨_ | fault, out⟩ <;> rfl

/-- A line before other steps: they start from the sink that has taken the line. -/
theorem run_line_bind (text : String) (next : PrintM σ Unit) (printer : Printer σ) :
    (line text >>= fun _ => next).run.run printer =
      match Sink.offer printer.out (Line.written printer.width ⟨printer.depth, text⟩) with
      | (some fault, out) => (.error (.file fault), { printer with out })
      | (none, out) => next.run.run { printer with out } := by
  rw [run_bind, run_line, finish_cons printer _ _ _ printer.depth]
  rcases Sink.offer printer.out (Line.written printer.width ⟨printer.depth, text⟩) with
    ⟨_ | fault, out⟩ <;> rfl

/-- Lines one after the other are written at one depth. -/
theorem run_forM_line (texts : List String) (printer : Printer σ) :
    (texts.forM line).run.run printer =
      printer.finish (texts.map (⟨printer.depth, ·⟩)) printer.depth := by
  induction texts generalizing printer with
  | nil => rfl
  | cons text texts ih =>
    change (line text >>= fun _ => texts.forM line).run.run printer = _
    simp only [run_line_bind, ih]
    exact (finish_cons printer _ _ _ printer.depth).symm

/-- A header and then its declarations are written, these one level further in. -/
theorem run_openProcedure (context : Context) (procedure : Procedure) (printer : Printer σ) :
    (openProcedure context procedure).run.run printer =
      printer.finish (⟨printer.depth, procedure.header context.target⟩ ::
        (procedure.declarations context.target).map (⟨printer.depth + 1, ·⟩)) (printer.depth + 1) := by
  rw [openProcedure, run_line_bind, finish_cons printer _ _ _ (printer.depth + 1)]
  rcases Sink.offer printer.out _ with ⟨_ | fault, out⟩
  · exact run_forM_line _ { printer with out, depth := printer.depth + 1 }
  · rfl

/-- All that a step does to a printer. -/
theorem run_act (step : Step) (printer : Printer σ) :
    step.act.run.run printer =
      match step.lines printer.depth with
      | .ok lines => printer.finish lines (step.target printer.depth)
      | .error fault => (.error fault, printer) := by
  cases step with
  | indent => rfl
  | dedent => rfl
  | line text => exact run_line text printer
  | print context expression =>
    simp only [Step.act, Step.lines, Printer.print]
    cases statementText context expression with
    | ok text => exact run_line text printer
    | error fault => rfl
  | declare context operand => exact run_line _ printer
  | openProcedure context procedure => exact run_openProcedure context procedure printer
  | closeProcedure context procedure => exact run_line _ { printer with depth := printer.depth - 1 }

/-- On a sink that refuses nothing, a step writes all its lines and arrives at its
depth, unless its expression does not render. -/
theorem run_act_of_working (step : Step) {printer : Printer σ} (working : Sink.Working printer.out) :
    step.act.run.run printer =
      match step.lines printer.depth with
      | .ok lines =>
        (.ok (), {
          out := Sink.receive printer.out (lines.map (·.written printer.width))
          width := printer.width
          depth := step.target printer.depth })
      | .error fault => (.error fault, printer) := by
  simp only [run_act, finish, deliver_of_working working]

/-- A printer that has written lines to its buffer and gone to a depth. -/
def wrote (printer : Printer Buffer) (lines : List Line) (depth : Nat) : Printer Buffer where
  out := { printer.out with text := printer.out.text ++ String.join (lines.map (·.written printer.width)) }
  width := printer.width
  depth := depth

theorem wrote_nil (printer : Printer Buffer) : printer.wrote [] printer.depth = printer := by
  simp [wrote]

/-- Lines may be written in two portions. -/
theorem wrote_wrote (printer : Printer Buffer) (lines more : List Line) (between depth : Nat) :
    (printer.wrote lines between).wrote more depth = printer.wrote (lines ++ more) depth := by
  simp only [wrote, List.map_append, String.join_append, String.append_assoc]

/-- With an open sink a step writes the lines it plans, or fails and changes nothing. -/
theorem run_act_of_open (step : Step) {printer : Printer Buffer} (accepts : printer.out.refusal = none) :
    step.act.run.run printer =
      match step.lines printer.depth with
      | .ok lines => (.ok (), printer.wrote lines (step.target printer.depth))
      | .error fault => (.error fault, printer) := by
  simp only [run_act_of_working step (Buffer.working accepts), Buffer.receive_eq accepts, wrote]

end Printer

end VectorKernel
