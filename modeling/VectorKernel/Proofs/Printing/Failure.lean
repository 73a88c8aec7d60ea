import VectorKernel.Proofs.Printing.Steps

/-!
# Failed steps of a printer

A printer does not go back after a failure: it stays at the depth of the line that
the sink refused. For most steps that is the depth from before, so that they can be
tried again as if nothing had happened. The two that move between depths are
different: a procedure whose declarations are refused has its header written and is
one level deeper, and one whose footer is refused is one level back already.
-/

namespace VectorKernel.Printer

variable {σ : Type} [Sink σ]

/-- Only a line that was to be written can be refused. -/
theorem mem_of_deliver {width : UInt64} {lines : List Line} {out after : σ} {line : Line}
    {cause : FileFault} (refused : deliver width lines out = (some (line, cause), after)) :
    line ∈ lines := by
  induction lines generalizing out with
  | nil => cases refused
  | cons first lines ih =>
    rw [deliver] at refused
    split at refused
    · cases refused
      exact List.mem_cons_self
    · exact List.mem_cons_of_mem first (ih refused)

/-- The two ways in which a step can fail: its expression does not render, and
nothing has happened, or the sink refuses one of its lines. -/
theorem act_eq_error {step : Step} {printer after : Printer σ} {fault : Fault}
    (failed : step.act.run.run printer = (.error fault, after)) :
    (step.lines printer.depth = .error fault ∧ after = printer) ∨
      ∃ lines line cause, step.lines printer.depth = .ok lines ∧
        deliver printer.width lines printer.out = (some (line, cause), after.out) ∧
        fault = .file cause ∧ after.width = printer.width ∧ after.depth = line.depth := by
  rw [run_act] at failed
  split at failed
  · next lines planned =>
    unfold finish at failed
    split at failed
    · cases failed
    · next line cause out refused =>
      cases failed
      exact .inr ⟨lines, line, cause, planned, refused, rfl, rfl, rfl⟩
  · next planned =>
    cases failed
    exact .inl ⟨planned, rfl⟩

/-- A failed step keeps the width of the indentation. -/
theorem width_of_failed {step : Step} {printer after : Printer σ} {fault : Fault}
    (failed : step.act.run.run printer = (.error fault, after)) : after.width = printer.width := by
  rcases act_eq_error failed with ⟨-, rfl⟩ | ⟨_, _, _, -, -, -, same, -⟩
  · rfl
  · exact same

variable {context : Context} {expression : Expr} {procedure : Procedure}

/-- A step with a single line is left at the depth of that line. -/
theorem depth_of_failed_single {step : Step} {printer after : Printer σ} {fault : Fault} {line : Line}
    (failed : step.act.run.run printer = (.error fault, after))
    (single : step.lines printer.depth = .ok [line]) : after.depth = line.depth := by
  rcases act_eq_error failed with ⟨planned, -⟩ | ⟨_, _, _, planned, refused, -, -, depth⟩
  · cases single.symm.trans planned
  · cases single.symm.trans planned
    rw [depth, List.mem_singleton.mp (mem_of_deliver refused)]

/-- A statement that cannot be written keeps the depth. -/
theorem depth_of_failed_print {printer after : Printer σ} {fault : Fault}
    (failed : (Step.print context expression).act.run.run printer = (.error fault, after)) :
    after.depth = printer.depth := by
  cases rendered : expression.render context with
  | ok text => exact depth_of_failed_single failed (Step.lines_print rendered printer.depth)
  | error cause =>
    rcases act_eq_error failed with ⟨-, rfl⟩ | ⟨_, _, _, planned, -⟩
    · rfl
    · cases (Step.lines_print_of_error rendered printer.depth).symm.trans planned

/-- Whether a sink takes the header of a procedure from a printer. -/
def takesHeader (context : Context) (procedure : Procedure) (printer : Printer σ) : Bool :=
  (Sink.offer printer.out (layout printer.width printer.depth (procedure.header context.target))).1.isNone

/-- The depth that a step leaves if it fails. Steps that stay at their depth keep it;
one that goes to another depth is left there when the lines of that depth are
refused. -/
def Step.failedDepth (printer : Printer σ) : Step → Nat
  | .openProcedure context procedure =>
    if printer.takesHeader context procedure then printer.depth + 1 else printer.depth
  | .closeProcedure _ _ => printer.depth - 1
  | _ => printer.depth

/-- A procedure that could not be opened is left at the depth from before if its
header was refused, and one level deeper if one of its declarations was. -/
theorem depth_of_failed_opening {printer after : Printer σ} {fault : Fault}
    (failed : (Step.openProcedure context procedure).act.run.run printer = (.error fault, after)) :
    after.depth = (Step.openProcedure context procedure).failedDepth printer := by
  rcases act_eq_error failed with ⟨planned, -⟩ | ⟨_, line, _, planned, refused, -, -, depth⟩
  · cases planned
  · cases planned
    rw [depth, Step.failedDepth, takesHeader]
    rw [deliver, Line.written] at refused
    split at refused
    · next offered =>
      cases refused
      rw [offered]
      rfl
    · next offered =>
      obtain ⟨declaration, -, rfl⟩ := List.mem_map.mp (mem_of_deliver refused)
      rw [offered]
      rfl

/-- A failed step leaves the depth of the line that was refused. If that is the depth
from before, the step can be tried again: on a sink that refuses nothing it writes the
lines that it would have written, at the same depths. -/
theorem failed_step_depth {step : Step} {printer after : Printer σ} {fault : Fault}
    (failed : step.act.run.run printer = (.error fault, after)) :
    after.depth = step.failedDepth printer ∧
    (after.depth = printer.depth →
      ∀ (τ : Type) [Sink τ] (out : τ), Sink.Working out →
        (step.act : PrintM τ Unit).run.run { out, width := after.width, depth := after.depth } =
          match step.lines printer.depth with
          | .ok lines =>
            (.ok (), {
              out := Sink.receive out (lines.map (·.written printer.width))
              width := printer.width
              depth := step.target printer.depth })
          | .error fault => (.error fault, { out, width := printer.width, depth := printer.depth })) := by
  constructor
  · cases step with
    | indent => cases failed
    | dedent => cases failed
    | line text => exact depth_of_failed_single failed rfl
    | print context expression => exact depth_of_failed_print failed
    | declare context operand => exact depth_of_failed_single failed rfl
    | openProcedure context procedure => exact depth_of_failed_opening failed
    | closeProcedure context procedure => exact depth_of_failed_single failed rfl
  · intro same τ _ out working
    rw [width_of_failed failed, same]
    exact run_act_of_working step working

/-- A printer two levels deep, with a closed sink. -/
def nestedPrinter : Printer Buffer :=
  { out := { refusal := some (.other "sink closed") }, depth := 2 }

/-- The end of a procedure in C. -/
def plainClosing : Step :=
  .closeProcedure { target := ⟨.c, .generic⟩ } { name := "k", parameters := [] }

/-- A refused footer does not keep the depth: the footer of the second try is one
level less deep than it would have been. -/
theorem refused_footer_loses_level :
    plainClosing.act.run.run nestedPrinter =
      (.error (.file (.other "sink closed")), { nestedPrinter with depth := 1 }) ∧
    (plainClosing.act.run.run (reopen { nestedPrinter with depth := 1 })).2.out.text = "\x7d\n" ∧
    (plainClosing.act.run.run nestedPrinter.reopen).2.out.text = "  \x7d\n" :=
  ⟨rfl, rfl, rfl⟩

/-- A sink with room for a number of lines. -/
structure Quota where
  room : Nat
  taken : List String := []

instance : Sink Quota where
  offer quota line :=
    match quota.room with
    | 0 => (some (.other "full"), quota)
    | room + 1 => (none, { room, taken := quota.taken ++ [line] })

/-- A printer one level deep, on a sink with room for a number of lines. -/
def crampedPrinter (room : Nat) : Printer Quota :=
  { out := { room }, depth := 1 }

/-- The start of a subroutine whose parameter is declared in its body. -/
def declaringOpening : Step :=
  .openProcedure { target := ⟨.fortran, .generic⟩ }
    { name := "total", parameters := [⟨"x", NumericType.float 64, .input, some "n"⟩] }

/-- With room for the header and one declaration the printer is left one level
deeper. With no room at all it is as it was, and another try writes every line where
it belongs. -/
theorem declaringOpening_failure :
    (∃ after, declaringOpening.act.run.run (crampedPrinter 2) = (.error (.file (.other "full")), after) ∧
      after.depth = 2) ∧
    ∃ after, declaringOpening.act.run.run (crampedPrinter 0) = (.error (.file (.other "full")), after) ∧
      after.depth = 1 ∧
      (declaringOpening.act.run.run ({ after with out := {} } : Printer Buffer)).2.out.text =
        "  SUBROUTINE total(x)\n    implicit none\n    real(kind=8), intent(in), dimension(n) :: x\n" := by
  have inside : declaringOpening.act.run.run (crampedPrinter 2) =
      (.error (.file (.other "full")), (declaringOpening.act.run.run (crampedPrinter 2)).2) := rfl
  have outside : declaringOpening.act.run.run (crampedPrinter 0) =
      (.error (.file (.other "full")), crampedPrinter 0) := rfl
  refine ⟨⟨_, inside, (failed_step_depth inside).1⟩, _, outside, (failed_step_depth outside).1, ?_⟩
  rw [(failed_step_depth outside).2 rfl Buffer {} (Buffer.working rfl)]
  rfl

end VectorKernel.Printer
