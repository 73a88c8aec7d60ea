import Mathlib.Data.List.Forall2
import VectorKernel.Kernel.Basic
import VectorKernel.Proofs.Printing.Steps

/-!
# Generated sources

A kernel is generated exactly if every expression of its body renders. The source is
then known line by line: the header, the declarations and one line for each
statement, one level deeper, and the footer. If an expression does not render, the
fault of the whole is that of the first such expression, and there is no source.
-/

namespace VectorKernel.Kernel

open Printer (Step Line)

variable {context : Context} {body : List Statement} {lines : List String}

/-- The line of a statement. Statements that do not render have none. -/
inductive LineOf (context : Context) : Statement → String → Prop where
  | declare (operand : Operand) :
      LineOf context (.declare operand) (Printer.declarationText context operand)
  | run {expression : Expr} {text : String} (rendered : expression.render context = .ok text) :
      LineOf context (.run expression) (Text.trimStart text ++ context.language.terminator)

/-- The source of a procedure whose body has the lines. All but the first and the last of its
lines are behind spaces. -/
def sourceText (context : Context) (procedure : Procedure) (width : UInt64) (lines : List String) : String :=
  procedure.header context.target ++ "\n" ++
    String.join ((procedure.declarations context.target ++ lines).map fun line =>
      .ofList (List.replicate width.toNat ' ') ++ line ++ "\n") ++
    procedure.footer context.language ++ "\n"

/-- A statement is printed by the step of its kind. -/
def stepOf (context : Context) : Statement → Step
  | .declare operand => .declare context operand
  | .run expression => .print context expression

/-- Printing a statement is the printing step that stands for it. -/
theorem printStatement_eq {σ : Type} [Sink σ] (statement : Statement) :
    (printStatement context statement : PrintM σ Unit) = (stepOf context statement).act := by
  cases statement <;> rfl

/-- A statement that can be written makes one line at the current depth. -/
theorem LineOf.planned {statement : Statement} {line : String} (lineOf : LineOf context statement line)
    (depth : Nat) : (stepOf context statement).lines depth = .ok [⟨depth, line⟩] := by
  cases lineOf with
  | declare operand => rfl
  | run rendered => exact Step.lines_print rendered depth

/-- Statements leave the depth as it is. -/
theorem stepOf_target (statement : Statement) (depth : Nat) :
    (stepOf context statement).target depth = depth := by
  cases statement <;> rfl

/-- A statement that renders is printed on a line of its own, before the others. -/
theorem run_statements_cons {printer : Printer Buffer} (accepts : printer.out.refusal = none)
    {statement : Statement} {line : String} (first : LineOf context statement line)
    (rest : List Statement) :
    ((statement :: rest).forM (printStatement context)).run.run printer =
      (rest.forM (printStatement context)).run.run
        (printer.wrote [⟨printer.depth, line⟩] printer.depth) := by
  change (printStatement context statement >>= fun _ => rest.forM (printStatement context)).run.run
    printer = _
  rw [run_bind, printStatement_eq, Printer.run_act_of_open _ accepts, first.planned]
  simp only [stepOf_target]

/-- Statements that render are printed one after the other, before the others. -/
theorem run_statements_append {printer : Printer Buffer} (accepts : printer.out.refusal = none)
    (rendered : List.Forall₂ (LineOf context) body lines) (rest : List Statement) :
    ((body ++ rest).forM (printStatement context)).run.run printer =
      (rest.forM (printStatement context)).run.run
        (printer.wrote (lines.map (⟨printer.depth, ·⟩)) printer.depth) := by
  induction rendered generalizing printer with
  | nil => rw [List.nil_append, List.map_nil, Printer.wrote_nil]
  | @cons statement line body lines first _ ih =>
    have next : (printer.wrote [⟨printer.depth, line⟩] printer.depth).out.refusal = none := accepts
    rw [List.cons_append, run_statements_cons accepts first, ih next, Printer.wrote_wrote]
    rfl

/-- A body that can be written is written line by line, at one depth. -/
theorem run_statements {printer : Printer Buffer} (accepts : printer.out.refusal = none)
    (rendered : List.Forall₂ (LineOf context) body lines) :
    (body.forM (printStatement context)).run.run printer =
      (.ok (), printer.wrote (lines.map (⟨printer.depth, ·⟩)) printer.depth) := by
  have whole := run_statements_append accepts rendered []
  rw [List.append_nil] at whole
  exact whole

/-- A statement that does not render ends the printing. -/
theorem run_failed_statement {printer : Printer Buffer} (accepts : printer.out.refusal = none)
    {expression : Expr} {fault : Fault} (failed : expression.render context = .error fault)
    (rest : List Statement) :
    ((.run expression :: rest).forM (printStatement context)).run.run printer = (.error fault, printer) := by
  have planned : (stepOf context (.run expression)).lines printer.depth = .error fault :=
    Step.lines_print_of_error failed printer.depth
  change (printStatement context (.run expression) >>= fun _ => rest.forM (printStatement context)).run.run
    printer = _
  rw [run_bind, printStatement_eq, Printer.run_act_of_open _ accepts, planned]

/-- The first expression that fails stops the printing. The lines before it have been written. -/
theorem run_statements_of_error {printer : Printer Buffer} (accepts : printer.out.refusal = none)
    (rendered : List.Forall₂ (LineOf context) body lines) {expression : Expr} {fault : Fault}
    (failed : expression.render context = .error fault) (rest : List Statement) :
    ((body ++ .run expression :: rest).forM (printStatement context)).run.run printer =
      (.error fault, printer.wrote (lines.map (⟨printer.depth, ·⟩)) printer.depth) := by
  rw [run_statements_append accepts rendered]
  refine run_failed_statement ?_ failed rest
  exact accepts

variable {procedure : Procedure} {width : UInt64}

/-- The printer that a kernel is generated with. -/
def blank (width : UInt64) : Printer Buffer := { out := {}, width }

/-- The lines of a procedure up to its body. -/
def openingLines (context : Context) (procedure : Procedure) : List Line :=
  ⟨0, procedure.header context.target⟩ :: (procedure.declarations context.target).map (⟨1, ·⟩)

/-- The lines before the body are written at depths of their own, and leave the depth at one. -/
theorem run_opening : (Printer.openProcedure context procedure).run.run (blank width) =
    (.ok (), (blank width).wrote (openingLines context procedure) 1) :=
  Printer.run_act_of_open (.openProcedure context procedure) rfl

/-- The last line is written one level further out. -/
theorem run_closing {printer : Printer Buffer} (accepts : printer.out.refusal = none) :
    (Printer.closeProcedure context procedure).run.run printer =
      (.ok (), printer.wrote [⟨printer.depth - 1, procedure.footer context.language⟩]
        (printer.depth - 1)) :=
  Printer.run_act_of_open (.closeProcedure context procedure) accepts

/-- A whole procedure is its opening, the lines of its body and its last line. -/
theorem run_printProcedure (rendered : List.Forall₂ (LineOf context) body lines) :
    (printProcedure context procedure body).run.run (blank width) =
      (.ok (), (blank width).wrote (openingLines context procedure ++ lines.map (⟨1, ·⟩) ++
        [⟨0, procedure.footer context.language⟩]) 0) := by
  have opened : ((blank width).wrote (openingLines context procedure) 1).out.refusal = none := rfl
  rw [printProcedure, run_bind, run_opening]
  simp only [run_bind, run_statements opened rendered, Printer.wrote_wrote]
  exact (run_closing rfl).trans (by rw [Printer.wrote_wrote]; rfl)

/-- At the outermost depth there are no spaces. -/
theorem written_outermost (width : UInt64) (text : String) :
    Line.written width ⟨0, text⟩ = text ++ "\n" := by
  simp [Line.written_eq]

/-- One level deeper there are as many spaces as the width says, which always fits. -/
theorem map_written_inner (width : UInt64) (texts : List String) :
    (texts.map (Line.mk 1)).map (·.written width) =
      texts.map fun text => .ofList (List.replicate width.toNat ' ') ++ text ++ "\n" := by
  have fits : 1 * width.toNat % UInt64.size = width.toNat := by
    rw [Nat.one_mul]
    exact Nat.mod_eq_of_lt width.toNat_lt
  simp only [List.map_map, Function.comp_def, Line.written_eq, fits]

/-- The text of the lines of a procedure is its source. -/
theorem text_wrote (context : Context) (procedure : Procedure) (width : UInt64) (lines : List String) :
    ((blank width).wrote (openingLines context procedure ++ lines.map (⟨1, ·⟩) ++
      [⟨0, procedure.footer context.language⟩]) 0).out.text =
      sourceText context procedure width lines := by
  simp only [Printer.wrote, blank, openingLines, sourceText, List.cons_append, List.map_cons,
    List.map_append, List.map_nil, written_outermost, map_written_inner, String.join_cons,
    String.join_append, String.join_nil, String.append_empty, String.empty_append, String.append_assoc]

/-- Generating a kernel is printing it with a blank printer. -/
theorem generate_eq : generate context procedure body width =
    match (printProcedure context procedure body).run.run (blank width) with
    | (.ok (), printer) => .ok (ofSource procedure printer.out.text context.target)
    | (.error fault, _) => .error fault := rfl

/-- A body that can be written gives a kernel with the source that is laid out. -/
theorem generate_of_rendered (rendered : List.Forall₂ (LineOf context) body lines) :
    generate context procedure body width =
      .ok (ofSource procedure (sourceText context procedure width lines) context.target) := by
  rw [generate_eq, run_printProcedure rendered, ← text_wrote]

/-- A body with an expression that fails gives no kernel, only the first such fault. -/
theorem generate_of_error {earlier later : List Statement} {expression : Expr} {fault : Fault}
    (rendered : List.Forall₂ (LineOf context) earlier lines)
    (failed : expression.render context = .error fault) :
    generate context procedure (earlier ++ .run expression :: later) width = .error fault := by
  have opened : ((blank width).wrote (openingLines context procedure) 1).out.refusal = none := rfl
  rw [generate_eq, printProcedure, run_bind, run_opening]
  simp only [run_bind, run_statements_of_error opened rendered failed]

/-- Every expression of a body renders. -/
def Renders (context : Context) (body : List Statement) : Prop :=
  ∀ expression, .run expression ∈ body → ∃ text, expression.render context = .ok text

theorem Renders.nil : Renders context [] := by
  intro expression member
  cases member

/-- A body can be written if its first statement and the rest can. -/
theorem Renders.cons {statement : Statement} {line : String} (first : LineOf context statement line)
    (renders : Renders context body) : Renders context (statement :: body) := by
  intro expression member
  cases member with
  | head =>
    cases first with
    | run rendered => exact ⟨_, rendered⟩
  | tail _ behind => exact renders expression behind

/-- A statement can be written, or it is an expression with a fault. -/
theorem lineOf_or_error (context : Context) (statement : Statement) :
    (∃ line, LineOf context statement line) ∨
      ∃ expression fault, statement = .run expression ∧ expression.render context = .error fault := by
  cases statement with
  | declare operand => exact .inl ⟨_, .declare operand⟩
  | run expression =>
    cases rendered : expression.render context with
    | ok text => exact .inl ⟨_, .run rendered⟩
    | error fault => exact .inr ⟨expression, fault, rfl, rendered⟩

/-- There is a line for each statement of a body that renders. -/
theorem exists_lines (renders : Renders context body) :
    ∃ lines, List.Forall₂ (LineOf context) body lines := by
  induction body with
  | nil => exact ⟨[], .nil⟩
  | cons statement body ih =>
    obtain ⟨lines, rendered⟩ := ih fun expression member => renders expression (.tail _ member)
    rcases lineOf_or_error context statement with ⟨line, first⟩ | ⟨expression, fault, rfl, failed⟩
    · exact ⟨line :: lines, .cons first rendered⟩
    · obtain ⟨text, rendered⟩ := renders expression (.head _)
      cases failed.symm.trans rendered

/-- A body renders, or there is a first expression in it that does not. -/
theorem renders_or_first_error (context : Context) (body : List Statement) :
    Renders context body ∨
      ∃ earlier expression later fault, body = earlier ++ .run expression :: later ∧
        Renders context earlier ∧ expression.render context = .error fault := by
  induction body with
  | nil => exact .inl .nil
  | cons statement body ih =>
    rcases lineOf_or_error context statement with ⟨line, first⟩ | ⟨expression, fault, rfl, failed⟩
    · rcases ih with renders | ⟨earlier, expression, later, fault, rfl, renders, failed⟩
      · exact .inl (renders.cons first)
      · exact .inr ⟨statement :: earlier, expression, later, fault, rfl, renders.cons first, failed⟩
    · exact .inr ⟨[], expression, body, fault, rfl, .nil, failed⟩

/-- A kernel is generated exactly if every expression of the body renders. It is then
the kernel of the source that has the header, the declarations and the line of each
statement, and the footer. Otherwise the fault is that of the first expression that
does not render. -/
theorem generate_exact (context : Context) (procedure : Procedure) (body : List Statement)
    (width : UInt64) :
    ((∃ kernel, generate context procedure body width = .ok kernel) ↔ Renders context body) ∧
    (∀ kernel, generate context procedure body width = .ok kernel ↔
      ∃ lines, List.Forall₂ (LineOf context) body lines ∧
        kernel = ofSource procedure (sourceText context procedure width lines) context.target) ∧
    (∀ fault, generate context procedure body width = .error fault ↔
      ∃ earlier expression later, body = earlier ++ .run expression :: later ∧
        Renders context earlier ∧ expression.render context = .error fault) := by
  have ofLines : ∀ kernel, (∃ lines, List.Forall₂ (LineOf context) body lines ∧
      kernel = ofSource procedure (sourceText context procedure width lines) context.target) →
      generate context procedure body width = .ok kernel := by
    rintro kernel ⟨lines, rendered, rfl⟩
    exact generate_of_rendered rendered
  have ofFirst : ∀ fault, (∃ earlier expression later, body = earlier ++ .run expression :: later ∧
      Renders context earlier ∧ expression.render context = .error fault) →
      generate context procedure body width = .error fault := by
    rintro fault ⟨earlier, expression, later, rfl, renders, failed⟩
    obtain ⟨lines, rendered⟩ := exists_lines renders
    exact generate_of_error rendered failed
  -- One of the two holds of every body, so each answer also excludes the other.
  rcases renders_or_first_error context body with renders | ⟨earlier, expression, later, cause, first⟩
  · obtain ⟨lines, rendered⟩ := exists_lines renders
    have generated := ofLines _ ⟨lines, rendered, rfl⟩
    refine ⟨⟨fun _ => renders, fun _ => ⟨_, generated⟩⟩, fun kernel => ⟨fun found => ?_, ofLines kernel⟩,
      fun fault => ⟨fun failed => ?_, ofFirst fault⟩⟩
    · exact ⟨lines, rendered, Except.ok.inj (found.symm.trans generated)⟩
    · cases generated.symm.trans failed
  · have failed := ofFirst cause ⟨earlier, expression, later, first⟩
    refine ⟨⟨?_, fun renders => ?_⟩, fun kernel => ⟨fun found => ?_, ofLines kernel⟩,
      fun fault => ⟨fun found => ?_, ofFirst fault⟩⟩
    · rintro ⟨kernel, found⟩
      cases failed.symm.trans found
    · obtain ⟨lines, rendered⟩ := exists_lines renders
      exact ⟨_, ofLines _ ⟨lines, rendered, rfl⟩⟩
    · cases failed.symm.trans found
    · cases failed.symm.trans found
      exact ⟨earlier, expression, later, first⟩

end VectorKernel.Kernel
