import VectorKernel.Proofs.Printing.Steps

/-!
# Runs of a printer

A run is any sequence of steps, each with its own context, on a buffer that is shut
and reopened between steps. What is written is accounted for line by line: each line
of a successful step arrives once, in order, behind as many spaces as its depth asks
for, and a failed step writes nothing. A run that opens and closes in pairs comes back
to its depth, and what a procedure encloses lies deeper than its header.
-/

namespace VectorKernel.Printer

/-- What can happen to a printer: a step, or a change of its sink between steps. -/
inductive Event where
  | perform (step : Step)
  | shut (fault : FileFault)
  | reopen

namespace Event

/-- Whether an event fails, and the printer that it leaves. -/
def occur (printer : Printer Buffer) : Event → Except Fault Unit × Printer Buffer
  | .perform step => step.act.run.run printer
  | .shut fault => (.ok (), printer.shut fault)
  | .reopen => (.ok (), printer.reopen)

/-- The lines that an event emits: those of a step, if it succeeds. -/
def emits (printer : Printer Buffer) : Event → List Line
  | .perform step =>
    match (step.act.run.run printer).1, step.lines printer.depth with
    | .ok (), .ok lines => lines
    | _, _ => []
  | _ => []

/-- The levels that an event goes deeper, given whether it failed. The footer of a
procedure is tried one level back. -/
def change : Event → Except Fault Unit → Int
  | .perform .indent, _ => 1
  | .perform .dedent, _ => -1
  | .perform (.openProcedure _ _), .ok () => 1
  | .perform (.closeProcedure _ _), _ => -1
  | _, _ => 0

/-- Whether an event is one of those that go to another depth. -/
def moves : Event → Bool
  | .perform .indent => true
  | .perform .dedent => true
  | .perform (.openProcedure _ _) => true
  | .perform (.closeProcedure _ _) => true
  | _ => false

end Event

/-- The first line of a step is at the depth of the step, except that of a footer. -/
theorem depth_of_first {step : Step} {depth : Nat} {first : Line} {rest : List Line}
    (planned : step.lines depth = .ok (first :: rest)) (cause : FileFault) :
    (first.depth : Int) = max 0 (depth + (Event.perform step).change (.error (.file cause))) := by
  cases step with
  | indent => cases planned
  | dedent => cases planned
  | print context expression =>
    obtain ⟨text, -, same⟩ := map_eq_ok.mp planned
    cases same
    simp [Event.change]
  | closeProcedure context procedure =>
    cases planned
    simp only [Event.change]
    omega
  | line text => cases planned; simp [Event.change]
  | declare context operand => cases planned; simp [Event.change]
  | openProcedure context procedure => cases planned; simp [Event.change]

/-- The depth changes by the change of the step, but never goes below the outermost level. -/
theorem depth_of_target (step : Step) (depth : Nat) :
    (step.target depth : Int) = max 0 (depth + (Event.perform step).change (.ok ())) := by
  cases step <;> simp only [Step.target, Event.change] <;> omega

/-- All that a step does to a printer that writes to a buffer. -/
theorem act_cases (step : Step) (printer : Printer Buffer) :
    (∃ lines, step.lines printer.depth = .ok lines ∧
      step.act.run.run printer = (.ok (), printer.wrote lines (step.target printer.depth))) ∨
    (∃ fault, step.lines printer.depth = .error fault ∧
      step.act.run.run printer = (.error fault, printer)) ∨
    (∃ first rest cause, step.lines printer.depth = .ok (first :: rest) ∧
      step.act.run.run printer = (.error (.file cause), { printer with depth := first.depth })) := by
  cases refusal : printer.out.refusal with
  | none =>
    rw [run_act_of_open step refusal]
    cases step.lines printer.depth with
    | ok lines => exact .inl ⟨lines, rfl, rfl⟩
    | error fault => exact .inr (.inl ⟨fault, rfl, rfl⟩)
  | some cause =>
    rw [run_act]
    cases step.lines printer.depth with
    | error fault => exact .inr (.inl ⟨fault, rfl, rfl⟩)
    | ok lines =>
      cases lines with
      | nil => exact .inl ⟨[], rfl, by simp [finish, deliver, wrote]⟩
      | cons first rest =>
        -- A shut buffer refuses the first line already, so no step is written in part.
        exact .inr (.inr ⟨first, rest, cause, rfl, by simp [finish, deliver, Sink.offer, refusal]⟩)

/-- What an event adds to the text are the lines that it emits. -/
theorem text_occur (event : Event) (printer : Printer Buffer) :
    (event.occur printer).2.out.text =
        printer.out.text ++ String.join ((event.emits printer).map (·.written printer.width)) ∧
      (event.occur printer).2.width = printer.width := by
  cases event with
  | shut fault => simp [Event.occur, Event.emits, Printer.shut]
  | reopen => simp [Event.occur, Event.emits, Printer.reopen]
  | perform step =>
    rcases act_cases step printer with
      ⟨lines, planned, ran⟩ | ⟨fault, planned, ran⟩ | ⟨first, rest, cause, planned, ran⟩ <;>
      simp [Event.occur, Event.emits, ran, planned, wrote]

/-- An event moves the depth by whole levels, and never below zero. -/
theorem depth_occur (event : Event) (printer : Printer Buffer) :
    ((event.occur printer).2.depth : Int) =
      max 0 (printer.depth + event.change (event.occur printer).1) := by
  cases event with
  | shut fault => simp [Event.occur, Event.change, Printer.shut]
  | reopen => simp [Event.occur, Event.change, Printer.reopen]
  | perform step =>
    simp only [Event.occur]
    rcases act_cases step printer with
      ⟨lines, planned, ran⟩ | ⟨fault, planned, ran⟩ | ⟨first, rest, cause, planned, ran⟩
    · rw [ran]
      exact depth_of_target step printer.depth
    · obtain ⟨context, expression, rfl⟩ := Step.lines_eq_error planned
      rw [ran]
      simp [Event.change]
    · rw [ran]
      exact depth_of_first planned cause

/-- The printer after events. -/
def afterEvents (printer : Printer Buffer) (events : List Event) : Printer Buffer :=
  events.foldl (fun printer event => (event.occur printer).2) printer

/-- The lines that events emit, in order. -/
def emitted (printer : Printer Buffer) : List Event → List Line
  | [] => []
  | event :: events => event.emits printer ++ emitted (event.occur printer).2 events

/-- All events succeed, one after the other. -/
def Succeeds (printer : Printer Buffer) : List Event → Prop
  | [] => True
  | event :: events => (event.occur printer).1 = .ok () ∧ Succeeds (event.occur printer).2 events

/-- Events may be run in two portions. -/
theorem afterEvents_append (printer : Printer Buffer) (events others : List Event) :
    printer.afterEvents (events ++ others) = (printer.afterEvents events).afterEvents others :=
  List.foldl_append

/-- The lines of two portions follow each other. -/
theorem emitted_append (printer : Printer Buffer) (events others : List Event) :
    printer.emitted (events ++ others) =
      printer.emitted events ++ (printer.afterEvents events).emitted others := by
  induction events generalizing printer with
  | nil => rfl
  | cons event events ih =>
    simp only [List.cons_append, emitted, ih, List.append_assoc]
    rfl

/-- A run succeeds exactly if both of its portions do. -/
theorem succeeds_append (printer : Printer Buffer) (events others : List Event) :
    printer.Succeeds (events ++ others) ↔
      printer.Succeeds events ∧ (printer.afterEvents events).Succeeds others := by
  induction events generalizing printer with
  | nil => exact (iff_of_eq (true_and _)).symm
  | cons event events ih =>
    simp only [List.cons_append, Succeeds, ih, and_assoc]
    rfl

/-- The text of a run is what was there before, followed by the lines that the run
emits. -/
theorem text_afterEvents (printer : Printer Buffer) (events : List Event) :
    (printer.afterEvents events).out.text =
      printer.out.text ++ String.join ((printer.emitted events).map (·.written printer.width)) := by
  induction events generalizing printer with
  | nil => simp [afterEvents, emitted]
  | cons event events ih =>
    obtain ⟨text, width⟩ := text_occur event printer
    have onward := ih (event.occur printer).2
    rw [text, width] at onward
    rw [emitted, List.map_append, String.join_append, ← String.append_assoc, ← onward]
    rfl

/-- Events between an opening step and a closing one. -/
def enclosed (opening : Step) (body : List Event) (closing : Step) : List Event :=
  .perform opening :: body ++ [.perform closing]

/-- Runs in which openings and closings of procedures, and steps in and out, come in
pairs that lie within each other. A procedure may be closed in another context than
it was opened in. -/
inductive Nested : List Event → Prop
  | empty : Nested []
  | plain {event : Event} (stays : event.moves = false) : Nested [event]
  | append {events others : List Event} (first : Nested events) (second : Nested others) :
      Nested (events ++ others)
  | indented {body : List Event} (nested : Nested body) :
      Nested (enclosed .indent body .dedent)
  | procedure (opening closing : Context) (opened closed : Procedure) {body : List Event}
      (nested : Nested body) :
      Nested (enclosed (.openProcedure opening opened) body (.closeProcedure closing closed))

/-- Events that come back to the depth they started from if they all succeed, and
emit no line less deep. -/
def Level (events : List Event) : Prop :=
  ∀ printer : Printer Buffer, printer.Succeeds events →
    (printer.afterEvents events).depth = printer.depth ∧
      ∀ line ∈ printer.emitted events, printer.depth ≤ line.depth

/-- A step that succeeded has emitted its lines and arrived at its depth. -/
theorem of_succeeded {step : Step} {printer : Printer Buffer}
    (success : ((Event.perform step).occur printer).1 = .ok ()) :
    step.lines printer.depth = .ok ((Event.perform step).emits printer) ∧
      ((Event.perform step).occur printer).2.depth = step.target printer.depth := by
  simp only [Event.occur] at success ⊢
  rcases act_cases step printer with
    ⟨lines, planned, ran⟩ | ⟨fault, planned, ran⟩ | ⟨first, rest, cause, planned, ran⟩
  · simp only [Event.emits, ran, planned, wrote, and_self]
  · rw [ran] at success
    cases success
  · rw [ran] at success
    cases success

/-- A run between a step that goes one level deeper and one that comes back. -/
theorem enclosed_run {opening closing : Step} {body : List Event} {printer : Printer Buffer}
    (level : Level body) (deeper : opening.target printer.depth = printer.depth + 1)
    (back : closing.target (printer.depth + 1) = printer.depth)
    (succeeds : printer.Succeeds (enclosed opening body closing)) :
    (printer.afterEvents (enclosed opening body closing)).depth = printer.depth ∧
    ∃ first inner last, opening.lines printer.depth = .ok first ∧
      closing.lines (printer.depth + 1) = .ok last ∧
      printer.emitted (enclosed opening body closing) = first ++ inner ++ last ∧
      ∀ line ∈ inner, printer.depth < line.depth := by
  obtain ⟨opened, rest⟩ := succeeds
  obtain ⟨bodySucceeds, closed, -⟩ := (succeeds_append _ _ _).mp rest
  obtain ⟨openingLines, openingDepth⟩ := of_succeeded opened
  obtain ⟨bodyDepth, bodyLines⟩ := level _ bodySucceeds
  obtain ⟨closingLines, closingDepth⟩ := of_succeeded closed
  -- The closing step starts from the depth that the body came back to.
  rw [openingDepth, deeper] at bodyDepth bodyLines
  rw [bodyDepth] at closingLines closingDepth
  refine ⟨?_, _, _, _, openingLines, closingLines, ?_, bodyLines⟩
  · rw [enclosed, List.cons_append, afterEvents, List.foldl_cons, ← afterEvents, afterEvents_append]
    exact closingDepth.trans back
  · rw [enclosed, List.cons_append, emitted, emitted_append, emitted, emitted, List.append_nil, List.append_assoc]

/-- A procedure comes back to its depth, with the header and the footer there and
everything between them deeper. -/
theorem procedure_run {opening closing : Context} {opened closed : Procedure} {body : List Event}
    {printer : Printer Buffer} (level : Level body)
    (succeeds : printer.Succeeds
      (enclosed (.openProcedure opening opened) body (.closeProcedure closing closed))) :
    (printer.afterEvents (enclosed (.openProcedure opening opened) body
      (.closeProcedure closing closed))).depth = printer.depth ∧
    ∃ inner, printer.emitted (enclosed (.openProcedure opening opened) body
        (.closeProcedure closing closed)) =
      ⟨printer.depth, opened.header opening.target⟩ :: inner ++
        [⟨printer.depth, closed.footer closing.language⟩] ∧
      ∀ line ∈ inner, printer.depth < line.depth := by
  obtain ⟨depth, first, inner, last, openingLines, closingLines, lines, deeper⟩ :=
    enclosed_run level rfl rfl succeeds
  cases openingLines
  cases closingLines
  refine ⟨depth, (opened.declarations opening.target).map (⟨printer.depth + 1, ·⟩) ++ inner, ?_, ?_⟩
  · rw [lines, Nat.add_sub_cancel, ← List.cons_append]
  · intro line member
    rcases List.mem_append.mp member with declared | within
    · obtain ⟨declaration, -, rfl⟩ := List.mem_map.mp declared
      exact Nat.lt_succ_self _
    · exact deeper line within

/-- A step that stays at its depth has all its lines there. -/
theorem depth_of_plain {step : Step} {depth : Nat} {lines : List Line}
    (stays : (Event.perform step).moves = false) (planned : step.lines depth = .ok lines) :
    step.target depth = depth ∧ ∀ line ∈ lines, line.depth = depth := by
  cases step with
  | indent => cases stays
  | dedent => cases stays
  | openProcedure context procedure => cases stays
  | closeProcedure context procedure => cases stays
  | line text => cases planned; simp [Step.target]
  | declare context operand => cases planned; simp [Step.target]
  | print context expression =>
    obtain ⟨text, -, rfl⟩ := map_eq_ok.mp planned
    simp [Step.target]

/-- An event that does not move keeps the depth and writes no line less deep. -/
theorem level_plain {event : Event} (stays : event.moves = false) : Level [event] := by
  intro printer succeeds
  cases event with
  | shut fault => exact ⟨rfl, by simp [emitted, Event.emits]⟩
  | reopen => exact ⟨rfl, by simp [emitted, Event.emits]⟩
  | perform step =>
    obtain ⟨planned, depth⟩ := of_succeeded succeeds.1
    obtain ⟨kept, lines⟩ := depth_of_plain stays planned
    refine ⟨depth.trans kept, fun line member => ?_⟩
    rw [emitted, emitted, List.append_nil] at member
    exact Nat.le_of_eq (lines line member).symm

/-- Nested events come back to the depth they started from. -/
theorem Nested.level {events : List Event} (nested : Nested events) : Level events := by
  induction nested with
  | empty => exact fun printer _ => ⟨rfl, by simp [emitted]⟩
  | plain stays => exact level_plain stays
  | @append events others _ _ first second =>
    intro printer succeeds
    obtain ⟨firstSucceeds, secondSucceeds⟩ := (succeeds_append _ _ _).mp succeeds
    obtain ⟨firstDepth, firstLines⟩ := first printer firstSucceeds
    obtain ⟨secondDepth, secondLines⟩ := second _ secondSucceeds
    rw [firstDepth] at secondDepth secondLines
    rw [afterEvents_append, emitted_append]
    refine ⟨secondDepth, fun line member => ?_⟩
    exact (List.mem_append.mp member).elim (firstLines line) (secondLines line)
  | indented _ level =>
    intro printer succeeds
    obtain ⟨depth, first, inner, last, opening, closing, lines, deeper⟩ :=
      enclosed_run level rfl rfl succeeds
    cases opening
    cases closing
    refine ⟨depth, fun line member => ?_⟩
    rw [lines, List.nil_append, List.append_nil] at member
    exact Nat.le_of_lt (deeper line member)
  | procedure opening closing opened closed _ level =>
    intro printer succeeds
    obtain ⟨depth, inner, lines, deeper⟩ := procedure_run level succeeds
    refine ⟨depth, fun line member => ?_⟩
    rw [lines] at member
    rcases List.mem_append.mp member with before | footer
    · rcases List.mem_cons.mp before with rfl | within
      · exact Nat.le_refl _
      · exact Nat.le_of_lt (deeper line within)
    · obtain rfl := List.mem_singleton.mp footer
      exact Nat.le_refl _

/-- At every point of a run: what is written are the lines that the steps so far have
emitted, each behind the spaces of its depth, as many as a machine word counts; an expression that
does not render changes nothing; the next event leaves a depth that is not below zero; and a
procedure that follows, opened and closed in pairs with what it encloses, comes back to its depth,
with everything between its header and its footer deeper. -/
theorem run_account (start : Printer Buffer) (events : List Event) :
    (start.afterEvents events).out.text = start.out.text ++
      String.join ((start.emitted events).map fun line =>
        .ofList (List.replicate (line.depth * start.width.toNat % UInt64.size) ' ') ++ line.text ++ "\n") ∧
    ((∀ line ∈ start.emitted events, line.depth * start.width.toNat < UInt64.size) →
      (start.afterEvents events).out.text = start.out.text ++
        String.join ((start.emitted events).map fun line =>
          .ofList (List.replicate (line.depth * start.width.toNat) ' ') ++ line.text ++ "\n")) ∧
    (∀ context expression fault, expression.render context = .error fault →
      (print context expression).run.run (start.afterEvents events) =
        (.error fault, start.afterEvents events)) ∧
    (∀ event : Event, ((event.occur (start.afterEvents events)).2.depth : Int) =
      max 0 ((start.afterEvents events).depth +
        event.change (event.occur (start.afterEvents events)).1)) ∧
    ∀ opening opened body closing closed, Nested body →
      (start.afterEvents events).Succeeds
        (enclosed (.openProcedure opening opened) body (.closeProcedure closing closed)) →
      (start.afterEvents (events ++ enclosed (.openProcedure opening opened) body
        (.closeProcedure closing closed))).depth = (start.afterEvents events).depth ∧
      ∃ inner,
        start.emitted (events ++ enclosed (.openProcedure opening opened) body
            (.closeProcedure closing closed)) =
          start.emitted events ++
            (⟨(start.afterEvents events).depth, opened.header opening.target⟩ :: inner ++
              [⟨(start.afterEvents events).depth, closed.footer closing.language⟩]) ∧
        ∀ line ∈ inner, (start.afterEvents events).depth < line.depth := by
  have text := text_afterEvents start events
  simp only [Line.written_eq] at text
  refine ⟨text, fun fits => ?_, ?_, fun event => depth_occur event _, ?_⟩
  · rw [text]
    refine congrArg (start.out.text ++ String.join ·) (List.map_congr_left fun line member => ?_)
    rw [Nat.mod_eq_of_lt (fits line member)]
  · intro context expression fault failed
    have printed := run_act (.print context expression) (start.afterEvents events)
    rw [Step.lines_print_of_error failed] at printed
    exact printed
  · intro opening opened body closing closed nested succeeds
    rw [afterEvents_append, emitted_append]
    obtain ⟨depth, inner, lines, deeper⟩ := procedure_run nested.level succeeds
    exact ⟨depth, inner, by rw [lines], deeper⟩

namespace Outline

/-- The context of a language. -/
def context (language : Language) : Context := { target := ⟨language, .generic⟩ }

/-- A step back from the outermost depth, and a line that a closed sink refuses. -/
def events : List Event :=
  [.perform .dedent, .shut (.other "sink closed"), .perform (.line "lost"), .reopen,
    .perform (.line "kept"), .perform .indent]

/-- A function of one result, and no parameters. -/
def procedure : Procedure :=
  { name := "zero", parameters := [], returns := some (NumericType.int 32) }

/-- A statement one level deeper than the body around it, after the sink was closed
for a while. -/
def body : List Event :=
  [.perform (.declare (context .c) (.named "s" (NumericType.int 32)))] ++
    enclosed .indent
      ([.shut (.other "sink closed")] ++ ([.reopen] ++
        [.perform (.print (context .cuda) (.assign (.literal (.raw "s")) (.literal (.int 0))))]))
      .dedent

/-- A function that is opened in one language and closed in another. -/
def function : List Event :=
  enclosed (.openProcedure (context .fortran) procedure) body (.closeProcedure (context .c) procedure)

/-- The declarations of the function and both lines of the body lie between the
header and the footer, although the languages change on the way. -/
theorem lines_account :
    let start : Printer Buffer := { out := {}, width := 3 }
    let here := start.afterEvents events
    (print (context .c) (.bare .add)).run.run here =
      (.error (.malformed (.noOperand .add)), here) ∧
    (start.afterEvents (events ++ function)).out.text =
      "kept\n   FUNCTION zero()\n      implicit none\n      integer(kind=4) :: zero\n" ++
        "      int32_t s;\n         s = 0;\n   \x7d\n" ∧
    ∃ inner,
      start.emitted (events ++ function) =
        [⟨0, "kept"⟩] ++ (⟨1, "FUNCTION zero()"⟩ :: inner ++ [⟨1, "\x7d"⟩]) ∧
      inner.length = 4 ∧ ∀ line ∈ inner, 1 < line.depth := by
  intro start here
  have nested : Nested body :=
    .append (.plain rfl) (.indented (.append (.plain rfl) (.append (.plain rfl) (.plain rfl))))
  have succeeds : here.Succeeds function := ⟨rfl, rfl, rfl, rfl, rfl, rfl, rfl, rfl, trivial⟩
  have emits : start.emitted (events ++ function) =
      [⟨0, "kept"⟩, ⟨1, "FUNCTION zero()"⟩, ⟨2, "implicit none"⟩, ⟨2, "integer(kind=4) :: zero"⟩,
        ⟨2, "int32_t s;"⟩, ⟨3, "s = 0;"⟩, ⟨1, "\x7d"⟩] := rfl
  have fits : ∀ line ∈ start.emitted (events ++ function),
      line.depth * start.width.toNat < UInt64.size := by
    rw [emits]
    decide
  have text := (run_account start (events ++ function)).2.1 fits
  obtain ⟨-, -, failed, -, procedures⟩ := run_account start events
  obtain ⟨-, inner, lines, deeper⟩ := procedures _ _ _ _ _ nested succeeds
  refine ⟨failed _ _ _ rfl, ?_, inner, lines, ?_, deeper⟩
  · rw [text, emits]
    decide
  · have count : 7 = ([Line.mk 0 "kept"] ++
        (Line.mk 1 "FUNCTION zero()" :: inner ++ [Line.mk 1 "\x7d"])).length :=
      congrArg List.length lines
    simp only [List.length_append, List.length_cons, List.length_nil] at count
    omega

end Outline

end VectorKernel.Printer
