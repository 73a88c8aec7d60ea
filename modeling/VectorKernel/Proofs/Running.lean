import VectorKernel.Kernel.Run

/-!
# Arguments of a run

A runner is reached only with arguments that fit the parameters of the kernel. To tell
how often it is reached, a runner is given a record of its calls beside its own state,
`Runner.recording`. Which arguments fit is said of positions, and `misfit?_eq_none_iff` and
`firstMisfit_of_misfit?` tie the check, which goes through both lists at once, to it.
-/

namespace VectorKernel

/-- A call of a runner. -/
abbrev Call := Kernel × List Argument

/-- A runner that also keeps a record of its calls. -/
def Runner.recording {σ : Type} (runner : Runner σ) : Runner (σ × List Call) where
  run kernel arguments := fun (state, calls) =>
    let (result, after) := (runner.run kernel arguments).run state
    (result, after, calls ++ [(kernel, arguments)])

namespace Kernel

/-- An argument has the shape that a parameter asks for: it is an array exactly if the
parameter has an extent. -/
def Suits (parameter : Parameter) (argument : Argument) : Prop :=
  (∃ values, argument = .array values) ↔ ∃ extent, parameter.dimension = some extent

/-- The arguments suit the parameters at all positions that both lists have. -/
def AllSuit (parameters : List Parameter) (arguments : List Argument) : Prop :=
  ∀ (position : Nat) (parameter : Parameter) (argument : Argument),
    parameters[position]? = some parameter → arguments[position]? = some argument →
      Suits parameter argument

/-- One argument for each parameter, of the shape that it asks for. -/
structure Fits (parameters : List Parameter) (arguments : List Argument) : Prop where
  count : arguments.length = parameters.length
  shapes : AllSuit parameters arguments

/-- The first parameter whose argument does not have the shape that it asks for. -/
def FirstMisfit (parameters : List Parameter) (arguments : List Argument) (parameter : Parameter) : Prop :=
  ∃ (position : Nat) (argument : Argument), parameters[position]? = some parameter ∧
    arguments[position]? = some argument ∧ ¬ Suits parameter argument ∧
      ∀ earlier < position, ∀ (other : Parameter) (given : Argument), parameters[earlier]? = some other →
        arguments[earlier]? = some given → Suits other given

/-- Why arguments are refused. Their number is looked at before their shapes. -/
inductive Refused (parameters : List Parameter) (arguments : List Argument) : Fault → Prop where
  | count (different : arguments.length ≠ parameters.length) :
      Refused parameters arguments
        (.wrongCount .arguments (parameters.length % (Text.limit32 + 1)) arguments.length)
  | shape {parameter : Parameter} (same : arguments.length = parameters.length)
      (first : FirstMisfit parameters arguments parameter) :
      Refused parameters arguments (.malformed (.argumentShape parameter.name parameter.isArray))

section Shapes

variable {parameter first : Parameter} {argument given : Argument} {parameters : List Parameter}
  {arguments : List Argument}

/-- An argument suits a parameter exactly if both are arrays or none is. -/
theorem suits_iff : Suits parameter argument ↔ parameter.isArray = argument.isArray := by
  unfold Suits Parameter.isArray
  cases argument <;> cases parameter.dimension <;> simp [Argument.isArray]

/-- All arguments suit exactly if the first one does and the others do. -/
theorem allSuit_cons_iff :
    AllSuit (first :: parameters) (given :: arguments) ↔
      Suits first given ∧ AllSuit parameters arguments := by
  constructor
  · intro all
    exact ⟨all 0 first given rfl rfl, fun position => all (position + 1)⟩
  · rintro ⟨here, behind⟩ position parameter argument
    cases position with
    | zero =>
      rintro ⟨⟩ ⟨⟩
      exact here
    | succ position => exact behind position parameter argument

/-- No misfit is found exactly if all arguments suit. -/
theorem misfit?_eq_none_iff : misfit? parameters arguments = none ↔ AllSuit parameters arguments := by
  fun_induction misfit? parameters arguments with
  | case1 parameter parameters argument arguments same ih =>
    rw [ih, allSuit_cons_iff, and_iff_right (suits_iff.mpr same)]
  | case2 parameter parameters argument arguments different =>
    rw [allSuit_cons_iff]
    exact ⟨nofun, fun both => absurd (suits_iff.mp both.1) different⟩
  | case3 parameters arguments short =>
    refine ⟨fun _ position parameter argument there given => ?_, fun _ => rfl⟩
    cases parameters with
    | nil => cases there
    | cons first parameters =>
      cases arguments with
      | nil => cases given
      | cons other arguments => exact absurd rfl (short first parameters other arguments rfl)

/-- The misfit that is found is the first one. -/
theorem firstMisfit_of_misfit? (found : misfit? parameters arguments = some parameter) :
    FirstMisfit parameters arguments parameter := by
  fun_induction misfit? parameters arguments with
  | case1 first parameters given arguments same ih =>
    obtain ⟨position, argument, there, passed, wrong, before⟩ := ih found
    refine ⟨position + 1, argument, there, passed, wrong, fun earlier below other shape => ?_⟩
    cases earlier with
    | zero =>
      rintro ⟨⟩ ⟨⟩
      exact suits_iff.mpr same
    | succ earlier => exact before earlier (Nat.lt_of_succ_lt_succ below) other shape
  | case2 first parameters given arguments different =>
    cases found
    exact ⟨0, given, rfl, rfl, mt suits_iff.mp different, fun _ below => absurd below (Nat.not_lt_zero _)⟩
  | case3 => cases found

end Shapes

section Runs

variable {kernel : Kernel} {arguments : List Argument}

/-- The check lets arguments pass exactly if they fit. -/
theorem checkArguments_eq_ok_iff :
    kernel.checkArguments arguments = .ok () ↔ Fits kernel.procedure.parameters arguments := by
  unfold checkArguments
  dsimp only
  split
  · next different => exact ⟨nofun, fun fits => absurd fits.count different⟩
  · next same =>
    have count := Decidable.not_not.mp same
    cases found : misfit? kernel.procedure.parameters arguments with
    | none => exact ⟨fun _ => ⟨count, misfit?_eq_none_iff.mp found⟩, fun _ => rfl⟩
    | some parameter =>
      refine ⟨nofun, fun fits => ?_⟩
      cases found.symm.trans (misfit?_eq_none_iff.mpr fits.shapes)

/-- The check refuses arguments by their number first, and then by the first misfit. -/
theorem refused_of_checkArguments {fault : Fault} (refused : kernel.checkArguments arguments = .error fault) :
    Refused kernel.procedure.parameters arguments fault := by
  unfold checkArguments at refused
  dsimp only at refused
  split at refused
  · next different =>
    cases refused
    exact .count different
  · next same =>
    split at refused
    · next parameter found =>
      cases refused
      exact .shape (Decidable.not_not.mp same) (firstMisfit_of_misfit? found)
    · cases refused

/-- With arguments that fit, a run is the runner's. -/
theorem run_of_fits {σ : Type} (runner : Runner σ) (fits : Fits kernel.procedure.parameters arguments) :
    kernel.run runner arguments = runner.run kernel arguments := by
  rw [run, checkArguments_eq_ok_iff.mpr fits]

/-- With other arguments a run ends at once, for the same reason with every runner. -/
theorem run_of_not_fits (misfit : ¬ Fits kernel.procedure.parameters arguments) :
    ∃ fault, Refused kernel.procedure.parameters arguments fault ∧
      ∀ {σ : Type} (runner : Runner σ), kernel.run runner arguments = pure (.error fault) := by
  cases checked : kernel.checkArguments arguments with
  | ok done => exact absurd (checkArguments_eq_ok_iff.mp checked) misfit
  | error fault =>
    refine ⟨fault, refused_of_checkArguments checked, fun runner => ?_⟩
    rw [run, checked]

end Runs

/-- A run calls the runner once if the arguments fit the parameters, and then it has the
runner's result; else it does not call it, leaves its state alone and says why the
arguments are refused. -/
theorem run_reaches_runner {σ : Type} (kernel : Kernel) (runner : Runner σ) (state : σ)
    (arguments : List Argument) :
    let parameters := kernel.procedure.parameters
    let outcome := (kernel.run runner arguments).run state
    let recorded := (kernel.run runner.recording arguments).run (state, [])
    (recorded.1 = outcome.1 ∧ recorded.2.1 = outcome.2) ∧
    (recorded.2.2.length = 1 ↔ Fits parameters arguments) ∧
    (Fits parameters arguments →
      recorded.2.2 = [(kernel, arguments)] ∧ outcome = (runner.run kernel arguments).run state) ∧
    (¬ Fits parameters arguments →
      recorded.2.2 = [] ∧ outcome.2 = state ∧
        ∃ fault, Refused parameters arguments fault ∧ outcome.1 = .error fault) := by
  intro parameters outcome recorded
  by_cases fits : Fits parameters arguments
  · have own : outcome = (runner.run kernel arguments).run state := by
      rw [← run_of_fits runner fits]
    have called : recorded = (outcome.1, outcome.2, [(kernel, arguments)]) := by
      rw [own]
      exact congrArg (·.run (state, [])) (run_of_fits runner.recording fits)
    rw [called]
    exact ⟨⟨rfl, rfl⟩, iff_of_true rfl fits, fun _ => ⟨rfl, own⟩, fun misfit => absurd fits misfit⟩
  · obtain ⟨fault, refused, ended⟩ := run_of_not_fits fits
    have unchanged : outcome = (.error fault, state) := congrArg (·.run state) (ended runner)
    have uncalled : recorded = (.error fault, state, []) :=
      congrArg (·.run (state, [])) (ended runner.recording)
    rw [uncalled, unchanged]
    exact ⟨⟨rfl, rfl⟩, iff_of_false (by simp) fits, fun fitting => absurd fitting fits,
      fun _ => ⟨rfl, rfl, fault, refused, rfl⟩⟩

/-- A kernel that takes a scalar, an array and the number of its elements. -/
def filling : Kernel :=
  let parameters : List Parameter :=
    [{ name := "value", type := NumericType.float 64, direction := .input },
      { name := "out", type := NumericType.float 64, direction := .output, dimension := some "n" },
      { name := "n", type := NumericType.int 64, direction := .input }]
  .ofSource { name := "fill", parameters } "" ⟨.c, .x86⟩

/-- A runner whose clock ticks once in a run. -/
def ticking : Runner Nat where
  run _ arguments clock :=
    let outputs := (arguments.filter (·.isArray)).map (("out", ·))
    (.ok ⟨clock, clock + 1, ⟨0, 1⟩, none, outputs⟩, clock + 1)

/-- The kernel runs with one scalar on each side of an array. A scalar in place of the
array is told by the name of the parameter, though the last argument is wrong too. -/
theorem filling_reaches_runner :
    let one : Argument := .scalar (.ofNat 1)
    let fitting := [one, .array [], one]
    let wrong := [one, one, .array []]
    (Fits filling.procedure.parameters fitting ∧
      ((filling.run ticking.recording fitting).run (5, [])).2.2 = [(filling, fitting)] ∧
      (filling.run ticking fitting).run 5 = (.ok ⟨5, 6, ⟨0, 1⟩, none, [("out", .array [])]⟩, 6)) ∧
    (¬ Fits filling.procedure.parameters wrong ∧
      ((filling.run ticking.recording wrong).run (5, [])).2.2 = [] ∧
      (filling.run ticking wrong).run 5 = (.error (.malformed (.argumentShape "out" true)), 5)) := by
  intro one fitting wrong
  obtain ⟨-, -, reached, -⟩ := run_reaches_runner filling ticking 5 fitting
  obtain ⟨-, -, -, refused⟩ := run_reaches_runner filling ticking 5 wrong
  have fits : Fits filling.procedure.parameters fitting := ⟨rfl, misfit?_eq_none_iff.mp rfl⟩
  have misfit : ¬ Fits filling.procedure.parameters wrong := fun fits =>
    nomatch misfit?_eq_none_iff.mpr fits.shapes
  obtain ⟨uncalled, unchanged, -⟩ := refused misfit
  exact ⟨⟨fits, reached fits⟩, misfit, uncalled, Prod.ext rfl unchanged⟩

end Kernel

end VectorKernel
