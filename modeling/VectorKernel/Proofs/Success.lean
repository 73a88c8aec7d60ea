import VectorKernel.Expr.Evaluate

/-!
# Successful steps

A computation that may stop with a fault succeeds exactly when each of its
steps does, and has the fault of the first step that fails otherwise. The lemmas
of this module take a computation apart, so that no later proof has to open the
sequencing of steps.
-/

namespace VectorKernel

/-- A step followed by others succeeds when both do. -/
theorem bind_eq_ok {ε α β : Type} {step : Except ε α} {next : α → Except ε β} {result : β} :
    (step >>= next) = .ok result ↔ ∃ value, step = .ok value ∧ next value = .ok result := by
  cases step with
  | error fault => exact ⟨nofun, fun ⟨_, absurd, _⟩ => nomatch absurd⟩
  | ok value => exact ⟨fun success => ⟨value, rfl, success⟩, fun ⟨_, rfl, success⟩ => success⟩

/-- A changed result succeeds when the unchanged one does. -/
theorem map_eq_ok {ε α β : Type} {step : Except ε α} {change : α → β} {result : β} :
    step.map change = .ok result ↔ ∃ value, step = .ok value ∧ change value = result := by
  cases step with
  | error fault => exact ⟨nofun, fun ⟨_, absurd, _⟩ => nomatch absurd⟩
  | ok value => simp [Except.map]

/-- Steps have the fault of the first one that fails. -/
theorem bind_eq_error {ε α β : Type} {step : Except ε α} {next : α → Except ε β} {fault : ε} :
    (step >>= next) = .error fault ↔
      step = .error fault ∨ ∃ value, step = .ok value ∧ next value = .error fault := by
  cases step with
  | error other =>
    refine ⟨fun failed => .inl (congrArg _ (Except.error.inj failed)), ?_⟩
    rintro (failed | ⟨_, absurd, _⟩)
    · exact congrArg _ (Except.error.inj failed)
    · cases absurd
  | ok value =>
    refine ⟨fun failed => .inr ⟨value, rfl, failed⟩, ?_⟩
    rintro (absurd | ⟨_, ⟨⟩, failed⟩)
    · cases absurd
    · exact failed

/-- A changed result is there exactly if the unchanged one is. -/
theorem map_isOk_iff {ε α β : Type} {step : Except ε α} {change : α → β} :
    (∃ result, step.map change = .ok result) ↔ ∃ value, step = .ok value := by
  cases step <;> simp [Except.map]

/-- A changed result fails when the unchanged one does. -/
theorem map_eq_error {ε α β : Type} {step : Except ε α} {change : α → β} {fault : ε} :
    step.map change = .error fault ↔ step = .error fault := by
  cases step <;> simp [Except.map]

/-- Two ways to go on after a step agree if they agree on what it gives. -/
theorem bind_congr_ok {ε α β : Type} {step : Except ε α} {next other : α → Except ε β}
    (agree : ∀ value, step = .ok value → next value = other value) :
    (step >>= next) = (step >>= other) := by
  cases step with
  | error fault => rfl
  | ok value => exact agree value rfl

/-- A change of a result can be left to what comes next. -/
theorem map_bind {ε α β γ : Type} {step : Except ε α} {change : α → β} {next : β → Except ε γ} :
    (step.map change >>= next) = (step >>= fun value => next (change value)) := by
  cases step <;> rfl

theorem pure_eq_ok {ε α : Type} {value result : α} :
    (pure value : Except ε α) = .ok result ↔ value = result :=
  Except.ok.injEq value result ▸ Iff.rfl

/-- Steps that change a state: the next one starts from the state that the first
one leaves, unless that one failed. -/
theorem run_bind {ε σ α β : Type} (step : ExceptT ε (StateM σ) α) (next : α → ExceptT ε (StateM σ) β)
    (state : σ) :
    (step >>= next).run.run state =
      match step.run.run state with
      | (.ok value, after) => (next value).run.run after
      | (.error fault, after) => (.error fault, after) := by
  rw [ExceptT.run_bind, StateT.run_bind]
  rcases step.run.run state with ⟨_ | _, after⟩ <;> rfl

namespace Context

/-- An instruction is there exactly when the catalog names it. -/
theorem instruction_eq_ok {context : Context} {operation : Intrinsic} {type : NumericType}
    {name : String} :
    context.instruction operation type = .ok name ↔
      context.instruction? operation type = some name := by
  unfold instruction
  cases context.instruction? operation type <;> simp

/-- An instruction that the catalog does not name is the fault. -/
theorem instruction_eq_error {context : Context} {operation : Intrinsic} {type : NumericType}
    {fault : Fault} :
    context.instruction operation type = .error fault ↔
      context.instruction? operation type = none ∧
        fault = .noInstruction operation type.toSignature context.architecture := by
  unfold instruction
  cases context.instruction? operation type <;> simp [eq_comm]

end Context

section Results

variable {context : Context}

/-- A text that was given a type is all that there is to a result. -/
theorem computed_of_map {step : Except Fault String} {type : DataType} {operand : Operand}
    (success : step.map (Operand.computed · type) = .ok operand) :
    ∃ text, operand = .computed text type := by
  obtain ⟨text, -, rfl⟩ := map_eq_ok.mp success
  exact ⟨text, rfl⟩

/-- An operation has the type that the rules give it. -/
theorem computed_of_binary {operator : Operator} {left right result : Operand}
    (success : Lowering.binary context operator left right = .ok result) :
    ∃ text type effective, context.rules.transition left.type right.type operator = .ok (type, effective) ∧
      result = .computed text type := by
  obtain ⟨⟨type, effective⟩, typed, rest⟩ := bind_eq_ok.mp success
  obtain ⟨text, -, last⟩ := bind_eq_ok.mp rest
  exact ⟨text, type, effective, typed, (pure_eq_ok.mp last).symm⟩

/-- A broadcast gives a computed operand of its type. -/
theorem computed_of_broadcast {source : Evaluated} {type : NumericType} {operand : Operand}
    (success : context.broadcast source type = .ok operand) : ∃ text, operand = .computed text type := by
  cases source with
  | typed _ => exact computed_of_map success
  | text _ => exact computed_of_map success

/-- A masked store gives a computed operand of the type that was stored. -/
theorem computed_of_maskedStore {destination source operand : Operand} {mask : List Bool}
    (success : context.maskedStore destination source mask = .ok operand) :
    ∃ text, operand = .computed text source.type := by
  obtain ⟨text, type, name, direction, constant, alignment, literal⟩ := source
  cases type with
  | numeric type => exact computed_of_map success
  | handle name => cases success

end Results

end VectorKernel
