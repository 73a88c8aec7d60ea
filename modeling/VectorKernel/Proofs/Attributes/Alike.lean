import VectorKernel.Proofs.Success

/-!
# Differences in attributes

The alignment of a type and the name, direction and constant flag of an operand are
attributes that no text shows. `Alike` relates types, operands, rules and trees that
differ in these attributes only, and `Lockstep` relates two computations that both
succeed with alike values or both fail with the same report. Alike rules type alike
sides in lockstep.
-/

namespace VectorKernel

/-- Numeric types that differ at most in their alignment. -/
inductive NumericType.Alike : NumericType → NumericType → Prop where
  | mk (signature : Signature) (alignment other : Nat) : Alike ⟨signature, alignment⟩ ⟨signature, other⟩

/-- Types that differ at most in their alignment. -/
inductive DataType.Alike : DataType → DataType → Prop where
  | numeric {type other : NumericType} (alike : type.Alike other) : Alike (.numeric type) (.numeric other)
  | handle (name : String) : Alike (.handle name) (.handle name)

/-- Operands that differ at most in their name, direction and constant flag and in
the alignment of their types. The alignment that the storage declares is the same. -/
inductive Operand.Alike : Operand → Operand → Prop where
  | mk (text : String) {type other : DataType} (types : type.Alike other) (alignment : Option Nat)
      (literal : Bool) (name otherName : Option String) (direction otherDirection : Option Direction)
      (constant otherConstant : Bool) :
      Alike { text, type, name, direction, constant, alignment, literal }
        { text, type := other, name := otherName, direction := otherDirection,
          constant := otherConstant, alignment, literal }

/-- Values that are the same plain text or alike operands. -/
inductive Evaluated.Alike : Evaluated → Evaluated → Prop where
  | typed {operand other : Operand} (alike : operand.Alike other) : Alike (.typed operand) (.typed other)
  | text (plain : String) : Alike (.text plain) (.text plain)

/-- Outcomes that take the type of the same side, or alike types of their own, and
put the same operator in place of the given one. -/
inductive Outcome.Alike : Outcome → Outcome → Prop where
  | left (substitute : Option Operator) :
      Alike { Outcome.left with substitute } { Outcome.left with substitute }
  | right (substitute : Option Operator) :
      Alike { Outcome.right with substitute } { Outcome.right with substitute }
  | fixed {type other : DataType} (alike : type.Alike other) (substitute : Option Operator) :
      Alike { Outcome.fixed type with substitute } { Outcome.fixed other with substitute }

/-- Rules with alike outcomes for the same operators. -/
structure Rule.Alike (rule other : Rule) : Prop where
  operators : ∀ operator,
    Option.Rel Outcome.Alike (rule.operators.find? operator) (other.operators.find? operator)
  fallback : Option.Rel Outcome.Alike rule.fallback other.fallback

/-- Registries with alike rules for the same classes. -/
def Registry.Alike (registry other : Registry) : Prop :=
  ∀ classes, Option.Rel Rule.Alike (registry.rules.find? classes) (other.rules.find? classes)

theorem Registry.Alike.empty : Registry.empty.Alike Registry.empty :=
  fun _ => .none

/-- Registries stay alike when alike rules are entered for the same classes. -/
theorem Registry.Alike.register {registry other : Registry} (alike : registry.Alike other)
    (left right : TypeClass) {rule rule' : Rule} (rules : rule.Alike rule') :
    (registry.register left right rule).Alike (other.register left right rule') := by
  intro classes
  simp only [Registry.register, Table.find?_insert]
  split
  · exact .some rules
  · exact alike classes

/-- Trees of the same shape over alike operands and types. -/
inductive Expr.Alike : Expr → Expr → Prop where
  | literal (constant : Literal) : Alike (.literal constant) (.literal constant)
  | value {operand other : Operand} (alike : operand.Alike other) : Alike (.value operand) (.value other)
  | binary (operator : Operator) {left left' right right' : Expr} (lefts : Alike left left')
      (rights : Alike right right') : Alike (.binary operator left right) (.binary operator left' right')
  | unary (operator : Operator) {right right' : Expr} (rights : Alike right right') :
      Alike (.unary operator right) (.unary operator right')
  | dangling (operator : Operator) {left left' : Expr} (lefts : Alike left left') :
      Alike (.dangling operator left) (.dangling operator left')
  | bare (operator : Operator) : Alike (.bare operator) (.bare operator)
  | load {source source' : Expr} {type type' : NumericType} (sources : Alike source source')
      (types : type.Alike type') : Alike (.load source type) (.load source' type')
  | store {destination destination' source source' : Expr}
      (destinations : Alike destination destination') (sources : Alike source source') :
      Alike (.store destination source) (.store destination' source')
  | broadcast {source source' : Expr} {type type' : NumericType} (sources : Alike source source')
      (types : type.Alike type') : Alike (.broadcast source type) (.broadcast source' type')
  | ofLanes {lanes lanes' : List Expr} {type type' : NumericType}
      (sameLength : lanes.length = lanes'.length)
      (pairs : ∀ {lane lane'}, (lane, lane') ∈ lanes.zip lanes' → Alike lane lane')
      (types : type.Alike type') : Alike (.ofLanes lanes type) (.ofLanes lanes' type')
  | maskedLoad {source source' : Expr} (mask : List Bool) {type type' : NumericType}
      (sources : Alike source source') (types : type.Alike type') :
      Alike (.maskedLoad source mask type) (.maskedLoad source' mask type')
  | maskedStore {destination destination' source source' : Expr} (mask : List Bool)
      (destinations : Alike destination destination') (sources : Alike source source') :
      Alike (.maskedStore destination source mask) (.maskedStore destination' source' mask)
  | fma {a a' b b' c c' : Expr} (first : Alike a a') (second : Alike b b') (third : Alike c c') :
      Alike (.fma a b c) (.fma a' b' c')
  | conditional {condition condition' positive positive' negative negative' : Expr}
      (conditions : Alike condition condition') (positives : Alike positive positive')
      (negatives : Alike negative negative') :
      Alike (.conditional condition positive negative) (.conditional condition' positive' negative')

/-- What a fault tells: its kind and its wording. -/
def Fault.report (fault : Fault) : Nat × String :=
  (fault.ctorIdx, fault.message)

/-- Two computations that both succeed, with related values, or both fail, with the
same report. -/
inductive Lockstep {α β : Type} (related : α → β → Prop) : Except Fault α → Except Fault β → Prop where
  | ok {value : α} {other : β} (alike : related value other) : Lockstep related (.ok value) (.ok other)
  | error {fault other : Fault} (reported : fault.report = other.report) :
      Lockstep related (.error fault) (.error other)

namespace Lockstep

variable {α β γ δ : Type} {related : α → β → Prop} {next : γ → δ → Prop}

/-- Computations stay in lockstep through their steps: the rest runs on related values. -/
theorem bind {run : Except Fault α} {other : Except Fault β} {rest : α → Except Fault γ}
    {restOther : β → Except Fault δ} (first : Lockstep related run other)
    (after : ∀ value value', related value value' → Lockstep next (rest value) (restOther value')) :
    Lockstep next (run >>= rest) (other >>= restOther) := by
  cases first with
  | ok alike => exact after _ _ alike
  | error reported => exact .error reported

theorem refl {related : α → α → Prop} (reflexive : ∀ value, related value value) (run : Except Fault α) :
    Lockstep related run run := by
  cases run with
  | ok value => exact .ok (reflexive value)
  | error fault => exact .error rfl

/-- A step that is the same in both computations. -/
theorem bind_fixed {step : Except Fault α} {rest : α → Except Fault γ} {restOther : α → Except Fault δ}
    (after : ∀ value, Lockstep next (rest value) (restOther value)) :
    Lockstep next (step >>= rest) (step >>= restOther) := by
  cases step with
  | ok value => exact after value
  | error fault => exact .error rfl

/-- Lockstep carries over to what is made of the results. -/
theorem map {run : Except Fault α} {other : Except Fault β} {change : α → γ} {changeOther : β → δ}
    (lockstep : Lockstep related run other)
    (changes : ∀ value value', related value value' → next (change value) (changeOther value')) :
    Lockstep next (run.map change) (other.map changeOther) := by
  cases lockstep with
  | ok alike => exact .ok (changes _ _ alike)
  | error reported => exact .error reported

/-- Both computations take the same branch. -/
theorem branch {condition : Prop} [Decidable condition] {yes no : Except Fault α}
    {yesOther noOther : Except Fault β} (whenTrue : Lockstep related yes yesOther)
    (whenFalse : Lockstep related no noOther) :
    Lockstep related (if condition then yes else no) (if condition then yesOther else noOther) := by
  split
  · exact whenTrue
  · exact whenFalse

/-- The same text with alike types. -/
theorem computed {run other : Except Fault String} (same : other = run) {type type' : DataType}
    (types : type.Alike type') :
    Lockstep Operand.Alike (run.map (Operand.computed · type)) (other.map (Operand.computed · type')) := by
  rw [same]
  cases run with
  | ok text => exact .ok (.mk text types ..)
  | error fault => exact .error rfl

/-- Alike operands are alike values. -/
theorem typed {run other : Except Fault Operand} (lockstep : Lockstep Operand.Alike run other) :
    Lockstep Evaluated.Alike (run.map .typed) (other.map .typed) :=
  lockstep.map fun _ _ alike => .typed alike

end Lockstep

theorem DataType.Alike.refl (type : DataType) : type.Alike type := by
  cases type with
  | numeric type => exact .numeric (.mk ..)
  | handle name => exact .handle name

/-- Names of types do not show alignments. -/
theorem DataType.Alike.name {type other : DataType} (alike : type.Alike other) :
    other.name = type.name := by
  rcases alike with ⟨⟨⟩⟩ | ⟨name⟩ <;> rfl

/-- Rules are looked up by classes, which do not show alignments. -/
theorem DataType.Alike.typeClass {type other : DataType} (alike : type.Alike other) :
    other.typeClass = type.typeClass := by
  rcases alike with ⟨⟨⟩⟩ | ⟨name⟩ <;> rfl

namespace NumericType

variable {left left' right right' : NumericType}

/-- A choice between types, made by the same condition, keeps them alike. -/
theorem Alike.branch {condition : Prop} [Decidable condition] (whenTrue : left.Alike left')
    (whenFalse : right.Alike right') :
    (if condition then left else right).Alike (if condition then left' else right') := by
  split
  · exact whenTrue
  · exact whenFalse

/-- A vector type is made with an alignment of its own, whatever the element has. -/
theorem Alike.vector (alike : left.Alike left') (lanes : Nat) : left'.vector lanes = left.vector lanes := by
  cases alike
  rfl

/-- Alike types have equally many lanes. -/
theorem Alike.lanes (alike : left.Alike left') : left'.lanes = left.lanes := by
  cases alike
  rfl

/-- Promotion compares kinds and widths, so alike types promote to alike types. -/
theorem Alike.promotedElement (lefts : left.Alike left') (rights : right.Alike right') :
    (left.promotedElement right).Alike (left'.promotedElement right') := by
  cases lefts with
  | mk leftSignature _ _ =>
    cases rights with
    | mk rightSignature _ _ =>
      dsimp only [NumericType.promotedElement, floatingOver]
      cases leftSignature.kind.isFloat <;> cases rightSignature.kind.isFloat
      · exact .branch (.mk ..) (.branch (.mk ..) (.branch (.mk ..) (.mk ..)))
      · exact .branch (.mk ..) (.mk ..)
      · exact .branch (.mk ..) (.mk ..)
      · exact .branch (.mk ..) (.branch (.mk ..) (.branch (.mk ..) (.mk ..)))

/-- A promoted type is naturally aligned, whatever the alignments of its sides. -/
theorem Alike.promote (lefts : left.Alike left') (rights : right.Alike right') :
    left'.promote right' = left.promote right := by
  have elements := lefts.promotedElement rights
  simp only [NumericType.promote, lanesCompatible, elements.vector, lefts.lanes, rights.lanes]
  rfl

end NumericType

namespace Operand.Alike

variable {operand other : Operand} (alike : operand.Alike other)

include alike

/-- Alike operands have alike types. -/
theorem type : operand.type.Alike other.type := by
  cases alike
  assumption

/-- Alike operands have the same text. -/
theorem text : other.text = operand.text := by
  cases alike
  rfl

end Operand.Alike

namespace Evaluated.Alike

variable {value value' : Evaluated} (alike : value.Alike value')

include alike

/-- Alike values are written as the same text. -/
theorem render : value'.render = value.render := by
  rcases alike with alike | plain
  · exact alike.text
  · rfl

/-- Either both values have a type, and the types are alike, or none has. -/
theorem type? : Option.Rel DataType.Alike value.type? value'.type? := by
  rcases alike with alike | plain
  · exact .some alike.type
  · exact .none

/-- An operand is found in both values or in none, and the faults are the same. -/
theorem require (role : Role) : Lockstep Operand.Alike (value.require role) (value'.require role) := by
  rcases alike with alike | plain
  · exact .ok alike
  · exact .error rfl

omit alike in
theorem refl (value : Evaluated) : value.Alike value := by
  cases value with
  | typed operand => exact .typed (.mk operand.text (.refl operand.type) ..)
  | text plain => exact .text plain

omit alike in
/-- Values of the same text are alike if their types are. -/
theorem ofText (text : String) {type type' : Option DataType}
    (types : Option.Rel DataType.Alike type type') :
    (Evaluated.ofText text type).Alike (Evaluated.ofText text type') := by
  rcases types with types | _
  · exact .typed (.mk text types ..)
  · exact .text text

end Evaluated.Alike

namespace Registry

variable {left left' right right' : DataType}

/-- The fault of an operation without a type names the signatures of its sides. -/
theorem report_noTransition (lefts : left.Alike left') (rights : right.Alike right')
    (operator : Operator) :
    (Fault.noTransition left right operator).report = (Fault.noTransition left' right' operator).report := by
  have worded (left right : DataType) : (Fault.noTransition left right operator).message =
      s!"no type transition from {left.name} and {right.name} for `{operator.name}`" := rfl
  refine Prod.ext rfl ?_
  rw [Fault.report, Fault.report, worded, worded, lefts.name, rights.name]

/-- The built-in rules type alike sides alike, and reject them with the same fault. -/
theorem builtinTransition_lockstep (lefts : left.Alike left') (rights : right.Alike right')
    (operator : Operator) :
    Lockstep DataType.Alike (builtinTransition left right operator)
      (builtinTransition left' right' operator) := by
  have refused := report_noTransition lefts rights operator
  rcases lefts with lefts | leftName <;> rcases rights with rights | rightName
  case numeric.numeric =>
    simp only [builtinTransition, NumericType.lanesCompatible, NumericType.scalar, lefts.vector,
      lefts.lanes, rights.lanes, lefts.promote rights]
    refine .branch (.ok (.refl _)) (.branch (.ok (.refl _)) ?_)
    split
    · exact .ok (.refl _)
    · exact .error refused
  all_goals exact .error refused

/-- Alike rules give an operator alike outcomes, by its own row or by the fallback. -/
theorem outcome?_alike {rule other : Rule} (alike : rule.Alike other) (operator : Operator) :
    Option.Rel Outcome.Alike (rule.outcome? operator) (other.outcome? operator) := by
  have own := alike.operators operator
  unfold Rule.outcome?
  generalize rule.operators.find? operator = outcome, other.operators.find? operator = outcome' at own ⊢
  cases own with
  | some outcomes => exact .some outcomes
  | none => exact alike.fallback

/-- Alike registries give an operator alike outcomes on the same classes. -/
theorem outcomes_alike {registry other : Registry} (alike : registry.Alike other)
    (classes : TypeClass × TypeClass) (operator : Operator) :
    Option.Rel Outcome.Alike ((registry.rules.find? classes).bind (·.outcome? operator))
      ((other.rules.find? classes).bind (·.outcome? operator)) := by
  have rules := alike classes
  generalize registry.rules.find? classes = rule, other.rules.find? classes = rule' at rules ⊢
  cases rules with
  | some rules => exact outcome?_alike rules operator
  | none => exact .none

/-- Alike rules give alike types, and the same operator. -/
theorem transition_lockstep {registry other : Registry} (alike : registry.Alike other)
    (lefts : left.Alike left') (rights : right.Alike right') (operator : Operator) :
    Lockstep (fun result result' => result.1.Alike result'.1 ∧ result'.2 = result.2)
      (registry.transition left right operator) (other.transition left' right' operator) := by
  -- Alike sides have the same classes, so both registries are asked for the same rule.
  have outcomes := outcomes_alike alike (left.typeClass, right.typeClass) operator
  simp only [transition, lefts.typeClass, rights.typeClass]
  generalize Option.bind (registry.rules.find? _) _ = outcome,
    Option.bind (other.rules.find? _) _ = outcome' at outcomes ⊢
  rcases outcomes with outcomes | _
  · cases outcomes with
    | left substitute => exact .ok ⟨lefts, rfl⟩
    | right substitute => exact .ok ⟨rights, rfl⟩
    | fixed types substitute => exact .ok ⟨types, rfl⟩
  · exact (builtinTransition_lockstep lefts rights operator).map fun _ _ types => ⟨types, rfl⟩

end Registry

end VectorKernel
