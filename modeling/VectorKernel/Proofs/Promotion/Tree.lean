import VectorKernel.Proofs.Promotion.Join

/-!
# Types of arithmetic trees

`Expr.Combines` relates an expression of arithmetic, comparisons and logic to
the types of its leaves, from left to right. `materialize_joins_leaves` says that
the type of such an expression is the join of these types, whatever the shape of
the expression and the order of its leaves are. C may still lack an instruction;
in the other languages an expression fails only for leaves whose lanes do not fit,
however far apart they stand.
-/

namespace VectorKernel

namespace Operator

/-- Whether the operator stands between two sides whose types meet: arithmetic,
comparisons and logic. -/
def combinesSides : Operator → Bool
  | .add | .sub | .mul | .div | .eq | .ne | .lt | .le | .gt | .ge | .and | .or => true
  | _ => false

/-- Whether the operator stands before a side whose type it keeps: signs and
negation. -/
def keepsSide : Operator → Bool
  | .neg | .plus | .not => true
  | _ => false

end Operator

namespace Expr

/-- Expressions of arithmetic, comparisons and logic over numeric operands and
constants, with the types of these leaves from left to right. -/
inductive Combines : Expr → List NumericType → Prop where
  | value {operand : Operand} {type : NumericType} (typed : operand.type = .numeric type)
      (positive : 0 < type.lanes) : Combines (.value operand) [type]
  | literal {constant : Literal} {type : NumericType} (typed : constant.type? = some type)
      (finite : constant.nonFinite? = none) : Combines (.literal constant) [type]
  | binary {operator : Operator} {left right : Expr} {leftTypes rightTypes : List NumericType}
      (combines : operator.combinesSides = true) (leftCombines : Combines left leftTypes)
      (rightCombines : Combines right rightTypes) :
      Combines (.binary operator left right) (leftTypes ++ rightTypes)
  | unary {operator : Operator} {right : Expr} {types : List NumericType}
      (keeps : operator.keepsSide = true) (rightCombines : Combines right types) :
      Combines (.unary operator right) types

end Expr

namespace Literal

/-- A constant is a scalar. -/
theorem lanes_of_type? {constant : Literal} {type : NumericType} (typed : constant.type? = some type) :
    type.lanes = 1 := by
  cases constant with
  | int value =>
    obtain rfl := Option.some.inj typed
    split <;> rfl
  | float value =>
    obtain rfl := Option.some.inj typed
    rfl
  | raw text => cases typed

/-- A finite literal with a type is a constant of that type. -/
theorem evaluate_eq {constant : Literal} {type : NumericType} (typed : constant.type? = some type)
    (finite : constant.nonFinite? = none) :
    constant.evaluate = .ok (.typed (.constantOf constant.text type)) := by
  simp [evaluate, finite, operand?, typed]

end Literal

namespace Context

variable {context : Context} {operator : Operator}

/-- Without rules, an operator between two sides is typed by promotion, which is
its only failure outside C. -/
theorem apply_combining (builtin : context.rules = .empty) (combines : operator.combinesSides = true)
    {left right : Operand} {leftType rightType : NumericType} (leftTyped : left.type = leftType)
    (rightTyped : right.type = rightType) :
    context.apply operator (some (.typed left)) (some (.typed right)) =
      match leftType.promote rightType with
      | some type =>
        (Lowering.binaryText context operator left right type).map fun text =>
          .typed (.computed text type)
      | none => .error (.noTransition leftType rightType operator) := by
  have notIndex : operator ≠ .index := by rintro rfl; cases combines
  have notAssign : operator ≠ .assign := by rintro rfl; cases combines
  have transition := Registry.transition_empty notIndex notAssign leftType rightType
  rw [← builtin, ← leftTyped, ← rightTyped] at transition
  change (Lowering.binary context operator left right).map Evaluated.typed = _
  cases promoted : leftType.promote rightType with
  | none =>
    rw [promoted] at transition
    rw [Lowering.binary, transition, ← leftTyped, ← rightTyped]
    rfl
  | some type =>
    rw [promoted] at transition
    rw [Lowering.binary_eq transition]
    dsimp only
    cases Lowering.binaryText context operator left right type <;> rfl

/-- An operator that keeps its side keeps the type of that side. -/
theorem apply_keeping (context : Context) (keeps : operator.keepsSide = true) (right : Operand) :
    ∃ text, context.apply operator none (some (.typed right)) =
      .ok (.typed (.computed text right.type)) := by
  cases operator with
  | neg | plus | not => exact ⟨_, rfl⟩
  | _ => cases keeps

/-- Outside C, operators between two sides have a plain text. -/
theorem binaryText_combining (combines : operator.combinesSides = true)
    (notC : context.language ≠ .c) (left right : Operand) (type : NumericType) :
    ∃ text, Lowering.binaryText context operator left right type = .ok text := by
  have notAssign : operator ≠ .assign := by rintro rfl; cases combines
  simp only [Lowering.binaryText, if_neg notAssign, notC, decide_false, Bool.false_and]
  cases operator.intrinsic? <;> exact ⟨_, rfl⟩

end Context

namespace Expr

open NumericType (IsJoin LanesAgree promoteAll)

variable {context : Context} {expression : Expr} {types : List NumericType}

/-- The value of an expression whose leaves meet in the type of the value. -/
def JoinsLeaves (types : List NumericType) (value : Evaluated) : Prop :=
  ∃ operand type, value = .typed operand ∧ operand.type = .numeric type ∧ IsJoin types type

/-- An expression that evaluates has the join of its leaves as type. -/
theorem joinsLeaves_of_evaluate (builtin : context.rules = .empty)
    (combines : expression.Combines types) {value : Evaluated}
    (success : expression.evaluate context = .ok value) : JoinsLeaves types value := by
  induction combines generalizing value with
  | @value operand type typed positive =>
    obtain rfl := Except.ok.inj success
    exact ⟨operand, type, rfl, typed, .single positive⟩
  | @literal constant type typed finite =>
    rw [evaluate, Literal.evaluate_eq typed finite] at success
    obtain rfl := Except.ok.inj success
    have positive : 0 < type.lanes := by rw [Literal.lanes_of_type? typed]; exact Nat.one_pos
    exact ⟨_, type, rfl, rfl, .single positive⟩
  | binary combines _ _ leftJoins rightJoins =>
    simp only [evaluate, bind_eq_ok] at success
    obtain ⟨_, leftOk, _, rightOk, applied⟩ := success
    obtain ⟨left, leftType, rfl, leftTyped, leftJoined⟩ := leftJoins leftOk
    obtain ⟨right, rightType, rfl, rightTyped, rightJoined⟩ := rightJoins rightOk
    rw [Context.apply_combining builtin combines leftTyped rightTyped] at applied
    cases promoted : leftType.promote rightType with
    | none =>
      rw [promoted] at applied
      cases applied
    | some type =>
      rw [promoted] at applied
      obtain ⟨text, -, rfl⟩ := map_eq_ok.mp applied
      exact ⟨_, type, rfl, rfl, leftJoined.promote rightJoined promoted⟩
  | unary keeps _ rightJoins =>
    simp only [evaluate, bind_eq_ok] at success
    obtain ⟨_, rightOk, applied⟩ := success
    obtain ⟨right, rightType, rfl, rightTyped, rightJoined⟩ := rightJoins rightOk
    obtain ⟨text, kept⟩ := Context.apply_keeping context keeps right
    obtain rfl := Except.ok.inj (kept.symm.trans applied)
    exact ⟨_, rightType, rfl, rightTyped, rightJoined⟩

/-- Outside C, an expression evaluates or two of its leaves do not fit. -/
theorem evaluates_or_conflicts (builtin : context.rules = .empty) (notC : context.language ≠ .c)
    (combines : expression.Combines types) :
    (∃ value, expression.evaluate context = .ok value) ∨
      ¬ LanesAgree types ∧ ∃ left right operator,
        expression.evaluate context = .error (.noTransition left right operator) := by
  induction combines with
  | value => exact .inl ⟨_, rfl⟩
  | literal typed finite => exact .inl ⟨_, Literal.evaluate_eq typed finite⟩
  | @binary operator left right leftTypes rightTypes combines leftCombines rightCombines leftIH rightIH =>
    rcases leftIH with ⟨leftValue, leftOk⟩ | ⟨conflict, faults⟩
    case inr =>
      -- A conflict on the left side stops the whole before the right side is looked at.
      obtain ⟨first, second, inner, failed⟩ := faults
      refine .inr ⟨fun agree => conflict (agree.of_subset (List.subset_append_left ..)),
        first, second, inner, ?_⟩
      rw [evaluate, failed]
      rfl
    rcases rightIH with ⟨rightValue, rightOk⟩ | ⟨conflict, first, second, inner, failed⟩
    case inr =>
      refine .inr ⟨fun agree => conflict (agree.of_subset (List.subset_append_right ..)),
        first, second, inner, ?_⟩
      rw [evaluate, leftOk, failed]
      rfl
    obtain ⟨a, leftType, rfl, leftTyped, leftJoined⟩ :=
      joinsLeaves_of_evaluate builtin leftCombines leftOk
    obtain ⟨b, rightType, rfl, rightTyped, rightJoined⟩ :=
      joinsLeaves_of_evaluate builtin rightCombines rightOk
    have applied : (Expr.binary operator left right).evaluate context =
        context.apply operator (some (.typed a)) (some (.typed b)) := by
      rw [evaluate, leftOk, rightOk]
      rfl
    rw [applied, Context.apply_combining builtin combines leftTyped rightTyped]
    have defined := NumericType.isSome_promote_iff leftJoined rightJoined
    cases promoted : leftType.promote rightType with
    | some type =>
      obtain ⟨text, written⟩ := Context.binaryText_combining combines notC a b type
      exact .inl ⟨_, by simp only [written]; rfl⟩
    | none =>
      rw [promoted] at defined
      exact .inr ⟨fun agree => absurd (defined.mpr agree) nofun, _, _, _, rfl⟩
  | @unary operator right types keeps rightCombines rightIH =>
    rcases rightIH with ⟨rightValue, rightOk⟩ | ⟨conflict, first, second, inner, failed⟩
    · obtain ⟨operand, type, rfl, -, -⟩ := joinsLeaves_of_evaluate builtin rightCombines rightOk
      obtain ⟨text, kept⟩ := Context.apply_keeping context keeps operand
      refine .inl ⟨.typed (.computed text operand.type), ?_⟩
      rw [evaluate, rightOk]
      exact kept
    · refine .inr ⟨conflict, first, second, inner, ?_⟩
      rw [evaluate, failed]
      rfl

/-- A typed value is its own materialization. -/
theorem materialize_of_evaluate {operand : Operand}
    (success : expression.evaluate context = .ok (.typed operand)) :
    expression.materialize context = .ok operand := by
  rw [materialize, success]
  rfl

/-- Without rules, an expression of arithmetic, comparisons and logic that has a
value has the promotion of its leaves as type, taken in any order and up to
alignment. Outside C it has one exactly when the lanes of its leaves fit, and the
fault is that of an operation whose sides have no common type. -/
theorem materialize_joins_leaves (builtin : context.rules = .empty)
    (combines : expression.Combines types) :
    (∀ operand, expression.materialize context = .ok operand →
      ∃ type : NumericType, operand.type = .numeric type ∧
        ∀ order : List NumericType, order.Perm types →
          ∃ promoted, promoteAll order = some promoted ∧
            promoted.toSignature = type.toSignature) ∧
    (context.language ≠ .c →
      ((∃ operand, expression.materialize context = .ok operand) ↔ LanesAgree types) ∧
      (¬ LanesAgree types → ∃ left right operator,
        expression.materialize context = .error (.noTransition left right operator))) := by
  have joined : ∀ operand, expression.materialize context = .ok operand →
      ∃ type : NumericType, operand.type = .numeric type ∧ IsJoin types type := by
    intro operand success
    obtain ⟨value, evaluated, typed⟩ := bind_eq_ok.mp success
    obtain ⟨realized, type, rfl, hasType, isJoin⟩ := joinsLeaves_of_evaluate builtin combines evaluated
    obtain rfl := pure_eq_ok.mp typed
    exact ⟨type, hasType, isJoin⟩
  refine ⟨fun operand success => ?_, fun notC => ?_⟩
  · obtain ⟨type, hasType, isJoin⟩ := joined operand success
    exact ⟨type, hasType, fun order perm => isJoin.promoteAll_of_perm perm⟩
  · have agree_of_success : (∃ operand, expression.materialize context = .ok operand) →
        LanesAgree types := by
      rintro ⟨operand, success⟩
      obtain ⟨type, -, isJoin⟩ := joined operand success
      exact isJoin.lanesAgree
    rcases evaluates_or_conflicts builtin notC combines with
      ⟨value, evaluated⟩ | ⟨conflict, left, right, operator, failed⟩
    · obtain ⟨operand, type, rfl, -, isJoin⟩ := joinsLeaves_of_evaluate builtin combines evaluated
      have success := materialize_of_evaluate evaluated
      exact ⟨⟨agree_of_success, fun _ => ⟨operand, success⟩⟩, absurd isJoin.lanesAgree⟩
    · have fault : expression.materialize context = .error (.noTransition left right operator) := by
        rw [materialize, failed]
        rfl
      exact ⟨⟨agree_of_success, fun agree => absurd agree conflict⟩,
        fun _ => ⟨left, right, operator, fault⟩⟩

/-- `a + 3 < -b`, where `a` is a vector of four bytes. -/
def byteComparison (type : NumericType) : Expr :=
  .binary .lt (.binary .add (.value (.named "a" ((NumericType.uint 8).vector 4))) (.literal (.int 3)))
    (.unary .neg (.value (.named "b" type)))

/-- A comparison of bytes combines the types of its three leaves. -/
theorem byteComparison_combines (type : NumericType) (positive : 0 < type.lanes) :
    (byteComparison type).Combines [(NumericType.uint 8).vector 4, .int 32, type] :=
  .binary rfl (.binary rfl (.value rfl (by decide)) (.literal rfl rfl)) (.unary rfl (.value rfl positive))

/-- With a half-precision scalar the comparison has four lanes of single
precision, since the constant is wide and the scalar floating. With eight lanes
against four it has no type, though a scalar constant stands between them. -/
theorem byteComparison_joins_leaves :
    (∃ operand,
      (byteComparison (.float 16)).materialize { target := ⟨.cuda, .generic⟩ } = .ok operand ∧
      operand.type = .numeric ((NumericType.float 32).vector 4) ∧
      ∃ promoted, promoteAll [.float 16, (NumericType.uint 8).vector 4, .int 32] = some promoted ∧
        promoted.toSignature = ⟨.float, 32, 4⟩) ∧
    ∃ left right operator,
      (byteComparison ((NumericType.float 16).vector 8)).materialize { target := ⟨.fortran, .x86⟩ } =
        .error (.noTransition left right operator) := by
  have joins := @materialize_joins_leaves { target := ⟨.cuda, .generic⟩ } _ _ rfl
    (byteComparison_combines (.float 16) (by decide))
  have conflicts := @materialize_joins_leaves { target := ⟨.fortran, .x86⟩ } _ _ rfl
    (byteComparison_combines ((NumericType.float 16).vector 8) (by decide))
  have success : (byteComparison (.float 16)).materialize { target := ⟨.cuda, .generic⟩ } =
      .ok (.computed "a + 3 <  -(b)" ((NumericType.float 32).vector 4)) := rfl
  obtain ⟨type, hasType, promotes⟩ := joins.1 _ success
  obtain rfl := DataType.numeric.inj hasType
  refine ⟨⟨_, success, rfl, promotes _ ?_⟩, (conflicts.2 (by decide)).2 (by decide)⟩
  decide

end Expr

end VectorKernel
