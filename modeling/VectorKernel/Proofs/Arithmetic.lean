import Mathlib.Algebra.Ring.Basic
import VectorKernel.Lowering.Arithmetic
import VectorKernel.Proofs.Success

/-!
# Arithmetic

The four operators of arithmetic, what they compute in a ring, and the type
that the built-in laws give their results. Division is a parameter: nothing
here depends on what a quotient is.
-/

namespace VectorKernel

/-- The operators of arithmetic. -/
inductive Arithmetic where
  | add
  | sub
  | mul
  | div
  deriving DecidableEq, Repr

namespace Arithmetic

/-- The operator of expressions for an operation of arithmetic. -/
def operator : Arithmetic → Operator
  | .add => .add
  | .sub => .sub
  | .mul => .mul
  | .div => .div

/-- The primitive operation that does an operation of arithmetic on vectors. -/
def intrinsic : Arithmetic → Intrinsic
  | .add => .add
  | .sub => .sub
  | .mul => .mul
  | .div => .div

/-- The layer of an operation in the grammar of C, where sums and differences
bind less than products and quotients. -/
def level : Arithmetic → Nat
  | .add | .sub => 4
  | .mul | .div => 5

/-- Arithmetic is no assignment, so it has no memory side. -/
theorem operator_ne_assign (operation : Arithmetic) : operation.operator ≠ .assign := by
  cases operation <;> decide

/-- Arithmetic is no subscript, so it gives no location. -/
theorem operator_ne_index (operation : Arithmetic) : operation.operator ≠ .index := by
  cases operation <;> decide

@[simp] theorem intrinsic?_operator (operation : Arithmetic) :
    operation.operator.intrinsic? = some operation.intrinsic := by
  cases operation <;> rfl

/-- The result of an operation in a ring whose quotients are given. -/
def apply {R : Type*} [Ring R] (quotient : R → R → R) : Arithmetic → R → R → R
  | .add => (· + ·)
  | .sub => (· - ·)
  | .mul => (· * ·)
  | .div => quotient

/-- A sum may be regrouped with a sum or a difference behind it. -/
theorem apply_add {R : Type*} [Ring R] (quotient : R → R → R) {operation : Arithmetic}
    (additive : operation.level = level .add) (first second third : R) :
    operation.apply quotient (first + second) third =
      first + operation.apply quotient second third := by
  cases operation with
  | add => exact add_assoc first second third
  | sub => exact add_sub_assoc first second third
  | mul | div => exact absurd additive (by decide)

end Arithmetic

namespace Signature

/-- The kind of elements that two kinds of elements meet in: floating if one is,
else that of the wider ones, else unsigned if one is. -/
def joinKind (left right : Signature) : Kind :=
  if left.kind.isFloat || right.kind.isFloat then .float
  else if right.width < left.width then left.kind
  else if left.width < right.width then right.kind
  else if right.kind.isSigned then left.kind
  else right.kind

/-- The signature in which two signatures meet: the larger width and lanes. -/
def join (left right : Signature) : Signature where
  kind := left.joinKind right
  width := max left.width right.width
  lanes := max left.lanes right.lanes

/-- Several signatures can be joined in any grouping. -/
theorem join_assoc (first second third : Signature) :
    (first.join second).join third = first.join (second.join third) := by
  have widths := Nat.max_assoc first.width second.width third.width
  have lanes := Nat.max_assoc first.lanes second.lanes third.lanes
  have kinds : (first.join second).joinKind third = first.joinKind (second.join third) := by
    obtain ⟨firstKind, firstWidth, _⟩ := first
    obtain ⟨secondKind, secondWidth, _⟩ := second
    obtain ⟨thirdKind, thirdWidth, _⟩ := third
    cases firstKind <;> cases secondKind <;> cases thirdKind <;>
      simp [join, joinKind, Kind.isFloat, Kind.isSigned] <;> grind
  simp only [join, mk.injEq]
  exact ⟨kinds, widths, lanes⟩

end Signature

namespace NumericType

/-- The kind of a promoted element does not depend on lanes or widths. -/
theorem promotedElement_kind (left right : NumericType) :
    (left.promotedElement right).kind = left.joinKind right.toSignature := by
  unfold promotedElement floatingOver Signature.joinKind
  cases leftKind : left.kind <;> cases rightKind : right.kind <;>
    simp only [Kind.isFloat, Kind.isSigned] <;> grind [withWidth, Signature.natural]

/-- A promoted element is as wide as the wider one. -/
theorem promotedElement_width (left right : NumericType) :
    (left.promotedElement right).width = max left.width right.width := by
  unfold promotedElement floatingOver
  cases left.kind.isFloat <;> cases right.kind.isFloat <;> grind [withWidth, Signature.natural]

/-- The promoted type has the signature in which those of both sides meet. -/
theorem toSignature_of_promote {left right type : NumericType}
    (promoted : left.promote right = some type) :
    type.toSignature = left.toSignature.join right.toSignature := by
  obtain ⟨-, equal⟩ := Option.ite_none_right_eq_some.mp promoted
  rw [← Option.some.inj equal, toSignature_vector, Signature.join, ← promotedElement_kind,
    ← promotedElement_width]

end NumericType

namespace Registry

/-- Without rules an operation on numbers has the promoted type, if there is
one, and keeps its operator. -/
theorem transition_empty {operator : Operator} (notIndex : operator ≠ .index)
    (notAssign : operator ≠ .assign) (left right : NumericType) :
    Registry.empty.transition left right operator =
      match left.promote right with
      | some type => .ok (.numeric type, operator)
      | none => .error (.noTransition left right operator) := by
  simp only [transition, empty, Table.find?_empty, Option.bind_none, builtinTransition, if_neg notIndex,
    notAssign, false_and, if_false]
  cases left.promote right <;> rfl

end Registry

namespace Lowering

variable {context : Context} {operator effective : Operator} {left right : Operand}

/-- An operation whose type is known is a matter of its text. -/
theorem binary_eq {type : DataType}
    (typed : context.rules.transition left.type right.type operator = .ok (type, effective)) :
    binary context operator left right =
      (binaryText context effective left right type).map (.computed · type) := by
  rw [binary, typed]
  change (binaryText context effective left right type >>= fun text =>
    pure (Operand.computed text type)) = _
  cases binaryText context effective left right type <;> rfl

/-- An operation on scalars is written with its operator. -/
theorem binaryText_scalar (notAssign : operator ≠ .assign) {type : NumericType}
    (scalar : type.isVector = false) :
    binaryText context operator left right type =
      .ok (operator.render (some left.text) (some right.text) context.language) := by
  simp only [binaryText, if_neg notAssign]
  cases operator.intrinsic? with
  | none => rfl
  | some operation => simp [scalar]

/-- Arithmetic on C vectors is written with an instruction. -/
theorem binaryText_vector (inC : context.language = .c) (operation : Arithmetic) {type : NumericType}
    (vector : type.isVector = true) :
    binaryText context operation.operator left right type =
      vectorText context operation.intrinsic left right type := by
  simp [binaryText, operation.operator_ne_assign, inC, vector]

/-- Without rules, arithmetic succeeds at the promoted type only. -/
theorem binary_eq_ok (builtin : context.rules = .empty) {operation : Arithmetic}
    {leftType rightType : NumericType} (leftTyped : left.type = leftType)
    (rightTyped : right.type = rightType) {result : Operand}
    (success : binary context operation.operator left right = .ok result) :
    ∃ type text, leftType.promote rightType = some type ∧
      binaryText context operation.operator left right type = .ok text ∧
      result = .computed text type := by
  have transition := Registry.transition_empty operation.operator_ne_index operation.operator_ne_assign
    leftType rightType
  rw [← builtin, ← leftTyped, ← rightTyped] at transition
  cases promoted : leftType.promote rightType with
  | none =>
    rw [promoted] at transition
    rw [binary, transition] at success
    cases success
  | some type =>
    rw [promoted] at transition
    rw [binary_eq transition] at success
    obtain ⟨text, written, rfl⟩ := map_eq_ok.mp success
    exact ⟨type, text, rfl, written, rfl⟩

end Lowering

end VectorKernel
