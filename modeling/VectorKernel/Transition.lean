import VectorKernel.Fault
import VectorKernel.Table

/-!
# Types of operations

The type of an operation follows from the types of its two sides. Numeric sides
are promoted by fixed laws. Rules registered for a pair of classes come before
those laws; they may also put another operator in place of the given one.
-/

namespace VectorKernel

namespace NumericType

/-- Whether two types can meet in one operation: equal lanes, or a scalar side. -/
def lanesCompatible (left right : NumericType) : Bool :=
  left.lanes = right.lanes || left.lanes = 1 || right.lanes = 1

/-- A floating type that meets an integer type: it takes the larger width. -/
def floatingOver (float int : NumericType) : NumericType :=
  if int.width ≤ float.width then float else float.withWidth int.width

/-- The element type of an operation on two numeric types: floating before
integer, then the larger width, then unsigned before signed. -/
def promotedElement (left right : NumericType) : NumericType :=
  match left.kind.isFloat, right.kind.isFloat with
  | true, false => left.floatingOver right
  | false, true => right.floatingOver left
  | _, _ =>
    if left.width > right.width then left
    else if left.width < right.width then right
    else if right.kind.isSigned then left
    else right

/-- The type of an operation on two numeric types, naturally aligned. A vector
side gives its lanes; two different lane counts have no common type. -/
def promote (left right : NumericType) : Option NumericType :=
  if left.lanesCompatible right then
    some ((left.promotedElement right).vector (max left.lanes right.lanes))
  else none

end NumericType

/-- What a rule answers for an operator. -/
structure Outcome where
  /-- The type of the result, from the types of both sides. -/
  result : DataType → DataType → DataType
  /-- The operator used in place of the given one. -/
  substitute : Option Operator := none

namespace Outcome

/-- The result has the type of the left side. -/
def left : Outcome := { result := fun left _ => left }

/-- The result has the type of the right side. -/
def right : Outcome := { result := fun _ right => right }

/-- The result always has the same type. -/
def fixed (type : DataType) : Outcome := { result := fun _ _ => type }

/-- The same outcome with another operator in place of the given one. -/
def replacing (outcome : Outcome) (operator : Operator) : Outcome :=
  { outcome with substitute := some operator }

end Outcome

/-- The outcomes for one pair of classes. -/
structure Rule where
  operators : Table Operator Outcome := .empty
  /-- The outcome for operators without one of their own. -/
  fallback : Option Outcome := none

namespace Rule

/-- The rule with an outcome for an operator, in place of an earlier one. -/
def on (rule : Rule) (operator : Operator) (outcome : Outcome) : Rule :=
  { rule with operators := rule.operators.insert operator outcome }

/-- The rule with an outcome for all other operators. -/
def otherwise (rule : Rule) (outcome : Outcome) : Rule :=
  { rule with fallback := some outcome }

/-- The outcome for an operator, if the rule has one. -/
def outcome? (rule : Rule) (operator : Operator) : Option Outcome :=
  rule.operators.find? operator <|> rule.fallback

end Rule

/-- Rules by the classes of the left and the right side. -/
structure Registry where
  rules : Table (TypeClass × TypeClass) Rule

namespace Registry

/-- The registry without rules. -/
def empty : Registry := ⟨.empty⟩

/-- Registers a rule for an ordered pair of classes, in place of an earlier one. -/
def register (registry : Registry) (left right : TypeClass) (rule : Rule) : Registry :=
  ⟨registry.rules.insert (left, right) rule⟩

/-- The number of pairs with a rule. -/
def size (registry : Registry) : Nat :=
  registry.rules.size

/-- The type of an operation without rules. Element access takes the element
type of its left side, an assignment the type of its left side, and any other
operation the promoted type. -/
def builtinTransition (left right : DataType) (operator : Operator) : Except Fault DataType :=
  match left, right with
  | .numeric leftType, .numeric rightType =>
    if operator = .index then .ok leftType.scalar
    else if operator = .assign ∧ leftType.lanesCompatible rightType then .ok (leftType.vector leftType.lanes)
    else match leftType.promote rightType with
      | some type => .ok type
      | none => .error (.noTransition left right operator)
  | _, _ => .error (.noTransition left right operator)

/-- The type and the effective operator of an operation. -/
def transition (registry : Registry) (left right : DataType) (operator : Operator) :
    Except Fault (DataType × Operator) :=
  let rule := registry.rules.find? (left.typeClass, right.typeClass)
  match rule.bind (·.outcome? operator) with
  | some outcome => .ok (outcome.result left right, outcome.substitute.getD operator)
  | none => (builtinTransition left right operator).map fun type => (type, operator)

end Registry

end VectorKernel
