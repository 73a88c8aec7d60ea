import VectorKernel.Expr.Basic
import VectorKernel.Lowering.Fused
import VectorKernel.Lowering.Masked

/-!
# Evaluation of expressions

An expression evaluates in a context to a text that has a type if some operand
has one. Sides are evaluated from left to right, and the first fault found is
the fault of the whole.
-/

namespace VectorKernel

/-- What an expression evaluates to. -/
inductive Evaluated where
  | typed (operand : Operand)
  /-- Text without a type. -/
  | text (text : String)
  deriving DecidableEq, Repr

namespace Evaluated

/-- The text of the value. -/
def render : Evaluated → String
  | .typed operand => operand.text
  | .text plain => plain

/-- The operand, if there is a type. -/
def operand? : Evaluated → Option Operand
  | .typed operand => some operand
  | .text _ => none

/-- The type, if there is one. -/
def type? (value : Evaluated) : Option DataType :=
  value.operand?.map (·.type)

/-- The operand of a value that must have a type to play its role. -/
def require (value : Evaluated) (role : Role) : Except Fault Operand :=
  match value with
  | .typed operand => .ok operand
  | .text _ => .error (.malformed (.untyped role))

/-- A text with a type, if there is one. -/
def ofText (text : String) : Option DataType → Evaluated
  | some type => .typed (.computed text type)
  | none => .text text

end Evaluated

namespace Literal

/-- The value of a literal. -/
def evaluate (literal : Literal) : Except Fault Evaluated :=
  match literal.nonFinite? with
  | some value => .error (.malformed (.nonFinite value))
  | none =>
    match literal.operand? with
    | some operand => .ok (.typed operand)
    | none => .ok (.text literal.text)

end Literal

namespace Context

/-- The type that an operator gives its result when only one side has a type:
that type, or its element type for element access. -/
def oneSidedType (operator : Operator) (type : DataType) : DataType :=
  match operator, type with
  | .index, .numeric type => .numeric type.scalar
  | _, type => type

/-- An operator applied to the sides that are there. Two typed sides make an
operation; else the plain text takes the type of the typed side, if any. -/
def apply (context : Context) (operator : Operator) (left right : Option Evaluated) :
    Except Fault Evaluated :=
  match left, right with
  | none, none => .error (.malformed (.noOperand operator))
  | some (.typed left), some (.typed right) =>
    (Lowering.binary context operator left right).map .typed
  | left, right =>
    let text := operator.render (left.map (·.render)) (right.map (·.render)) context.language
    let type := left.bind (·.type?) <|> right.bind (·.type?)
    .ok (.ofText text (type.map (oneSidedType operator)))

/-- The type of a conditional from those of its branches. -/
def conditionalType (context : Context) (positive negative : Evaluated) :
    Except Fault (Option DataType) :=
  match positive.type?, negative.type? with
  | some positive, some negative =>
    (context.rules.transition positive negative .select).map fun (type, _) => some type
  | positive, negative => .ok (positive <|> negative)

/-- Checks that the language has conditional expressions. -/
def checkConditional (context : Context) : Except Fault Unit :=
  if context.language = .fortran then .error (.noFeature .conditional context.language) else .ok ()

/-- The text of a conditional. -/
def conditionalText (context : Context) (condition positive negative : String) : Except Fault String := do
  context.checkConditional
  return s!"({condition} ? {positive} : {negative})"

/-- A conditional on evaluated parts. -/
def conditional (context : Context) (condition positive negative : Evaluated) :
    Except Fault Evaluated := do
  let text ← context.conditionalText condition.render positive.render negative.render
  let type ← context.conditionalType positive negative
  return .ofText text type

/-- A value put into every lane. Text without a type counts as a scalar of the
element type. -/
def broadcast (context : Context) (source : Evaluated) (type : NumericType) : Except Fault Operand :=
  match source with
  | .typed operand => Lowering.broadcast context operand type
  | .text text => Lowering.broadcast context (.computed text type.scalar) type

/-- A masked store of a value whose type must be numeric. -/
def maskedStore (context : Context) (destination source : Operand) (mask : List Bool) :
    Except Fault Operand :=
  match source.numeric? with
  | some type => Lowering.maskedStore context destination source mask type
  | none => .error (.malformed .maskedValueNotNumeric)

/-- A product and a sum of evaluated parts, the third part on the left. -/
def productSum (context : Context) (a b c : Evaluated) : Except Fault Evaluated := do
  let product ← context.apply .mul (some a) (some b)
  context.apply .add (some c) (some product)

/-- A fused multiply-add. If a part has no type it is a product and a sum. -/
def fma (context : Context) (a b c : Evaluated) : Except Fault Evaluated :=
  match a, b, c with
  | .typed a, .typed b, .typed c => (Lowering.fused context a b c).map .typed
  | a, b, c => context.productSum a b c

end Context

namespace Expr

mutual

/-- The value of an expression in a context. -/
def evaluate (context : Context) : Expr → Except Fault Evaluated
  | .literal constant => constant.evaluate
  | .value operand => .ok (.typed operand)
  | .binary operator left right => do
    let left ← evaluate context left
    let right ← evaluate context right
    context.apply operator (some left) (some right)
  | .unary operator right => do
    let right ← evaluate context right
    context.apply operator none (some right)
  | .dangling operator left => do
    let left ← evaluate context left
    context.apply operator (some left) none
  | .bare operator => context.apply operator none none
  | .load source type => do
    let source ← (← evaluate context source).require .loadSource
    return .typed (← Lowering.load context source type)
  | .store destination source => do
    let destination ← (← evaluate context destination).require .storeDestination
    let source ← (← evaluate context source).require .storedValue
    return .typed (← Lowering.store context destination source)
  | .broadcast source type => do
    let source ← evaluate context source
    return .typed (← context.broadcast source type)
  | .ofLanes lanes type => do
    let lanes ← evaluateAll context lanes
    return .typed (← Lowering.ofLanes context lanes type)
  | .maskedLoad source mask type => do
    let source ← (← evaluate context source).require .maskedLoadSource
    return .typed (← Lowering.maskedLoad context source mask type)
  | .maskedStore destination source mask => do
    let destination ← (← evaluate context destination).require .maskedStoreDestination
    let source ← (← evaluate context source).require .maskedStoredValue
    return .typed (← context.maskedStore destination source mask)
  | .fma a b c => do
    let a ← evaluate context a
    let b ← evaluate context b
    let c ← evaluate context c
    context.fma a b c
  | .conditional condition positive negative => do
    context.checkConditional
    let condition ← evaluate context condition
    let positive ← evaluate context positive
    let negative ← evaluate context negative
    context.conditional condition positive negative

/-- The texts of expressions, from first to last. -/
def evaluateAll (context : Context) : List Expr → Except Fault (List String)
  | [] => .ok []
  | expression :: expressions => do
    let first ← evaluate context expression
    let rest ← evaluateAll context expressions
    return first.render :: rest

end

/-- The text of an expression. -/
def render (context : Context) (expression : Expr) : Except Fault String :=
  (expression.evaluate context).map (·.render)

/-- The value of an expression that must have a type. -/
def materialize (context : Context) (expression : Expr) : Except Fault Operand := do
  match ← expression.evaluate context with
  | .typed operand => return operand
  | .text text => .error (.malformed (.untypedExpression (Text.trim text)))

/-- The text of an expression for each of several targets, over the same
instructions and rules. -/
def renderMatrix (expression : Expr) (targets : List Target) (catalog : Catalog) (rules : Registry) :
    List (Target × Except Fault String) :=
  targets.map fun target => (target, expression.render { target, catalog, rules })

end Expr

end VectorKernel
