import VectorKernel.Intrinsic
import VectorKernel.Target

/-!
# Operators

The operators of expressions and their plain text in each language.
-/

namespace VectorKernel

/-- An operator of expressions. -/
inductive Operator where
  | assign
  | add
  | sub
  | mul
  | div
  | eq
  | ne
  | lt
  | le
  | gt
  | ge
  | and
  | or
  /-- Unary minus. -/
  | neg
  /-- Unary plus. -/
  | plus
  | not
  | addressOf
  | deref
  /-- Element access. -/
  | index
  | ret
  /-- Choice between the two branches of a conditional. -/
  | select
  deriving DecidableEq, Repr

namespace Operator

/-- Every operator. -/
def all : List Operator :=
  [.assign, .add, .sub, .mul, .div, .eq, .ne, .lt, .le, .gt, .ge, .and, .or, .neg, .plus, .not,
    .addressOf, .deref, .index, .ret, .select]

/-- The name of an operator in messages. -/
def name : Operator → String
  | .assign => "Assign"
  | .add => "Add"
  | .sub => "Sub"
  | .mul => "Mul"
  | .div => "Div"
  | .eq => "Eq"
  | .ne => "Ne"
  | .lt => "Lt"
  | .le => "Le"
  | .gt => "Gt"
  | .ge => "Ge"
  | .and => "And"
  | .or => "Or"
  | .neg => "Neg"
  | .plus => "Plus"
  | .not => "Not"
  | .addressOf => "AddressOf"
  | .deref => "Deref"
  | .index => "Index"
  | .ret => "Return"
  | .select => "Select"

/-- The operator with this name. -/
def ofName? (text : String) : Option Operator :=
  all.find? (·.name == text)

/-- The token of an operator in a language. -/
def symbol (operator : Operator) (language : Language) : String :=
  let fortran := language = .fortran
  match operator with
  | .assign => "="
  | .add | .plus => "+"
  | .sub | .neg => "-"
  | .mul | .deref => "*"
  | .div => "/"
  | .eq => "=="
  | .ne => if fortran then "/=" else "!="
  | .lt => "<"
  | .le => "<="
  | .gt => ">"
  | .ge => ">="
  | .and => if fortran then ".and." else "&&"
  | .or => if fortran then ".or." else "||"
  | .not => if fortran then ".not." else "!"
  | .addressOf => "&"
  | .index => "[]"
  | .ret => "return"
  | .select => "?:"

/-- Whether the operator takes a single operand, on its right. -/
def isUnary : Operator → Bool
  | .neg | .plus | .not | .addressOf | .deref | .ret => true
  | _ => false

/-- The primitive operation that does the operator's work on C vectors. -/
def intrinsic? : Operator → Option Intrinsic
  | .add => some .add
  | .sub => some .sub
  | .mul => some .mul
  | .div => some .div
  | _ => none

/-- The plain text of an operation. A missing side is empty, and a
dereference with a left side is written as a product without parentheses. -/
def render (operator : Operator) (left right : Option String) (language : Language) : String :=
  let a := left.getD ""
  let b := right.getD ""
  let token := operator.symbol language
  match operator with
  | .add => s!"{a} + {b}"
  | .sub => s!"{a} - ({b})"
  | .mul | .div | .and | .or => s!"({a}) {token} ({b})"
  | .neg => s!" -({b})"
  | .plus => s!" +{b}"
  | .not => if language = .fortran then s!" .not. ({b})" else s!" !({b})"
  | .addressOf => if language = .fortran then s!" {b}" else s!" &{b}"
  | .deref => if left.isSome then s!"{a} * {b}" else s!" *{b}"
  | .index => if language = .fortran then s!"{a}({b})" else s!"{a}[{b}]"
  | .ret => s!"return {b}"
  | .select => s!"{a} : {b}"
  | .assign | .eq | .ne | .lt | .le | .gt | .ge => s!"{a} {token} {b}"

end Operator

end VectorKernel
