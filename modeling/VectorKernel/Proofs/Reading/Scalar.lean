import Mathlib.Data.Int.Cast.Basic
import VectorKernel.Expr.Evaluate
import VectorKernel.Proofs.Reading.Meaning

/-!
# Scalar expressions mean what they say

Scalar expressions are numbers, built by arithmetic from identifiers and integer
literals, and conditions, built from comparisons of numbers. Their text in C,
OpenCL C or CUDA has parentheses in some places only. `scalar_reads_as_tree`
says that it has them in the right places: the text is read by the grammar of C
in one way, and so read it has the value of the tree.
-/

namespace VectorKernel

namespace Reading

universe u

/-- An identifier that names a numeric scalar. -/
structure Variable where
  operand : Operand
  type : NumericType
  typed : operand.type = .numeric type
  scalar : type.isVector = false
  identifier : isIdentifier operand.text = true

/-- A scalar expression that computes a number. -/
inductive Term where
  | named (leaf : Variable)
  /-- An identifier without a type. -/
  | raw (text : String) (identifier : isIdentifier text = true)
  | literal (value : Int)
  | binary (operation : Arithmetic) (left right : Term)
  | neg (part : Term)

/-- A scalar expression that is true or false. -/
inductive Condition where
  | compare (relation : Comparison) (left right : Term)
  | combine (junction : Connective) (left right : Condition)
  | not (part : Condition)

namespace Term

/-- The expression of a term. -/
def toExpr : Term → Expr
  | .named leaf => .value leaf.operand
  | .raw text _ => .literal (.raw text)
  | .literal value => .literal (.int value)
  | .binary operation left right => .binary operation.operator left.toExpr right.toExpr
  | .neg part => .unary .neg part.toExpr

/-- The number that a term stands for. -/
def value {R : Type u} [Ring R] (interpretation : Interpretation R) : Term → R
  | .named leaf => interpretation.name leaf.operand.text
  | .raw text _ => interpretation.name text
  | .literal value => value
  | .binary operation left right =>
    operation.apply interpretation.quotient (left.value interpretation) (right.value interpretation)
  | .neg part => -part.value interpretation

end Term

namespace Condition

/-- The expression of a condition. -/
def toExpr : Condition → Expr
  | .compare relation left right => .binary relation.operator left.toExpr right.toExpr
  | .combine junction left right => .binary junction.operator left.toExpr right.toExpr
  | .not part => .unary .not part.toExpr

/-- Whether a condition holds. -/
def holds {R : Type u} [Ring R] (interpretation : Interpretation R) : Condition → Prop
  | .compare relation left right =>
    interpretation.relation relation (left.value interpretation) (right.value interpretation)
  | .combine junction left right =>
    junction.apply (left.holds interpretation) (right.holds interpretation)
  | .not part => ¬ part.holds interpretation

end Condition

end Reading

open Reading

/-- Rules under which an operation on two numeric scalars keeps its operator and
gives a numeric scalar. -/
def Registry.KeepsScalars (rules : Registry) : Prop :=
  ∀ (link : Link) (left right : NumericType), left.isVector = false → right.isVector = false →
    ∃ type : NumericType, type.isVector = false ∧
      rules.transition left right link.operator = .ok (.numeric type, link.operator)

/-- Rules that do so for one operator. -/
def Registry.KeepsScalarsAt (rules : Registry) (operator : Operator) : Prop :=
  ∀ left right : NumericType, left.isVector = false → right.isVector = false →
    ∃ type : NumericType, type.isVector = false ∧
      rules.transition left right operator = .ok (.numeric type, operator)

/-- The built-in laws keep scalars. -/
theorem Registry.keepsScalars_empty : Registry.empty.KeepsScalars := by
  intro link left right leftScalar rightScalar
  have leftLanes : left.lanes ≤ 1 := by simpa [Signature.isVector] using leftScalar
  have rightLanes : right.lanes ≤ 1 := by simpa [Signature.isVector] using rightScalar
  have compatible : left.lanesCompatible right = true := by
    simp only [NumericType.lanesCompatible, Bool.or_eq_true, decide_eq_true_eq]
    omega
  refine ⟨(left.promotedElement right).vector (max left.lanes right.lanes), ?_, ?_⟩
  · simpa [Signature.isVector] using Nat.max_le.mpr ⟨leftLanes, rightLanes⟩
  · rw [transition_empty link.operator_ne_index link.operator_ne_assign, NumericType.promote,
      if_pos compatible]

namespace Evaluated

/-- A value whose type, if it has one, is that of a numeric scalar. -/
def IsScalar (value : Evaluated) : Prop :=
  ∀ type, value.type? = some type → ∃ numeric : NumericType, type = numeric ∧ numeric.isVector = false

theorem isScalar_text (text : String) : IsScalar (.text text) := nofun

/-- An operand of a scalar type is no vector. -/
theorem isScalar_typed {operand : Operand} {type : NumericType} (typed : operand.type = .numeric type)
    (scalar : type.isVector = false) : IsScalar (.typed operand) := by
  rintro _ ⟨⟩
  exact ⟨type, typed, scalar⟩

/-- Text that takes its type from a scalar side is a scalar. -/
theorem isScalar_oneSided (text : String) (operator : Operator) {operand : Operand}
    (scalar : IsScalar (.typed operand)) :
    IsScalar (.typed (.computed text (Context.oneSidedType operator operand.type))) := by
  obtain ⟨type, typed, lanes⟩ := scalar _ rfl
  have kept : ∃ result : NumericType,
      Context.oneSidedType operator type = .numeric result ∧ result.isVector = false := by
    cases operator with
    | index => exact ⟨type.scalar, rfl, rfl⟩
    | _ => exact ⟨type, rfl, lanes⟩
  obtain ⟨result, resultTyped, resultScalar⟩ := kept
  exact isScalar_typed ((congrArg (Context.oneSidedType operator) typed).trans resultTyped) resultScalar

end Evaluated

namespace Expr

variable {context : Context} {left right : Expr} {leftValue rightValue : Evaluated}

/-- An operation on scalars evaluates to a scalar, and its text is the plain text
of the operator. -/
theorem evaluate_binary {operator : Operator} (notAssign : operator ≠ .assign)
    (keeps : context.rules.KeepsScalarsAt operator)
    (leftEq : left.evaluate context = .ok leftValue) (leftScalar : leftValue.IsScalar)
    (rightEq : right.evaluate context = .ok rightValue) (rightScalar : rightValue.IsScalar) :
    ∃ value, (Expr.binary operator left right).evaluate context = .ok value ∧ value.IsScalar ∧
      value.render =
        operator.render (some leftValue.render) (some rightValue.render) context.language := by
  have applied : (Expr.binary operator left right).evaluate context =
      context.apply operator (some leftValue) (some rightValue) := by
    simp only [evaluate, leftEq, rightEq]
    rfl
  rw [applied]
  cases leftValue with
  | typed leftOperand =>
    cases rightValue with
    | typed rightOperand =>
      obtain ⟨leftType, leftTyped, leftLanes⟩ := leftScalar _ rfl
      obtain ⟨rightType, rightTyped, rightLanes⟩ := rightScalar _ rfl
      obtain ⟨type, scalar, transition⟩ := keeps leftType rightType leftLanes rightLanes
      rw [← leftTyped, ← rightTyped] at transition
      refine ⟨.typed (.computed _ type), ?_, Evaluated.isScalar_typed rfl scalar, rfl⟩
      rw [Context.apply, Lowering.binary_eq transition,
        Lowering.binaryText_scalar notAssign scalar]
      rfl
    | text => exact ⟨_, rfl, Evaluated.isScalar_oneSided _ operator leftScalar, rfl⟩
  | text =>
    cases rightValue with
    | typed rightOperand => exact ⟨_, rfl, Evaluated.isScalar_oneSided _ operator rightScalar, rfl⟩
    | text => exact ⟨_, rfl, Evaluated.isScalar_text _, rfl⟩

/-- An operator between scalars gives a scalar, written with the operator between the two texts. -/
theorem evaluate_link (keeps : context.rules.KeepsScalars) (link : Link)
    (leftEq : left.evaluate context = .ok leftValue) (leftScalar : leftValue.IsScalar)
    (rightEq : right.evaluate context = .ok rightValue) (rightScalar : rightValue.IsScalar) :
    ∃ value, (Expr.binary link.operator left right).evaluate context = .ok value ∧ value.IsScalar ∧
      value.render =
        link.operator.render (some leftValue.render) (some rightValue.render) context.language :=
  evaluate_binary link.operator_ne_assign (keeps link) leftEq leftScalar rightEq rightScalar

/-- An operator before a scalar evaluates to a scalar and the plain text. -/
theorem evaluate_unary (operator : Operator) (rightEq : right.evaluate context = .ok rightValue)
    (rightScalar : rightValue.IsScalar) :
    ∃ value, (Expr.unary operator right).evaluate context = .ok value ∧ value.IsScalar ∧
      value.render = operator.render none (some rightValue.render) context.language := by
  have applied : (Expr.unary operator right).evaluate context =
      context.apply operator none (some rightValue) := by
    simp only [evaluate, rightEq]
    rfl
  rw [applied]
  cases rightValue with
  | typed operand => exact ⟨_, rfl, Evaluated.isScalar_oneSided _ operator rightScalar, rfl⟩
  | text => exact ⟨_, rfl, Evaluated.isScalar_text _, rfl⟩

end Expr

namespace Reading

/-- A side of an operation, in parentheses or not. -/
def side (grouped : Bool) (text : List Char) : List Char :=
  if grouped then '(' :: (text ++ [')']) else text

/-- The links whose left side is written in parentheses. -/
def Link.groupsLeft : Link → Bool
  | .arithmetic .mul | .arithmetic .div | .connective _ => true
  | _ => false

/-- The links whose right side is written in parentheses. -/
def Link.groupsRight : Link → Bool
  | .arithmetic .add | .comparison _ => false
  | _ => true

/-- The plain text of an operation in the C languages. -/
theorem Link.toList_render (link : Link) {language : Language} (inC : language ≠ .fortran)
    (left right : String) :
    (link.operator.render (some left) (some right) language).toList =
      side link.groupsLeft left.toList ++
        ' ' :: (link.symbol ++ ' ' :: side link.groupsRight right.toList) := by
  rcases link with operation | relation | junction
  · cases operation <;>
      simp [Link.operator, Arithmetic.operator, Operator.render, Operator.symbol, toString, side,
        Link.groupsLeft, Link.groupsRight, Link.symbol]
  · cases relation <;>
      simp [Link.operator, Comparison.operator, Operator.render, Operator.symbol, toString, side,
        Link.groupsLeft, Link.groupsRight, Link.symbol, inC]
  · cases junction <;>
      simp [Link.operator, Connective.operator, Operator.render, Operator.symbol, toString, side,
        Link.groupsLeft, Link.groupsRight, Link.symbol, inC]

/-- A text reads as a side of any layer if it is in parentheses, and of its own
layer otherwise. -/
theorem Reads.side {level wanted : Nat} {text : List Char} {meaning : Meaning.{u}}
    (reads : Reads level text meaning) {grouped : Bool} (bounded : wanted ≤ unaryLevel)
    (fits : grouped = false → wanted ≤ level) : Reads wanted (side grouped text) meaning := by
  cases grouped with
  | true => exact (reads.lower (Nat.zero_le level)).group.lower bounded
  | false => exact reads.lower (fits rfl)

/-- An operation whose parentheses, or else whose sides, are right for its layer
reads as that operation. -/
theorem Reads.render (link : Link) {language : Language} (inC : language ≠ .fortran)
    {left right : String} {leftLevel rightLevel : Nat} {meaning leftMeaning rightMeaning : Meaning.{u}}
    (leftReads : Reads leftLevel left.toList leftMeaning)
    (rightReads : Reads rightLevel right.toList rightMeaning)
    (leftFits : link.groupsLeft = false → link.level ≤ leftLevel)
    (rightFits : link.groupsRight = false → link.level + 1 ≤ rightLevel)
    (applies : ∀ (R : Type u) [Ring R] (interpretation : Interpretation R),
      link.apply interpretation (leftMeaning R interpretation) (rightMeaning R interpretation) =
        some (meaning R interpretation)) :
    Reads link.level (link.operator.render (some left) (some right) language).toList meaning := by
  have below := link.level_lt_unaryLevel
  rw [link.toList_render inC]
  have leftSide := leftReads.side (Nat.le_of_lt below) leftFits
  have rightSide := rightReads.side below rightFits
  exact .link link leftSide rightSide applies

/-- An integer literal reads as its value; a negative one as a minus sign before
a numeral. -/
theorem reads_literal (value : Int) :
    Reads unaryLevel (toString value).toList (NumberMeaning.toMeaning.{u} fun _ _ _ => value) := by
  cases value with
  | ofNat value =>
    have digits : (toString (Int.ofNat value)).toList = Nat.toDigits 10 value := Nat.toList_repr
    rw [digits]
    exact (Reads.numeral value).of_eq fun R _ _ => congrArg Value.number (Int.cast_natCast value).symm
  | negSucc value =>
    have digits : (toString (Int.negSucc value)).toList = '-' :: Nat.toDigits 10 (value + 1) := by
      simp [Int.toString_eq_repr, Int.repr]
    rw [digits]
    cases characters : Nat.toDigits 10 (value + 1) with
    | nil => exact absurd characters Nat.toDigits_ne_nil
    | cons first rest =>
      have isDigit : first.isDigit = true :=
        Nat.isDigit_of_mem_toDigits (n := value + 1) (by decide) (by decide)
          (characters ▸ List.mem_cons_self)
      have apart : ∀ entry ∈ doubles, entry.1.2 ≠ first := by
        intro entry member same
        have notDigit : ∀ entry ∈ doubles, entry.1.2.isDigit = false := by decide
        exact Bool.false_ne_true ((notDigit entry member).symm.trans (same ▸ isDigit))
      have reads := characters ▸ Reads.numeral.{u} (value + 1)
      exact (reads.minus apart).of_eq fun R _ _ => congrArg Value.number (Int.cast_negSucc value).symm

variable {context : Context}

/-- Every term evaluates to a scalar whose text reads, as a sum, with the value of
the term. -/
theorem Term.evaluate_reads (inC : context.language ≠ .fortran)
    (keeps : context.rules.KeepsScalars) (term : Term) :
    ∃ value, term.toExpr.evaluate context = .ok value ∧ value.IsScalar ∧
      Reads sumLevel value.render.toList
        (NumberMeaning.toMeaning.{u} fun _ _ interpretation => term.value interpretation) := by
  induction term with
  | named leaf =>
    refine ⟨.typed leaf.operand, rfl, Evaluated.isScalar_typed leaf.typed leaf.scalar, ?_⟩
    exact (Reads.name leaf.identifier).lower (by decide)
  | raw text identifier =>
    exact ⟨.text text, rfl, Evaluated.isScalar_text text, (Reads.name identifier).lower (by decide)⟩
  | literal value =>
    refine ⟨_, rfl, Evaluated.isScalar_typed rfl ?_, (reads_literal value).lower (by decide)⟩
    split <;> rfl
  | binary operation left right leftIh rightIh =>
    obtain ⟨leftValue, leftEq, leftScalar, leftReads⟩ := leftIh
    obtain ⟨rightValue, rightEq, rightScalar, rightReads⟩ := rightIh
    obtain ⟨value, evaluated, scalar, rendered⟩ :=
      Expr.evaluate_link keeps (.arithmetic operation) leftEq leftScalar rightEq rightScalar
    refine ⟨value, evaluated, scalar, ?_⟩
    rw [rendered]
    -- Only a sum leaves a side of its own layer on the right without parentheses.
    cases operation with
    | add =>
      rw [Link.toList_render _ inC]
      exact leftReads.sum rightReads
    | sub | mul | div =>
      refine (Reads.render (.arithmetic _) inC leftReads rightReads ?_ ?_
        fun _ _ _ => rfl).lower ?_ <;> decide
  | neg part ih =>
    obtain ⟨partValue, partEq, partScalar, partReads⟩ := ih
    obtain ⟨value, evaluated, scalar, rendered⟩ :=
      Expr.evaluate_unary .neg partEq partScalar
    refine ⟨value, evaluated, scalar, ?_⟩
    have text : value.render.toList = ' ' :: '-' :: '(' :: (partValue.render.toList ++ [')']) := by
      simp [rendered, Operator.render, toString]
    rw [text]
    have grouped := (partReads.lower (Nat.zero_le _)).group
    exact (grouped.minus (by decide)).blank.lower (by decide)

/-- Every condition evaluates to a scalar whose text reads as the condition. -/
theorem Condition.evaluate_reads (inC : context.language ≠ .fortran)
    (keeps : context.rules.KeepsScalars) (condition : Condition) :
    ∃ value, condition.toExpr.evaluate context = .ok value ∧ value.IsScalar ∧
      Reads 0 value.render.toList
        (TruthMeaning.toMeaning.{u} fun _ _ interpretation => condition.holds interpretation) := by
  induction condition with
  | compare relation left right =>
    obtain ⟨leftValue, leftEq, leftScalar, leftReads⟩ := left.evaluate_reads inC keeps
    obtain ⟨rightValue, rightEq, rightScalar, rightReads⟩ := right.evaluate_reads inC keeps
    obtain ⟨value, evaluated, scalar, rendered⟩ :=
      Expr.evaluate_link keeps (.comparison relation) leftEq leftScalar rightEq rightScalar
    refine ⟨value, evaluated, scalar, ?_⟩
    rw [rendered]
    have leftFits : (Link.comparison relation).level ≤ sumLevel := by cases relation <;> decide
    have rightFits : (Link.comparison relation).level + 1 ≤ sumLevel := by cases relation <;> decide
    exact (Reads.render (.comparison relation) inC leftReads rightReads (fun _ => leftFits)
      (fun _ => rightFits) fun _ _ _ => rfl).lower (Nat.zero_le _)
  | combine junction left right leftIh rightIh =>
    obtain ⟨leftValue, leftEq, leftScalar, leftReads⟩ := leftIh
    obtain ⟨rightValue, rightEq, rightScalar, rightReads⟩ := rightIh
    obtain ⟨value, evaluated, scalar, rendered⟩ :=
      Expr.evaluate_link keeps (.connective junction) leftEq leftScalar rightEq rightScalar
    refine ⟨value, evaluated, scalar, ?_⟩
    rw [rendered]
    exact (Reads.render (.connective junction) inC leftReads rightReads nofun nofun
      fun _ _ _ => rfl).lower (Nat.zero_le _)
  | not part ih =>
    obtain ⟨partValue, partEq, partScalar, partReads⟩ := ih
    obtain ⟨value, evaluated, scalar, rendered⟩ :=
      Expr.evaluate_unary .not partEq partScalar
    refine ⟨value, evaluated, scalar, ?_⟩
    have text : value.render.toList = ' ' :: '!' :: '(' :: (partValue.render.toList ++ [')']) := by
      simp [rendered, Operator.render, toString, inC]
    rw [text]
    exact partReads.group.not.blank.lower (Nat.zero_le _)

/-- A text that the grammar of C reads whole, in one way only, with a meaning. -/
def ReadsAs (text : String) (meaning : Meaning.{u}) : Prop :=
  ∃ tokens tree, scan text.toList = some tokens ∧ Derives 0 tokens tree ∧
    (∀ other, Derives 0 tokens other → other = tree) ∧
    ∀ (R : Type u) [Ring R] (interpretation : Interpretation R),
      tree.value interpretation = some (meaning R interpretation)

/-- What is read at some level is read as a whole text. -/
theorem Reads.readsAs {level : Nat} {text : String} {meaning : Meaning.{u}}
    (reads : Reads level text.toList meaning) : ReadsAs text meaning := by
  obtain ⟨tokens, tree, scanned, derivation, value⟩ := reads.lower (Nat.zero_le level)
  exact ⟨tokens, tree, scanned, derivation, fun _ => derivation.unique, value⟩

/-- The text of every scalar expression in the C languages is read by the grammar
of C in one way, and so read it computes what the expression stands for, in every
ring and whatever the names, the quotients and the relations are. -/
theorem scalar_reads_as_tree (inC : context.language ≠ .fortran) (keeps : context.rules.KeepsScalars) :
    (∀ term : Term, ∃ text, term.toExpr.render context = .ok text ∧
      ReadsAs.{u} text fun _ _ interpretation => .number (term.value interpretation)) ∧
    (∀ condition : Condition, ∃ text, condition.toExpr.render context = .ok text ∧
      ReadsAs.{u} text fun _ _ interpretation => .truth (condition.holds interpretation)) := by
  constructor
  · intro term
    obtain ⟨value, evaluated, -, reads⟩ := term.evaluate_reads inC keeps
    exact ⟨value.render, map_eq_ok.mpr ⟨value, evaluated, rfl⟩, reads.readsAs⟩
  · intro condition
    obtain ⟨value, evaluated, -, reads⟩ := condition.evaluate_reads inC keeps
    exact ⟨value.render, map_eq_ok.mpr ⟨value, evaluated, rfl⟩, reads.readsAs⟩

/-- A difference with a sum on its right, compared with a product of a negation. -/
def shiftedComparison : Condition :=
  .compare .lt
    (.binary .sub (.raw "a" (by decide)) (.binary .add (.raw "b" (by decide)) (.literal (-3))))
    (.binary .mul (.raw "a" (by decide)) (.neg (.raw "b" (by decide))))

/-- The comparison has parentheses where CUDA needs them. -/
theorem shiftedComparison_reads_as_tree :
    Language.cuda ≠ .fortran ∧ Registry.empty.KeepsScalars ∧
      shiftedComparison.toExpr.render { target := ⟨.cuda, .generic⟩ } =
        .ok "a - (b + -3) < (a) * ( -(b))" ∧
      ReadsAs.{0} "a - (b + -3) < (a) * ( -(b))" fun _ _ interpretation =>
        .truth (shiftedComparison.holds interpretation) := by
  have rendered : shiftedComparison.toExpr.render { target := ⟨.cuda, .generic⟩ } =
      .ok "a - (b + -3) < (a) * ( -(b))" := rfl
  have foreign : ({ target := ⟨.cuda, .generic⟩ } : Context).language ≠ .fortran := by decide
  obtain ⟨text, renders, reads⟩ :=
    (scalar_reads_as_tree foreign Registry.keepsScalars_empty).2 shiftedComparison
  obtain rfl := Except.ok.inj (rendered.symm.trans renders)
  exact ⟨foreign, Registry.keepsScalars_empty, rendered, reads⟩

end Reading

end VectorKernel
