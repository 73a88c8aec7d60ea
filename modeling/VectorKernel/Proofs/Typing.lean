import VectorKernel.Proofs.Occurrence

/-!
# Types of expressions

The type of an expression without fused multiply-adds follows from the tree and
the rules alone: `Expr.type?` computes it without a target or a catalog, and
`type?_of_evaluate` says that every successful evaluation agrees with it. So
targets may differ in whether a tree evaluates and in its text, never in its
type.

Fused multiply-adds are left out because they are typed like their third operand
where they are one step, and like a product and a sum elsewhere.
-/

namespace VectorKernel

namespace Evaluated

@[simp] theorem type?_ofText (text : String) (type : Option DataType) :
    (ofText text type).type? = type := by
  cases type <;> rfl

end Evaluated

namespace Registry

/-- The type of an operation from the types of its sides. Two typed sides are
typed by the rules; a single one gives its own type, or its element type for
element access. -/
def operationType (rules : Registry) (operator : Operator) :
    (left right : Option DataType) → Option DataType
  | some left, some right => (rules.transition left right operator).toOption.map Prod.fst
  | left, right => (left <|> right).map (Context.oneSidedType operator)

/-- The type of an operation on typed sides is that of the transition, whatever operator is put in
place. -/
theorem operationType_of_transition {rules : Registry} {left right type : DataType}
    {operator effective : Operator}
    (typed : rules.transition left right operator = .ok (type, effective)) :
    rules.operationType operator (some left) (some right) = some type := by
  simp [operationType, typed, Except.toOption]

end Registry

namespace Context

variable {context : Context} {value : Evaluated}

/-- The operator that a rule puts in place of the given one has no say in the
type, so the type needs no text. -/
theorem type?_of_apply {operator : Operator} {left right : Option Evaluated}
    (success : context.apply operator left right = .ok value) :
    value.type? =
      context.rules.operationType operator (left.bind (·.type?)) (right.bind (·.type?)) := by
  rcases left with _ | (left | _) <;> rcases right with _ | (right | _)
  case none.none => cases success
  case some.typed.some.typed =>
    obtain ⟨result, lowered, rfl⟩ := map_eq_ok.mp success
    obtain ⟨text, type, effective, typed, rfl⟩ := computed_of_binary lowered
    exact (Registry.operationType_of_transition typed).symm
  all_goals
    obtain rfl := Except.ok.inj success
    rfl

/-- A choice has the type that the rules give its two branches. -/
theorem type?_of_conditional {condition positive negative : Evaluated}
    (success : context.conditional condition positive negative = .ok value) :
    value.type? = context.rules.operationType .select positive.type? negative.type? := by
  obtain ⟨text, -, rest⟩ := bind_eq_ok.mp success
  obtain ⟨type, typed, result⟩ := bind_eq_ok.mp rest
  obtain rfl := pure_eq_ok.mp result
  rw [Evaluated.type?_ofText]
  unfold conditionalType at typed
  cases positiveType : positive.type? <;> cases negativeType : negative.type? <;>
    simp only [positiveType, negativeType] at typed
  case some.some =>
    obtain ⟨⟨type, effective⟩, found, rfl⟩ := map_eq_ok.mp typed
    exact (Registry.operationType_of_transition found).symm
  all_goals
    obtain rfl := Except.ok.inj typed
    rfl

end Context

namespace Literal

/-- A literal has the type that it declares. -/
theorem type?_of_evaluate {literal : Literal} {value : Evaluated}
    (success : literal.evaluate = .ok value) : value.type? = literal.type?.map .numeric := by
  unfold evaluate at success
  split at success
  · cases success
  · cases literal <;> cases success <;> rfl

end Literal

namespace Expr

/-- The type of an expression under some rules, if it has one. A fused
multiply-add is typed as the product and the sum that it stands for. -/
def type? (rules : Registry) : Expr → Option DataType
  | .literal constant => constant.type?.map .numeric
  | .value operand => some operand.type
  | .binary operator left right => rules.operationType operator (type? rules left) (type? rules right)
  | .unary operator right => rules.operationType operator none (type? rules right)
  | .dangling operator left => rules.operationType operator (type? rules left) none
  | .bare _ => none
  | .load _ type | .broadcast _ type | .ofLanes _ type | .maskedLoad _ _ type => some type
  | .store _ source | .maskedStore _ source _ => type? rules source
  | .fma a b c =>
    rules.operationType .add (type? rules c) (rules.operationType .mul (type? rules a) (type? rules b))
  | .conditional _ positive negative =>
    rules.operationType .select (type? rules positive) (type? rules negative)

/-- An expression that evaluates has the type computed from the tree, whatever the
target and the catalog are. -/
theorem type?_of_evaluate {context : Context} {expression : Expr} (free : expression.FmaFree)
    {value : Evaluated} (success : expression.evaluate context = .ok value) :
    value.type? = expression.type? context.rules := by
  induction expression using Expr.induction generalizing value with
  | literal constant => exact Literal.type?_of_evaluate success
  | value operand =>
    obtain rfl := Except.ok.inj success
    rfl
  | bare operator => cases success
  | binary operator left right leftTyped rightTyped =>
    simp only [evaluate, bind_eq_ok] at success
    obtain ⟨leftValue, leftOk, rightValue, rightOk, applied⟩ := success
    have leftType := leftTyped (free.inPart (by simp [parts])) leftOk
    have rightType := rightTyped (free.inPart (by simp [parts])) rightOk
    rw [type?, ← leftType, ← rightType]
    exact Context.type?_of_apply applied
  | unary operator right rightTyped =>
    simp only [evaluate, bind_eq_ok] at success
    obtain ⟨rightValue, rightOk, applied⟩ := success
    rw [type?, ← rightTyped (free.inPart (by simp [parts])) rightOk]
    exact Context.type?_of_apply applied
  | dangling operator left leftTyped =>
    simp only [evaluate, bind_eq_ok] at success
    obtain ⟨leftValue, leftOk, applied⟩ := success
    rw [type?, ← leftTyped (free.inPart (by simp [parts])) leftOk]
    exact Context.type?_of_apply applied
  | load source type _ =>
    simp only [evaluate, bind_eq_ok, pure_eq_ok] at success
    obtain ⟨_, -, _, -, operand, lowered, rfl⟩ := success
    obtain ⟨text, rfl⟩ := computed_of_map lowered
    rfl
  | store destination source _ sourceTyped =>
    simp only [evaluate, bind_eq_ok, pure_eq_ok] at success
    obtain ⟨_, -, _, -, stored, sourceOk, _, required, operand, lowered, rfl⟩ := success
    obtain rfl := require_ok required
    have sourceType := sourceTyped (free.inPart (by simp [parts])) sourceOk
    obtain ⟨text, rfl⟩ := computed_of_map lowered
    exact sourceType
  | broadcast source type _ =>
    simp only [evaluate, bind_eq_ok, pure_eq_ok] at success
    obtain ⟨_, -, operand, lowered, rfl⟩ := success
    obtain ⟨text, rfl⟩ := computed_of_broadcast lowered
    rfl
  | ofLanes lanes type _ =>
    simp only [evaluate, bind_eq_ok, pure_eq_ok] at success
    obtain ⟨_, -, operand, lowered, rfl⟩ := success
    obtain ⟨text, rfl⟩ := computed_of_map lowered
    rfl
  | maskedLoad source mask type _ =>
    simp only [evaluate, bind_eq_ok, pure_eq_ok] at success
    obtain ⟨_, -, _, -, operand, lowered, rfl⟩ := success
    obtain ⟨text, rfl⟩ := computed_of_map lowered
    rfl
  | maskedStore destination source mask _ sourceTyped =>
    simp only [evaluate, bind_eq_ok, pure_eq_ok] at success
    obtain ⟨_, -, _, -, stored, sourceOk, _, required, operand, lowered, rfl⟩ := success
    obtain rfl := require_ok required
    have sourceType := sourceTyped (free.inPart (by simp [parts])) sourceOk
    obtain ⟨text, rfl⟩ := computed_of_maskedStore lowered
    exact sourceType
  | fma a b c => exact absurd rfl (free.here a b c)
  | conditional condition positive negative _ positiveTyped negativeTyped =>
    simp only [evaluate, bind_eq_ok] at success
    obtain ⟨_, -, _, -, positiveValue, positiveOk, negativeValue, negativeOk, chosen⟩ := success
    have positiveType := positiveTyped (free.inPart (by simp [parts])) positiveOk
    have negativeType := negativeTyped (free.inPart (by simp [parts])) negativeOk
    rw [type?, ← positiveType, ← negativeType]
    exact Context.type?_of_conditional chosen

/-- In any two contexts with the same rules in which a tree evaluates, it has no
type in both or the same one, alignment included. -/
theorem type?_eq_of_evaluate {expression : Expr} (free : expression.FmaFree) {first second : Context}
    (sameRules : first.rules = second.rules) {value other : Evaluated}
    (firstOk : expression.evaluate first = .ok value)
    (secondOk : expression.evaluate second = .ok other) :
    value.type? = other.type? := by
  rw [type?_of_evaluate free firstOk, type?_of_evaluate free secondOk, sameRules]

/-- Four floats read through a pointer and added to a queue. -/
def queuedLoad : Expr :=
  let lane : NumericType := .float 32
  .binary .add (.value (.named "q" (.handle "queue")))
    (.load (.unary .deref (.value (.named "p" lane))) (lane.vector 4))

/-- A context in which adding numbers to a queue assigns them to it. -/
def queueing (target : Target) (catalog : Catalog) : Context where
  target
  catalog
  rules := Registry.empty.register (.handle "queue") .floating
    { fallback := some (Outcome.left.replacing .assign) }

/-- The two moves of four floats on x86. -/
def floatMoves : Catalog :=
  let key (operation : Intrinsic) : Catalog.Key := ⟨operation, .x86, ⟨.float, 32, 4⟩⟩
  (Catalog.empty.insert (key .load) "_mm_loadu_ps").insert (key .store) "_mm_storeu_ps"

/-- The rule makes the sum a store in C and an assignment in Fortran; both have
the type of the queue. -/
theorem queuedLoad_type?_eq :
    queuedLoad.FmaFree ∧
      ∃ value other, queuedLoad.evaluate (queueing ⟨.c, .x86⟩ floatMoves) = .ok value ∧
        queuedLoad.evaluate (queueing ⟨.fortran, .arm⟩ .empty) = .ok other ∧
        value.render = "_mm_storeu_ps( (float * ) &q, _mm_loadu_ps( p ) )" ∧
        other.render = "q =  *p" ∧ value.type? = other.type? := by
  have free : queuedLoad.FmaFree := by
    refine .of_parts nofun (List.forall_mem_cons.mpr ⟨fmaFree_value _, List.forall_mem_singleton.mpr ?_⟩)
    refine .of_parts nofun (List.forall_mem_singleton.mpr ?_)
    exact .of_parts nofun (List.forall_mem_singleton.mpr (fmaFree_value _))
  have stored : queuedLoad.evaluate (queueing ⟨.c, .x86⟩ floatMoves) =
      .ok (.typed (.computed "_mm_storeu_ps( (float * ) &q, _mm_loadu_ps( p ) )" (.handle "queue"))) :=
    rfl
  have assigned : queuedLoad.evaluate (queueing ⟨.fortran, .arm⟩ .empty) =
      .ok (.typed (.computed "q =  *p" (.handle "queue"))) := rfl
  have sameRules : (queueing ⟨.c, .x86⟩ floatMoves).rules = (queueing ⟨.fortran, .arm⟩ .empty).rules :=
    rfl
  exact ⟨free, _, _, stored, assigned, rfl, rfl, type?_eq_of_evaluate free sameRules stored assigned⟩

end Expr

end VectorKernel
