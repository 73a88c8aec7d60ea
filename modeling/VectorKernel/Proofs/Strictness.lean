import VectorKernel.Proofs.Success

/-!
# Strict evaluation

An expression evaluates only if everything below it does, and only if every
node suits the language. `Expr.Within` reaches the nodes at any depth,
`Expr.Admissible` states what a node demands besides the success of its parts,
and `strict_of_render` says that one rendered text vouches for all of them: no
fault below is ever swallowed.
-/

namespace VectorKernel.Expr

/-- The expressions directly below an expression, from left to right. -/
def parts : Expr → List Expr
  | .literal _ | .value _ | .bare _ => []
  | .binary _ left right => [left, right]
  | .unary _ part | .dangling _ part => [part]
  | .load source _ | .broadcast source _ | .maskedLoad source _ _ => [source]
  | .store destination source | .maskedStore destination source _ => [destination, source]
  | .ofLanes lanes _ => lanes
  | .fma a b c => [a, b, c]
  | .conditional condition positive negative => [condition, positive, negative]

/-- `inner.Within outer`: the first expression occurs in the second, at any
depth and in any place. -/
inductive Within : Expr → Expr → Prop where
  | here (expression : Expr) : Within expression expression
  | inPart {inner part outer : Expr} (isPart : part ∈ outer.parts) (within : Within inner part) :
      Within inner outer

/-- The vector type of a masked store is the type of the value it stores. -/
def StoresLanes (context : Context) (source : Expr) (lanes : Nat) : Prop :=
  ∃ operand type, source.evaluate context = .ok (.typed operand) ∧
    operand.numeric? = some type ∧ type.lanes = lanes

/-- What a node demands of itself and of the language, besides the success of
its parts. -/
def Admissible (context : Context) : Expr → Prop
  | .literal (.float number) => number.isFinite
  | .bare _ => False
  | .ofLanes lanes type =>
    lanes.length = type.lanes ∧ context.language ≠ .cuda ∧ context.language ≠ .fortran
  | .maskedLoad _ mask type => mask.length = type.lanes ∧ context.language = .c
  | .maskedStore _ source mask => StoresLanes context source mask.length ∧ context.language = .c
  | .conditional .. => context.language ≠ .fortran
  | _ => True

section Steps

variable {context : Context}

/-- A list of expressions evaluates to one text for each, all of them good. -/
theorem evaluateAll_ok {expressions : List Expr} {texts : List String}
    (success : evaluateAll context expressions = .ok texts) :
    texts.length = expressions.length ∧
      ∀ expression ∈ expressions, ∃ value, expression.evaluate context = .ok value := by
  induction expressions generalizing texts with
  | nil =>
    simp only [evaluateAll, Except.ok.injEq] at success
    subst success
    exact ⟨rfl, nofun⟩
  | cons first rest ih =>
    simp only [evaluateAll, bind_eq_ok, pure_eq_ok] at success
    obtain ⟨value, firstOk, others, restOk, rfl⟩ := success
    obtain ⟨sameLength, restParts⟩ := ih restOk
    refine ⟨by simp [sameLength], ?_⟩
    intro expression member
    rcases List.mem_cons.mp member with rfl | member
    · exact ⟨value, firstOk⟩
    · exact restParts expression member

/-- The type that a role requires is there when the role is filled. -/
theorem require_ok {value : Evaluated} {role : Role} {operand : Operand}
    (success : value.require role = .ok operand) : value = .typed operand := by
  cases value with
  | typed held =>
    simp only [Evaluated.require, Except.ok.injEq] at success
    rw [success]
  | text plain => cases success

/-- A literal that evaluates is no infinity and no not-a-number. -/
theorem finite_of_evaluate {literal : Literal} {value : Evaluated}
    (success : literal.evaluate = .ok value) : (Expr.literal literal).Admissible context := by
  cases literal with
  | int number => exact trivial
  | raw text => exact trivial
  | float number =>
    simp only [Literal.evaluate, Literal.nonFinite?] at success
    simp only [Admissible, Decimal.Binary64.isFinite]
    cases decoded : number.decode with
    | finite negative mantissa exponent => rfl
    | infinite negative => simp [decoded] at success
    | nan => simp [decoded] at success

/-- A vector of one scalar per lane has a scalar for every lane, in a language
that can write it. -/
theorem laneList_ok {texts : List String} {type : NumericType} {operand : Operand}
    (success : Lowering.ofLanes context texts type = .ok operand) :
    texts.length = type.lanes ∧ context.language ≠ .cuda ∧ context.language ≠ .fortran := by
  obtain ⟨text, textOk, -⟩ := map_eq_ok.mp success
  unfold Lowering.laneListText at textOk
  split at textOk
  · next counted =>
    refine ⟨counted, ?_, ?_⟩
    · intro cuda
      simp [cuda] at textOk
    · intro fortran
      simp [fortran] at textOk
  · cases textOk

/-- A mask that passes its check has a flag for every lane, in C. -/
theorem checkMask_ok {mask : List Bool} {type : NumericType}
    (success : Lowering.checkMask context mask type = .ok ()) :
    mask.length = type.lanes ∧ context.language = .c := by
  unfold Lowering.checkMask at success
  split at success
  · cases success
  · next counted =>
    split at success
    · cases success
    · next isC => exact ⟨Decidable.not_not.mp counted, Decidable.not_not.mp isC⟩

/-- A masked load that succeeds has a complete mask, and is written in C. -/
theorem maskedLoad_ok {source operand : Operand} {mask : List Bool} {type : NumericType}
    (success : Lowering.maskedLoad context source mask type = .ok operand) :
    mask.length = type.lanes ∧ context.language = .c := by
  obtain ⟨text, textOk, -⟩ := map_eq_ok.mp success
  obtain ⟨_, checked, -⟩ := bind_eq_ok.mp textOk
  exact checkMask_ok checked

/-- A masked store that succeeds has a mask for every lane of its value, and is written in C. -/
theorem maskedStore_ok {destination source operand : Operand} {mask : List Bool}
    (success : context.maskedStore destination source mask = .ok operand) :
    (∃ type, source.numeric? = some type ∧ type.lanes = mask.length) ∧ context.language = .c := by
  unfold Context.maskedStore at success
  split at success
  · next type numeric =>
    obtain ⟨text, textOk, -⟩ := map_eq_ok.mp success
    obtain ⟨_, checked, -⟩ := bind_eq_ok.mp textOk
    obtain ⟨counted, isC⟩ := checkMask_ok checked
    exact ⟨⟨type, numeric, counted.symm⟩, isC⟩
  · cases success

/-- A choice that passes is not written in Fortran. -/
theorem checkConditional_ok (success : context.checkConditional = .ok ()) :
    context.language ≠ .fortran := by
  intro fortran
  simp [Context.checkConditional, fortran] at success

end Steps

/-- One step down: a node that evaluates is admissible, and its parts evaluate. -/
theorem parts_of_evaluate {context : Context} {expression : Expr} {value : Evaluated}
    (success : expression.evaluate context = .ok value) :
    expression.Admissible context ∧
      ∀ part ∈ expression.parts, ∃ inner, part.evaluate context = .ok inner := by
  cases expression with
  | literal constant => exact ⟨finite_of_evaluate success, nofun⟩
  | value operand => exact ⟨trivial, nofun⟩
  | bare operator => cases success
  | binary operator left right =>
    simp only [evaluate, bind_eq_ok] at success
    obtain ⟨_, leftOk, _, rightOk, -⟩ := success
    exact ⟨trivial, by simp [parts, leftOk, rightOk]⟩
  | unary operator right =>
    simp only [evaluate, bind_eq_ok] at success
    obtain ⟨_, rightOk, -⟩ := success
    exact ⟨trivial, by simp [parts, rightOk]⟩
  | dangling operator left =>
    simp only [evaluate, bind_eq_ok] at success
    obtain ⟨_, leftOk, -⟩ := success
    exact ⟨trivial, by simp [parts, leftOk]⟩
  | load source type =>
    simp only [evaluate, bind_eq_ok] at success
    obtain ⟨_, sourceOk, -⟩ := success
    exact ⟨trivial, by simp [parts, sourceOk]⟩
  | store destination source =>
    simp only [evaluate, bind_eq_ok] at success
    obtain ⟨_, destinationOk, _, -, _, sourceOk, -⟩ := success
    exact ⟨trivial, by simp [parts, destinationOk, sourceOk]⟩
  | broadcast source type =>
    simp only [evaluate, bind_eq_ok] at success
    obtain ⟨_, sourceOk, -⟩ := success
    exact ⟨trivial, by simp [parts, sourceOk]⟩
  | ofLanes lanes type =>
    simp only [evaluate, bind_eq_ok] at success
    obtain ⟨texts, textsOk, _, lowered, -⟩ := success
    obtain ⟨sameLength, lanesOk⟩ := evaluateAll_ok textsOk
    have demands := laneList_ok lowered
    rw [sameLength] at demands
    exact ⟨demands, lanesOk⟩
  | maskedLoad source mask type =>
    simp only [evaluate, bind_eq_ok] at success
    obtain ⟨_, sourceOk, _, -, _, lowered, -⟩ := success
    exact ⟨maskedLoad_ok lowered, by simp [parts, sourceOk]⟩
  | maskedStore destination source mask =>
    simp only [evaluate, bind_eq_ok] at success
    obtain ⟨_, destinationOk, _, -, _, sourceOk, held, required, _, lowered, -⟩ := success
    obtain ⟨⟨type, numeric, counted⟩, isC⟩ := maskedStore_ok lowered
    have typed := require_ok required
    subst typed
    exact ⟨⟨⟨held, type, sourceOk, numeric, counted⟩, isC⟩, by simp [parts, destinationOk, sourceOk]⟩
  | fma a b c =>
    simp only [evaluate, bind_eq_ok] at success
    obtain ⟨_, aOk, _, bOk, _, cOk, -⟩ := success
    exact ⟨trivial, by simp [parts, aOk, bOk, cOk]⟩
  | conditional condition positive negative =>
    simp only [evaluate, bind_eq_ok] at success
    obtain ⟨_, checked, _, conditionOk, _, positiveOk, _, negativeOk, -⟩ := success
    exact ⟨checkConditional_ok checked, by simp [parts, conditionOk, positiveOk, negativeOk]⟩

/-- What one step down preserves, every descent preserves. -/
theorem Within.evaluates {context : Context} {inner outer : Expr} (within : inner.Within outer)
    {value : Evaluated} (success : outer.evaluate context = .ok value) :
    ∃ part, inner.evaluate context = .ok part := by
  induction within generalizing value with
  | here => exact ⟨value, success⟩
  | inPart isPart _ ih =>
    obtain ⟨_, partOk⟩ := (parts_of_evaluate success).2 _ isPart
    exact ih partOk

/-- A rendered expression is strict: every expression within it evaluates in
the same context and is admissible there. -/
theorem strict_of_render {context : Context} {expression inner : Expr} {text : String}
    (rendered : expression.render context = .ok text) (within : inner.Within expression) :
    (∃ value, inner.evaluate context = .ok value) ∧ inner.Admissible context := by
  obtain ⟨_, success, -⟩ := map_eq_ok.mp rendered
  obtain ⟨value, innerOk⟩ := within.evaluates success
  exact ⟨⟨value, innerOk⟩, (parts_of_evaluate innerOk).1⟩

/-- Two lanes, the second one chosen by a comparison with the number zero. -/
def chosenLanes : Expr :=
  let x : Expr := .value (.named "x" (NumericType.float 32))
  .ofLanes [x, .conditional (.binary .lt x (.literal (.float ⟨0⟩))) (-x) (.literal (.int 3))]
    ((NumericType.float 32).vector 2)

/-- The number below the comparison is reached through three nodes. -/
theorem chosenLanes_strict :
    let context : Context := { target := ⟨.openCl, .generic⟩, catalog := .empty }
    chosenLanes.render context = .ok "(float2)( x, (x < 0.0 ?  -(x) : 3) )" ∧
      (∃ value, (Expr.literal (.float ⟨0⟩)).evaluate context = .ok value) ∧
      (Expr.literal (.float ⟨0⟩)).Admissible context := by
  intro context
  have rendered : chosenLanes.render context = .ok "(float2)( x, (x < 0.0 ?  -(x) : 3) )" := rfl
  refine ⟨rendered, strict_of_render rendered ?_⟩
  refine .inPart (List.mem_cons_of_mem _ (List.mem_singleton_self _)) ?_
  refine .inPart (List.mem_cons_self ..) ?_
  exact .inPart (List.mem_cons_of_mem _ (List.mem_singleton_self _)) (.here _)

end VectorKernel.Expr
