import VectorKernel.Proofs.Strictness

/-!
# Properties of every node

An induction principle for expressions that reaches the lanes of a vector, and
`Expr.Everywhere` for properties that hold at each node of a tree. A property
that holds everywhere holds everywhere in each part, which is all that a proof
by induction asks of it.
-/

namespace VectorKernel.Expr

/-- Induction over expressions, with a hypothesis for every part. -/
@[elab_as_elim]
theorem induction {motive : Expr → Prop}
    (literal : ∀ constant, motive (.literal constant))
    (value : ∀ operand, motive (.value operand))
    (binary : ∀ operator left right, motive left → motive right →
      motive (.binary operator left right))
    (unary : ∀ operator right, motive right → motive (.unary operator right))
    (dangling : ∀ operator left, motive left → motive (.dangling operator left))
    (bare : ∀ operator, motive (.bare operator))
    (load : ∀ source type, motive source → motive (.load source type))
    (store : ∀ destination source, motive destination → motive source →
      motive (.store destination source))
    (broadcast : ∀ source type, motive source → motive (.broadcast source type))
    (ofLanes : ∀ lanes type, (∀ lane ∈ lanes, motive lane) → motive (.ofLanes lanes type))
    (maskedLoad : ∀ source mask type, motive source → motive (.maskedLoad source mask type))
    (maskedStore : ∀ destination source mask, motive destination → motive source →
      motive (.maskedStore destination source mask))
    (fma : ∀ a b c, motive a → motive b → motive c → motive (.fma a b c))
    (conditional : ∀ condition positive negative, motive condition → motive positive →
      motive negative → motive (.conditional condition positive negative))
    (expression : Expr) : motive expression := by
  -- The recursor of the type has a second motive, for lists of lanes.
  refine @Expr.rec motive (fun lanes => ∀ lane ∈ lanes, motive lane) literal value binary unary
    dangling bare load store broadcast ofLanes maskedLoad maskedStore fma conditional nofun ?_
    expression
  intro first rest firstHolds restHold lane member
  rcases List.mem_cons.mp member with rfl | member
  · exact firstHolds
  · exact restHold lane member

/-- A property of every expression within an expression. -/
def Everywhere (holds : Expr → Prop) (expression : Expr) : Prop :=
  ∀ inner : Expr, inner.Within expression → holds inner

namespace Everywhere

variable {holds : Expr → Prop} {expression part inner : Expr}

theorem here (everywhere : expression.Everywhere holds) : holds expression :=
  everywhere expression (.here expression)

theorem inPart (everywhere : expression.Everywhere holds) (isPart : part ∈ expression.parts) :
    part.Everywhere holds :=
  fun inner within => everywhere inner (.inPart isPart within)

/-- What holds everywhere holds everywhere in whatever occurs. -/
theorem within (everywhere : expression.Everywhere holds) (within : inner.Within expression) :
    inner.Everywhere holds := by
  induction within with
  | here => exact everywhere
  | inPart isPart _ ih => exact ih (everywhere.inPart isPart)

/-- What holds of the whole and everywhere in its parts holds everywhere. -/
theorem of_parts (here : holds expression)
    (below : ∀ part ∈ expression.parts, part.Everywhere holds) : expression.Everywhere holds := by
  intro inner within
  cases within with
  | here => exact here
  | inPart isPart within => exact below _ isPart inner within

end Everywhere

/-- Trees without a fused multiply-add. -/
def FmaFree (expression : Expr) : Prop :=
  expression.Everywhere fun inner => ∀ a b c, inner ≠ .fma a b c

/-- An operand alone asks for no fused operation. -/
theorem fmaFree_value (operand : Operand) : (Expr.value operand).FmaFree :=
  .of_parts nofun nofun

end VectorKernel.Expr
