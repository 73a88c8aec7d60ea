import VectorKernel.Proofs.Alignment.Lowering
import VectorKernel.Proofs.Fused

/-!
# Declared alignments in expressions

Rendering looks at the declared alignment of an operand only where the operand
itself is the memory side of a vector move: the source of a load, the destination
of a store, or a side of an assignment whose other side is a vector.
`Expr.clearAlignment` drops every other declaration, and no text changes. In a tree
without declarations the aligned instructions of the catalog are never used.

Both are one fact about evaluation, `evaluate_clearAlignment`: a tree is `Settled`
if it declares no alignment, or if the catalog stays the same.
-/

namespace VectorKernel

namespace Evaluated

/-- Whether the value has the type of a vector. -/
def isVector (value : Evaluated) : Bool :=
  value.type?.any (·.isVector)

/-- The value without its declared alignment, unless it is kept as a memory side. -/
def kept (memorySide : Bool) : Evaluated → Evaluated
  | .typed operand => .typed (operand.kept memorySide)
  | .text plain => .text plain

/-- Values that declare no alignment. -/
def Unaligned (value : Evaluated) : Prop :=
  value.operand?.bind (·.alignment) = none

variable {value : Evaluated} (memorySide : Bool)

@[simp] theorem kept_render : (value.kept memorySide).render = value.render := by
  cases value with
  | typed operand => exact operand.kept_text memorySide
  | text plain => rfl

@[simp] theorem kept_type? : (value.kept memorySide).type? = value.type? := by
  cases value with
  | typed operand => exact congrArg some (operand.kept_type memorySide)
  | text plain => rfl

/-- Asking for an operand commutes with dropping its alignment, faults included. -/
theorem kept_require (role : Role) :
    (value.kept memorySide).require role = (value.require role).map (·.kept memorySide) := by
  cases value <;> rfl

/-- On the memory side nothing is dropped. -/
theorem kept_true : value.kept true = value := by
  cases value <;> rfl

/-- Where there is no alignment, nothing is dropped. -/
theorem Unaligned.kept_eq (unaligned : value.Unaligned) : value.kept memorySide = value := by
  cases value with
  | text plain => rfl
  | typed operand => exact congrArg typed (operand.kept_eq unaligned memorySide)

/-- A value that is given by its text has no alignment. -/
theorem Unaligned.ofText (text : String) (type : Option DataType) : (ofText text type).Unaligned := by
  cases type <;> rfl

end Evaluated

section Results

variable {context : Context}

/-- No operator gives a value with an alignment. -/
theorem Lowering.alignment_of_binary {operator : Operator} {left right result : Operand}
    (success : binary context operator left right = .ok result) : result.alignment = none := by
  obtain ⟨text, type, effective, -, rfl⟩ := computed_of_binary success
  rfl

/-- No fused operation gives a value with an alignment. -/
theorem Lowering.alignment_of_fused {a b c result : Operand}
    (success : fused context a b c = .ok result) : result.alignment = none := by
  rcases fused_cases success with ⟨-, text, rfl⟩ | ⟨-, separated⟩ | ⟨-, _, -, sum⟩
  · rfl
  · obtain ⟨_, -, sum⟩ := bind_eq_ok.mp separated
    exact alignment_of_binary sum
  · exact alignment_of_binary sum

/-- No application of an operator gives a value with an alignment, typed or not. -/
theorem Context.unaligned_of_apply {operator : Operator} {left right : Option Evaluated}
    {value : Evaluated} (success : context.apply operator left right = .ok value) : value.Unaligned := by
  rcases left with _ | (left | _) <;> rcases right with _ | (right | _)
  case none.none => cases success
  case some.typed.some.typed =>
    obtain ⟨operand, binaryOk, rfl⟩ := map_eq_ok.mp success
    exact Lowering.alignment_of_binary binaryOk
  all_goals
    obtain rfl := Except.ok.inj success
    exact .ofText _ _

/-- A fused operation gives no value with an alignment, typed or not. -/
theorem Context.unaligned_of_fma {a b c value : Evaluated} (success : context.fma a b c = .ok value) :
    value.Unaligned := by
  unfold fma at success
  split at success
  · obtain ⟨operand, fusedOk, rfl⟩ := map_eq_ok.mp success
    exact Lowering.alignment_of_fused fusedOk
  · obtain ⟨_, -, sum⟩ := bind_eq_ok.mp success
    exact unaligned_of_apply sum

/-- Literals have no alignment. -/
theorem Literal.unaligned_of_evaluate {literal : Literal} {value : Evaluated}
    (success : literal.evaluate = .ok value) : value.Unaligned := by
  unfold Literal.evaluate at success
  split at success
  · cases success
  · cases literal <;> cases success <;> rfl

end Results

namespace Expr

/-- The alignment that a node declares; only operands do. -/
def declaredAlignment : Expr → Option Nat
  | .value operand => operand.alignment
  | _ => none

/-- An alignment of a value was declared by the node that it is the value of. -/
theorem unaligned_of_evaluate {context : Context} {expression : Expr} {value : Evaluated}
    (undeclared : expression.declaredAlignment = none)
    (success : expression.evaluate context = .ok value) : value.Unaligned := by
  cases expression with
  | value operand =>
    obtain rfl := Except.ok.inj success
    exact undeclared
  | literal constant => exact Literal.unaligned_of_evaluate success
  | bare operator => cases success
  | binary operator left right =>
    obtain ⟨_, -, rest⟩ := bind_eq_ok.mp success
    obtain ⟨_, -, applied⟩ := bind_eq_ok.mp rest
    exact Context.unaligned_of_apply applied
  | unary operator part | dangling operator part =>
    obtain ⟨_, -, applied⟩ := bind_eq_ok.mp success
    exact Context.unaligned_of_apply applied
  | load source type | maskedLoad source mask type =>
    simp only [evaluate, bind_eq_ok, pure_eq_ok] at success
    obtain ⟨_, -, _, -, _, loaded, rfl⟩ := success
    obtain ⟨text, rfl⟩ := computed_of_map loaded
    rfl
  | store destination source =>
    simp only [evaluate, bind_eq_ok, pure_eq_ok] at success
    obtain ⟨_, -, _, -, _, -, _, -, _, stored, rfl⟩ := success
    obtain ⟨text, rfl⟩ := computed_of_map stored
    rfl
  | maskedStore destination source mask =>
    simp only [evaluate, bind_eq_ok, pure_eq_ok] at success
    obtain ⟨_, -, _, -, _, -, _, -, _, stored, rfl⟩ := success
    obtain ⟨text, rfl⟩ := computed_of_maskedStore stored
    rfl
  | broadcast source type =>
    simp only [evaluate, bind_eq_ok, pure_eq_ok] at success
    obtain ⟨_, -, _, spread, rfl⟩ := success
    obtain ⟨text, rfl⟩ := computed_of_broadcast spread
    rfl
  | ofLanes lanes type =>
    simp only [evaluate, bind_eq_ok, pure_eq_ok] at success
    obtain ⟨_, -, _, built, rfl⟩ := success
    obtain ⟨text, rfl⟩ := computed_of_map built
    rfl
  | fma a b c =>
    simp only [evaluate, bind_eq_ok] at success
    obtain ⟨_, -, _, -, _, -, fused⟩ := success
    exact Context.unaligned_of_fma fused
  | conditional condition positive negative =>
    simp only [evaluate, Context.conditional, bind_eq_ok, pure_eq_ok] at success
    obtain ⟨_, -, _, -, _, -, _, -, _, -, _, -, rfl⟩ := success
    exact .ofText _ _

/-- So other nodes are not affected when values lose their alignment. -/
theorem eq_map_kept {context : Context} {expression : Expr} {run : Except Fault Evaluated}
    {memorySide : Bool} (undeclared : expression.declaredAlignment = none)
    (equal : run = expression.evaluate context) :
    run = (expression.evaluate context).map (·.kept memorySide) := by
  rw [equal]
  cases result : expression.evaluate context with
  | error fault => rfl
  | ok evaluated =>
    exact congrArg Except.ok ((unaligned_of_evaluate undeclared result).kept_eq memorySide).symm

/-- Whether the expression evaluates to a vector. -/
def isVectorIn (context : Context) (expression : Expr) : Bool :=
  match expression.evaluate context with
  | .ok result => result.isVector
  | .error _ => false

mutual

/-- The tree without the alignments that its operands declare, but for operands
that are the memory side of a vector move. `memorySide` says whether the whole tree
stands in such a place. -/
def clearAlignment (context : Context) (memorySide : Bool) : Expr → Expr
  | .literal constant => .literal constant
  | .value operand => .value (operand.kept memorySide)
  | .binary operator left right =>
    -- A vector is stored to the left side, or loaded from the right one.
    let leftSide := operator = .assign && right.isVectorIn context
    let rightSide := operator = .assign && left.isVectorIn context
    .binary operator (clearAlignment context leftSide left) (clearAlignment context rightSide right)
  | .unary operator right => .unary operator (clearAlignment context false right)
  | .dangling operator left => .dangling operator (clearAlignment context false left)
  | .bare operator => .bare operator
  | .load source type => .load (clearAlignment context true source) type
  | .store destination source =>
    .store (clearAlignment context true destination) (clearAlignment context false source)
  | .broadcast source type => .broadcast (clearAlignment context false source) type
  | .ofLanes lanes type => .ofLanes (clearAlignments context lanes) type
  | .maskedLoad source mask type => .maskedLoad (clearAlignment context false source) mask type
  | .maskedStore destination source mask =>
    .maskedStore (clearAlignment context false destination) (clearAlignment context false source) mask
  | .fma a b c =>
    .fma (clearAlignment context false a) (clearAlignment context false b) (clearAlignment context false c)
  | .conditional condition positive negative =>
    .conditional (clearAlignment context false condition) (clearAlignment context false positive)
      (clearAlignment context false negative)

/-- The lanes of a vector, none of which is a memory side. -/
def clearAlignments (context : Context) : List Expr → List Expr
  | [] => []
  | lane :: lanes => clearAlignment context false lane :: clearAlignments context lanes

end

/-- Trees whose operands declare no alignment. -/
def Unaligned (expression : Expr) : Prop :=
  expression.Everywhere fun inner => inner.declaredAlignment = none

/-- Lanes in which nothing is cleared stay as they are. -/
theorem clearAlignments_eq {context : Context} {lanes : List Expr}
    (unchanged : ∀ lane ∈ lanes, lane.clearAlignment context false = lane) :
    clearAlignments context lanes = lanes := by
  induction lanes with
  | nil => rfl
  | cons lane lanes ih =>
    obtain ⟨first, rest⟩ := List.forall_mem_cons.mp unchanged
    rw [clearAlignments, first, ih rest]

/-- Nothing is dropped where nothing is declared. -/
theorem clearAlignment_eq {context : Context} {expression : Expr} (unaligned : expression.Unaligned)
    (memorySide : Bool) : expression.clearAlignment context memorySide = expression := by
  induction expression using Expr.induction generalizing memorySide with
  | literal constant | bare operator => rfl
  | value operand => exact congrArg value (operand.kept_eq unaligned.here memorySide)
  | ofLanes lanes type ih =>
    have lanesEq : clearAlignments context lanes = lanes :=
      clearAlignments_eq fun lane isLane => ih lane isLane (unaligned.inPart isLane) false
    rw [clearAlignment, lanesEq]
  | unary operator part ih | dangling operator part ih | load part type ih | broadcast part type ih
  | maskedLoad part mask type ih =>
    have partUnaligned : part.Unaligned := unaligned.inPart (by simp [parts])
    simp only [clearAlignment, ih partUnaligned]
  | binary operator first second firstIh secondIh | store first second firstIh secondIh
  | maskedStore first second mask firstIh secondIh =>
    have firstUnaligned : first.Unaligned := unaligned.inPart (by simp [parts])
    have secondUnaligned : second.Unaligned := unaligned.inPart (by simp [parts])
    simp only [clearAlignment, firstIh firstUnaligned, secondIh secondUnaligned]
  | fma first second third firstIh secondIh thirdIh
  | conditional first second third firstIh secondIh thirdIh =>
    have firstUnaligned : first.Unaligned := unaligned.inPart (by simp [parts])
    have secondUnaligned : second.Unaligned := unaligned.inPart (by simp [parts])
    have thirdUnaligned : third.Unaligned := unaligned.inPart (by simp [parts])
    simp only [clearAlignment, firstIh firstUnaligned, secondIh secondUnaligned, thirdIh thirdUnaligned]

/-- Trees that may be evaluated with another catalog after their alignments have
been dropped: there is nothing to drop, or the catalog is the same after all. -/
def Settled (context : Context) (other : Catalog) (expression : Expr) : Prop :=
  expression.Unaligned ∨ other = context.catalog

namespace Settled

variable {context : Context} {other : Catalog} {expression part : Expr}

/-- What is settled in an expression is settled in its parts. -/
theorem inPart (settled : expression.Settled context other) (isPart : part ∈ expression.parts) :
    part.Settled context other :=
  settled.imp_left fun unaligned => unaligned.inPart isPart

/-- A memory side that keeps its alignment is moved by the same instruction. -/
theorem undisturbed {operand : Operand} (settled : expression.Settled context other)
    (success : expression.evaluate context = .ok (.typed operand)) :
    context.Undisturbed other true operand := by
  rcases settled with unaligned | sameCatalog
  · exact .inl (unaligned_of_evaluate unaligned.here success)
  · exact .inr ⟨rfl, sameCatalog⟩

end Settled

end Expr

section Nodes

variable {context : Context} {other : Catalog} (same : context.catalog.EqualButAligned other)

namespace Context

/-- Unary operators in front of a value read no alignment. -/
theorem apply_kept_right (operator : Operator) (memorySide : Bool) (value : Evaluated) :
    (context.withCatalog other).apply operator none (some (value.kept memorySide)) =
      context.apply operator none (some value) := by
  cases value <;> cases memorySide <;> rfl

/-- Unary operators behind a value read no alignment. -/
theorem apply_kept_left (operator : Operator) (memorySide : Bool) (value : Evaluated) :
    (context.withCatalog other).apply operator (some (value.kept memorySide)) none =
      context.apply operator (some value) none := by
  cases value <;> cases memorySide <;> rfl

/-- A choice reads no alignment of its three parts. -/
theorem conditional_kept (conditionSide positiveSide negativeSide : Bool)
    (condition positive negative : Evaluated) :
    (context.withCatalog other).conditional (condition.kept conditionSide) (positive.kept positiveSide)
        (negative.kept negativeSide) =
      context.conditional condition positive negative := by
  simp only [conditional, conditionalType, Evaluated.kept_render, Evaluated.kept_type?]
  rfl

include same

/-- A broadcast reads no alignment. -/
theorem broadcast_kept (memorySide : Bool) (source : Evaluated) (type : NumericType) :
    (context.withCatalog other).broadcast (source.kept memorySide) type =
      context.broadcast source type := by
  cases source with
  | typed source =>
    have spread := Lowering.broadcastText_kept same memorySide source type
    exact congrArg (Except.map (Operand.computed · type)) spread
  | text text =>
    have spread := Lowering.broadcastText_kept same true (.computed text type.scalar) type
    exact congrArg (Except.map (Operand.computed · type)) spread

/-- A masked store reads no alignment of its sides. -/
theorem maskedStore_kept (memorySide valueSide : Bool) (destination source : Operand)
    (mask : List Bool) :
    (context.withCatalog other).maskedStore (destination.kept memorySide) (source.kept valueSide) mask =
      context.maskedStore destination source mask := by
  simp only [maskedStore, Lowering.maskedStore, Operand.kept_numeric?,
    Lowering.maskedStoreText_kept same]

variable (builtin : context.rules = .empty)

include builtin

/-- Operators on two values read an alignment only in assignments, and only of the side that is
moved to or from memory. -/
theorem apply_kept {operator : Operator} {leftSide rightSide : Bool} {left right : Evaluated}
    (leftUndisturbed : operator = .assign → right.isVector = true →
      ∀ operand, left = .typed operand → context.Undisturbed other leftSide operand)
    (rightUndisturbed : operator = .assign → left.isVector = true →
      ∀ operand, right = .typed operand → context.Undisturbed other rightSide operand) :
    (context.withCatalog other).apply operator (some (left.kept leftSide)) (some (right.kept rightSide)) =
      context.apply operator (some left) (some right) := by
  cases left with
  | text left => cases right <;> cases rightSide <;> rfl
  | typed left =>
    cases right with
    | text right => cases leftSide <;> rfl
    | typed right =>
      have lowered : Lowering.binary (context.withCatalog other) operator (left.kept leftSide)
          (right.kept rightSide) = Lowering.binary context operator left right :=
        Lowering.binary_kept same builtin
          (fun assigns vector => leftUndisturbed assigns vector left rfl)
          (fun assigns vector => rightUndisturbed assigns vector right rfl)
      exact congrArg (Except.map Evaluated.typed) lowered

/-- All other operators read none. -/
theorem apply_kept_of_ne (operator : Operator) (notAssign : operator ≠ .assign)
    (leftSide rightSide : Bool) (left right : Evaluated) :
    (context.withCatalog other).apply operator (some (left.kept leftSide)) (some (right.kept rightSide)) =
      context.apply operator (some left) (some right) :=
  apply_kept same builtin (fun assigns => absurd assigns notAssign)
    fun assigns => absurd assigns notAssign

/-- A fused operation reads no alignment, whichever of its operands are typed. -/
theorem fma_kept (aSide bSide cSide : Bool) (a b c : Evaluated) :
    (context.withCatalog other).fma (a.kept aSide) (b.kept bSide) (c.kept cSide) =
      context.fma a b c := by
  have apart :
      ((context.withCatalog other).apply .mul (some (a.kept aSide)) (some (b.kept bSide)) >>= fun product =>
        (context.withCatalog other).apply .add (some (c.kept cSide)) (some product)) =
      (context.apply .mul (some a) (some b) >>= fun product =>
        context.apply .add (some c) (some product)) := by
    rw [apply_kept_of_ne same builtin .mul nofun]
    refine bind_congr_ok fun product _ => ?_
    rw [← apply_kept_of_ne same builtin .add nofun cSide true c product, Evaluated.kept_true]
  cases a with
  | text a => exact apart
  | typed a =>
    cases b with
    | text b => exact apart
    | typed b =>
      cases c with
      | text c => exact apart
      | typed c =>
        exact congrArg (Except.map Evaluated.typed)
          (Lowering.fused_kept same builtin aSide bSide cSide a b c)

end Context

namespace Expr

/-- Lanes are no memory side, so they evaluate to the same operands if each of them does. -/
theorem evaluateAll_clearAlignments {lanes : List Expr}
    (unchanged : ∀ lane ∈ lanes, (lane.clearAlignment context false).evaluate (context.withCatalog other) =
      (lane.evaluate context).map (·.kept false)) :
    evaluateAll (context.withCatalog other) (clearAlignments context lanes) =
      evaluateAll context lanes := by
  induction lanes with
  | nil => rfl
  | cons lane lanes ih =>
    obtain ⟨first, rest⟩ := List.forall_mem_cons.mp unchanged
    simp only [clearAlignments, evaluateAll, first, ih rest, map_bind, Evaluated.kept_render]

variable (builtin : context.rules = .empty)

include same builtin

/-- Dropping alignments and changing aligned instructions changes no value, but for
the alignment of an operand that is the whole tree. -/
theorem evaluate_clearAlignment {expression : Expr} (settled : expression.Settled context other)
    (memorySide : Bool) :
    (expression.clearAlignment context memorySide).evaluate (context.withCatalog other) =
      (expression.evaluate context).map (·.kept memorySide) := by
  induction expression using Expr.induction generalizing memorySide with
  | value operand => rfl
  | literal constant | bare operator =>
    refine eq_map_kept rfl ?_
    rfl
  | binary operator left right leftIh rightIh =>
    have leftSettled : left.Settled context other := settled.inPart (by simp [parts])
    have rightSettled : right.Settled context other := settled.inPart (by simp [parts])
    refine eq_map_kept rfl ?_
    simp only [clearAlignment, evaluate, leftIh leftSettled, rightIh rightSettled, map_bind]
    refine bind_congr_ok fun leftValue leftOk => bind_congr_ok fun rightValue rightOk => ?_
    -- A side that is looked at was kept: the other side evaluated to a vector.
    apply Context.apply_kept same builtin
    · rintro rfl vector operand rfl
      simp only [isVectorIn, rightOk, vector, decide_true, Bool.and_self]
      exact leftSettled.undisturbed leftOk
    · rintro rfl vector operand rfl
      simp only [isVectorIn, leftOk, vector, decide_true, Bool.and_self]
      exact rightSettled.undisturbed rightOk
  | unary operator right ih =>
    refine eq_map_kept rfl ?_
    simp only [clearAlignment, evaluate, ih (settled.inPart (by simp [parts])), map_bind,
      Context.apply_kept_right]
  | dangling operator left ih =>
    refine eq_map_kept rfl ?_
    simp only [clearAlignment, evaluate, ih (settled.inPart (by simp [parts])), map_bind,
      Context.apply_kept_left]
  | load source type ih =>
    have sourceSettled : source.Settled context other := settled.inPart (by simp [parts])
    refine eq_map_kept rfl ?_
    simp only [clearAlignment, evaluate, ih sourceSettled, map_bind, Evaluated.kept_require]
    refine bind_congr_ok fun value valueOk => bind_congr_ok fun operand typed => ?_
    obtain rfl := require_ok typed
    rw [Lowering.load, Lowering.load,
      Lowering.loadText_kept same (sourceSettled.undisturbed valueOk)]
  | store destination source destinationIh sourceIh =>
    have destinationSettled : destination.Settled context other := settled.inPart (by simp [parts])
    have sourceSettled : source.Settled context other := settled.inPart (by simp [parts])
    refine eq_map_kept rfl ?_
    simp only [clearAlignment, evaluate, destinationIh destinationSettled, sourceIh sourceSettled, map_bind,
      Evaluated.kept_require]
    refine bind_congr_ok fun value valueOk => bind_congr_ok fun operand typed => ?_
    obtain rfl := require_ok typed
    refine bind_congr_ok fun _ _ => bind_congr_ok fun stored _ => ?_
    rw [Lowering.store, Lowering.store, Operand.kept_type,
      Lowering.storeText_kept same (destinationSettled.undisturbed valueOk)]
  | broadcast source type ih =>
    refine eq_map_kept rfl ?_
    simp only [clearAlignment, evaluate, ih (settled.inPart (by simp [parts])), map_bind,
      Context.broadcast_kept same]
  | ofLanes lanes type ih =>
    have lanesEq : evaluateAll (context.withCatalog other) (clearAlignments context lanes) =
        evaluateAll context lanes :=
      evaluateAll_clearAlignments fun lane isLane => ih lane isLane (settled.inPart isLane) false
    refine eq_map_kept rfl ?_
    simp only [clearAlignment, evaluate, lanesEq, Lowering.ofLanes, Lowering.laneListText_withCatalog same]
  | maskedLoad source mask type ih =>
    refine eq_map_kept rfl ?_
    simp only [clearAlignment, evaluate, ih (settled.inPart (by simp [parts])), map_bind,
      Evaluated.kept_require, Lowering.maskedLoad, Lowering.maskedLoadText_kept same]
  | maskedStore destination source mask destinationIh sourceIh =>
    have destinationSettled : destination.Settled context other := settled.inPart (by simp [parts])
    have sourceSettled : source.Settled context other := settled.inPart (by simp [parts])
    refine eq_map_kept rfl ?_
    simp only [clearAlignment, evaluate, destinationIh destinationSettled, sourceIh sourceSettled, map_bind,
      Evaluated.kept_require, Context.maskedStore_kept same]
  | fma a b c aIh bIh cIh =>
    have aSettled : a.Settled context other := settled.inPart (by simp [parts])
    have bSettled : b.Settled context other := settled.inPart (by simp [parts])
    have cSettled : c.Settled context other := settled.inPart (by simp [parts])
    refine eq_map_kept rfl ?_
    simp only [clearAlignment, evaluate, aIh aSettled, bIh bSettled, cIh cSettled, map_bind,
      Context.fma_kept same builtin]
  | conditional condition positive negative conditionIh positiveIh negativeIh =>
    have conditionSettled : condition.Settled context other := settled.inPart (by simp [parts])
    have positiveSettled : positive.Settled context other := settled.inPart (by simp [parts])
    have negativeSettled : negative.Settled context other := settled.inPart (by simp [parts])
    refine eq_map_kept rfl ?_
    simp only [clearAlignment, evaluate, conditionIh conditionSettled, positiveIh positiveSettled,
      negativeIh negativeSettled, map_bind, Context.conditional_kept]
    rfl

/-- The text of a settled expression is the same with the other catalog and without the alignments.
-/
theorem render_clearAlignment {expression : Expr} (settled : expression.Settled context other)
    (memorySide : Bool) :
    (expression.clearAlignment context memorySide).render (context.withCatalog other) =
      expression.render context := by
  rw [render, render, evaluate_clearAlignment same builtin settled]
  cases expression.evaluate context with
  | error fault => rfl
  | ok result => exact congrArg Except.ok (result.kept_render memorySide)

end Expr

end Nodes

namespace Expr

/-- Under the built-in laws of typing, aligned instructions are used only for
alignments that are declared at the memory side of a move. -/
theorem aligned_only_where_declared {context : Context} (builtin : context.rules = .empty)
    (expression : Expr) :
    (expression.clearAlignment context false).render context = expression.render context ∧
      (expression.Unaligned → ∀ other, context.catalog.EqualButAligned other →
        expression.render (context.withCatalog other) = expression.render context) := by
  constructor
  · exact render_clearAlignment (.refl context.catalog) builtin (.inr rfl) false
  · intro unaligned other same
    have cleared := render_clearAlignment same builtin (.inl unaligned) false
    rwa [clearAlignment_eq unaligned] at cleared

/-- A sum of four floats at `p` and four at `q[i]`, stored to `d`. The memory sides `d`
and `p` declare one alignment, and `q` another one. -/
def storedSum (memory base : Option Nat) : Expr :=
  let lane : NumericType := .float 32
  let place (name : String) (alignment : Option Nat) : Expr :=
    .value { Operand.named name lane with alignment }
  .store (place "d" memory) (.load (place "p" memory) (lane.vector 4) +
    .load ((place "q" base).index (.value (.named "i" (NumericType.int 32)))) (lane.vector 4))

/-- Unaligned moves and addition of four floats on x86. -/
def unalignedFloats : Catalog :=
  let key (operation : Intrinsic) : Catalog.Key := ⟨operation, .x86, ⟨.float, 32, 4⟩⟩
  Catalog.empty.insertAll
    [(key .load, "_mm_loadu_ps"), (key .store, "_mm_storeu_ps"), (key .add, "_mm_add_ps")]

/-- The same instructions and the aligned moves. -/
def alignedFloats : Catalog :=
  let key (operation : Intrinsic) : Catalog.Key := ⟨operation, .x86, ⟨.float, 32, 4⟩⟩
  (unalignedFloats.insert (key .loadAligned) "_mm_load_ps").insert (key .storeAligned) "_mm_store_ps"

/-- C on x86 with a catalog. -/
def onX86 (catalog : Catalog) : Context where
  target := ⟨.c, .x86⟩
  catalog

/-- Only the alignment of `q` is dropped, without effect, as `q[i]` has none; without
declarations the aligned moves are not used. -/
theorem storedSum_render :
    (storedSum (some 16) (some 16)).clearAlignment (onX86 alignedFloats) false =
        storedSum (some 16) none ∧
      (storedSum (some 16) (some 16)).render (onX86 alignedFloats) =
        .ok "_mm_store_ps( (float * ) &d, _mm_add_ps( _mm_load_ps( &p ), _mm_loadu_ps( &q[i] ) ) )" ∧
      (storedSum (some 16) none).render (onX86 alignedFloats) =
        (storedSum (some 16) (some 16)).render (onX86 alignedFloats) ∧
      (storedSum none none).Unaligned ∧ unalignedFloats.EqualButAligned alignedFloats ∧
      (storedSum none none).render ((onX86 unalignedFloats).withCatalog alignedFloats) =
        (storedSum none none).render (onX86 unalignedFloats) := by
  have leaf (operand : Operand) (undeclared : operand.alignment = none) :
      (Expr.value operand).Unaligned := .of_parts undeclared nofun
  have undeclared : (storedSum none none).Unaligned := by
    refine .of_parts rfl (List.forall_mem_cons.mpr ⟨leaf _ rfl, List.forall_mem_singleton.mpr ?_⟩)
    refine .of_parts rfl (List.forall_mem_cons.mpr ⟨?_, List.forall_mem_singleton.mpr ?_⟩)
    · exact .of_parts rfl (List.forall_mem_singleton.mpr (leaf _ rfl))
    · refine .of_parts rfl (List.forall_mem_singleton.mpr ?_)
      refine .of_parts rfl (List.forall_mem_cons.mpr ⟨leaf _ rfl, ?_⟩)
      exact List.forall_mem_singleton.mpr (leaf _ rfl)
  have same : unalignedFloats.EqualButAligned alignedFloats :=
    ((Catalog.EqualButAligned.refl unalignedFloats).insert rfl _).insert rfl _
  have cleared : (storedSum (some 16) (some 16)).clearAlignment (onX86 alignedFloats) false =
      storedSum (some 16) none := rfl
  have rendered : (storedSum (some 16) (some 16)).render (onX86 alignedFloats) =
      .ok "_mm_store_ps( (float * ) &d, _mm_add_ps( _mm_load_ps( &p ), _mm_loadu_ps( &q[i] ) ) )" := rfl
  have declared := aligned_only_where_declared (rfl : (onX86 alignedFloats).rules = .empty)
    (storedSum (some 16) (some 16))
  have plain := aligned_only_where_declared (rfl : (onX86 unalignedFloats).rules = .empty)
    (storedSum none none)
  exact ⟨cleared, rendered, cleared ▸ declared.1, undeclared, same,
    plain.2 undeclared alignedFloats same⟩

end Expr

end VectorKernel
