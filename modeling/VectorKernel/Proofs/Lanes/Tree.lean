import Mathlib.Algebra.Ring.Int.Defs
import VectorKernel.Expr.Evaluate
import VectorKernel.Proofs.Lanes.Lowering

/-!
# Lowering to C keeps the meaning of arithmetic

Arithmetic trees are built from numeric operands by the four operators, fused
multiply-adds and conversions to vector types. Their meaning is given lane by
lane, with scalars read at every lane. `materialize_lanes` says that the text of
a tree in C is that of a well-typed term which computes the lanes of the tree,
whenever instructions do what the catalog has them for.
-/

namespace VectorKernel.Lanes

universe u

/-- An operand of a numeric type with at least one lane. -/
structure NumericLeaf where
  operand : Operand
  type : NumericType
  typed : operand.type = .numeric type
  positive : 0 < type.lanes

/-- A tree of arithmetic on scalars and vectors. -/
inductive Tree where
  | leaf (leaf : NumericLeaf)
  | binary (operation : Arithmetic) (left right : Tree)
  | fma (a b c : Tree)
  /-- A value put into every lane of a vector type, or converted to it. -/
  | broadcast (source : Tree) (type : NumericType) (vector : type.isVector = true)

namespace Tree

/-- The expression of a tree. -/
def toExpr : Tree → Expr
  | .leaf numeric => .value numeric.operand
  | .binary operation left right => .binary operation.operator left.toExpr right.toExpr
  | .fma a b c => .fma a.toExpr b.toExpr c.toExpr
  | .broadcast source type _ => .broadcast source.toExpr type

/-- The value of a tree at a lane. A scalar operand has its only value at every
lane. -/
def lane {R : Type u} [Ring R] (operands : Operand → Nat → R) (quotient : R → R → R) : Tree → Nat → R
  | .leaf numeric, position => operands numeric.operand (if numeric.type.isVector then position else 0)
  | .binary operation left right, position =>
    operation.apply quotient (left.lane operands quotient position)
      (right.lane operands quotient position)
  | .fma a b c, position =>
    a.lane operands quotient position * b.lane operands quotient position +
      c.lane operands quotient position
  | .broadcast source _ _, position => source.lane operands quotient position

/-- The lanes of a tree in every interpretation. -/
def meaning (tree : Tree) : LaneMeaning.{u} :=
  fun _ _ interpretation => tree.lane interpretation.lane interpretation.quotient

end Tree

variable {context : Context}

/-- An operand denotes its own lanes. -/
theorem leaf_lowered (numeric : NumericLeaf) :
    Lowered context numeric.operand (Tree.meaning.{u} (.leaf numeric)) := by
  have lanes : numeric.operand.lanes = numeric.type.lanes := by
    rw [Operand.lanes, numeric.typed, DataType.lanes]
  refine ⟨numeric.type, numeric.typed, numeric.positive, fun scalar R _ interpretation position => ?_,
    .leaf numeric.operand, rfl, trivial, .leaf numeric.typed, fun R _ interpretation _ => ?_⟩
  · have notVector : numeric.type.isVector = false := by simp [Signature.isVector, scalar]
    simp [Tree.meaning, Tree.lane, notVector]
  · rw [Term.value, lanes]
    refine List.map_congr_left fun position within => ?_
    cases shape : numeric.type.isVector with
    | true => simp [Tree.meaning, Tree.lane, shape]
    | false =>
      have only := lanes_eq_one numeric.positive shape
      obtain rfl : position = 0 := by simpa [only] using within
      simp [Tree.meaning, Tree.lane]

/-- Every tree that evaluates does so to a typed operand that denotes its lanes. -/
theorem evaluate_lowered (inC : context.language = .c) (builtin : context.rules = .empty)
    (keeps : context.catalog.KeepsLanes) {tree : Tree} {value : Evaluated}
    (success : tree.toExpr.evaluate context = .ok value) :
    ∃ operand, value = .typed operand ∧ Lowered context operand tree.meaning.{u} := by
  induction tree generalizing value with
  | leaf numeric =>
    cases success
    exact ⟨numeric.operand, rfl, leaf_lowered numeric⟩
  | binary operation left right leftIh rightIh =>
    obtain ⟨leftValue, leftSuccess, success⟩ := bind_eq_ok.mp success
    obtain ⟨rightValue, rightSuccess, success⟩ := bind_eq_ok.mp success
    obtain ⟨leftOperand, rfl, leftLowered⟩ := leftIh leftSuccess
    obtain ⟨rightOperand, rfl, rightLowered⟩ := rightIh rightSuccess
    obtain ⟨operand, lowered, rfl⟩ := map_eq_ok.mp success
    exact ⟨operand, rfl, binary_lowered inC keeps builtin leftLowered rightLowered operation lowered⟩
  | fma a b c aIh bIh cIh =>
    obtain ⟨aValue, aSuccess, success⟩ := bind_eq_ok.mp success
    obtain ⟨bValue, bSuccess, success⟩ := bind_eq_ok.mp success
    obtain ⟨cValue, cSuccess, success⟩ := bind_eq_ok.mp success
    obtain ⟨aOperand, rfl, aLowered⟩ := aIh aSuccess
    obtain ⟨bOperand, rfl, bLowered⟩ := bIh bSuccess
    obtain ⟨cOperand, rfl, cLowered⟩ := cIh cSuccess
    obtain ⟨operand, lowered, rfl⟩ := map_eq_ok.mp success
    exact ⟨operand, rfl, fused_lowered inC keeps builtin aLowered bLowered cLowered lowered⟩
  | broadcast source type vector ih =>
    obtain ⟨sourceValue, sourceSuccess, success⟩ := bind_eq_ok.mp success
    obtain ⟨sourceOperand, rfl, sourceLowered⟩ := ih sourceSuccess
    obtain ⟨operand, lowered, success⟩ := bind_eq_ok.mp success
    cases success
    obtain ⟨text, written, rfl⟩ := map_eq_ok.mp lowered
    exact ⟨_, rfl, type, rfl, sourceLowered.broadcastText inC keeps vector written⟩

/-- Take any catalog whose conversions keep the number of lanes; the standard one
is such a catalog. If a tree materializes in C, its text is that of a well-typed
term that computes the lanes of the tree, in every interpretation of instructions
that respects the catalog. -/
theorem materialize_lanes :
    Catalog.standard.KeepsLanes ∧
    ∀ (context : Context) (tree : Tree) (operand : Operand), context.language = .c →
      context.rules = .empty → context.catalog.KeepsLanes →
      tree.toExpr.materialize context = .ok operand →
        ∃ (type : NumericType) (term : Term), operand.type = type ∧
          term.print context.target = operand.text ∧ term.Grouped ∧
          HasType context term type.toSignature ∧
          ∀ (R : Type u) [CommRing R] (interpretation : Interpretation R),
            interpretation.Respects context →
              term.value context.architecture interpretation =
                (List.range type.lanes).map
                  (tree.lane interpretation.lane interpretation.quotient) := by
  refine ⟨Catalog.standard_keepsLanes, fun context tree operand inC builtin keeps success => ?_⟩
  obtain ⟨value, evaluated, success⟩ := bind_eq_ok.mp success
  obtain ⟨lowered, rfl, type, typed, denotes⟩ := evaluate_lowered inC builtin keeps evaluated
  cases success
  obtain ⟨term, printed, grouped, hasType, computes⟩ := denotes.printed
  exact ⟨type, term, typed, printed, grouped, hasType, computes⟩

/-- A named storage location as a leaf. -/
def NumericLeaf.named (name : String) (type : NumericType) (positive : 0 < type.lanes) :
    NumericLeaf where
  operand := .named name type
  type
  typed := rfl
  positive

/-- The sum of two vectors plus a vector of integers times a scalar. -/
def scaledSum : Tree :=
  let floats (name : String) : Tree :=
    .leaf (.named name ((NumericType.float 32).vector 4) (by decide))
  let integers (name : String) : Tree :=
    .leaf (.named name ((NumericType.int 32).vector 4) (by decide))
  .fma (.leaf (.named "x" (.float 32) (by decide))) (integers "v")
    (.binary .add (floats "a") (floats "b"))

/-- The instructions that the sum needs on NEON. -/
def sumCatalog : Catalog :=
  let lanes : Signature := ⟨.float, 32, 4⟩
  let instructions := [(⟨.add, .arm, lanes⟩, "vaddq_f32"),
    (⟨.fusedMultiplyAdd, .arm, lanes⟩, "vfmaq_f32"), (⟨.broadcast, .arm, lanes⟩, "vdupq_n_f32")]
  (Catalog.empty.insertAll instructions).insertConversions
    [(⟨.arm, ⟨.signed, 32, 4⟩, lanes⟩, "vcvtq_f32_s32")]

/-- Integers for the operands of the sum. -/
def sumOperands (operand : Operand) (position : Nat) : Int :=
  if operand.text = "x" then 2 else if operand.text = "v" then position
  else if operand.text = "a" then 10 else 1

/-- On NEON the sum splats the scalar, converts the integers and takes the summand
first; its lanes are those of the tree. -/
theorem scaledSum_lanes :
    let context : Context := { target := ⟨.c, .arm⟩, catalog := sumCatalog }
    sumCatalog.KeepsLanes ∧ ∃ term : Term,
      term.print context.target = "vfmaq_f32(vaddq_f32( a, b ),vdupq_n_f32( x ),vcvtq_f32_s32( v ))" ∧
      HasType context term ⟨.float, 32, 4⟩ ∧
      term.value .arm (Interpretation.ofKeys sumOperands (· / ·)) = [11, 13, 15, 17] := by
  intro context
  have keeps : sumCatalog.KeepsLanes := by
    refine Catalog.keepsLanes_insertConversions (Catalog.keepsLanes_insertAll ?_ _) (by decide)
    exact fun row member => absurd member List.not_mem_nil
  have success : scaledSum.toExpr.materialize context =
      .ok (.computed "vfmaq_f32(vaddq_f32( a, b ),vdupq_n_f32( x ),vcvtq_f32_s32( v ))"
        ((NumericType.float 32).vector 4)) := by
    with_unfolding_all rfl
  obtain ⟨type, term, typed, printed, -, hasType, computes⟩ :=
    materialize_lanes.2 context scaledSum _ rfl rfl keeps success
  cases typed
  refine ⟨keeps, term, printed, hasType, ?_⟩
  exact (computes Int _ (Interpretation.ofKeys_respects sumOperands (· / ·) context)).trans (by decide)

end VectorKernel.Lanes
