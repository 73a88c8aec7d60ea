import VectorKernel.Proofs.Conversion
import VectorKernel.Proofs.Lanes.Term

/-!
# Meaning of the lowering to C

`Denotes` says that a text is the printed form of a well-typed term with given
lanes. Every step of the lowering to C keeps it: conversion chains and casts
leave lanes alone, a scalar put into every lane is read at any lane, and
arithmetic works lane by lane.
-/

namespace VectorKernel.Lanes

universe u

/-- A value for each lane, in every commutative ring and every interpretation. -/
abbrev LaneMeaning := ∀ (R : Type u) [CommRing R], Interpretation R → Nat → R

/-- The lanes of an operation of arithmetic. -/
def LaneMeaning.apply (operation : Arithmetic) (left right : LaneMeaning.{u}) : LaneMeaning.{u} :=
  fun R _ interpretation lane =>
    operation.apply interpretation.quotient (left R interpretation lane) (right R interpretation lane)

/-- The lanes of a product added to a value. -/
def LaneMeaning.fma (a b c : LaneMeaning.{u}) : LaneMeaning.{u} :=
  fun R _ interpretation lane =>
    a R interpretation lane * b R interpretation lane + c R interpretation lane

/-- A product and a sum of vectors are one fused operation on each lane. -/
theorem zipWith_fma {R : Type u} [CommRing R] (lanes : Nat) (x y z : Nat → R) :
    List.zipWith (· + ·) (List.zipWith (· * ·) ((List.range lanes).map x) ((List.range lanes).map y))
        ((List.range lanes).map z) =
      (List.range lanes).map fun lane => x lane * y lane + z lane := by
  simp [List.zipWith_map, List.zipWith_self]

/-- The text is that of a term of a signature whose lanes are given. The meaning
of a scalar is the same at every lane. -/
structure Denotes (context : Context) (text : String) (signature : Signature)
    (meaning : LaneMeaning.{u}) : Prop where
  positive : 0 < signature.lanes
  constant : signature.lanes = 1 →
    ∀ (R : Type u) [CommRing R] (interpretation : Interpretation R) (lane : Nat),
      meaning R interpretation lane = meaning R interpretation 0
  printed : ∃ term : Term, term.print context.target = text ∧ term.Grouped ∧
    HasType context term signature ∧
      ∀ (R : Type u) [CommRing R] (interpretation : Interpretation R),
        interpretation.Respects context →
          term.value context.architecture interpretation =
            (List.range signature.lanes).map (meaning R interpretation)

namespace Denotes

variable {context : Context} {text : String} {source target : Signature} {meaning : LaneMeaning.{u}}

/-- A chain of conversions around a text keeps its meaning. -/
theorem nest (keeps : context.catalog.KeepsLanes) (denotes : Denotes context text source meaning)
    {names : List String}
    (walked : Catalog.Walk (context.catalog.edges context.architecture) source names target) :
    Denotes context (Lowering.nest text names) target meaning := by
  induction walked with
  | start => exact denotes
  | @step names edge name walked known ih =>
    have row : (edge, name) ∈ context.catalog.conversions.rows := (List.mem_filter.mp known).1
    have lanes := keeps _ row
    obtain ⟨term, printed, grouped, typed, value⟩ := ih.printed
    refine ⟨lanes ▸ ih.positive, fun scalar => ih.constant (lanes.trans scalar),
      .convert edge name term, ?_, grouped, .convert known typed, fun R _ interpretation respects => ?_⟩
    · rw [Term.print, printed, Lowering.nest, Lowering.nest, List.foldl_append]
      rfl
    · rw [Term.value, value R interpretation respects,
        respects.conversion edge name known _ (by simp), ← lanes]

/-- A scalar cast keeps the meaning. -/
theorem cast (denotes : Denotes context text source meaning) (sourceScalar : source.lanes = 1)
    (targetScalar : target.lanes = 1) :
    Denotes context s!"({target.spelling context.target})( {text} )" target meaning := by
  obtain ⟨term, printed, grouped, typed, value⟩ := denotes.printed
  refine ⟨targetScalar ▸ Nat.one_pos, fun _ => denotes.constant sourceScalar,
    .cast target term, ?_, grouped, .cast typed sourceScalar targetScalar,
    fun R _ interpretation respects => ?_⟩
  · rw [Term.print, printed]
  · rw [Term.value, respects.cast, value R interpretation respects, sourceScalar, targetScalar]

/-- A scalar put into every lane keeps its meaning. -/
theorem splat (denotes : Denotes context text source meaning) (scalar : source.lanes = 1)
    (positive : 0 < target.lanes) {name : String}
    (known : context.catalog.lookup .broadcast context.architecture target = some name) :
    Denotes context s!"{name}( {text} )" target meaning := by
  obtain ⟨term, printed, grouped, typed, value⟩ := denotes.printed
  have constant := denotes.constant scalar
  refine ⟨positive, fun _ => constant, .splat target name term, ?_, grouped, .splat known typed scalar,
    fun R _ interpretation respects => ?_⟩
  · rw [Term.print, printed]
  · have lanes : (List.range target.lanes).map (meaning R interpretation) =
        List.replicate target.lanes (meaning R interpretation 0) := by
      rw [List.map_congr_left fun lane _ => constant R interpretation lane, List.map_const',
        List.length_range]
    rw [Term.value, value R interpretation respects, scalar, lanes]
    exact respects.broadcast _ _ known _

/-- An arithmetic instruction works lane by lane. -/
theorem arithmetic {signature : Signature} {left right : String}
    {leftMeaning rightMeaning : LaneMeaning.{u}}
    (leftDenotes : Denotes context left signature leftMeaning)
    (rightDenotes : Denotes context right signature rightMeaning) {operation : Arithmetic}
    {name : String}
    (known : context.catalog.lookup operation.intrinsic context.architecture signature = some name) :
    Denotes context s!"{name}( {left}, {right} )" signature
      (.apply operation leftMeaning rightMeaning) := by
  obtain ⟨leftTerm, leftPrinted, leftGrouped, leftTyped, leftValue⟩ := leftDenotes.printed
  obtain ⟨rightTerm, rightPrinted, rightGrouped, rightTyped, rightValue⟩ := rightDenotes.printed
  refine ⟨leftDenotes.positive, fun scalar R _ interpretation lane => ?_,
    .arithmetic operation signature name leftTerm rightTerm, ?_, ⟨leftGrouped, rightGrouped⟩,
    .arithmetic known leftTyped rightTyped, fun R _ interpretation respects => ?_⟩
  · simp only [LaneMeaning.apply, leftDenotes.constant scalar R interpretation lane,
      rightDenotes.constant scalar R interpretation lane]
  · rw [Term.print, leftPrinted, rightPrinted]
  · rw [Term.value, leftValue R interpretation respects, rightValue R interpretation respects,
      respects.arithmetic operation signature name known _ _ (by simp) (by simp), List.zipWith_map,
      List.zipWith_self]
    rfl

/-- A fused instruction works lane by lane, whatever the order of its arguments. -/
theorem fused {signature : Signature} {first second third : String}
    {firstMeaning secondMeaning thirdMeaning : LaneMeaning.{u}}
    (firstDenotes : Denotes context first signature firstMeaning)
    (secondDenotes : Denotes context second signature secondMeaning)
    (thirdDenotes : Denotes context third signature thirdMeaning) {name : String}
    (known : context.catalog.lookup .fusedMultiplyAdd context.architecture signature = some name)
    (combine : ∀ (R : Type u) [CommRing R], R → R → R → R)
    (computes : ∀ (R : Type u) [CommRing R] (interpretation : Interpretation R),
      interpretation.Respects context → ∀ x y z : Nat → R,
        interpretation.instruction ⟨.fusedMultiplyAdd, context.architecture, signature⟩ name
            [(List.range signature.lanes).map x, (List.range signature.lanes).map y,
              (List.range signature.lanes).map z] =
          (List.range signature.lanes).map fun lane => combine R (x lane) (y lane) (z lane)) :
    Denotes context s!"{name}({first},{second},{third})" signature fun R _ interpretation lane =>
      combine R (firstMeaning R interpretation lane) (secondMeaning R interpretation lane)
        (thirdMeaning R interpretation lane) := by
  obtain ⟨firstTerm, firstPrinted, firstGrouped, firstTyped, firstValue⟩ := firstDenotes.printed
  obtain ⟨secondTerm, secondPrinted, secondGrouped, secondTyped, secondValue⟩ := secondDenotes.printed
  obtain ⟨thirdTerm, thirdPrinted, thirdGrouped, thirdTyped, thirdValue⟩ := thirdDenotes.printed
  refine ⟨firstDenotes.positive, fun scalar R _ interpretation lane => ?_,
    .fused signature name firstTerm secondTerm thirdTerm, ?_,
    ⟨firstGrouped, secondGrouped, thirdGrouped⟩, .fused known firstTyped secondTyped thirdTyped,
    fun R _ interpretation respects => ?_⟩
  · rw [firstDenotes.constant scalar R interpretation lane,
      secondDenotes.constant scalar R interpretation lane,
      thirdDenotes.constant scalar R interpretation lane]
  · rw [Term.print, firstPrinted, secondPrinted, thirdPrinted]
  · rw [Term.value, firstValue R interpretation respects, secondValue R interpretation respects,
      thirdValue R interpretation respects, computes R interpretation respects]

/-- Scalar arithmetic is written with operators, in parentheses where it needs them. -/
theorem scalar (operation : Arithmetic) {left right : String}
    {leftMeaning rightMeaning : LaneMeaning.{u}}
    (leftDenotes : Denotes context left source leftMeaning) (leftScalar : source.lanes = 1)
    (rightDenotes : Denotes context right target rightMeaning) (rightScalar : target.lanes = 1) :
    Denotes context (operation.operator.render (some left) (some right) .c) (source.join target)
      (.apply operation leftMeaning rightMeaning) := by
  obtain ⟨leftTerm, leftPrinted, leftGrouped, leftTyped, leftValue⟩ := leftDenotes.printed
  obtain ⟨rightTerm, rightPrinted, rightGrouped, rightTyped, rightValue⟩ := rightDenotes.printed
  have joined : (source.join target).lanes = 1 := by
    rw [Signature.join, leftScalar, rightScalar, Nat.max_self]
  refine ⟨joined ▸ Nat.one_pos, fun _ R _ interpretation lane => ?_, ?_⟩
  · simp only [LaneMeaning.apply, leftDenotes.constant leftScalar R interpretation lane,
      rightDenotes.constant rightScalar R interpretation lane]
  have lanes : ∀ (R : Type u) [CommRing R] (interpretation : Interpretation R),
      interpretation.Respects context →
        List.zipWith (operation.apply interpretation.quotient)
            (leftTerm.value context.architecture interpretation)
            (rightTerm.value context.architecture interpretation) =
          (List.range (source.join target).lanes).map
            (LaneMeaning.apply operation leftMeaning rightMeaning R interpretation) := by
    intro R _ interpretation respects
    rw [leftValue R interpretation respects, rightValue R interpretation respects, leftScalar,
      rightScalar, joined, List.zipWith_map, List.zipWith_self]
    rfl
  cases operation with
  | add =>
    refine ⟨leftTerm.plus rightTerm, ?_, Term.plus_grouped leftGrouped rightGrouped,
      Term.plus_hasType leftTyped leftScalar rightTyped rightScalar,
      fun R _ interpretation respects => ?_⟩
    · rw [Term.plus_print, leftPrinted, rightPrinted]
      rfl
    · rw [Term.plus_value]
      exact lanes R interpretation respects
  | sub =>
    refine ⟨.binary .sub leftTerm (.group rightTerm), ?_, ?_,
      .binary leftTyped leftScalar rightTyped.group rightScalar, lanes⟩
    · rw [Term.print, Term.print, leftPrinted, rightPrinted, ← String.toList_inj]
      simp [spaced, Arithmetic.operator, Operator.render, toString]
    · exact ⟨leftTerm.sum_le_level, Nat.le_of_ble_eq_true rfl, leftGrouped, rightGrouped⟩
  | mul | div =>
    refine ⟨.binary _ (.group leftTerm) (.group rightTerm), ?_, ?_,
      .binary leftTyped.group leftScalar rightTyped.group rightScalar, lanes⟩
    · rw [Term.print, Term.print, Term.print, leftPrinted, rightPrinted, ← String.toList_inj]
      simp [spaced, Arithmetic.operator, Operator.render, Operator.symbol, toString]
    · exact ⟨Nat.le_of_ble_eq_true rfl, Nat.le_of_ble_eq_true rfl, leftGrouped, rightGrouped⟩

end Denotes

/-- The operand has a numeric type, and its text denotes a value of that type. -/
def Lowered (context : Context) (operand : Operand) (meaning : LaneMeaning.{u}) : Prop :=
  ∃ type : NumericType, operand.type = type ∧ Denotes context operand.text type.toSignature meaning

section Steps

variable {context : Context} {value left right : Operand} {type : NumericType} {text : String}
variable {meaning leftMeaning rightMeaning : LaneMeaning.{u}}

/-- A type with lanes that is no vector has one lane. -/
theorem lanes_eq_one {signature : Signature} (positive : 0 < signature.lanes)
    (scalar : signature.isVector = false) : signature.lanes = 1 := by
  have atMost : signature.lanes ≤ 1 := by simpa [Signature.isVector] using scalar
  omega

variable (inC : context.language = .c)
include inC

/-- A scalar put into every lane keeps the meaning. -/
theorem splatText_denotes {signature : Signature}
    (denotes : Denotes context text signature meaning) (scalar : signature.lanes = 1)
    (positive : 0 < type.lanes) {result : String}
    (success : Lowering.splatText context text type = .ok result) :
    Denotes context result type.toSignature meaning := by
  have foreign : context.language ≠ .openCl := by simp [inC]
  rw [Lowering.splatText, if_neg foreign] at success
  obtain ⟨name, known, success⟩ := bind_eq_ok.mp success
  cases success
  exact denotes.splat scalar positive (Context.instruction_eq_ok.mp known)

variable (keeps : context.catalog.KeepsLanes)
include keeps

/-- Conversion to a numeric type keeps the meaning. -/
theorem Lowered.convert (lowered : Lowered context value meaning) (positive : 0 < type.lanes)
    (success : Lowering.convert context value type = .ok text) :
    Denotes context text type.toSignature meaning := by
  obtain ⟨source, typed, denotes⟩ := lowered
  simp only [Lowering.convert, Operand.numeric?, typed, DataType.numeric?] at success
  split at success
  · next same =>
    cases success
    exact same ▸ denotes
  · simp only [Lowering.convertNumeric, inC] at success
    split at success
    · next sourceScalar targetScalar =>
      cases success
      exact denotes.cast (lanes_eq_one denotes.positive sourceScalar)
        (lanes_eq_one positive targetScalar)
    · obtain ⟨names, found, rfl⟩ := map_eq_ok.mp success
      exact denotes.nest keeps (Catalog.conversionPath_walk found)
    · cases success

/-- A scalar or a vector made into a vector type keeps the meaning. -/
theorem Lowered.broadcastText (lowered : Lowered context value meaning) (vector : type.isVector = true)
    (success : Lowering.broadcastText context value type = .ok text) :
    Denotes context text type.toSignature meaning := by
  have several : 1 < type.lanes := of_decide_eq_true vector
  have positive : 0 < type.lanes := by omega
  have ⟨source, typed, denotes⟩ := lowered
  simp only [Lowering.broadcastText, inC, Language.movesVectors, vector, Operand.numeric?, typed,
    DataType.numeric?, Bool.and_self, if_true] at success
  split at success
  · exact lowered.convert inC keeps positive success
  · next notVector =>
    have scalar := lanes_eq_one denotes.positive (Bool.eq_false_iff.mpr notVector)
    exact splatText_denotes inC denotes scalar positive success

/-- A value brought to the type of an instruction keeps the meaning. -/
theorem Lowered.coerce (lowered : Lowered context value meaning) (positive : 0 < type.lanes)
    (success : Lowering.coerce context value type = .ok text) :
    Denotes context text type.toSignature meaning := by
  have ⟨source, typed, denotes⟩ := lowered
  simp only [Lowering.coerce, Operand.numeric?, typed, DataType.numeric?] at success
  split at success
  · next fits =>
    exact lowered.broadcastText inC keeps (Bool.and_eq_true_iff.mp fits).2 success
  · exact lowered.convert inC keeps positive success

/-- Arithmetic instructions on values brought to one type work lane by lane. -/
theorem vectorText_denotes
    (leftLowered : Lowered context left leftMeaning) (rightLowered : Lowered context right rightMeaning)
    (positive : 0 < type.lanes) {operation : Arithmetic}
    (success : Lowering.vectorText context operation.intrinsic left right type = .ok text) :
    Denotes context text type.toSignature (.apply operation leftMeaning rightMeaning) := by
  obtain ⟨name, known, success⟩ := bind_eq_ok.mp success
  obtain ⟨leftText, leftCoerced, success⟩ := bind_eq_ok.mp success
  obtain ⟨rightText, rightCoerced, success⟩ := bind_eq_ok.mp success
  cases success
  have leftDenotes := leftLowered.coerce inC keeps positive leftCoerced
  have rightDenotes := rightLowered.coerce inC keeps positive rightCoerced
  exact leftDenotes.arithmetic rightDenotes (Context.instruction_eq_ok.mp known)

variable (builtin : context.rules = .empty)
include builtin

/-- The lowering of arithmetic works lane by lane. -/
theorem binary_lowered (leftLowered : Lowered context left leftMeaning)
    (rightLowered : Lowered context right rightMeaning) (operation : Arithmetic) {result : Operand}
    (success : Lowering.binary context operation.operator left right = .ok result) :
    Lowered context result (.apply operation leftMeaning rightMeaning) := by
  have ⟨leftType, leftTyped, leftDenotes⟩ := leftLowered
  have ⟨rightType, rightTyped, rightDenotes⟩ := rightLowered
  obtain ⟨type, text, promoted, written, rfl⟩ :=
    Lowering.binary_eq_ok builtin leftTyped rightTyped success
  have joined := NumericType.toSignature_of_promote promoted
  have lanes : type.lanes = max leftType.lanes rightType.lanes := congrArg Signature.lanes joined
  have leftPositive := leftDenotes.positive
  have rightPositive := rightDenotes.positive
  refine ⟨type, rfl, ?_⟩
  cases shape : type.isVector with
  | true =>
    rw [Lowering.binaryText_vector inC operation shape] at written
    exact vectorText_denotes inC keeps leftLowered rightLowered (by omega) written
  | false =>
    have scalar := lanes_eq_one (by omega) shape
    rw [Lowering.binaryText_scalar operation.operator_ne_assign shape, inC] at written
    obtain rfl := Except.ok.inj written
    rw [joined]
    exact leftDenotes.scalar operation (by omega) rightDenotes (by omega)

variable {a b c : Operand} {aMeaning bMeaning cMeaning : LaneMeaning.{u}}

/-- A product and a sum in two steps, the third operand on the left. -/
theorem separate_lowered (aLowered : Lowered context a aMeaning)
    (bLowered : Lowered context b bMeaning) (cLowered : Lowered context c cMeaning) {result : Operand}
    (success : Lowering.separate context a b c = .ok result) :
    Lowered context result (.fma aMeaning bMeaning cMeaning) := by
  obtain ⟨product, multiplied, added⟩ := bind_eq_ok.mp success
  have productLowered := binary_lowered inC keeps builtin aLowered bLowered .mul multiplied
  have sumLowered := binary_lowered inC keeps builtin cLowered productLowered .add added
  have commuted : LaneMeaning.apply .add cMeaning (.apply .mul aMeaning bMeaning) =
      .fma aMeaning bMeaning cMeaning := by
    funext R _ interpretation lane
    exact add_comm _ _
  exact commuted ▸ sumLowered

/-- The lowering of a fused multiply-add, in one step or in two. -/
theorem fused_lowered (aLowered : Lowered context a aMeaning)
    (bLowered : Lowered context b bMeaning) (cLowered : Lowered context c cMeaning) {result : Operand}
    (success : Lowering.fused context a b c = .ok result) :
    Lowered context result (.fma aMeaning bMeaning cMeaning) := by
  have ⟨type, typed, denotes⟩ := cLowered
  simp only [Lowering.fused, inC, typed, Lowering.fusedInstruction?] at success
  cases known : context.instruction? .fusedMultiplyAdd type with
  | none =>
    simp only [known] at success
    exact separate_lowered inC keeps builtin aLowered bLowered cLowered success
  | some name =>
    simp only [known, Lowering.fusedOperand] at success
    obtain ⟨⟨x, y, z⟩, operands, success⟩ := bind_eq_ok.mp success
    obtain ⟨x, xCoerced, operands⟩ := bind_eq_ok.mp operands
    obtain ⟨y, yCoerced, operands⟩ := bind_eq_ok.mp operands
    obtain ⟨z, zCoerced, operands⟩ := bind_eq_ok.mp operands
    cases operands
    have xDenotes := aLowered.coerce inC keeps denotes.positive xCoerced
    have yDenotes := bLowered.coerce inC keeps denotes.positive yCoerced
    have zDenotes := cLowered.coerce inC keeps denotes.positive zCoerced
    have separately : (do
        let product ← Lowering.binary context .mul a b
        Lowering.binary context .add product c) = .ok result →
          Lowered context result (.fma aMeaning bMeaning cMeaning) := by
      intro success
      obtain ⟨product, multiplied, added⟩ := bind_eq_ok.mp success
      have productLowered := binary_lowered inC keeps builtin aLowered bLowered .mul multiplied
      exact binary_lowered inC keeps builtin productLowered cLowered .add added
    cases family : context.architecture with
    | x86 =>
      simp only [family] at success
      cases success
      refine ⟨type, rfl, xDenotes.fused yDenotes zDenotes known (fun _ _ x y z => x * y + z) ?_⟩
      intro R _ interpretation respects x y z
      rw [respects.fusedX86 family _ _ known _ _ _ (by simp) (by simp) (by simp), zipWith_fma]
    | arm =>
      simp only [family] at success
      cases success
      refine ⟨type, rfl, zDenotes.fused xDenotes yDenotes known (fun _ _ z x y => x * y + z) ?_⟩
      intro R _ interpretation respects z x y
      rw [respects.fusedArm family _ _ known _ _ _ (by simp) (by simp) (by simp), zipWith_fma]
    | generic | mppa =>
      simp only [family] at success
      exact separately success

end Steps

end VectorKernel.Lanes
