import VectorKernel.Proofs.Fused
import VectorKernel.Proofs.Promotion.Laws
import VectorKernel.Proofs.TypeName
import VectorKernel.Proofs.Typing

/-!
# Well-formed types

Well-formed types stay well formed under everything that evaluation does to types:
promotion, element access, masks and the rules for operators without a rule of their
own. So an expression whose operands and destinations are well formed never meets any
other type, whatever the target, and `arising_wellFormed` draws the two consequences
that declarations rely on: sizes in bits are small, and the name of a type can be read
back.

`Expr.Arises` collects the types of an evaluation generously: every value below the
root counts, and every operation on types that arise, whether or not the expression has
it.
-/

namespace VectorKernel

namespace Kind

/-- Floating elements lack the smallest width; else all kinds have the same widths. -/
theorem mem_widths_iff {kind : Kind} {width : Nat} :
    width ∈ kind.widths ↔ width ∈ [8, 16, 32, 64] ∧ (kind = .float → 16 ≤ width) := by
  cases kind with
  | float =>
    simp only [widths, List.mem_cons, List.not_mem_nil, or_false, true_imp_iff]
    omega
  | signed | unsigned => simp [widths]

end Kind

namespace Signature.WellFormed

variable {left right signature : Signature}

/-- A float that meets a wider integer takes a width that floats have. -/
theorem join (leftWell : left.WellFormed) (rightWell : right.WellFormed) :
    (left.join right).WellFormed where
  width := by
    obtain ⟨leftWidth, leftFloat⟩ := Kind.mem_widths_iff.mp leftWell.width
    obtain ⟨rightWidth, rightFloat⟩ := Kind.mem_widths_iff.mp rightWell.width
    refine Kind.mem_widths_iff.mpr ⟨?_, fun isFloat => ?_⟩
    · change max left.width right.width ∈ _
      rcases Nat.le_total left.width right.width with narrower | narrower
      · rwa [Nat.max_eq_right narrower]
      · rwa [Nat.max_eq_left narrower]
    · rcases (join_kind_eq_float_iff left right).mp isFloat with isFloat | isFloat
      · exact (leftFloat isFloat).trans (Nat.le_max_left ..)
      · exact (rightFloat isFloat).trans (Nat.le_max_right ..)
  positive := leftWell.positive.trans (Nat.le_max_left ..)
  bounded := Nat.max_le.mpr ⟨leftWell.bounded, rightWell.bounded⟩

/-- The element type of a well-formed type is well-formed. -/
theorem element (wellFormed : signature.WellFormed) :
    ({ signature with lanes := 1 } : Signature).WellFormed :=
  ⟨wellFormed.width, Nat.le_refl 1, Nat.le_of_ble_eq_true rfl⟩

/-- Every width is one of integers, so a mask has the lanes and the width of what it
masks. -/
theorem mask (wellFormed : signature.WellFormed) :
    ({ signature with kind := .signed } : Signature).WellFormed :=
  ⟨(Kind.mem_widths_iff.mp wellFormed.width).1, wellFormed.positive, wellFormed.bounded⟩

/-- No well-formed type is wider than 4096 bits. -/
theorem bits_le (wellFormed : signature.WellFormed) : signature.totalSize * 8 ≤ 4096 := by
  have element : signature.elementSize ≤ 8 :=
    Nat.div_le_div_right (Kind.le_of_mem_widths wellFormed.width)
  calc signature.totalSize * 8
    _ ≤ signature.elementSize * signature.lanes * 8 := Nat.mul_le_mul_right 8 (Nat.min_le_left ..)
    _ ≤ 8 * 64 * 8 := Nat.mul_le_mul_right 8 (Nat.mul_le_mul element wellFormed.bounded)

end Signature.WellFormed

/-- A number of a well-formed signature. -/
def DataType.WellFormed : DataType → Prop
  | .numeric type => type.toSignature.WellFormed
  | .handle _ => False

instance : (type : DataType) → Decidable type.WellFormed
  | .numeric type => inferInstanceAs (Decidable type.toSignature.WellFormed)
  | .handle _ => inferInstanceAs (Decidable False)

namespace NumericType

variable {left right : NumericType}

/-- The element type that promotion picks before it gives it lanes. -/
theorem promotedElement_wellFormed (leftWell : left.toSignature.WellFormed)
    (rightWell : right.toSignature.WellFormed) :
    (left.promotedElement right).toSignature.WellFormed := by
  have joined := leftWell.join rightWell
  have lanes : (left.promotedElement right).lanes = left.lanes ∨
      (left.promotedElement right).lanes = right.lanes := by
    unfold promotedElement floatingOver
    cases left.kind.isFloat <;> cases right.kind.isFloat <;> grind [withWidth, Signature.natural]
  have inRange : 1 ≤ (left.promotedElement right).lanes ∧ (left.promotedElement right).lanes ≤ 64 := by
    rcases lanes with lanes | lanes
    · exact lanes ▸ ⟨leftWell.positive, leftWell.bounded⟩
    · exact lanes ▸ ⟨rightWell.positive, rightWell.bounded⟩
  refine ⟨?_, inRange.1, inRange.2⟩
  rw [promotedElement_kind, promotedElement_width]
  exact joined.width

end NumericType

namespace Registry

variable {left right type : DataType} {operator effective : Operator}

/-- Without rules, an operation on well-formed types has a well-formed type. -/
theorem wellFormed_of_transition (leftWell : left.WellFormed) (rightWell : right.WellFormed)
    (typed : Registry.empty.transition left right operator = .ok (type, effective)) :
    type.WellFormed := by
  cases left with
  | handle name => cases leftWell
  | numeric leftType =>
    cases right with
    | handle name => cases rightWell
    | numeric rightType =>
      obtain ⟨result, found, same⟩ := map_eq_ok.mp typed
      obtain rfl := (Prod.mk.inj same).1
      unfold builtinTransition at found
      dsimp only at found
      split at found
      · obtain rfl := Except.ok.inj found
        exact Signature.WellFormed.element leftWell
      split at found
      · obtain rfl := Except.ok.inj found
        exact leftWell
      split at found
      · next promoted =>
        obtain rfl := Except.ok.inj found
        obtain ⟨-, rfl⟩ := NumericType.promote_eq_some_iff.mp promoted
        exact Signature.WellFormed.join leftWell rightWell
      · cases found

/-- An operation with one typed side has its type or its element type. -/
theorem wellFormed_operationType {left right : Option DataType}
    (leftWell : ∀ type ∈ left, type.WellFormed) (rightWell : ∀ type ∈ right, type.WellFormed) :
    ∀ type ∈ Registry.empty.operationType operator left right, type.WellFormed := by
  have oneSided : ∀ type : DataType, type.WellFormed → (Context.oneSidedType operator type).WellFormed := by
    intro type wellFormed
    unfold Context.oneSidedType
    split
    · exact Signature.WellFormed.element wellFormed
    · exact wellFormed
  intro type typed
  cases left with
  | none =>
    obtain ⟨side, found, rfl⟩ := Option.map_eq_some_iff.mp typed
    exact oneSided side (rightWell side found)
  | some leftType =>
    cases right with
    | none =>
      obtain rfl := Option.some.inj typed
      exact oneSided leftType (leftWell leftType rfl)
    | some rightType =>
      obtain ⟨⟨result, effective⟩, found, rfl⟩ := Option.map_eq_some_iff.mp typed
      cases transition : Registry.empty.transition leftType rightType operator with
      | error fault =>
        rw [transition] at found
        cases found
      | ok answer =>
        rw [transition] at found
        obtain rfl := Option.some.inj found
        exact wellFormed_of_transition (leftWell leftType rfl) (rightWell rightType rfl) transition

end Registry

/-- A value whose type, if it has one, is well formed. -/
def Evaluated.WellTyped (value : Evaluated) : Prop :=
  ∀ type ∈ value.type?, type.WellFormed

/-- The type of a well-typed side is well-formed, if there are both. -/
theorem Evaluated.wellFormed_of_side {side? : Option Evaluated}
    (wellTyped : ∀ side ∈ side?, side.WellTyped) : ∀ type ∈ side?.bind Evaluated.type?, type.WellFormed := by
  intro type held
  obtain ⟨side, here, typed⟩ := Option.bind_eq_some_iff.mp held
  exact wellTyped side here type typed

namespace Literal

/-- Literals are well-typed. -/
theorem wellTyped_of_evaluate {literal : Literal} {value : Evaluated}
    (success : literal.evaluate = .ok value) : value.WellTyped := by
  intro type typed
  rw [type?_of_evaluate success] at typed
  obtain ⟨numeric, found, rfl⟩ := Option.map_eq_some_iff.mp typed
  cases literal with
  | int number =>
    obtain rfl := Option.some.inj found
    split <;> decide
  | float number =>
    obtain rfl := Option.some.inj found
    decide
  | raw text => cases found

end Literal

namespace Context

variable {context : Context} {value : Evaluated}

/-- Operators on well-typed sides give well-typed values. -/
theorem wellTyped_of_apply (builtin : context.rules = .empty) {operator : Operator}
    {left right : Option Evaluated} (leftWell : ∀ side ∈ left, side.WellTyped)
    (rightWell : ∀ side ∈ right, side.WellTyped)
    (success : context.apply operator left right = .ok value) : value.WellTyped := by
  intro type typed
  rw [type?_of_apply success, builtin] at typed
  exact Registry.wellFormed_operationType (Evaluated.wellFormed_of_side leftWell)
    (Evaluated.wellFormed_of_side rightWell) type typed

/-- So they do if both sides are there. -/
theorem wellTyped_of_operation (builtin : context.rules = .empty) {operator : Operator}
    {left right : Evaluated} (leftWell : left.WellTyped) (rightWell : right.WellTyped)
    (success : context.apply operator (some left) (some right) = .ok value) : value.WellTyped :=
  wellTyped_of_apply builtin (by simpa using leftWell) (by simpa using rightWell) success

/-- An operation on operands is an operation on values. -/
theorem apply_of_binary {operator : Operator} {left right result : Operand}
    (success : Lowering.binary context operator left right = .ok result) :
    context.apply operator (some (.typed left)) (some (.typed right)) = .ok (.typed result) :=
  map_eq_ok.mpr ⟨result, success, rfl⟩

/-- A fused multiply-add is typed like its third operand or like a product and a sum. -/
theorem wellTyped_of_fma (builtin : context.rules = .empty) {a b c : Evaluated}
    (aWell : a.WellTyped) (bWell : b.WellTyped) (cWell : c.WellTyped)
    (success : context.fma a b c = .ok value) : value.WellTyped := by
  rcases a with a | a <;> rcases b with b | b <;> rcases c with c | c
  case typed.typed.typed =>
    obtain ⟨result, lowered, rfl⟩ := map_eq_ok.mp success
    rcases Lowering.fused_cases lowered with
      ⟨-, text, rfl⟩ | ⟨-, separated⟩ | ⟨-, product, multiplied, added⟩
    · exact cWell
    · obtain ⟨product, multiplied, added⟩ := bind_eq_ok.mp separated
      have productWell := wellTyped_of_operation builtin aWell bWell (apply_of_binary multiplied)
      exact wellTyped_of_operation builtin cWell productWell (apply_of_binary added)
    · have productWell := wellTyped_of_operation builtin aWell bWell (apply_of_binary multiplied)
      exact wellTyped_of_operation builtin productWell cWell (apply_of_binary added)
  all_goals
    obtain ⟨product, multiplied, added⟩ := bind_eq_ok.mp success
    have productWell := wellTyped_of_operation builtin aWell bWell multiplied
    exact wellTyped_of_operation builtin cWell productWell added

/-- A choice between well-typed values is well-typed. -/
theorem wellTyped_of_conditional (builtin : context.rules = .empty)
    {condition positive negative : Evaluated} (positiveWell : positive.WellTyped)
    (negativeWell : negative.WellTyped)
    (success : context.conditional condition positive negative = .ok value) : value.WellTyped := by
  intro type typed
  rw [type?_of_conditional success, builtin] at typed
  exact Registry.wellFormed_operationType positiveWell negativeWell type typed

end Context

namespace Expr

/-- The types that a node brings along: that of an operand, or the one that a vector is
read or built as. -/
def declaredTypes : Expr → List DataType
  | .value operand => [operand.type]
  | .load _ type | .broadcast _ type | .ofLanes _ type | .maskedLoad _ _ type => [.numeric type]
  | _ => []

/-- Expressions whose operands and destinations are all numeric and well formed. -/
def DeclaresWellFormed (expression : Expr) : Prop :=
  expression.Everywhere fun inner => ∀ type ∈ inner.declaredTypes, type.WellFormed

variable {context : Context} {expression : Expr}

/-- A value of a declared type is well-typed. -/
theorem wellTyped_of_declared {type : NumericType} (declares : expression.DeclaresWellFormed)
    (declared : DataType.numeric type ∈ expression.declaredTypes) (text : String) :
    (Evaluated.typed (.computed text type)).WellTyped := by
  intro held same
  obtain rfl := Option.some.inj same
  exact declares.here _ declared

/-- Every value of such an expression has a well-formed type or none. -/
theorem wellTyped_of_evaluate (builtin : context.rules = .empty)
    (declares : expression.DeclaresWellFormed) {value : Evaluated}
    (success : expression.evaluate context = .ok value) : value.WellTyped := by
  induction expression using Expr.induction generalizing value with
  | literal constant => exact Literal.wellTyped_of_evaluate success
  | value operand =>
    obtain rfl := Except.ok.inj success
    intro type typed
    obtain rfl := Option.some.inj typed
    exact declares.here _ (List.mem_singleton_self _)
  | bare operator => cases success
  | binary operator left right leftWell rightWell =>
    simp only [evaluate, bind_eq_ok] at success
    obtain ⟨_, leftOk, _, rightOk, applied⟩ := success
    exact Context.wellTyped_of_operation builtin (leftWell (declares.inPart (by simp [parts])) leftOk)
      (rightWell (declares.inPart (by simp [parts])) rightOk) applied
  | unary operator right rightWell =>
    simp only [evaluate, bind_eq_ok] at success
    obtain ⟨_, rightOk, applied⟩ := success
    have below := rightWell (declares.inPart (by simp [parts])) rightOk
    exact Context.wellTyped_of_apply builtin (by simp) (by simpa using below) applied
  | dangling operator left leftWell =>
    simp only [evaluate, bind_eq_ok] at success
    obtain ⟨_, leftOk, applied⟩ := success
    have below := leftWell (declares.inPart (by simp [parts])) leftOk
    exact Context.wellTyped_of_apply builtin (by simpa using below) (by simp) applied
  | load source type _ =>
    simp only [evaluate, bind_eq_ok, pure_eq_ok] at success
    obtain ⟨_, -, _, -, operand, lowered, rfl⟩ := success
    obtain ⟨text, rfl⟩ := computed_of_map lowered
    exact wellTyped_of_declared declares (List.mem_singleton_self _) text
  | store destination source _ sourceWell =>
    simp only [evaluate, bind_eq_ok, pure_eq_ok] at success
    obtain ⟨_, -, _, -, stored, sourceOk, _, required, operand, lowered, rfl⟩ := success
    obtain rfl := require_ok required
    have below := sourceWell (declares.inPart (by simp [parts])) sourceOk
    obtain ⟨text, rfl⟩ := computed_of_map lowered
    exact below
  | broadcast source type _ =>
    simp only [evaluate, bind_eq_ok, pure_eq_ok] at success
    obtain ⟨_, -, operand, lowered, rfl⟩ := success
    obtain ⟨text, rfl⟩ := computed_of_broadcast lowered
    exact wellTyped_of_declared declares (List.mem_singleton_self _) text
  | ofLanes lanes type _ =>
    simp only [evaluate, bind_eq_ok, pure_eq_ok] at success
    obtain ⟨_, -, operand, lowered, rfl⟩ := success
    obtain ⟨text, rfl⟩ := computed_of_map lowered
    exact wellTyped_of_declared declares (List.mem_singleton_self _) text
  | maskedLoad source mask type _ =>
    simp only [evaluate, bind_eq_ok, pure_eq_ok] at success
    obtain ⟨_, -, _, -, operand, lowered, rfl⟩ := success
    obtain ⟨text, rfl⟩ := computed_of_map lowered
    exact wellTyped_of_declared declares (List.mem_singleton_self _) text
  | maskedStore destination source mask _ sourceWell =>
    simp only [evaluate, bind_eq_ok, pure_eq_ok] at success
    obtain ⟨_, -, _, -, stored, sourceOk, _, required, operand, lowered, rfl⟩ := success
    obtain rfl := require_ok required
    have below := sourceWell (declares.inPart (by simp [parts])) sourceOk
    obtain ⟨text, rfl⟩ := computed_of_maskedStore lowered
    exact below
  | fma a b c aWell bWell cWell =>
    simp only [evaluate, bind_eq_ok] at success
    obtain ⟨_, aOk, _, bOk, _, cOk, fused⟩ := success
    exact Context.wellTyped_of_fma builtin (aWell (declares.inPart (by simp [parts])) aOk)
      (bWell (declares.inPart (by simp [parts])) bOk) (cWell (declares.inPart (by simp [parts])) cOk) fused
  | conditional condition positive negative _ positiveWell negativeWell =>
    simp only [evaluate, bind_eq_ok] at success
    obtain ⟨_, -, _, -, _, positiveOk, _, negativeOk, chosen⟩ := success
    exact Context.wellTyped_of_conditional builtin
      (positiveWell (declares.inPart (by simp [parts])) positiveOk)
      (negativeWell (declares.inPart (by simp [parts])) negativeOk) chosen

/-- The types that arise while an expression is evaluated: those of the values of all
expressions within it and of what they declare, and from these whatever evaluation
makes of types. Operations count with any operator, so products below a sum are among
them, and operations that then have no text. -/
inductive Arises (context : Context) (root : Expr) : DataType → Prop where
  | value {inner : Expr} {value : Evaluated} {type : DataType} (within : inner.Within root)
      (evaluated : inner.evaluate context = .ok value) (typed : value.type? = some type) :
      Arises context root type
  | declared {inner : Expr} {type : DataType} (within : inner.Within root)
      (declared : type ∈ inner.declaredTypes) : Arises context root type
  | operation {left right type : DataType} {operator effective : Operator}
      (leftArises : Arises context root left) (rightArises : Arises context root right)
      (typed : context.rules.transition left right operator = .ok (type, effective)) :
      Arises context root type
  /-- The type that promotion picks before it gives it lanes. -/
  | promoted {left right : NumericType} (leftArises : Arises context root left)
      (rightArises : Arises context root right) : Arises context root (left.promotedElement right)
  | element {type : NumericType} (arises : Arises context root type) :
      Arises context root type.scalar
  | mask {type : NumericType} (arises : Arises context root type) :
      Arises context root (Lowering.maskType type)

/-- Every type that arises in an expression is well-formed if the declared ones are. -/
theorem Arises.wellFormed (builtin : context.rules = .empty) (declares : expression.DeclaresWellFormed)
    {type : DataType} (arises : Arises context expression type) : type.WellFormed := by
  induction arises with
  | @value inner value type within evaluated typed =>
    exact wellTyped_of_evaluate builtin (declares.within within) evaluated type typed
  | @declared inner type within declared => exact declares inner within type declared
  | operation _ _ typed leftWell rightWell =>
    rw [builtin] at typed
    exact Registry.wellFormed_of_transition leftWell rightWell typed
  | promoted _ _ leftWell rightWell => exact NumericType.promotedElement_wellFormed leftWell rightWell
  | element _ wellFormed => exact Signature.WellFormed.element wellFormed
  | mask _ wellFormed => exact Signature.WellFormed.mask wellFormed

/-- Without rules, an expression whose operands and destinations are well formed has a
well-formed type, and so is every type that arises while it is evaluated, in every
context: values have at most 4096 bits, and the name of the type is read as its
signature. -/
theorem arising_wellFormed (builtin : context.rules = .empty)
    (declares : expression.DeclaresWellFormed) :
    (∀ operand, expression.materialize context = .ok operand →
      Arises context expression operand.type) ∧
    ∀ type, Arises context expression type →
      ∃ numeric : NumericType, type = .numeric numeric ∧ numeric.toSignature.WellFormed ∧
        numeric.totalSize * 8 ≤ 4096 ∧
        (NumericType.ofName type.name).map (·.toSignature) = .ok numeric.toSignature := by
  refine ⟨fun operand success => ?_, fun type arises => ?_⟩
  · obtain ⟨value, evaluated, typed⟩ := bind_eq_ok.mp success
    cases value with
    | typed held =>
      obtain rfl := pure_eq_ok.mp typed
      exact .value (.here expression) evaluated rfl
    | text plain => cases typed
  · have wellFormed := arises.wellFormed builtin declares
    cases type with
    | handle name => cases wellFormed
    | numeric numeric =>
      have read : NumericType.ofName numeric.toSignature.name = .ok numeric.toSignature.natural :=
        @NumericType.ofName_name numeric.toSignature.natural wellFormed rfl
      refine ⟨numeric, rfl, wellFormed, Signature.WellFormed.bits_le wellFormed, ?_⟩
      rw [DataType.name, read]
      rfl

/-- Eight half-precision lanes, scaled by a wide integer. -/
def scaledHalves : Expr :=
  .binary .mul (.value (.named "h" ((NumericType.float 16).vector 8)))
    (.value (.named "n" (NumericType.int 64)))

/-- The integer widens the lanes to double precision, and a mask for them would have
eight wide integers. -/
theorem scaledHalves_wellFormed :
    let context : Context := { target := ⟨.cuda, .generic⟩, catalog := .empty }
    let doubles := (NumericType.float 64).vector 8
    scaledHalves.DeclaresWellFormed ∧
      scaledHalves.materialize context = .ok (.computed "(h) * (n)" doubles) ∧
      Arises context scaledHalves doubles ∧
      (Lowering.maskType doubles).toSignature.WellFormed ∧
      (NumericType.ofName (DataType.numeric (Lowering.maskType doubles)).name).map (·.toSignature) =
        .ok ⟨.signed, 64, 8⟩ := by
  intro context doubles
  have declares : scaledHalves.DeclaresWellFormed := by
    refine .of_parts nofun (List.forall_mem_cons.mpr ⟨?_, List.forall_mem_singleton.mpr ?_⟩)
    · exact .of_parts (List.forall_mem_singleton.mpr (by decide)) nofun
    · exact .of_parts (List.forall_mem_singleton.mpr (by decide)) nofun
  have success : scaledHalves.materialize context = .ok (.computed "(h) * (n)" doubles) := rfl
  obtain ⟨materialized, consequences⟩ := @arising_wellFormed context _ rfl declares
  have arises := materialized _ success
  obtain ⟨mask, same, wellFormed, -, read⟩ := consequences _ (.mask arises)
  obtain rfl := DataType.numeric.inj same
  exact ⟨declares, success, arises, wellFormed, read⟩

end Expr

end VectorKernel
