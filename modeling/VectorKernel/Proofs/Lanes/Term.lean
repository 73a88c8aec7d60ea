import VectorKernel.Proofs.Arithmetic

/-!
# Terms of C vector code

What the lowering to C prints, as a language of its own: operands, scalar
operators, casts and calls of instructions. A call records what its instruction
is used for, which is the key or the conversion that it was found under. Terms
are typed by signatures and have one value per lane in every interpretation of
instructions.
-/

namespace VectorKernel.Lanes

universe u

/-- A term of C vector code. -/
inductive Term where
  | leaf (operand : Operand)
  /-- A term in parentheses. -/
  | group (part : Term)
  /-- A scalar operator between two terms. -/
  | binary (operation : Arithmetic) (left right : Term)
  /-- A scalar cast to a signature. -/
  | cast (signature : Signature) (part : Term)
  /-- A call of an arithmetic instruction. -/
  | arithmetic (operation : Arithmetic) (signature : Signature) (name : String) (left right : Term)
  /-- A call of a fused multiply-add with its arguments as they are written. -/
  | fused (signature : Signature) (name : String) (first second third : Term)
  /-- A call that puts a scalar into every lane. -/
  | splat (signature : Signature) (name : String) (part : Term)
  /-- A call that converts in one step. -/
  | convert (edge : Catalog.Edge) (name : String) (part : Term)

/-- The text of a scalar operator with the blanks around it. -/
def spaced : Arithmetic → String
  | .add => " + "
  | .sub => " - "
  | .mul => " * "
  | .div => " / "

namespace Term

/-- The text of a term. -/
def print (target : Target) : Term → String
  | .leaf operand => operand.text
  | .group part => s!"({part.print target})"
  | .binary operation left right => left.print target ++ spaced operation ++ right.print target
  | .cast signature part => s!"({signature.spelling target})( {part.print target} )"
  | .arithmetic _ _ name left right => s!"{name}( {left.print target}, {right.print target} )"
  | .fused _ name first second third =>
    s!"{name}({first.print target},{second.print target},{third.print target})"
  | .splat _ name part => s!"{name}( {part.print target} )"
  | .convert _ name part => s!"{name}( {part.print target} )"

/-- The layer of a term in the grammar of C. All but scalar operators are above
every operator. -/
def level : Term → Nat
  | .binary operation _ _ => operation.level
  | _ => 6

/-- Terms whose text groups as they do: the right side of a scalar operator
binds tighter than the operator, and the left side no less than it. -/
def Grouped : Term → Prop
  | .leaf _ => True
  | .group part | .cast _ part | .splat _ _ part | .convert _ _ part => part.Grouped
  | .binary operation left right =>
    operation.level ≤ left.level ∧ operation.level < right.level ∧ left.Grouped ∧ right.Grouped
  | .arithmetic _ _ _ left right => left.Grouped ∧ right.Grouped
  | .fused _ _ first second third => first.Grouped ∧ second.Grouped ∧ third.Grouped

end Term

/-- Typing of terms by signatures. An instruction takes arguments of the
signature that it is used at, a conversion one of its source, and only scalars
are cast, computed with operators or put into every lane. -/
inductive HasType (context : Context) : Term → Signature → Prop where
  | leaf {operand : Operand} {type : NumericType} (typed : operand.type = .numeric type) :
      HasType context (.leaf operand) type.toSignature
  | group {part : Term} {signature : Signature} (typed : HasType context part signature) :
      HasType context (.group part) signature
  | binary {operation : Arithmetic} {left right : Term} {leftSignature rightSignature : Signature}
      (leftTyped : HasType context left leftSignature) (leftScalar : leftSignature.lanes = 1)
      (rightTyped : HasType context right rightSignature) (rightScalar : rightSignature.lanes = 1) :
      HasType context (.binary operation left right) (leftSignature.join rightSignature)
  | cast {part : Term} {source target : Signature} (typed : HasType context part source)
      (sourceScalar : source.lanes = 1) (targetScalar : target.lanes = 1) :
      HasType context (.cast target part) target
  | arithmetic {operation : Arithmetic} {signature : Signature} {name : String} {left right : Term}
      (known : context.catalog.lookup operation.intrinsic context.architecture signature = some name)
      (leftTyped : HasType context left signature) (rightTyped : HasType context right signature) :
      HasType context (.arithmetic operation signature name left right) signature
  | fused {signature : Signature} {name : String} {first second third : Term}
      (known : context.catalog.lookup .fusedMultiplyAdd context.architecture signature = some name)
      (firstTyped : HasType context first signature) (secondTyped : HasType context second signature)
      (thirdTyped : HasType context third signature) :
      HasType context (.fused signature name first second third) signature
  | splat {source signature : Signature} {name : String} {part : Term}
      (known : context.catalog.lookup .broadcast context.architecture signature = some name)
      (typed : HasType context part source) (scalar : source.lanes = 1) :
      HasType context (.splat signature name part) signature
  | convert {edge : Catalog.Edge} {name : String} {part : Term}
      (known : (edge, name) ∈ context.catalog.edges context.architecture)
      (typed : HasType context part edge.source) :
      HasType context (.convert edge name part) edge.target

/-- What operands, quotients, instructions, conversions and casts compute. The
meaning of an instruction may depend on the key that it is used under. -/
structure Interpretation (R : Type u) where
  /-- The lanes of an operand. -/
  lane : Operand → Nat → R
  quotient : R → R → R
  instruction : Catalog.Key → String → List (List R) → List R
  conversion : Catalog.Edge → String → List R → List R
  cast : Signature → List R → List R

/-- The lanes of a term. -/
def Term.value {R : Type u} [Ring R] (architecture : Architecture) (interpretation : Interpretation R) :
    Term → List R
  | .leaf operand => (List.range operand.lanes).map (interpretation.lane operand)
  | .group part => part.value architecture interpretation
  | .binary operation left right =>
    List.zipWith (operation.apply interpretation.quotient) (left.value architecture interpretation)
      (right.value architecture interpretation)
  | .cast signature part => interpretation.cast signature (part.value architecture interpretation)
  | .arithmetic operation signature name left right =>
    interpretation.instruction ⟨operation.intrinsic, architecture, signature⟩ name
      [left.value architecture interpretation, right.value architecture interpretation]
  | .fused signature name first second third =>
    interpretation.instruction ⟨.fusedMultiplyAdd, architecture, signature⟩ name
      [first.value architecture interpretation, second.value architecture interpretation,
        third.value architecture interpretation]
  | .splat signature name part =>
    interpretation.instruction ⟨.broadcast, architecture, signature⟩ name
      [part.value architecture interpretation]
  | .convert edge name part =>
    interpretation.conversion edge name (part.value architecture interpretation)

namespace Interpretation

variable {R : Type u} [Ring R]

/-- Interpretations in which the instructions of the architecture do what the
catalog has them for, on as many lanes as their signatures have. The fused
instructions of x86 take the factors first, those of NEON the summand. Conversions
and casts change no lane. -/
structure Respects (interpretation : Interpretation R) (context : Context) : Prop where
  arithmetic : ∀ (operation : Arithmetic) (signature : Signature) (name : String),
    context.catalog.lookup operation.intrinsic context.architecture signature = some name →
      ∀ x y : List R, x.length = signature.lanes → y.length = signature.lanes →
        interpretation.instruction ⟨operation.intrinsic, context.architecture, signature⟩ name [x, y] =
          List.zipWith (operation.apply interpretation.quotient) x y
  fusedX86 : context.architecture = .x86 → ∀ (signature : Signature) (name : String),
    context.catalog.lookup .fusedMultiplyAdd context.architecture signature = some name →
      ∀ x y z : List R, x.length = signature.lanes → y.length = signature.lanes →
        z.length = signature.lanes →
          interpretation.instruction ⟨.fusedMultiplyAdd, context.architecture, signature⟩ name
              [x, y, z] =
            List.zipWith (· + ·) (List.zipWith (· * ·) x y) z
  fusedArm : context.architecture = .arm → ∀ (signature : Signature) (name : String),
    context.catalog.lookup .fusedMultiplyAdd context.architecture signature = some name →
      ∀ x y z : List R, x.length = signature.lanes → y.length = signature.lanes →
        z.length = signature.lanes →
          interpretation.instruction ⟨.fusedMultiplyAdd, context.architecture, signature⟩ name
              [z, x, y] =
            List.zipWith (· + ·) (List.zipWith (· * ·) x y) z
  broadcast : ∀ (signature : Signature) (name : String),
    context.catalog.lookup .broadcast context.architecture signature = some name →
      ∀ x : R, interpretation.instruction ⟨.broadcast, context.architecture, signature⟩ name [[x]] =
        List.replicate signature.lanes x
  conversion : ∀ (edge : Catalog.Edge) (name : String),
    (edge, name) ∈ context.catalog.edges context.architecture →
      ∀ x : List R, x.length = edge.source.lanes → interpretation.conversion edge name x = x
  cast : ∀ (signature : Signature) (x : List R), interpretation.cast signature x = x

/-- The interpretation that reads instructions off their keys. -/
def ofKeys (lane : Operand → Nat → R) (quotient : R → R → R) : Interpretation R where
  lane
  quotient
  instruction key _ arguments :=
    match key.operation, key.architecture, arguments with
    | .add, _, [x, y] => List.zipWith (Arithmetic.apply quotient .add) x y
    | .sub, _, [x, y] => List.zipWith (Arithmetic.apply quotient .sub) x y
    | .mul, _, [x, y] => List.zipWith (Arithmetic.apply quotient .mul) x y
    | .div, _, [x, y] => List.zipWith (Arithmetic.apply quotient .div) x y
    | .fusedMultiplyAdd, .arm, [z, x, y] => List.zipWith (· + ·) (List.zipWith (· * ·) x y) z
    | .fusedMultiplyAdd, _, [x, y, z] => List.zipWith (· + ·) (List.zipWith (· * ·) x y) z
    | .broadcast, _, [[x]] => List.replicate key.signature.lanes x
    | _, _, _ => []
  conversion _ _ x := x
  cast _ x := x

/-- Every context is respected by some interpretation. -/
theorem ofKeys_respects (lane : Operand → Nat → R) (quotient : R → R → R) (context : Context) :
    (ofKeys lane quotient).Respects context where
  arithmetic operation _ _ _ _ _ _ _ := by
    cases operation <;> rfl
  fusedX86 family _ _ _ _ _ _ _ _ _ := by
    simp [ofKeys, family]
  fusedArm family _ _ _ _ _ _ _ _ _ := by
    simp [ofKeys, family]
  broadcast _ _ _ _ := rfl
  conversion _ _ _ _ _ := rfl
  cast _ _ := rfl

end Interpretation

/-- Sums and differences may be regrouped. -/
theorem zipWith_add_assoc {R : Type u} [Ring R] {quotient : R → R → R} {operation : Arithmetic}
    (additive : operation.level = Arithmetic.level .add) (x y z : List R) :
    List.zipWith (operation.apply quotient) (List.zipWith (· + ·) x y) z =
      List.zipWith (· + ·) x (List.zipWith (operation.apply quotient) y z) := by
  induction x generalizing y z with
  | nil => simp
  | cons a x ih => cases y <;> cases z <;> simp [Arithmetic.apply_add quotient additive, ih]

namespace Term

/-- The sum of two terms, written without parentheses: a sum on the right joins
the chain of sums on the left. -/
def plus (left : Term) : Term → Term
  | .binary .add first second => .binary .add (left.plus first) second
  | .binary .sub first second => .binary .sub (left.plus first) second
  | right => .binary .add left right

/-- A sum is written with a plus between its sides, whichever of them are sums. -/
theorem plus_print (target : Target) (left right : Term) :
    (left.plus right).print target = left.print target ++ " + " ++ right.print target := by
  fun_induction plus left right with
  | case1 first second ih | case2 first second ih => simp only [print, ih, String.append_assoc]
  | case3 right => rfl

/-- Every term is of the layer of sums or above it. -/
theorem sum_le_level (term : Term) : Arithmetic.level .add ≤ term.level := by
  cases term with
  | binary operation => cases operation <;> exact Nat.le_of_ble_eq_true rfl
  | _ => exact Nat.le_of_ble_eq_true rfl

/-- A sum of grouped terms is grouped. -/
theorem plus_grouped {left right : Term} (leftGrouped : left.Grouped) (rightGrouped : right.Grouped) :
    (left.plus right).Grouped := by
  fun_induction plus left right with
  | case1 first second ih | case2 first second ih =>
    obtain ⟨-, above, firstGrouped, secondGrouped⟩ := rightGrouped
    exact ⟨sum_le_level _, above, ih firstGrouped, secondGrouped⟩
  | case3 right notSum notDifference =>
    refine ⟨sum_le_level left, ?_, leftGrouped, rightGrouped⟩
    cases right with
    | binary operation first second =>
      cases operation with
      | add => exact absurd rfl (notSum first second)
      | sub => exact absurd rfl (notDifference first second)
      | mul | div => exact Nat.le_of_ble_eq_true rfl
    | _ => exact Nat.le_of_ble_eq_true rfl

/-- A sum of scalars has the joined type. -/
theorem plus_hasType {context : Context} {left right : Term} {leftSignature rightSignature : Signature}
    (leftTyped : HasType context left leftSignature) (leftScalar : leftSignature.lanes = 1)
    (rightTyped : HasType context right rightSignature) (rightScalar : rightSignature.lanes = 1) :
    HasType context (left.plus right) (leftSignature.join rightSignature) := by
  fun_induction plus left right generalizing rightSignature with
  | case1 first second ih | case2 first second ih =>
    cases rightTyped with
    | @binary _ _ _ firstSignature _ firstTyped firstScalar secondTyped secondScalar =>
      have bothScalar : (leftSignature.join firstSignature).lanes = 1 := by
        rw [Signature.join, leftScalar, firstScalar, Nat.max_self]
      rw [← Signature.join_assoc]
      exact .binary (ih firstTyped firstScalar) bothScalar secondTyped secondScalar
  | case3 right => exact .binary leftTyped leftScalar rightTyped rightScalar

/-- A sum has the sum of the values, lane by lane. -/
theorem plus_value {R : Type u} [Ring R] (architecture : Architecture)
    (interpretation : Interpretation R) (left right : Term) :
    (left.plus right).value architecture interpretation =
      List.zipWith (· + ·) (left.value architecture interpretation)
        (right.value architecture interpretation) := by
  fun_induction plus left right with
  | case1 first second ih | case2 first second ih =>
    rw [value, ih]
    exact zipWith_add_assoc (by rfl) _ _ _
  | case3 right => rfl

end Term

end VectorKernel.Lanes
