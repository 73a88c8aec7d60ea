import VectorKernel.Proofs.Promotion.Join

/-!
# Fused multiply-adds

A fused multiply-add is one step where the target has it, and a product and a sum
elsewhere. `Lowering.fused_cases` says which of the three forms a result can have.

One step is typed like the third operand. The two other forms are typed like the
operations they consist of, so under the built-in laws a wide factor widens the
result: `fused_signature_iff` says for which operands the type is still that of the
third one. Where nothing is fused, the whole evaluates like the expression that has
these two operations, by `evaluate_fma_iff`.
-/

namespace VectorKernel

/-- Whether the target has a fused multiply-add in one step for a type: in the
language itself, or as an instruction whose argument order is known. -/
def Context.fuses (context : Context) (type : DataType) : Bool :=
  match context.language with
  | .openCl | .cuda => true
  | .fortran => false
  | .c =>
    (Lowering.fusedInstruction? context type).isSome &&
      (context.architecture = .x86 || context.architecture = .arm)

namespace Lowering

variable {context : Context} {a b c result : Operand}

/-- A fused multiply-add is one step that has the type of the third operand, or a
product and a sum with the third operand on either side. -/
theorem fused_cases (success : fused context a b c = .ok result) :
    (context.fuses c.type = true ∧ ∃ text, result = .computed text c.type) ∨
    (context.fuses c.type = false ∧ separate context a b c = .ok result) ∨
    (context.fuses c.type = false ∧ ∃ product, binary context .mul a b = .ok product ∧
      binary context .add product c = .ok result) := by
  unfold fused at success
  unfold Context.fuses
  cases language : context.language with
  | fortran =>
    rw [language] at success
    exact .inr (.inl ⟨rfl, success⟩)
  | openCl | cuda =>
    rw [language] at success
    obtain ⟨_, -, last⟩ := bind_eq_ok.mp success
    exact .inl ⟨rfl, _, (pure_eq_ok.mp last).symm⟩
  | c =>
    rw [language] at success
    cases instruction : fusedInstruction? context c.type with
    | none =>
      rw [instruction] at success
      exact .inr (.inl ⟨rfl, success⟩)
    | some name =>
      rw [instruction] at success
      obtain ⟨_, -, last⟩ := bind_eq_ok.mp success
      cases architecture : context.architecture with
      | x86 | arm =>
        rw [architecture] at last
        exact .inl ⟨rfl, _, (pure_eq_ok.mp last).symm⟩
      | generic | mppa =>
        rw [architecture] at last
        exact .inr (.inr ⟨rfl, bind_eq_ok.mp last⟩)

/-- Without rules, a product and a sum have the signature in which those of all three
operands meet, on whichever side of the sum the product stands. -/
theorem signature_of_sum (builtin : context.rules = .empty) {aType bType cType : NumericType}
    (aTyped : a.type = aType) (bTyped : b.type = bType) (cTyped : c.type = cType) {product : Operand}
    (multiplied : binary context .mul a b = .ok product)
    (added : binary context .add c product = .ok result ∨ binary context .add product c = .ok result) :
    ∃ type : NumericType, result.type = .numeric type ∧
      type.toSignature = cType.toSignature ⊔ (aType.toSignature ⊔ bType.toSignature) := by
  change binary context Arithmetic.mul.operator a b = _ at multiplied
  change binary context Arithmetic.add.operator c product = _ ∨
    binary context Arithmetic.add.operator product c = _ at added
  obtain ⟨productType, _, productPromoted, -, rfl⟩ := binary_eq_ok builtin aTyped bTyped multiplied
  have productSignature := NumericType.toSignature_of_promote productPromoted
  rcases added with added | added
  · obtain ⟨type, _, promoted, -, rfl⟩ := binary_eq_ok builtin cTyped rfl added
    refine ⟨type, rfl, ?_⟩
    rw [NumericType.toSignature_of_promote promoted, productSignature]
    rfl
  · obtain ⟨type, _, promoted, -, rfl⟩ := binary_eq_ok builtin rfl cTyped added
    refine ⟨type, rfl, ?_⟩
    rw [NumericType.toSignature_of_promote promoted, productSignature]
    exact Signature.join_comm _ _

/-- Without rules, a fused multiply-add of numbers has the signature of the third
operand if it is one step, and else the one in which all three meet. So it is typed
like the third operand exactly if it is one step or the factors can be promoted to
the third operand. -/
theorem fused_signature_iff (builtin : context.rules = .empty) {aType bType cType : NumericType}
    (aTyped : a.type = aType) (bTyped : b.type = bType) (cTyped : c.type = cType)
    (success : fused context a b c = .ok result) :
    ∃ type : NumericType, result.type = .numeric type ∧
      type.toSignature =
        (if context.fuses cType then cType.toSignature
          else cType.toSignature ⊔ (aType.toSignature ⊔ bType.toSignature)) ∧
      (type.toSignature = cType.toSignature ↔
        context.fuses cType = true ∨ aType.toSignature ⊔ bType.toSignature ≤ cType.toSignature) := by
  rw [← cTyped]
  rcases fused_cases success with ⟨fuses, text, rfl⟩ | ⟨apart, separated⟩ | ⟨apart, product, multiplied, added⟩
  · exact ⟨cType, cTyped, by simp [fuses]⟩
  · obtain ⟨product, multiplied, added⟩ := bind_eq_ok.mp separated
    obtain ⟨type, typed, signature⟩ := signature_of_sum builtin aTyped bTyped cTyped multiplied (.inl added)
    exact ⟨type, typed, by simp [apart, signature]⟩
  · obtain ⟨type, typed, signature⟩ := signature_of_sum builtin aTyped bTyped cTyped multiplied (.inr added)
    exact ⟨type, typed, by simp [apart, signature]⟩

/-- A factor wider than the third operand gives a product and a sum its own width. -/
theorem wide_factor_widens :
    fused { target := ⟨.c, .generic⟩, catalog := .empty } (.named "a" (NumericType.float 64))
        (.named "b" (NumericType.int 8)) (.named "c" (NumericType.float 32)) =
      .ok (.computed "c + (a) * (b)" (NumericType.float 64)) ∧
    (NumericType.float 64).toSignature ≠ (NumericType.float 32).toSignature :=
  ⟨rfl, by decide⟩

/-- An architecture that has a fused instruction of unknown argument order. -/
def unorderedFusion : Context where
  target := ⟨.c, .mppa⟩
  catalog := Catalog.empty.insert ⟨.fusedMultiplyAdd, .mppa, ⟨.float, 32, 1⟩⟩ "__fmaf"

/-- The product and the sum of a float, a short and a float are a float: the short can
be promoted to it. -/
theorem unorderedFusion_signature :
    ∃ (result : Operand) (type : NumericType),
      fused unorderedFusion (.named "a" (NumericType.float 32)) (.named "b" (NumericType.int 16))
        (.named "c" (NumericType.float 32)) = .ok result ∧
      result.text = "(a) * (b) + c" ∧ unorderedFusion.fuses (NumericType.float 32) = false ∧
      result.type = .numeric type ∧ type.toSignature = (NumericType.float 32).toSignature := by
  have success : fused unorderedFusion (.named "a" (NumericType.float 32))
      (.named "b" (NumericType.int 16)) (.named "c" (NumericType.float 32)) =
      .ok (.computed "(a) * (b) + c" (NumericType.float 32)) := rfl
  have promotes : (NumericType.float 32).toSignature ⊔ (NumericType.int 16).toSignature ≤
      (NumericType.float 32).toSignature := sup_eq_left.mp rfl
  obtain ⟨type, typed, -, likeThird⟩ := fused_signature_iff rfl rfl rfl rfl success
  exact ⟨_, type, success, rfl, rfl, typed, likeThird.mpr (.inr promotes)⟩

/-- Where the target has no single step for the type of the third operand, the whole
is a product and a sum. -/
theorem fused_eq_separate
    (twoSteps : context.language = .fortran ∨
      context.language = .c ∧ fusedInstruction? context c.type = none) :
    fused context a b c = separate context a b c := by
  unfold fused
  rcases twoSteps with inFortran | ⟨inC, missing⟩
  · rw [inFortran]
    rfl
  · rw [inC, missing]
    rfl

end Lowering

namespace Context

variable {context : Context}

/-- Parts are multiplied and added like any others if one of them has no type, or if
the target has no single step for the type of the third. -/
theorem fma_eq_productSum {x y z : Evaluated}
    (twoSteps : (∃ text, .text text ∈ [x, y, z]) ∨ context.language = .fortran ∨
      context.language = .c ∧ ∀ operand, z = .typed operand →
        Lowering.fusedInstruction? context operand.type = none) :
    context.fma x y z = context.productSum x y z := by
  rcases x with a | _ <;> rcases y with b | _ <;> rcases z with c | _
  case typed.typed.typed =>
    change (Lowering.fused context a b c).map Evaluated.typed =
      ((Lowering.binary context .mul a b).map Evaluated.typed >>= fun product =>
        context.apply .add (some (.typed c)) (some product))
    rw [Lowering.fused_eq_separate, Lowering.separate, map_bind]
    · cases Lowering.binary context .mul a b <;> rfl
    · rcases twoSteps with ⟨text, member⟩ | inFortran | ⟨inC, missing⟩
      · simp at member
      · exact .inl inFortran
      · exact .inr ⟨inC, missing c rfl⟩
  all_goals rfl

end Context

namespace Expr

variable {context : Context} {a b c : Expr}

/-- The reasons why a target does not fuse a multiply-add. -/
inductive Unfused (context : Context) (a b c : Expr) : Prop where
  | fortran (inFortran : context.language = .fortran)
  /-- C has no instruction for the type of the third part, as for a handle. -/
  | noInstruction {operand : Operand} (inC : context.language = .c)
      (evaluated : c.evaluate context = .ok (.typed operand))
      (missing : ∀ type, operand.numeric? = some type →
        context.instruction? .fusedMultiplyAdd type = none)
  /-- Some part has no type, in whatever language. -/
  | untyped {part : Expr} {text : String} (isPart : part ∈ [a, b, c])
      (evaluated : part.evaluate context = .ok (.text text))

/-- What keeps a multiply-add from being fused shows in the values of its parts. -/
theorem Unfused.fma_eq (unfused : Unfused context a b c) {x y z : Evaluated}
    (aOk : a.evaluate context = .ok x) (bOk : b.evaluate context = .ok y)
    (cOk : c.evaluate context = .ok z) : context.fma x y z = context.productSum x y z := by
  apply Context.fma_eq_productSum
  cases unfused with
  | fortran inFortran => exact .inr (.inl inFortran)
  | @noInstruction operand inC evaluated missing =>
    obtain rfl : z = .typed operand := Except.ok.inj (cOk.symm.trans evaluated)
    refine .inr (.inr ⟨inC, ?_⟩)
    rintro _ ⟨⟩
    cases typed : operand.type with
    | numeric type => exact missing type (congrArg DataType.numeric? typed)
    | handle name => rfl
  | @untyped part text isPart evaluated =>
    refine .inl ⟨text, ?_⟩
    have values : [a, b, c].map (·.evaluate context) = [x, y, z].map .ok := by simp [aOk, bOk, cOk]
    have member : part.evaluate context ∈ [x, y, z].map .ok := values ▸ List.mem_map_of_mem isPart
    simpa [evaluated] using member

/-- A multiply-add that is not fused evaluates exactly when the sum of its third part
and the product of the two others does, and to the same text and type. -/
theorem evaluate_fma_iff (unfused : Unfused context a b c) (value : Evaluated) :
    (Expr.fma a b c).evaluate context = .ok value ↔ (c + a * b).evaluate context = .ok value := by
  change _ ↔ (Expr.binary .add c (.binary .mul a b)).evaluate context = .ok value
  simp only [evaluate, bind_eq_ok]
  constructor
  · rintro ⟨x, aOk, y, bOk, z, cOk, fused⟩
    rw [unfused.fma_eq aOk bOk cOk] at fused
    obtain ⟨product, multiplied, added⟩ := bind_eq_ok.mp fused
    exact ⟨z, cOk, product, ⟨x, aOk, y, bOk, multiplied⟩, added⟩
  · rintro ⟨z, cOk, product, ⟨x, aOk, y, bOk, multiplied⟩, added⟩
    refine ⟨x, aOk, y, bOk, z, cOk, ?_⟩
    rw [unfused.fma_eq aOk bOk cOk]
    exact bind_eq_ok.mpr ⟨product, multiplied, added⟩

/-- A variable of single precision. -/
def single (name : String) : Expr :=
  .value (.named name (NumericType.float 32))

/-- A multiply-add that CUDA has in one step. -/
def innerFusion : Expr :=
  .fma (single "x") (single "y") (single "z")

/-- CUDA, which converts and multiplies without a catalog. -/
def plainCuda : Context where
  target := ⟨.cuda, .generic⟩
  catalog := .empty

/-- A factor without a type keeps the outer of two multiply-adds from being fused, but
not the inner one. -/
theorem innerFusion_scaled :
    Unfused plainCuda (.literal (.raw "k")) (single "x") innerFusion ∧
    ∃ value, (Expr.fma (.literal (.raw "k")) (single "x") innerFusion).evaluate plainCuda = .ok value ∧
      (innerFusion + .literal (.raw "k") * single "x").evaluate plainCuda = .ok value ∧
      value.render = "fma(x,y,z) + (k) * (x)" := by
  have unfused : Unfused plainCuda (.literal (.raw "k")) (single "x") innerFusion :=
    .untyped List.mem_cons_self rfl
  have success : (Expr.fma (.literal (.raw "k")) (single "x") innerFusion).evaluate plainCuda =
      .ok (.typed (.computed "fma(x,y,z) + (k) * (x)" (NumericType.float 32))) := rfl
  exact ⟨unfused, _, success, (evaluate_fma_iff unfused _).mp success, rfl⟩

end Expr

end VectorKernel
