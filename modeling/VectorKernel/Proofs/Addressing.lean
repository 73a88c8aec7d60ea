import VectorKernel.Proofs.Fused
import VectorKernel.Proofs.Promotion.Tree
import VectorKernel.Proofs.Template.Basic

/-!
# Addresses taken by loads

A scalar that is read as a vector is broadcast if it is a constant of the tree
(`load_literal`), and read from memory otherwise. Only constants are told apart: the
result of an operation has no storage either, but is read from memory all the same.
`load_of_operation_reads_memory` says from where: the address is made from the text of
the operation, by an address-of in front of it or by leaving out a star that happens
to come first.
-/

namespace VectorKernel

namespace Operand

/-- An address is the text behind a leading star, or the text with an address-of. -/
theorem address_cases (operand : Operand) :
    (∃ pointed, Text.trimStart operand.text = "*" ++ pointed ∧
      operand.address = Text.trimStart pointed) ∨
    operand.address = "&" ++ Text.trimStart operand.text := by
  change _ ∨ Text.pointer operand.text = _
  cases characters : (Text.trimStart operand.text).toList with
  | nil =>
    have empty : Text.trimStart operand.text = "" := String.toList_eq_nil_iff.mp characters
    rw [Text.pointer_of_empty empty, empty]
    exact .inr rfl
  | cons first rest =>
    have shape : Text.trimStart operand.text = String.singleton first ++ .ofList rest :=
      String.toList_injective (by simp [characters])
    by_cases star : first = '*'
    · subst star
      exact .inl ⟨_, shape, Text.pointer_of_star shape⟩
    · exact .inr (Text.pointer_of_first star shape)

end Operand

namespace Context

variable {context : Context} {operand : Operand}

/-- The text of a vector of type `type` read from memory at a pointer, of which no
alignment is known. -/
def readText (context : Context) (pointer : String) (type : NumericType) : Except Fault String :=
  if context.language = .openCl then .ok s!"vload{type.lanes}(0, {pointer})"
  else if Lowering.isWordSized context type then .ok s!"_m_from_int64( *((int64_t * ) {pointer} ) )"
  else do
    let instruction ← context.instruction .load type
    return if context.architecture = .x86 && !type.kind.isFloat then
      s!"{instruction}( ({context.spelling type} * ) {pointer} )"
    else s!"{instruction}( {pointer} )"

/-- The result of an operator has no storage attributes. -/
theorem computed_of_apply {operator : Operator} {left right : Option Evaluated}
    (success : context.apply operator left right = .ok (.typed operand)) :
    ∃ text type, operand = .computed text type := by
  rcases left with _ | (left | _) <;> rcases right with _ | (right | _)
  case none.none => cases success
  case some.typed.some.typed =>
    obtain ⟨result, lowered, equal⟩ := map_eq_ok.mp success
    obtain ⟨text, type, -, -, rfl⟩ := computed_of_binary lowered
    cases equal
    exact ⟨text, type, rfl⟩
  all_goals cases success
  all_goals exact ⟨_, _, rfl⟩

/-- A fused operation gives a value that was computed, so it has no address. -/
theorem computed_of_fma {a b c : Evaluated} (success : context.fma a b c = .ok (.typed operand)) :
    ∃ text type, operand = .computed text type := by
  rcases a with a | _ <;> rcases b with b | _ <;> rcases c with c | _
  case typed.typed.typed =>
    obtain ⟨result, lowered, equal⟩ := map_eq_ok.mp success
    cases equal
    rcases Lowering.fused_cases lowered with ⟨-, text, rfl⟩ | ⟨-, separated⟩ | ⟨-, product, -, added⟩
    · exact ⟨text, c.type, rfl⟩
    · obtain ⟨product, -, added⟩ := bind_eq_ok.mp separated
      obtain ⟨text, type, -, -, rfl⟩ := computed_of_binary added
      exact ⟨text, type, rfl⟩
    · obtain ⟨text, type, -, -, rfl⟩ := computed_of_binary added
      exact ⟨text, type, rfl⟩
  all_goals
    obtain ⟨product, -, added⟩ := bind_eq_ok.mp success
    exact computed_of_apply added

/-- A choice between two values gives one that was computed, so it has no address. -/
theorem computed_of_conditional {condition positive negative : Evaluated}
    (success : context.conditional condition positive negative = .ok (.typed operand)) :
    ∃ text type, operand = .computed text type := by
  obtain ⟨text, -, rest⟩ := bind_eq_ok.mp success
  obtain ⟨type?, -, last⟩ := bind_eq_ok.mp rest
  cases type? with
  | none => cases last
  | some type =>
    cases last
    exact ⟨text, type, rfl⟩

end Context

namespace Expr

variable {context : Context} {operation : Expr} {source : Operand}

/-- Whether an expression is an operation that computes a value: arithmetic, a
comparison, logic, a fused multiply-add or a conditional. -/
def computesValue : Expr → Bool
  | .binary operator _ _ => operator.combinesSides
  | .unary operator _ => operator.keepsSide
  | .fma .. | .conditional .. => true
  | _ => false

/-- The value of an operation is no constant and has no storage. -/
theorem computed_of_evaluate (computes : operation.computesValue = true)
    (success : operation.evaluate context = .ok (.typed source)) :
    ∃ text type, source = .computed text type := by
  cases operation with
  | binary operator left right =>
    simp only [evaluate, bind_eq_ok] at success
    obtain ⟨_, -, _, -, applied⟩ := success
    exact Context.computed_of_apply applied
  | unary operator right =>
    simp only [evaluate, bind_eq_ok] at success
    obtain ⟨_, -, applied⟩ := success
    exact Context.computed_of_apply applied
  | fma a b c =>
    simp only [evaluate, bind_eq_ok] at success
    obtain ⟨_, -, _, -, _, -, fused⟩ := success
    exact Context.computed_of_fma fused
  | conditional condition positive negative =>
    simp only [evaluate, bind_eq_ok] at success
    obtain ⟨_, -, _, -, _, -, _, -, chosen⟩ := success
    exact Context.computed_of_conditional chosen
  | _ => cases computes

end Expr

namespace Lowering

variable {context : Context} {held type : NumericType}

/-- A scalar and a vector have different signatures. -/
theorem toSignature_ne (scalar : held.isVector = false) (vector : type.isVector = true) :
    held.toSignature ≠ type.toSignature := by
  intro same
  rw [same, vector] at scalar
  cases scalar

/-- A scalar without storage attributes is read from its address. -/
theorem loadText_of_computed (moves : context.language.movesVectors = true)
    (scalar : held.isVector = false) (vector : type.isVector = true) (text : String) :
    loadText context (.computed text held) type =
      context.readText (Operand.computed text held).address type := by
  have numeric : (Operand.computed text held).numeric? = some held := rfl
  have notLiteral : (Operand.computed text held).literal = false := rfl
  have unaligned : isAligned (.computed text held) type = false := rfl
  have apart := toSignature_ne scalar vector
  simp only [loadText, moves, numeric, notLiteral, apart, scalar, Context.readText, memoryLoadText,
    unaligned, pointerSpelling, Bool.false_eq_true, if_true, if_false]
  -- The two sides differ only in where they ask for an integer vector of x86.
  by_cases integers : (context.architecture = .x86 && !type.kind.isFloat) = true
  · simp only [integers, if_true]
  · simp only [integers, Bool.false_eq_true, if_false]

end Lowering

namespace Expr

variable {context : Context} {operation : Expr} {source : Operand}
  {held type : NumericType}

/-- A constant that is read as a vector is broadcast. -/
theorem load_literal (moves : context.language.movesVectors = true) (constant : Literal)
    (typed : constant.type? = some held) (vector : type.isVector = true) :
    (Expr.load (.literal constant) type).evaluate context =
      (Expr.broadcast (.literal constant) type).evaluate context := by
  have lanes := Literal.lanes_of_type? typed
  have scalar : held.isVector = false := by simp [Signature.isVector, lanes]
  have read : Lowering.loadText context (.constantOf constant.text held) type =
      Lowering.broadcastText context (.constantOf constant.text held) type := by
    have numeric : (Operand.constantOf constant.text held).numeric? = some held := rfl
    have literal : (Operand.constantOf constant.text held).literal = true := rfl
    simp [Lowering.loadText, moves, numeric, Lowering.toSignature_ne scalar vector, scalar, literal]
  cases finite : constant.nonFinite? with
  | some value => simp [evaluate, Literal.evaluate, finite, Bind.bind, Except.bind]
  | none =>
    simp only [evaluate, Literal.evaluate_eq typed finite]
    change (Lowering.load context (.constantOf constant.text held) type >>= fun vector =>
      pure (Evaluated.typed vector)) = _
    rw [Lowering.load, read]
    rfl

/-- In the languages that move vectors explicitly, reading an operation on scalars as a
vector reads memory, and so does assigning it to a vector. The address is the text of
the operation behind a leading star, or that text with an address-of in front. -/
theorem load_of_operation_reads_memory (moves : context.language.movesVectors = true)
    (computes : operation.computesValue = true)
    (success : operation.evaluate context = .ok (.typed source)) (typed : source.type = .numeric held)
    (scalar : held.isVector = false) (vector : type.isVector = true) :
    (Expr.load operation type).evaluate context =
      (context.readText source.address type).map (fun text => .typed (.computed text type)) ∧
    (∀ (destination : Operand) (result : DataType), destination.type = .numeric type →
      context.rules.transition type held .assign = .ok (result, .assign) →
      (Expr.assign (.value destination) operation).evaluate context =
        (context.readText source.address type).map fun text =>
          .typed (.computed s!"{destination.text} = {text}" result)) ∧
    ((∃ pointed, Text.trimStart source.text = "*" ++ pointed ∧
        source.address = Text.trimStart pointed) ∨
      source.address = "&" ++ Text.trimStart source.text) := by
  obtain ⟨text, _, rfl⟩ := computed_of_evaluate computes success
  obtain rfl : _ = DataType.numeric held := typed
  have read := Lowering.loadText_of_computed moves scalar vector text
  refine ⟨?_, ?_, Operand.address_cases _⟩
  · simp only [evaluate, success]
    change (Lowering.load context (.computed text held) type >>= fun vector =>
      pure (Evaluated.typed vector)) = _
    rw [Lowering.load, read]
    cases context.readText _ type <;> rfl
  · intro destination result destinationTyped transition
    rw [← destinationTyped] at transition
    have numeric : destination.numeric? = some type := congrArg DataType.numeric? destinationTyped
    have assigned : Lowering.assignText context destination (.computed text held) =
        (Lowering.loadText context (.computed text held) type).map fun value =>
          s!"{destination.text} = {value}" := by
      simp only [Lowering.assignText, numeric, vector, if_true]
    simp only [assign, evaluate, success]
    change (Lowering.binary context .assign destination (.computed text held)).map Evaluated.typed = _
    rw [Lowering.binary_eq transition]
    change ((Lowering.assignText context destination (.computed text held)).map _).map _ = _
    rw [assigned, read]
    cases context.readText _ type <;> rfl

/-- Four floats. -/
def quad : NumericType := (NumericType.float 32).vector 4

/-- C on x86, with instructions to read and to broadcast four floats. -/
def quadReads : Context where
  target := ⟨.c, .x86⟩
  catalog :=
    let key (operation : Intrinsic) : Catalog.Key := ⟨operation, .x86, quad.toSignature⟩
    (Catalog.empty.insert (key .load) "_mm_loadu_ps").insert (key .broadcast) "_mm_set1_ps"

/-- A sum of two floats. -/
def floatSum : Expr :=
  single "a" + single "b"

/-- Read as four floats, a sum is not broadcast: memory is read at an address that
belongs to no variable. -/
theorem floatSum_not_broadcast :
    (Expr.load floatSum quad).render quadReads = .ok "_mm_loadu_ps( &a + b )" ∧
    (Expr.broadcast floatSum quad).render quadReads = .ok "_mm_set1_ps( a + b )" ∧
    (Expr.load floatSum quad).render { target := ⟨.openCl, .generic⟩, catalog := .empty } =
      .ok "vload4(0, &a + b)" :=
  ⟨rfl, rfl, rfl⟩

/-- A float behind a pointer, and one more. -/
def pointedSum : Expr :=
  .unary .deref (single "p") + .literal (.int 1)

/-- The star of the first summand is taken for that of the sum, so that the floats are
read from one place behind those that the pointer points to. -/
theorem pointedSum_reads_memory :
    pointedSum.computesValue = true ∧ pointedSum.render quadReads = .ok " *p + 1" ∧
    (Expr.load pointedSum quad).evaluate quadReads =
      .ok (.typed (.computed "_mm_loadu_ps( p + 1 )" quad)) ∧
    (Expr.assign (.value (.named "v" quad)) pointedSum).evaluate quadReads =
      .ok (.typed (.computed "v = _mm_loadu_ps( p + 1 )" quad)) := by
  have success : pointedSum.evaluate quadReads =
      .ok (.typed (.computed " *p + 1" (NumericType.float 32))) := rfl
  have vector : quad.isVector = true := rfl
  obtain ⟨loaded, assigned, -⟩ := load_of_operation_reads_memory rfl rfl success rfl rfl vector
  exact ⟨rfl, rfl, loaded, assigned (.named "v" quad) quad rfl rfl⟩

end Expr

end VectorKernel
