import VectorKernel.Proofs.Extension

/-!
# Declared alignments in lowerings

A declared alignment matters only on the memory side of a move, where it decides
between the plain and the aligned instruction. Each lowering is compared with
itself after two changes at once: operands lose their alignment, unless they are
kept as the memory side, and the catalog gets other aligned moves. A memory side
is `Undisturbed` by this if it has no alignment to begin with, or if neither it
nor the catalog was changed.
-/

namespace VectorKernel

/-- Loads and stores that demand an alignment. -/
def Intrinsic.isAlignedMove : Intrinsic → Bool
  | .loadAligned | .storeAligned => true
  | _ => false

namespace Catalog

/-- Catalogs that differ at most in their aligned loads and stores. -/
structure EqualButAligned (catalog other : Catalog) : Prop where
  instruction : ∀ operation, operation.isAlignedMove = false → ∀ architecture signature,
    other.lookup operation architecture signature = catalog.lookup operation architecture signature
  conversions : other.conversions = catalog.conversions

namespace EqualButAligned

theorem refl (catalog : Catalog) : catalog.EqualButAligned catalog where
  instruction _ _ _ _ := rfl
  conversions := rfl

/-- Entering an aligned move changes nothing that `EqualButAligned` looks at. -/
theorem insert {catalog other : Catalog} (same : catalog.EqualButAligned other) {key : Key}
    (aligned : key.operation.isAlignedMove = true) (name : String) :
    catalog.EqualButAligned (other.insert key name) where
  instruction operation plain architecture signature := by
    have differs : { operation, architecture, signature } ≠ key := by
      rintro rfl
      exact Bool.false_ne_true (plain.symm.trans aligned)
    rw [Catalog.lookup, Catalog.insert, Table.find?_insert, if_neg differs]
    exact same.instruction operation plain architecture signature
  conversions := same.conversions

/-- Chains of conversions are made of other instructions, so they are the same for every search. -/
theorem conversionPath {catalog other : Catalog} (same : catalog.EqualButAligned other)
    (source target : Signature) (architecture : Architecture) (search : PathSearch Signature) :
    other.conversionPath source target architecture search =
      catalog.conversionPath source target architecture search :=
  conversionPath_congr (by rw [edges, same.conversions, edges]) source target search

end EqualButAligned

end Catalog

namespace Operand

/-- The operand without its declared alignment, unless it is kept as the memory
side of a move. -/
def kept (memorySide : Bool) (operand : Operand) : Operand :=
  if memorySide then operand else { operand with alignment := none }

variable (memorySide : Bool) (operand : Operand)

@[simp] theorem kept_text : (operand.kept memorySide).text = operand.text := by
  cases memorySide <;> rfl

@[simp] theorem kept_type : (operand.kept memorySide).type = operand.type := by
  cases memorySide <;> rfl

@[simp] theorem kept_literal : (operand.kept memorySide).literal = operand.literal := by
  cases memorySide <;> rfl

@[simp] theorem kept_numeric? : (operand.kept memorySide).numeric? = operand.numeric? := by
  cases memorySide <;> rfl

@[simp] theorem kept_isVector : (operand.kept memorySide).isVector = operand.isVector := by
  cases memorySide <;> rfl

@[simp] theorem kept_address : (operand.kept memorySide).address = operand.address := by
  cases memorySide <;> rfl

/-- An operand without an alignment has none to lose. -/
theorem kept_eq {operand : Operand} (undeclared : operand.alignment = none) (memorySide : Bool) :
    operand.kept memorySide = operand := by
  obtain ⟨text, type, name, direction, constant, alignment, literal⟩ := operand
  cases undeclared
  cases memorySide <;> rfl

/-- An operand with a numeric type is a vector exactly if its type is. -/
theorem isVector_of_numeric? {operand : Operand} {type : NumericType}
    (numeric : operand.numeric? = some type) : operand.isVector = type.isVector := by
  obtain ⟨text, data, name, direction, constant, alignment, literal⟩ := operand
  cases data with
  | numeric held =>
    obtain rfl := Option.some.inj numeric
    rfl
  | handle name => cases numeric

end Operand

/-- The instructions of operators are no aligned moves. -/
theorem Operator.isAlignedMove_of_intrinsic? {operator : Operator} {operation : Intrinsic}
    (done : operator.intrinsic? = some operation) : operation.isAlignedMove = false := by
  cases operator <;> cases done <;> rfl

namespace Context

@[simp] theorem withCatalog_catalog (context : Context) (catalog : Catalog) :
    (context.withCatalog catalog).catalog = catalog := rfl

@[simp] theorem withCatalog_search (context : Context) (catalog : Catalog) :
    (context.withCatalog catalog).search = context.search := rfl

@[simp] theorem withCatalog_spelling (context : Context) (catalog : Catalog) (type : NumericType) :
    (context.withCatalog catalog).spelling type = context.spelling type := rfl

/-- A memory side whose move is the same with another catalog and after its
alignment may have been dropped. -/
def Undisturbed (context : Context) (other : Catalog) (memorySide : Bool) (storage : Operand) : Prop :=
  storage.alignment = none ∨ (memorySide = true ∧ other = context.catalog)

variable {context : Context} {other : Catalog} (same : context.catalog.EqualButAligned other)

include same

/-- Every other instruction has the name that it had. -/
theorem instruction?_withCatalog (operation : Intrinsic) (plain : operation.isAlignedMove = false)
    (type : NumericType) :
    (context.withCatalog other).instruction? operation type = context.instruction? operation type :=
  same.instruction operation plain context.architecture type.toSignature

/-- A missing instruction is missing from both catalogs, with the same fault. -/
theorem instruction_withCatalog (operation : Intrinsic) (plain : operation.isAlignedMove = false)
    (type : NumericType) :
    (context.withCatalog other).instruction operation type = context.instruction operation type := by
  simp only [instruction, instruction?_withCatalog same operation plain, withCatalog_architecture]

/-- The move of an undisturbed memory side uses the same instruction. -/
theorem move_withCatalog {memorySide : Bool} {storage : Operand}
    (undisturbed : context.Undisturbed other memorySide storage) (aligned operation : Intrinsic)
    (plain : operation.isAlignedMove = false) (type : NumericType) :
    (context.withCatalog other).instruction
        (if Lowering.isAligned (storage.kept memorySide) type then aligned else operation) type =
      context.instruction (if Lowering.isAligned storage type then aligned else operation) type := by
  rcases undisturbed with undeclared | ⟨rfl, rfl⟩
  · have loose : Lowering.isAligned storage type = false := by simp [Lowering.isAligned, undeclared]
    have keptLoose : Lowering.isAligned (storage.kept memorySide) type = false := by
      cases memorySide with
      | true => exact loose
      | false => rfl
    simp only [loose, keptLoose, Bool.false_eq_true, if_false]
    exact instruction_withCatalog same operation plain type
  · rfl

end Context

namespace Lowering

open Context (withCatalog_language withCatalog_architecture withCatalog_catalog withCatalog_search
  withCatalog_spelling withCatalog_rules instruction_withCatalog instruction?_withCatalog move_withCatalog)
open Operand (kept_text kept_type kept_literal kept_numeric? kept_isVector kept_address)

variable {context : Context} {other : Catalog} (same : context.catalog.EqualButAligned other)

include same

/-- Conversions neither read the alignment nor use aligned moves. -/
theorem convert_kept (memorySide : Bool) (value : Operand) (target : NumericType) :
    convert (context.withCatalog other) (value.kept memorySide) target =
      convert context value target := by
  simp only [convert, convertNumeric, kept_numeric?, kept_text, withCatalog_language,
    withCatalog_architecture, withCatalog_catalog, withCatalog_search, withCatalog_spelling,
    same.conversionPath]

/-- A scalar is spread over the lanes by the same instruction. -/
theorem splatText_withCatalog (text : String) (type : NumericType) :
    splatText (context.withCatalog other) text type = splatText context text type := by
  simp only [splatText, withCatalog_language, withCatalog_spelling, instruction_withCatalog same .broadcast rfl]

/-- A broadcast neither reads the alignment of its value nor uses aligned moves. -/
theorem broadcastText_kept (memorySide : Bool) (value : Operand) (type : NumericType) :
    broadcastText (context.withCatalog other) (value.kept memorySide) type =
      broadcastText context value type := by
  simp only [broadcastText, kept_numeric?, kept_text, withCatalog_language, convert_kept same,
    splatText_withCatalog same]

/-- Coercion is conversion or broadcast, and so reads no alignment. -/
theorem coerce_kept (memorySide : Bool) (value : Operand) (type : NumericType) :
    coerce (context.withCatalog other) (value.kept memorySide) type = coerce context value type := by
  simp only [coerce, kept_numeric?, kept_text, broadcastText_kept same, convert_kept same]

/-- A load from memory is the same if it is undisturbed: it has no alignment to lose, or nothing
was changed. -/
theorem memoryLoadText_kept {memorySide : Bool} {source : Operand}
    (undisturbed : context.Undisturbed other memorySide source) (type : NumericType) :
    memoryLoadText (context.withCatalog other) (source.kept memorySide) type =
      memoryLoadText context source type := by
  rw [memoryLoadText, memoryLoadText, move_withCatalog same undisturbed .loadAligned .load rfl,
    kept_address]
  rfl

/-- A load of any source is the same if it is undisturbed. -/
theorem loadText_kept {memorySide : Bool} {source : Operand}
    (undisturbed : context.Undisturbed other memorySide source) (type : NumericType) :
    loadText (context.withCatalog other) (source.kept memorySide) type =
      loadText context source type := by
  simp only [loadText, withCatalog_language, kept_numeric?, kept_text, kept_literal, kept_address,
    convert_kept same, broadcastText_kept same, memoryLoadText_kept same undisturbed]

/-- A store is the same if it is undisturbed. Here the memory side is the destination. -/
theorem memoryStoreText_kept {memorySide : Bool} {destination : Operand}
    (undisturbed : context.Undisturbed other memorySide destination) (text : String)
    (type : NumericType) :
    memoryStoreText (context.withCatalog other) (destination.kept memorySide) text type =
      memoryStoreText context destination text type := by
  rw [memoryStoreText, memoryStoreText, move_withCatalog same undisturbed .storeAligned .store rfl,
    kept_address]
  rfl

/-- The alignment of a stored value is never looked at. -/
theorem storeText_kept {memorySide : Bool} {destination : Operand}
    (undisturbed : context.Undisturbed other memorySide destination) (valueSide : Bool)
    (source : Operand) :
    storeText (context.withCatalog other) (destination.kept memorySide) (source.kept valueSide) =
      storeText context destination source := by
  simp only [storeText, withCatalog_language, kept_text, kept_numeric?,
    memoryStoreText_kept same undisturbed]

/-- Assignment to something that is no vector goes to memory if the value is one, and only then
reads the alignment of the left side. -/
theorem scalarAssignText_kept {leftSide : Bool} {left right : Operand} (rightSide : Bool)
    (undisturbed : right.isVector = true → context.Undisturbed other leftSide left) :
    scalarAssignText (context.withCatalog other) (left.kept leftSide) (right.kept rightSide) =
      scalarAssignText context left right := by
  simp only [scalarAssignText, kept_isVector, kept_text, withCatalog_language]
  split
  · next vector => exact storeText_kept same (undisturbed vector) rightSide right
  · rfl

/-- An assignment reads the alignment of one side at most, and only if the other one is a vector. -/
theorem assignText_kept {leftSide rightSide : Bool} {left right : Operand}
    (leftUndisturbed : right.isVector = true → context.Undisturbed other leftSide left)
    (rightUndisturbed : left.isVector = true → context.Undisturbed other rightSide right) :
    assignText (context.withCatalog other) (left.kept leftSide) (right.kept rightSide) =
      assignText context left right := by
  have scalar := scalarAssignText_kept same rightSide leftUndisturbed
  simp only [assignText, kept_numeric?, kept_text]
  cases numeric : left.numeric? with
  | none => exact scalar
  | some type =>
    dsimp only
    split
    · next vector =>
      have leftVector : left.isVector = true := (Operand.isVector_of_numeric? numeric).trans vector
      rw [loadText_kept same (rightUndisturbed leftVector) type]
    · exact scalar

/-- An operation on lanes reads no alignment of its operands. -/
theorem vectorText_kept {operation : Intrinsic} (plain : operation.isAlignedMove = false)
    (leftSide rightSide : Bool) (left right : Operand) (type : NumericType) :
    vectorText (context.withCatalog other) operation (left.kept leftSide) (right.kept rightSide) type =
      vectorText context operation left right type := by
  simp only [vectorText, instruction_withCatalog same operation plain, coerce_kept same]

/-- An operation looks at the alignment of a side only if it moves a vector from
there or to there. -/
theorem binaryText_kept {operator : Operator} {leftSide rightSide : Bool} {left right : Operand}
    (leftUndisturbed : operator = .assign → right.isVector = true →
      context.Undisturbed other leftSide left)
    (rightUndisturbed : operator = .assign → left.isVector = true →
      context.Undisturbed other rightSide right) (type : DataType) :
    binaryText (context.withCatalog other) operator (left.kept leftSide) (right.kept rightSide) type =
      binaryText context operator left right type := by
  simp only [binaryText, kept_text, withCatalog_language]
  split
  · next assigns => exact assignText_kept same (leftUndisturbed assigns) (rightUndisturbed assigns)
  · cases done : operator.intrinsic? with
    | none => rfl
    | some operation =>
      have plain := Operator.isAlignedMove_of_intrinsic? done
      cases type with
      | handle name => rfl
      | numeric type =>
        simp only [vectorText_kept same plain]
        rfl

/-- The operands of fused operations are coerced, which reads no alignment. -/
theorem fusedOperand_kept (memorySide : Bool) (type : DataType) (value : Operand) :
    fusedOperand (context.withCatalog other) type (value.kept memorySide) =
      fusedOperand context type value := by
  cases type with
  | numeric type => exact coerce_kept same memorySide value type
  | handle name => exact congrArg Except.ok (value.kept_text memorySide)

/-- Fused operations are no aligned moves. -/
theorem fusedInstruction?_withCatalog (type : DataType) :
    fusedInstruction? (context.withCatalog other) type = fusedInstruction? context type := by
  cases type with
  | numeric type => exact instruction?_withCatalog same .fusedMultiplyAdd rfl type
  | handle name => rfl

section Builtin

variable (builtin : context.rules = .empty)

include builtin

/-- Of the binary operators only assignment reads alignments. -/
theorem binary_kept {operator : Operator} {leftSide rightSide : Bool} {left right : Operand}
    (leftUndisturbed : operator = .assign → right.isVector = true →
      context.Undisturbed other leftSide left)
    (rightUndisturbed : operator = .assign → left.isVector = true →
      context.Undisturbed other rightSide right) :
    binary (context.withCatalog other) operator (left.kept leftSide) (right.kept rightSide) =
      binary context operator left right := by
  simp only [binary, kept_type, withCatalog_rules]
  refine bind_congr_ok fun result found => ?_
  -- Without rules the operator that is lowered is the one that was given.
  rw [builtin] at found
  obtain ⟨_, -, ⟨⟩⟩ := map_eq_ok.mp found
  rw [binaryText_kept same leftUndisturbed rightUndisturbed]

/-- Anything but an assignment looks at no alignment at all. -/
theorem binary_kept_of_ne (operator : Operator) (notAssign : operator ≠ .assign)
    (leftSide rightSide : Bool) (left right : Operand) :
    binary (context.withCatalog other) operator (left.kept leftSide) (right.kept rightSide) =
      binary context operator left right :=
  binary_kept same builtin (fun assigns => absurd assigns notAssign)
    fun assigns => absurd assigns notAssign

/-- A product and then a sum: neither is an assignment. -/
theorem separate_kept (aSide bSide cSide : Bool) (a b c : Operand) :
    separate (context.withCatalog other) (a.kept aSide) (b.kept bSide) (c.kept cSide) =
      separate context a b c := by
  rw [separate, separate, binary_kept_of_ne same builtin .mul nofun]
  exact bind_congr_ok fun product _ => binary_kept_of_ne same builtin .add nofun cSide true c product

/-- A fused operation reads no alignment, whether it is one instruction or two operations. -/
theorem fused_kept (aSide bSide cSide : Bool) (a b c : Operand) :
    fused (context.withCatalog other) (a.kept aSide) (b.kept bSide) (c.kept cSide) =
      fused context a b c := by
  have apart := separate_kept same builtin aSide bSide cSide a b c
  have sum :
      (binary (context.withCatalog other) .mul (a.kept aSide) (b.kept bSide) >>= fun product =>
        binary (context.withCatalog other) .add product (c.kept cSide)) =
      (binary context .mul a b >>= fun product => binary context .add product c) := by
    rw [binary_kept_of_ne same builtin .mul nofun]
    exact bind_congr_ok fun product _ =>
      binary_kept_of_ne same builtin .add nofun true cSide product c
  simp only [fused, kept_type, withCatalog_language, withCatalog_architecture, fusedOperand_kept same,
    fusedInstruction?_withCatalog same]
  cases context.language with
  | fortran => exact apart
  | openCl => rfl
  | cuda => rfl
  | c =>
    cases fusedInstruction? context c.type with
    | none => exact apart
    | some instruction =>
      refine bind_congr_ok fun operands _ => ?_
      cases context.architecture with
      | x86 => rfl
      | arm => rfl
      | generic | mppa => exact sum

end Builtin

/-- A vector of single lanes is set up by the same instruction. -/
theorem laneListText_withCatalog (lanes : List String) (type : NumericType) :
    laneListText (context.withCatalog other) lanes type = laneListText context lanes type := by
  have zeros : broadcastText (context.withCatalog other) (.computed "0" type.scalar) type =
      broadcastText context (.computed "0" type.scalar) type := broadcastText_kept same true _ type
  simp only [laneListText, buildText, withCatalog_language, withCatalog_spelling,
    instruction?_withCatalog same .build rfl, instruction_withCatalog same .insertLane rfl, zeros]

/-- Masked loads have instructions of their own, which ask for no alignment. -/
theorem maskedLoadText_kept (memorySide : Bool) (source : Operand) (mask : List Bool)
    (type : NumericType) :
    maskedLoadText (context.withCatalog other) (source.kept memorySide) mask type =
      maskedLoadText context source mask type := by
  simp only [maskedLoadText, maskText, kept_address, instruction_withCatalog same .maskedLoad rfl,
    laneListText_withCatalog same]
  rfl

/-- Masked stores have instructions of their own, which ask for no alignment. -/
theorem maskedStoreText_kept (memorySide valueSide : Bool) (destination source : Operand)
    (mask : List Bool) (type : NumericType) :
    maskedStoreText (context.withCatalog other) (destination.kept memorySide) (source.kept valueSide)
        mask type =
      maskedStoreText context destination source mask type := by
  simp only [maskedStoreText, maskText, kept_address, instruction_withCatalog same .maskedStore rfl,
    laneListText_withCatalog same, convert_kept same]
  rfl

end Lowering

end VectorKernel
