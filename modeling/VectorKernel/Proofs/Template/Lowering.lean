import Mathlib.Data.List.Forall2
import VectorKernel.Proofs.Success
import VectorKernel.Proofs.Template.Traced

/-!
# Lowerings follow templates

Each lowering of operands with traced texts is uniform, and its text has the
leaves of every operand exactly once. The cases of a proof here are the
branches of the lowering, all of which are chosen by the language, the
architecture, the catalog and the types.
-/

namespace VectorKernel

variable {positions others thirds : List Nat} {text other third : (Nat → String) → String}

/-- Instructions around a traced text leave it traced. -/
theorem Traced.nest (traced : Traced positions text) (instructions : List String) :
    Traced positions fun texts => Lowering.nest (text texts) instructions := by
  induction instructions generalizing text with
  | nil => exact traced
  | cons instruction rest ih => exact ih ((traced.before _).after _)

/-- The lanes of a vector, each traced to its own leaves. -/
abbrev TracedAll (parts : List (List Nat)) (lanes : List ((Nat → String) → String)) : Prop :=
  List.Forall₂ Traced parts lanes

/-- Texts that are joined stand in the result once each. -/
theorem TracedAll.join {parts : List (List Nat)} {lanes : List ((Nat → String) → String)}
    (traced : TracedAll parts lanes) (separator : String) :
    Traced parts.flatten fun texts => Text.join separator (lanes.map (· texts)) := by
  induction traced with
  | nil => exact .chunk ""
  | @cons part lane parts lanes first rest ih =>
    cases rest with
    | nil => simpa [Text.join] using first
    | cons second others => exact (first.after separator).append ih

/-- Inserting lanes keeps the lanes of the vector and adds each new one once. -/
theorem TracedAll.insertLanes {parts : List (List Nat)} {lanes : List ((Nat → String) → String)}
    (traced : TracedAll parts lanes) (instruction : String) (lane : Nat)
    (vector : Traced positions text) :
    Traced (positions ++ parts.flatten) fun texts =>
      Lowering.insertLanes instruction lane (text texts) (lanes.map (· texts)) := by
  induction traced generalizing lane positions text with
  | nil => simpa [Lowering.insertLanes] using vector
  | @cons part value parts lanes first rest ih =>
    have inserted : Traced (part ++ positions)
        fun texts => s!"{instruction}({value texts}, {text texts}, {lane})" :=
      ((((first.before _).after _).append vector).after _).after _ |>.after _
    refine (ih (lane + 1) inserted).perm ?_
    rw [List.flatten_cons, ← List.append_assoc]
    exact List.perm_append_comm.append_right _

namespace Lowering

variable (context : Context)

/-- A conversion wraps its value, however long the chain is. -/
theorem convert_uniform (traced : Traced positions text) (value : Operand) (target : NumericType) :
    Uniform positions fun texts => convert context (value.withText (text texts)) target := by
  simp only [convert, Operand.withText_numeric?, Operand.withText_text]
  cases value.numeric? with
  | none => exact .text traced
  | some source =>
    refine .branch (fun _ => .text traced) fun _ => ?_
    unfold convertNumeric
    cases context.language with
    | openCl => exact .text ((traced.before _).after _)
    | fortran => exact .text (((traced.before _).after _).after _ |>.after _)
    | cuda => exact .branch (fun _ => .fail _) fun _ => .text ((traced.before _).after _)
    | c =>
      cases source.isVector <;> cases target.isVector
      · exact .text ((traced.before _).after _)
      · exact .fail _
      · exact .fail _
      · cases context.catalog.conversionPath source.toSignature target.toSignature
            context.architecture context.search with
        | error fault => exact .fail fault
        | ok instructions => exact .text (traced.nest instructions)

/-- A splat wraps its value. -/
theorem splatText_uniform (traced : Traced positions text) (type : NumericType) :
    Uniform positions fun texts => splatText context (text texts) type := by
  refine .branch (fun _ => .text ((traced.before _).after _)) fun _ => ?_
  exact .bind_fixed fun instruction _ => .text ((traced.before _).after _)

/-- A broadcast converts its value or wraps it. -/
theorem broadcastText_uniform (traced : Traced positions text) (value : Operand) (type : NumericType) :
    Uniform positions fun texts => broadcastText context (value.withText (text texts)) type := by
  simp only [broadcastText, Operand.withText_numeric?, Operand.withText_text]
  refine .branch (fun _ => ?_) fun _ => .text traced
  cases value.numeric? with
  | none => exact .text traced
  | some source =>
    exact .branch (fun _ => convert_uniform context traced value type)
      fun _ => splatText_uniform context traced type

/-- Coercion converts or broadcasts, and so writes its value once. -/
theorem coerce_uniform (traced : Traced positions text) (value : Operand) (type : NumericType) :
    Uniform positions fun texts => coerce context (value.withText (text texts)) type := by
  simp only [coerce, Operand.withText_numeric?, Operand.withText_text]
  cases value.numeric? with
  | none => exact .text traced
  | some held =>
    exact .branch (fun _ => broadcastText_uniform context traced value type)
      fun _ => convert_uniform context traced value type

/-- An operation on lanes writes both of its operands once. -/
theorem vectorText_uniform (left right : Operand) (leftTraced : Traced positions text)
    (rightTraced : Traced others other) (operation : Intrinsic) (type : NumericType) :
    Uniform (positions ++ others) fun texts =>
      vectorText context operation (left.withText (text texts)) (right.withText (other texts)) type := by
  refine .bind_fixed fun instruction _ => ?_
  refine .bind (coerce_uniform context leftTraced left type) fun _ a aTraced => ?_
  refine .bind (coerce_uniform context rightTraced right type) fun _ b bTraced => ?_
  exact .text ((((aTraced.before _).after _).append bTraced).after _)

/-- Whether a move is aligned is not a matter of texts. -/
theorem isAligned_withText (storage : Operand) (text : String) (type : NumericType) :
    isAligned (storage.withText text) type = isAligned storage type := by
  rw [isAligned, isAligned, Operand.withText_alignment]

/-- A load from memory writes the address of its source once. -/
theorem memoryLoadText_uniform (traced : Traced positions text) (source : Operand) (type : NumericType) :
    Uniform positions fun texts => memoryLoadText context (source.withText (text texts)) type := by
  simp only [memoryLoadText, isAligned_withText]
  refine .branch (fun _ => .text ((traced.pointer.before _).after _)) fun _ => ?_
  refine .bind_fixed fun instruction _ => ?_
  cases context.architecture = .x86 && !type.kind.isFloat
  · exact .text ((traced.pointer.before _).after _)
  · exact .text ((traced.pointer.before _).after _)

/-- A load writes its source once, from memory or not. -/
theorem loadText_uniform (traced : Traced positions text) (source : Operand) (type : NumericType) :
    Uniform positions fun texts => loadText context (source.withText (text texts)) type := by
  simp only [loadText, Operand.withText_numeric?, Operand.withText_text, Operand.withText_literal]
  refine .branch (fun _ => ?_) fun _ => .text traced
  cases source.numeric? with
  | none => exact .text traced
  | some held =>
    dsimp only
    refine .branch (fun _ => .text traced) fun _ => ?_
    refine .branch (fun _ => convert_uniform context traced source type) fun _ => ?_
    refine .branch (fun _ => broadcastText_uniform context traced source type) fun _ => ?_
    refine .branch (fun _ => .text ((traced.pointer.before _).after _)) fun _ => ?_
    exact memoryLoadText_uniform context traced source type

/-- A store to memory writes the address and the value once. -/
theorem memoryStoreText_uniform (destination : Operand) (destinationTraced : Traced positions text)
    (valueTraced : Traced others other) (type : NumericType) :
    Uniform (positions ++ others) fun texts =>
      memoryStoreText context (destination.withText (text texts)) (other texts) type := by
  simp only [memoryStoreText, isAligned_withText]
  have pointed := destinationTraced.pointer
  refine .branch (fun _ => ?_) fun _ => .branch (fun _ => ?_) fun _ => ?_
  · refine .perm (.text ?_) List.perm_append_comm
    exact (((valueTraced.before _).after _).append pointed).after _
  · exact .text ((((pointed.before _).after _).append valueTraced).after _)
  · refine .bind_fixed fun instruction _ => ?_
    exact .text ((((pointed.before _).after _).append valueTraced).after _)

/-- The plain text of an operator between two sides has both of them once. A
unary operator would drop the left one. -/
theorem render_traced (leftTraced : Traced positions text) (rightTraced : Traced others other)
    {operator : Operator} (notUnary : operator.isUnary = false) (language : Language) :
    Traced (positions ++ others) fun texts =>
      operator.render (some (text texts)) (some (other texts)) language := by
  have spaced (token : String) : Traced (positions ++ others)
      fun texts => text texts ++ " " ++ token ++ " " ++ other texts :=
    (((leftTraced.after _).after _).after _).append rightTraced
  have grouped (token : String) : Traced (positions ++ others)
      fun texts => "(" ++ text texts ++ ") " ++ token ++ " (" ++ other texts ++ ")" :=
    (((((leftTraced.before _).after _).after _).after _).append rightTraced).after _
  cases operator with
  | add => exact (leftTraced.after _).append rightTraced
  | sub => exact ((leftTraced.after _).append rightTraced).after _
  | mul => exact grouped _
  | div => exact grouped _
  | and => exact grouped _
  | or => exact grouped _
  | assign => exact spaced _
  | eq => exact spaced _
  | ne => exact spaced _
  | lt => exact spaced _
  | le => exact spaced _
  | gt => exact spaced _
  | ge => exact spaced _
  | select => exact (leftTraced.after _).append rightTraced
  | index =>
    simp only [Operator.render]
    split
    · exact ((leftTraced.after _).append rightTraced).after _
    · exact ((leftTraced.after _).append rightTraced).after _
  | neg | plus | not | addressOf | deref | ret => cases notUnary

section Pairs

variable (left right : Operand) (leftTraced : Traced positions text) (rightTraced : Traced others other)

include leftTraced rightTraced

/-- A store writes both of its sides once, the value after it was loaded. -/
theorem storeText_uniform :
    Uniform (positions ++ others) fun texts =>
      storeText context (left.withText (text texts)) (right.withText (other texts)) := by
  have plain : Traced (positions ++ others) fun texts =>
      Operator.assign.render (some (text texts)) (some (other texts)) context.language :=
    render_traced leftTraced rightTraced rfl context.language
  simp only [storeText, Operand.withText_numeric?, Operand.withText_text]
  cases context.language.movesVectors with
  | false => exact .text plain
  | true =>
    cases right.numeric? with
    | none => exact .text plain
    | some type =>
      refine .branch (fun _ => ?_) fun _ => .text plain
      exact memoryStoreText_uniform context left leftTraced rightTraced type

/-- An assignment to something that is no vector writes both of its sides once. -/
theorem scalarAssignText_uniform :
    Uniform (positions ++ others) fun texts =>
      scalarAssignText context (left.withText (text texts)) (right.withText (other texts)) := by
  simp only [scalarAssignText, Operand.withText_isVector]
  refine .branch (fun _ => ?_) fun _ => ?_
  · exact storeText_uniform context left right leftTraced rightTraced
  · exact .text (render_traced leftTraced rightTraced rfl context.language)

/-- An assignment writes both of its sides once, whichever of them is the vector. -/
theorem assignText_uniform :
    Uniform (positions ++ others) fun texts =>
      assignText context (left.withText (text texts)) (right.withText (other texts)) := by
  simp only [assignText, Operand.withText_numeric?, Operand.withText_text]
  cases left.numeric? with
  | none => exact scalarAssignText_uniform context left right leftTraced rightTraced
  | some type =>
    refine .branch (fun _ => ?_) fun _ => ?_
    · refine .bind (loadText_uniform context rightTraced right type) fun _ value valueTraced => ?_
      exact .text ((leftTraced.after _).append valueTraced)
    · exact scalarAssignText_uniform context left right leftTraced rightTraced

/-- Every operator between two sides writes both of them once. -/
theorem binaryText_uniform {operator : Operator} (notUnary : operator.isUnary = false)
    (type : DataType) :
    Uniform (positions ++ others) fun texts =>
      binaryText context operator (left.withText (text texts)) (right.withText (other texts)) type := by
  have plain : Traced (positions ++ others) fun texts =>
      operator.render (some (text texts)) (some (other texts)) context.language :=
    render_traced leftTraced rightTraced notUnary context.language
  simp only [binaryText, Operand.withText_text]
  refine .branch (fun _ => assignText_uniform context left right leftTraced rightTraced) fun _ => ?_
  cases operator.intrinsic? with
  | none => exact .text plain
  | some operation =>
    cases type with
    | handle name => exact .text plain
    | numeric type =>
      refine .branch (fun _ => ?_) fun _ => .text plain
      exact vectorText_uniform context left right leftTraced rightTraced operation type

/-- Without rules an operator keeps its place, so both operands stay. -/
theorem binary_uniform (builtin : context.rules = .empty) {operator : Operator}
    (notUnary : operator.isUnary = false) :
    Uniform (positions ++ others) fun texts =>
      binary context operator (left.withText (text texts)) (right.withText (other texts)) := by
  simp only [binary, builtin, Operand.withText_type]
  refine .bind_fixed fun outcome found => ?_
  obtain ⟨type, -, rfl⟩ := map_eq_ok.mp found
  refine .bind (binaryText_uniform context left right leftTraced rightTraced notUnary type) ?_
  intro _ result resultTraced
  exact .ok resultTraced (Operand.computed "" type)

end Pairs

/-- An operand is written once on its way into a fused instruction. -/
theorem fusedOperand_uniform (traced : Traced positions text) (value : Operand) (type : DataType) :
    Uniform positions fun texts => fusedOperand context type (value.withText (text texts)) := by
  cases type with
  | numeric type => exact coerce_uniform context traced value type
  | handle name => exact .text traced

section Triples

variable (a b c : Operand) (aTraced : Traced positions text) (bTraced : Traced others other)
  (cTraced : Traced thirds third)

include aTraced bTraced cTraced

/-- A product and then a sum write their three operands once. -/
theorem separate_uniform (builtin : context.rules = .empty) :
    Uniform (positions ++ others ++ thirds) fun texts =>
      separate context (a.withText (text texts)) (b.withText (other texts))
        (c.withText (third texts)) := by
  refine .bind (binary_uniform context a b aTraced bTraced builtin rfl) fun product value traced => ?_
  exact (binary_uniform context c product cTraced traced builtin rfl).perm List.perm_append_comm

/-- Three operands brought to one type, each used once by what follows. -/
theorem fusedOperands_uniform (type : DataType)
    {next : String → String → String → (Nat → String) → Except Fault Operand}
    (rest : ∀ x y z, Traced positions x → Traced others y → Traced thirds z →
      Uniform (positions ++ others ++ thirds) fun texts => next (x texts) (y texts) (z texts) texts) :
    Uniform (positions ++ others ++ thirds) (fun texts => do
      let x ← fusedOperand context type (a.withText (text texts))
      let y ← fusedOperand context type (b.withText (other texts))
      let z ← fusedOperand context type (c.withText (third texts))
      next x y z texts) := by
  refine .bind (fusedOperand_uniform context aTraced a type) fun _ x xTraced => ?_
  refine .bind (fusedOperand_uniform context bTraced b type) fun _ y yTraced => ?_
  refine .bind (fusedOperand_uniform context cTraced c type) fun _ z zTraced => ?_
  exact rest x y z xTraced yTraced zTraced

/-- A fused operation writes its three operands once, by one instruction or by two. -/
theorem fused_uniform (builtin : context.rules = .empty) :
    Uniform (positions ++ others ++ thirds) fun texts =>
      fused context (a.withText (text texts)) (b.withText (other texts)) (c.withText (third texts)) := by
  have split := separate_uniform context a b c aTraced bTraced cTraced builtin
  simp only [fused, Operand.withText_type, bind_assoc, pure_bind]
  cases context.language with
  | fortran => exact split
  | openCl | cuda =>
    refine fusedOperands_uniform context a b c aTraced bTraced cTraced c.type
      fun x y z xTraced yTraced zTraced => ?_
    exact .ok ((((((xTraced.before _).after _).append yTraced).after _).append zTraced).after _)
      (Operand.computed "" c.type)
  | c =>
    cases fusedInstruction? context c.type with
    | none => exact split
    | some instruction =>
      refine fusedOperands_uniform context a b c aTraced bTraced cTraced c.type
        fun x y z xTraced yTraced zTraced => ?_
      cases context.architecture with
      | x86 =>
        exact .ok ((((((xTraced.before _).after _).append yTraced).after _).append zTraced).after _)
          (Operand.computed "" c.type)
      | arm =>
        -- The third operand is written first.
        refine .perm (.ok ?_ (Operand.computed "" c.type)) List.perm_append_comm
        rw [← List.append_assoc]
        exact (((((zTraced.before _).after _).append xTraced).after _).append yTraced).after _
      | generic | mppa =>
        refine .bind (binary_uniform context a b aTraced bTraced builtin rfl)
          fun product value traced => ?_
        exact binary_uniform context product c traced cTraced builtin rfl

end Triples

section Lanes

variable {parts : List (List Nat)} {lanes : List ((Nat → String) → String)}

/-- A vector that is built writes each of its lanes once, as one list or by insertions. -/
theorem buildText_uniform (traced : TracedAll parts lanes) (type : NumericType) :
    Uniform parts.flatten fun texts => buildText context (lanes.map (· texts)) type := by
  unfold buildText
  cases context.instruction? .build type with
  | some instruction => exact .text (((traced.join ", ").before _).after _)
  | none =>
    refine .bind_fixed fun instruction _ => .bind_fixed fun zeros _ => ?_
    exact .text (traced.insertLanes instruction 0 (.chunk zeros))

/-- A vector of single lanes writes each of them once. -/
theorem ofLanes_uniform (traced : TracedAll parts lanes) (type : NumericType) :
    Uniform parts.flatten fun texts => ofLanes context (lanes.map (· texts)) type := by
  refine .computed ?_ type
  simp only [laneListText, List.length_map]
  refine .branch (fun _ => ?_) fun _ => .fail _
  cases context.language with
  | openCl => exact .text (((traced.join ", ").before _).after _)
  | c => exact buildText_uniform context traced type
  | cuda | fortran => exact .fail _

end Lanes

/-- A masked load writes its source once. The mask is no text of a leaf. -/
theorem maskedLoad_uniform (traced : Traced positions text) (source : Operand) (mask : List Bool)
    (type : NumericType) :
    Uniform positions fun texts => maskedLoad context (source.withText (text texts)) mask type := by
  refine .computed ?_ type
  refine .bind_fixed fun _ _ => .bind_fixed fun instruction _ => .bind_fixed fun flags _ => ?_
  exact .text (((traced.pointer.before _).after _).after _ |>.after _)

/-- A masked store writes its destination and its value once. -/
theorem maskedStore_uniform (destination source : Operand) (destinationTraced : Traced positions text)
    (sourceTraced : Traced others other) (mask : List Bool) (type : NumericType) :
    Uniform (positions ++ others) fun texts =>
      maskedStore context (destination.withText (text texts)) (source.withText (other texts)) mask
        type := by
  refine .computed ?_ type
  refine .bind_fixed fun _ _ => .bind_fixed fun instruction _ => .bind_fixed fun flags _ => ?_
  refine .bind (convert_uniform context sourceTraced source type) fun _ value valueTraced => ?_
  exact .text
    ((((destinationTraced.pointer.before _).after _).after _ |>.after _).append valueTraced |>.after _)

end Lowering

end VectorKernel
