import VectorKernel.Proofs.Listings
import VectorKernel.Proofs.Masked.Access

/-!
# Masked access with the standard catalog

Only x86 has built-in instructions for masked access. They take masks of integers of the
width of the elements, which x86 can make with a constructor only: it has no instruction
that inserts a lane. There is such a constructor for every built-in masked instruction but
those on two lanes of 64 bits, which can therefore not be used at all.
-/

namespace VectorKernel

namespace Catalog

/-- The instructions that the standard catalog has. -/
def standardKeys : List Key :=
  (X86.rows ++ Neon.rows).map Prod.fst

/-- The standard catalog has the instructions that its tables list. -/
theorem isSome_lookup_standard {operation : Intrinsic} {architecture : Architecture} {signature : Signature} :
    (standard.lookup operation architecture signature).isSome ↔
      ⟨operation, architecture, signature⟩ ∈ standardKeys := by
  have built : standard = empty.withRows (X86.rows ++ Neon.rows) (X86.conversions ++ Neon.conversions) :=
    Origin.standard.catalog_eq
  rw [built, lookup, withRows, empty, Table.isSome_find?_insertRows_empty, standardKeys]

/-- Masked access is for vectors on x86. The mask has a constructor in all cases but one. -/
theorem masked_standardKeys :
    ∀ key ∈ standardKeys, key.operation ∈ [Intrinsic.maskedLoad, .maskedStore] →
      key.architecture = .x86 ∧ 1 < key.signature.lanes ∧
        (⟨.build, .x86, ⟨.signed, key.signature.width, key.signature.lanes⟩⟩ ∈ standardKeys ↔
          ¬ (key.signature.width = 64 ∧ key.signature.lanes = 2)) := by
  decide +kernel

/-- Lanes are inserted on ARM only. -/
theorem insertLane_standardKeys :
    ∀ key ∈ standardKeys, key.operation = .insertLane → key.architecture = .arm := by
  decide +kernel

end Catalog

namespace Lowering

open Catalog

variable {context : Context} {type : NumericType} {operation : Intrinsic} {mask : List Bool}

/-- With the standard catalog, instructions are found by a list of keys. -/
theorem isSome_instruction_standard (builtin : context.catalog = .standard) :
    (context.instruction? operation type).isSome ↔
      ⟨operation, context.architecture, type.toSignature⟩ ∈ standardKeys := by
  rw [Context.instruction?, builtin, isSome_lookup_standard]

/-- No instruction inserts lanes on x86. -/
theorem no_insertLane_standard (builtin : context.catalog = .standard)
    (onX86 : context.architecture = .x86) : context.instruction? .insertLane type = none := by
  rw [← Option.not_isSome_iff_eq_none, isSome_instruction_standard builtin, onX86]
  intro member
  cases insertLane_standardKeys _ member rfl

/-- The built-in masked instructions, with what the masks they take can be made by. -/
theorem masked_standard (builtin : context.catalog = .standard)
    (masked : operation ∈ [Intrinsic.maskedLoad, .maskedStore])
    (named : (context.instruction? operation type).isSome) :
    context.architecture = .x86 ∧ type.isVector = true ∧
      ((context.instruction? .build (maskType type)).isSome ↔ ¬ (type.width = 64 ∧ type.lanes = 2)) := by
  have member := (isSome_instruction_standard builtin).mp named
  obtain ⟨onX86, several, constructor⟩ := masked_standardKeys _ member masked
  have onX86 : context.architecture = .x86 := onX86
  refine ⟨onX86, decide_eq_true several, ?_⟩
  rw [isSome_instruction_standard builtin, onX86]
  exact constructor

/-- With the standard catalog a masked access in C fails exactly on two lanes of 64 bits, if
it has an instruction and a complete mask. -/
theorem maskedText_standard {finish : (instruction flags : String) → Except Fault String}
    (isC : context.language = .c) (builtin : context.catalog = .standard)
    (masked : operation ∈ [Intrinsic.maskedLoad, .maskedStore])
    (named : (context.instruction? operation type).isSome) (complete : mask.length = type.lanes)
    (finishes : ∀ instruction flags, ∃ text, finish instruction flags = .ok text) :
    if type.width = 64 ∧ type.lanes = 2 then
      maskedText context operation mask type finish =
        .error (.noInstruction .insertLane ⟨.signed, 64, 2⟩ .x86)
    else ∃ text, maskedText context operation mask type finish = .ok text := by
  obtain ⟨onX86, isVector, constructor⟩ := masked_standard builtin masked named
  split
  · next pair =>
    have noBuild : context.instruction? .build (maskType type) = none :=
      Option.not_isSome_iff_eq_none.mp fun builds => constructor.mp builds pair
    have noInsert : context.instruction? .insertLane (maskType type) = none :=
      no_insertLane_standard builtin onX86
    have signature : (maskType type).toSignature = ⟨.signed, 64, 2⟩ := by
      change (⟨.signed, type.width, type.lanes⟩ : Signature) = _
      rw [pair.1, pair.2]
    obtain ⟨instruction, isNamed⟩ := Option.isSome_iff_exists.mp named
    rw [maskedText_of_named complete isC isNamed, buildText_of_neither noBuild noInsert, signature, onX86]
    rfl
  · next notPair =>
    refine (maskedText_isOk_iff isVector fun instruction flags =>
      iff_of_true (finishes instruction flags) trivial).mpr ?_
    exact ⟨complete, isC, named, .inl (constructor.mpr notPair), trivial⟩

/-- Every masked load with an instruction of its own can be written, unless its mask would have two
lanes of 64 bits. -/
theorem maskedLoad_standard {source : Operand} (isC : context.language = .c)
    (builtin : context.catalog = .standard) (named : (context.instruction? .maskedLoad type).isSome)
    (complete : mask.length = type.lanes) :
    if type.width = 64 ∧ type.lanes = 2 then
      maskedLoad context source mask type = .error (.noInstruction .insertLane ⟨.signed, 64, 2⟩ .x86)
    else ∃ operand, maskedLoad context source mask type = .ok operand := by
  rw [maskedLoad, map_eq_error, map_isOk_iff, maskedLoadText_eq]
  exact maskedText_standard isC builtin (by decide) named complete fun instruction flags => ⟨_, rfl⟩

/-- Every masked store of a value of its own type can be written, unless its mask would have two
lanes of 64 bits. -/
theorem maskedStore_standard {destination source : Operand} (isC : context.language = .c)
    (builtin : context.catalog = .standard) (named : (context.instruction? .maskedStore type).isSome)
    (complete : mask.length = type.lanes) (typed : source.type = .numeric type) :
    if type.width = 64 ∧ type.lanes = 2 then
      maskedStore context destination source mask type =
        .error (.noInstruction .insertLane ⟨.signed, 64, 2⟩ .x86)
    else ∃ operand, maskedStore context destination source mask type = .ok operand := by
  have unchanged : convert context source type = .ok source.text := by
    rw [convert, Operand.numeric?, typed]
    exact if_pos rfl
  rw [maskedStore, map_eq_error, map_isOk_iff, maskedStoreText_eq, unchanged]
  exact maskedText_standard isC builtin (by decide) named complete fun instruction flags => ⟨_, rfl⟩

/-- With the standard catalog in C, a masked load or store that has an instruction and a flag
for each lane succeeds, whatever its operands, unless it is on two lanes of 64 bits. On
these it always fails, for want of an instruction that inserts lanes into the mask. -/
theorem maskedAccess_standard (isC : context.language = .c) (builtin : context.catalog = .standard)
    (complete : mask.length = type.lanes) :
    ((context.instruction? .maskedLoad type).isSome → ∀ source,
      if type.width = 64 ∧ type.lanes = 2 then
        maskedLoad context source mask type = .error (.noInstruction .insertLane ⟨.signed, 64, 2⟩ .x86)
      else ∃ operand, maskedLoad context source mask type = .ok operand) ∧
    ((context.instruction? .maskedStore type).isSome → ∀ destination source, source.type = .numeric type →
      if type.width = 64 ∧ type.lanes = 2 then
        maskedStore context destination source mask type =
          .error (.noInstruction .insertLane ⟨.signed, 64, 2⟩ .x86)
      else ∃ operand, maskedStore context destination source mask type = .ok operand) :=
  ⟨fun named _ => maskedLoad_standard isC builtin named complete,
    fun named _ _ typed => maskedStore_standard isC builtin named complete typed⟩

/-- C on x86 with the standard catalog. -/
def standardX86 : Context where
  target := ⟨.c, .x86⟩

/-- The standard instructions for x86 are found by the same list. -/
theorem isSome_instruction_standardX86 {operation : Intrinsic} {type : NumericType} :
    (standardX86.instruction? operation type).isSome ↔ ⟨operation, .x86, type.toSignature⟩ ∈ standardKeys :=
  isSome_instruction_standard (by rw [standardX86])

/-- A masked store of four doubles succeeds and one of two fails, though both have an
instruction. -/
theorem doubles_maskedStore_standard :
    let pair := (NumericType.float 64).vector 2
    let quad := (NumericType.float 64).vector 4
    let pointed := Operand.named "p" (NumericType.float 64)
    ((standardX86.instruction? .maskedStore quad).isSome ∧
      ∃ operand, maskedStore standardX86 pointed (.named "v" quad) [true, false, false, true] quad =
        .ok operand) ∧
    (standardX86.instruction? .maskedStore pair).isSome ∧
      maskedStore standardX86 pointed (.named "v" pair) [true, false] pair =
        .error (.noInstruction .insertLane ⟨.signed, 64, 2⟩ .x86) := by
  intro pair quad pointed
  have quadNamed : (standardX86.instruction? .maskedStore quad).isSome :=
    isSome_instruction_standardX86.mpr (by decide +kernel)
  have pairNamed : (standardX86.instruction? .maskedStore pair).isSome :=
    isSome_instruction_standardX86.mpr (by decide +kernel)
  have isC : standardX86.language = .c := rfl
  have quads : [true, false, false, true].length = quad.lanes := rfl
  have pairs : [true, false].length = pair.lanes := rfl
  obtain ⟨-, quadStores⟩ := maskedAccess_standard isC rfl quads
  obtain ⟨-, pairStores⟩ := maskedAccess_standard isC rfl pairs
  exact ⟨⟨quadNamed, quadStores quadNamed pointed (.named "v" quad) rfl⟩,
    pairNamed, pairStores pairNamed pointed (.named "v" pair) rfl⟩

/-- The standard catalog has an instruction that loads two doubles under a mask, and yet
such a load fails. -/
theorem doublePair_mask_unbuildable :
    let pair := (NumericType.float 64).vector 2
    (standardX86.instruction? .maskedLoad pair).isSome ∧ [true, false].length = pair.lanes ∧
      maskedLoad standardX86 (.named "p" (NumericType.float 64)) [true, false] pair =
        .error (.noInstruction .insertLane ⟨.signed, 64, 2⟩ .x86) := by
  intro pair
  have named : (standardX86.instruction? .maskedLoad pair).isSome :=
    isSome_instruction_standardX86.mpr (by decide +kernel)
  have isC : standardX86.language = .c := rfl
  exact ⟨named, rfl, maskedLoad_standard isC rfl named rfl⟩

end Lowering

end VectorKernel
