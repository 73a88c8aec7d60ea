import VectorKernel.Lowering.Masked
import VectorKernel.Proofs.Lanes.Insertion
import VectorKernel.Proofs.ShortestChain

/-!
# Masked access

Masked loads and stores check the mask, the language and the instruction, in this order,
and then build the mask as a vector of integers. `maskedText_cases` says all that their
common part can do; which fault is reported follows from it for both. The mask is built
from one flag per lane, in any of the two ways in which C makes vectors, and can be read
back from its text.
-/

namespace VectorKernel.Lowering

open Lanes Lanes.Construction

variable {context : Context} {type : NumericType} {lanes : List String} {mask : List Bool} {fault : Fault}

section Construction

/-- A vector of zeros is a splat, for which there is an instruction or not. -/
theorem zeros_eq (isC : context.language = .c) (isVector : type.isVector = true) :
    broadcastText context (.computed "0" type.scalar) type =
      (context.instruction .broadcast type).map fun splatter => (splat splatter "0").print := by
  have scalar : broadcastText context (.computed "0" type.scalar) type = splatText context "0" type := by
    rw [broadcastText, isC, isVector]
    rfl
  rw [scalar, splatText, isC, if_neg (by decide)]
  cases context.instruction .broadcast type <;> rfl

/-- Zeros are missing only where the instruction that puts a scalar into every lane is. -/
theorem fault_of_zeros (isC : context.language = .c)
    (failed : broadcastText context (.computed "0" type.scalar) type = .error fault) :
    fault = .noInstruction .broadcast type.toSignature context.architecture := by
  cases isVector : type.isVector with
  | false => simp [broadcastText, isVector] at failed
  | true =>
    rw [zeros_eq isC isVector, map_eq_error] at failed
    exact (Context.instruction_eq_error.mp failed).2

/-- C can make vectors of a type from scalars: with a constructor, or by inserting them
into zeros. -/
def Constructible (context : Context) (type : NumericType) : Prop :=
  (context.instruction? .build type).isSome ∨
    (context.instruction? .insertLane type).isSome ∧ (context.instruction? .broadcast type).isSome

/-- Without instructions to build a vector or to insert a lane, the lane is what is missed. -/
theorem buildText_of_neither (noBuild : context.instruction? .build type = none)
    (noInsert : context.instruction? .insertLane type = none) :
    buildText context lanes type =
      .error (.noInstruction .insertLane type.toSignature context.architecture) := by
  rw [buildText, noBuild, Context.instruction_eq_error.mpr ⟨noInsert, rfl⟩]
  rfl

/-- The two ways in which C makes a vector of scalars. -/
inductive Assembles (lanes : List String) : Construction → Prop where
  | build (constructor : String) : Assembles lanes (.build constructor lanes)
  | insertion (inserter splatter : String) :
    Assembles lanes (insertAll inserter 0 (.splat splatter "0") lanes)

/-- A construction of complete lanes has just these lanes. -/
theorem Assembles.value {term : Construction} (assembles : Assembles lanes term)
    (complete : lanes.length = type.lanes) : term.value type.lanes = lanes := by
  cases assembles with
  | build constructor => rfl
  | insertion inserter splatter => exact value_insertAll_zeros inserter splatter complete

/-- All that making a C vector of scalars can lead to: the text of calls that make it, or a
fault. -/
theorem buildText_cases (isC : context.language = .c) (isVector : type.isVector = true)
    (lanes : List String) :
    (Constructible context type ∧ ∃ term, term.Known context type ∧ Assembles lanes term ∧
      buildText context lanes type = .ok term.print) ∨
    (¬ Constructible context type ∧ ∃ fault, buildText context lanes type = .error fault) := by
  cases builds : context.instruction? .build type with
  | some constructor =>
    have known : (build constructor lanes).Known context type := builds
    exact .inl ⟨.inl (by simp [builds]), _, known, .build constructor, buildText_of_build builds⟩
  | none =>
    cases inserts : context.instruction? .insertLane type with
    | none =>
      exact .inr ⟨by simp [Constructible, builds, inserts], _, buildText_of_neither builds inserts⟩
    | some inserter =>
      cases splats : context.instruction? .broadcast type with
      | some splatter =>
        have zeros : (splat splatter "0").Known context type := splats
        exact .inl ⟨.inr (by simp [inserts, splats]), _, known_insertAll inserts zeros,
          .insertion inserter splatter, buildText_of_insertion isC isVector builds inserts splats⟩
      | none =>
        refine .inr ⟨by simp [Constructible, builds, splats], ?_⟩
        rw [buildText, builds, Context.instruction_eq_ok.mpr inserts, zeros_eq isC isVector,
          Context.instruction_eq_error.mpr ⟨splats, rfl⟩]
        exact ⟨_, rfl⟩

/-- A vector can be written lane by lane exactly if it is constructible. Which lanes it has does not
matter. -/
theorem buildText_isOk_iff (isC : context.language = .c) (isVector : type.isVector = true) :
    (∃ text, buildText context lanes type = .ok text) ↔ Constructible context type := by
  rcases buildText_cases isC isVector lanes with
    ⟨constructible, term, -, -, built⟩ | ⟨unconstructible, fault, failed⟩
  · exact iff_of_true ⟨_, built⟩ constructible
  · exact iff_of_false (fun ⟨_, built⟩ => nomatch failed.symm.trans built) unconstructible

end Construction

section Flags

/-- The flag in front of a text can be told from the text. -/
theorem eq_of_flagText_append {flag other : Bool} {rest behind : String}
    (same : flagText flag ++ rest = flagText other ++ behind) : flag = other ∧ rest = behind := by
  have chars := congrArg String.toList same
  rw [String.toList_append, String.toList_append] at chars
  cases flag <;> cases other <;> simp_all [flagText]

/-- A separator stands in front of all texts but the first. -/
theorem join_cons (separator first : String) (rest : List String) :
    Text.join separator (first :: rest) =
      first ++ if rest = [] then "" else separator ++ Text.join separator rest := by
  cases rest with
  | nil => simp [Text.join]
  | cons second rest => simp [Text.join, String.append_assoc]

/-- A mask is determined by the list of its flags. -/
theorem eq_of_join_flags {other : List Bool} (count : mask.length = other.length)
    (same : Text.join ", " (mask.map flagText) = Text.join ", " (other.map flagText)) : mask = other := by
  induction mask generalizing other with
  | nil => exact (List.length_eq_zero_iff.mp count.symm).symm
  | cons flag mask ih =>
    cases other with
    | nil => cases count
    | cons otherFlag other =>
      have rest : mask.length = other.length := Nat.succ.inj count
      rw [List.map_cons, List.map_cons, join_cons, join_cons] at same
      obtain ⟨rfl, same⟩ := eq_of_flagText_append same
      by_cases last : mask = []
      · subst last
        rw [List.length_eq_zero_iff.mp rest.symm]
      · have otherNotLast : other ≠ [] := fun otherLast => last (by simpa [otherLast] using rest)
        simp only [List.map_eq_nil_iff, last, otherNotLast, if_false, String.append_right_inj] at same
        rw [ih rest same]

/-- A mask is determined by the insertions of its flags, by induction on the lanes from the
outermost insertion inwards. -/
theorem eq_of_insertLanes_flags {instruction vector otherVector : String} {lane : Nat} {other : List Bool}
    (count : mask.length = other.length)
    (same : insertLanes instruction lane vector (mask.map flagText) =
      insertLanes instruction lane otherVector (other.map flagText)) :
    mask = other ∧ vector = otherVector := by
  induction mask generalizing other lane vector otherVector with
  | nil =>
    obtain rfl := List.length_eq_zero_iff.mp count.symm
    exact ⟨rfl, same⟩
  | cons flag mask ih =>
    cases other with
    | nil => cases count
    | cons otherFlag other =>
      -- The flags in front are compared as the vectors that the others are inserted into.
      obtain ⟨rfl, calls⟩ := ih (Nat.succ.inj count) same
      change instruction ++ "(" ++ flagText flag ++ ", " ++ vector ++ ", " ++ toString lane ++ ")" =
        instruction ++ "(" ++ flagText otherFlag ++ ", " ++ otherVector ++ ", " ++ toString lane ++ ")" at calls
      simp only [String.append_assoc, String.append_right_inj] at calls
      obtain ⟨rfl, arguments⟩ := eq_of_flagText_append calls
      exact ⟨rfl, by simpa using arguments⟩

/-- Flags can be read back from the text of the vector that is made of them. -/
theorem eq_of_buildText_flags {other : List Bool} {text : String} (count : mask.length = other.length)
    (success : buildText context (mask.map flagText) type = .ok text)
    (otherSuccess : buildText context (other.map flagText) type = .ok text) : mask = other := by
  rw [buildText] at success otherSuccess
  cases builds : context.instruction? .build type with
  | some constructor =>
    simp only [builds] at success otherSuccess
    have same := Except.ok.inj (success.trans otherSuccess.symm)
    change constructor ++ "( " ++ Text.join ", " (mask.map flagText) ++ " )" =
      constructor ++ "( " ++ Text.join ", " (other.map flagText) ++ " )" at same
    exact eq_of_join_flags count (by simpa using same)
  | none =>
    simp only [builds] at success otherSuccess
    obtain ⟨inserter, inserts, success⟩ := bind_eq_ok.mp success
    obtain ⟨zeros, zerosOk, success⟩ := bind_eq_ok.mp success
    obtain ⟨_, otherInserts, otherSuccess⟩ := bind_eq_ok.mp otherSuccess
    obtain ⟨_, otherZerosOk, otherSuccess⟩ := bind_eq_ok.mp otherSuccess
    obtain rfl := Except.ok.inj (inserts.symm.trans otherInserts)
    obtain rfl := Except.ok.inj (zerosOk.symm.trans otherZerosOk)
    exact (eq_of_insertLanes_flags count (Except.ok.inj (success.trans otherSuccess.symm))).1

end Flags

section Checks

/-- The part that masked loads and stores have in common. -/
def maskedText (context : Context) (operation : Intrinsic) (mask : List Bool) (type : NumericType)
    (finish : (instruction flags : String) → Except Fault String) : Except Fault String := do
  checkMask context mask type
  let instruction ← context.instruction operation type
  let flags ← maskText context mask type
  finish instruction flags

/-- The text of a masked load, from its instruction and the text of its mask. -/
def maskedLoadCall (context : Context) (source : Operand) (type : NumericType)
    (instruction flags : String) : String :=
  s!"{instruction}(({context.spelling type.scalar} * ){source.address}, {flags})"

/-- A masked load is a masked access that ends in a call. -/
theorem maskedLoadText_eq (context : Context) (source : Operand) (mask : List Bool) (type : NumericType) :
    maskedLoadText context source mask type =
      maskedText context .maskedLoad mask type fun instruction flags =>
        .ok (maskedLoadCall context source type instruction flags) := rfl

/-- The text of a masked store, from its instruction and the texts of its mask and value. -/
def maskedStoreCall (context : Context) (destination : Operand) (type : NumericType)
    (instruction flags value : String) : String :=
  s!"{instruction}(({context.spelling type.scalar} * ){destination.address}, {flags}, {value})"

/-- A masked store is a masked access that converts its value before the call. -/
theorem maskedStoreText_eq (context : Context) (destination source : Operand) (mask : List Bool)
    (type : NumericType) :
    maskedStoreText context destination source mask type =
      maskedText context .maskedStore mask type fun instruction flags =>
        (convert context source type).map (maskedStoreCall context destination type instruction flags) := rfl

/-- In C, a complete mask is built as a vector of flags. -/
theorem maskText_eq (isC : context.language = .c) (complete : mask.length = type.lanes) :
    maskText context mask type = buildText context (mask.map flagText) (maskType type) := by
  have complete : (mask.map flagText).length = (maskType type).lanes := (List.length_map _).trans complete
  rw [maskText, laneListText, if_pos complete, isC]

variable {operation : Intrinsic} {finish : (instruction flags : String) → Except Fault String}

/-- What comes behind the checks: the flags as lanes, and then what is left to do. -/
theorem maskedText_of_named (complete : mask.length = type.lanes) (isC : context.language = .c)
    {instruction : String} (named : context.instruction? operation type = some instruction) :
    maskedText context operation mask type finish =
      (buildText context (mask.map flagText) (maskType type) >>= finish instruction) := by
  rw [maskedText, checkMask, if_neg (not_not.mpr complete), if_neg (not_not.mpr isC),
    maskText_eq isC complete, Context.instruction_eq_ok.mpr named]
  rfl

/-- All that the common part of masked loads and stores can do. -/
theorem maskedText_cases (context : Context) (operation : Intrinsic) (mask : List Bool) (type : NumericType)
    (finish : (instruction flags : String) → Except Fault String) :
    (mask.length ≠ type.lanes ∧
      maskedText context operation mask type finish = .error (.wrongCount .mask type.lanes mask.length)) ∨
    (mask.length = type.lanes ∧ context.language ≠ .c ∧
      maskedText context operation mask type finish = .error (.noFeature .maskedAccess context.language)) ∨
    (mask.length = type.lanes ∧ context.language = .c ∧ context.instruction? operation type = none ∧
      maskedText context operation mask type finish =
        .error (.noInstruction operation type.toSignature context.architecture)) ∨
    (mask.length = type.lanes ∧ context.language = .c ∧
      ∃ instruction, context.instruction? operation type = some instruction ∧
        maskedText context operation mask type finish =
          (buildText context (mask.map flagText) (maskType type) >>= finish instruction)) := by
  by_cases complete : mask.length = type.lanes
  · by_cases isC : context.language = .c
    · cases named : context.instruction? operation type with
      | none =>
        refine .inr (.inr (.inl ⟨complete, isC, rfl, ?_⟩))
        rw [maskedText, checkMask, if_neg (not_not.mpr complete), if_neg (not_not.mpr isC),
          Context.instruction_eq_error.mpr ⟨named, rfl⟩]
        rfl
      | some instruction =>
        exact .inr (.inr (.inr ⟨complete, isC, instruction, rfl, maskedText_of_named complete isC named⟩))
    · refine .inr (.inl ⟨complete, isC, ?_⟩)
      rw [maskedText, checkMask, if_neg (not_not.mpr complete), if_pos isC]
      rfl
  · refine .inl ⟨complete, ?_⟩
    rw [maskedText, checkMask, if_pos complete]
    rfl

/-- What a masked access needs, in the order in which it is asked for. -/
theorem maskedText_eq_ok {text : String} :
    maskedText context operation mask type finish = .ok text ↔
      mask.length = type.lanes ∧ context.language = .c ∧
        ∃ instruction, context.instruction? operation type = some instruction ∧
          ∃ flags, buildText context (mask.map flagText) (maskType type) = .ok flags ∧
            finish instruction flags = .ok text := by
  rcases maskedText_cases context operation mask type finish with
    ⟨wrong, result⟩ | ⟨-, notC, result⟩ | ⟨-, -, missing, result⟩ |
      ⟨complete, isC, instruction, named, result⟩
  · simp [result, wrong]
  · simp [result, notC]
  · simp [result, missing]
  · rw [result, bind_eq_ok]
    simp [complete, isC, named]

/-- Which fault a masked access has: a wrong number of flags comes before the language, and
the language before the instruction. -/
structure FaultOrder (context : Context) (operation : Intrinsic) (mask : List Bool) (type : NumericType)
    (result : Except Fault Operand) : Prop where
  count : ∀ list expected found, result = .error (.wrongCount list expected found) ↔
    mask.length ≠ type.lanes ∧ list = .mask ∧ expected = type.lanes ∧ found = mask.length
  language : ∀ feature language, result = .error (.noFeature feature language) ↔
    mask.length = type.lanes ∧ context.language ≠ .c ∧
      feature = .maskedAccess ∧ language = context.language
  instruction : ∀ signature architecture,
    result = .error (.noInstruction operation signature architecture) ↔
      mask.length = type.lanes ∧ context.language = .c ∧ context.instruction? operation type = none ∧
        signature = type.toSignature ∧ architecture = context.architecture

/-- The faults behind the checks: an instruction for the mask is missing, or the value to
store cannot be converted. -/
inductive LateFault : Fault → Prop where
  | insertLane (signature : Signature) (architecture : Architecture) :
    LateFault (.noInstruction .insertLane signature architecture)
  | broadcast (signature : Signature) (architecture : Architecture) :
    LateFault (.noInstruction .broadcast signature architecture)
  | noConversion (source target : Signature) (architecture : Architecture) :
    LateFault (.noConversion source target architecture)

/-- Building the mask fails by a missing instruction. -/
theorem lateFault_of_buildText (isC : context.language = .c)
    (failed : buildText context lanes type = .error fault) : LateFault fault := by
  rw [buildText] at failed
  cases builds : context.instruction? .build type with
  | some constructor => simp [builds] at failed
  | none =>
    simp only [builds] at failed
    rcases bind_eq_error.mp failed with missing | ⟨inserter, -, behind⟩
    · rw [(Context.instruction_eq_error.mp missing).2]
      exact .insertLane _ _
    · rcases bind_eq_error.mp behind with missing | ⟨_, _, absurd⟩
      · rw [fault_of_zeros isC missing]
        exact .broadcast _ _
      · cases absurd

/-- Converting the value fails by a missing instruction or conversion. -/
theorem lateFault_of_convert {value : Operand} (isC : context.language = .c)
    (failed : convert context value type = .error fault) : LateFault fault := by
  unfold convert at failed
  split at failed
  · cases failed
  · split at failed
    · cases failed
    · simp only [convertNumeric, isC] at failed
      split at failed
      · cases failed
      · rw [Catalog.fault_of_conversionPath (map_eq_error.mp failed)]
        exact .noConversion _ _ _
      · cases failed
        exact .noConversion _ _ _

/-- Masked accesses fail in one order: by the mask, by the language, by their own instruction, and
then by what follows. -/
theorem faultOrder_of_maskedText (own : operation ∉ [Intrinsic.insertLane, .broadcast])
    (late : context.language = .c →
      ∀ instruction flags fault, finish instruction flags = .error fault → LateFault fault) :
    FaultOrder context operation mask type
      ((maskedText context operation mask type finish).map (.computed · type)) := by
  obtain ⟨notInsert, notBroadcast⟩ : operation ≠ .insertLane ∧ operation ≠ .broadcast := by simpa using own
  rcases maskedText_cases context operation mask type finish with
    ⟨wrong, result⟩ | ⟨complete, notC, result⟩ | ⟨complete, isC, missing, result⟩ |
      ⟨complete, isC, instruction, named, result⟩
  · constructor <;> simp [result, Except.map, wrong, eq_comm]
  · constructor <;> simp [result, Except.map, complete, notC, eq_comm]
  · constructor <;> simp [result, Except.map, complete, isC, missing, eq_comm]
  · -- The checks have passed, and no fault behind them looks like one of theirs.
    have behind : ∀ fault, (maskedText context operation mask type finish).map
        (Operand.computed · type) = .error fault → LateFault fault := by
      intro fault failed
      rw [map_eq_error, result] at failed
      rcases bind_eq_error.mp failed with failed | ⟨flags, -, failed⟩
      · exact lateFault_of_buildText isC failed
      · exact late isC instruction flags fault failed
    constructor
    · intro list expected found
      refine ⟨fun failed => ?_, fun ⟨wrong, _⟩ => absurd complete wrong⟩
      cases behind _ failed
    · intro feature language
      refine ⟨fun failed => ?_, fun ⟨_, notC, _⟩ => absurd isC notC⟩
      cases behind _ failed
    · intro signature architecture
      refine ⟨fun failed => ?_, fun ⟨_, _, missing, _⟩ => absurd (named.symm.trans missing) nofun⟩
      cases behind _ failed with
      | insertLane => exact absurd rfl notInsert
      | broadcast => exact absurd rfl notBroadcast

/-- Nothing follows the mask of a load that could fail. -/
theorem faultOrder_maskedLoad (context : Context) (source : Operand) (mask : List Bool) (type : NumericType) :
    FaultOrder context .maskedLoad mask type (maskedLoad context source mask type) := by
  rw [maskedLoad, maskedLoadText_eq]
  exact faultOrder_of_maskedText (by decide) nofun

/-- Behind the mask of a store, its value may fail to be converted. -/
theorem faultOrder_maskedStore (context : Context) (destination source : Operand) (mask : List Bool)
    (type : NumericType) :
    FaultOrder context .maskedStore mask type (maskedStore context destination source mask type) := by
  rw [maskedStore, maskedStoreText_eq]
  exact faultOrder_of_maskedText (by decide) fun isC instruction flags fault failed =>
    lateFault_of_convert isC (map_eq_error.mp failed)

end Checks

section Encoding

/-- A construction that encodes a mask: a vector of signed integers of the width of the
elements, with -1 in the lanes whose flag is set and 0 in the others. -/
structure Encodes (context : Context) (mask : List Bool) (type : NumericType) (term : Construction) :
    Prop where
  known : term.Known context (maskType type)
  assembles : Assembles (mask.map flagText) term
  lanes : (term.value type.lanes).length = type.lanes
  flag : ∀ (lane : Nat) (flag : Bool), mask[lane]? = some flag →
    (term.value type.lanes)[lane]? = some (if flag then "-1" else "0")

/-- The text of flags as lanes is that of a construction that encodes the mask. -/
theorem encodes_of_buildText {flags : String} (isC : context.language = .c)
    (isVector : type.isVector = true) (complete : mask.length = type.lanes)
    (built : buildText context (mask.map flagText) (maskType type) = .ok flags) :
    ∃ term, Encodes context mask type term ∧ term.print = flags := by
  have maskIsVector : (maskType type).isVector = true := isVector
  rcases buildText_cases isC maskIsVector (mask.map flagText) with
    ⟨-, term, known, assembles, printed⟩ | ⟨-, fault, failed⟩
  · have value : term.value type.lanes = mask.map flagText :=
      assembles.value ((List.length_map _).trans complete)
    refine ⟨term, ⟨known, assembles, ?_, ?_⟩, Except.ok.inj (printed.symm.trans built)⟩
    · rw [value, List.length_map, complete]
    · intro lane flag here
      rw [value, List.getElem?_map, here]
      rfl
  · cases failed.symm.trans built

/-- A masked access to vectors succeeds exactly if the checks pass, the mask can be built,
and what comes behind the mask succeeds. -/
theorem maskedText_isOk_iff {finishable : Prop} (isVector : type.isVector = true)
    (finishes : ∀ instruction flags, (∃ text, finish instruction flags = .ok text) ↔ finishable) :
    (∃ text, maskedText context operation mask type finish = .ok text) ↔
      mask.length = type.lanes ∧ context.language = .c ∧ (context.instruction? operation type).isSome ∧
        Constructible context (maskType type) ∧ finishable := by
  have maskIsVector : (maskType type).isVector = true := isVector
  constructor
  · rintro ⟨text, success⟩
    obtain ⟨complete, isC, instruction, named, flags, built, finished⟩ := maskedText_eq_ok.mp success
    exact ⟨complete, isC, by simp [named],
      (buildText_isOk_iff isC maskIsVector).mp ⟨flags, built⟩,
      (finishes instruction flags).mp ⟨text, finished⟩⟩
  · rintro ⟨complete, isC, isNamed, constructible, isFinishable⟩
    obtain ⟨instruction, named⟩ := Option.isSome_iff_exists.mp isNamed
    obtain ⟨flags, built⟩ := (buildText_isOk_iff isC maskIsVector).mpr constructible
    obtain ⟨text, finished⟩ := (finishes instruction flags).mpr isFinishable
    exact ⟨text, maskedText_eq_ok.mpr ⟨complete, isC, instruction, named, flags, built, finished⟩⟩

/-- What it takes for a masked load to succeed. The source plays no part. -/
theorem maskedLoad_isOk_iff {source : Operand} (isVector : type.isVector = true) :
    (∃ operand, maskedLoad context source mask type = .ok operand) ↔
      mask.length = type.lanes ∧ context.language = .c ∧ (context.instruction? .maskedLoad type).isSome ∧
        Constructible context (maskType type) := by
  rw [maskedLoad, map_isOk_iff, maskedLoadText_eq, maskedText_isOk_iff isVector, and_true]
  exact fun instruction flags => iff_of_true ⟨_, rfl⟩ trivial

/-- What it takes for a masked store to succeed: the value must have a conversion as well. -/
theorem maskedStore_isOk_iff {destination source : Operand} (isVector : type.isVector = true) :
    (∃ operand, maskedStore context destination source mask type = .ok operand) ↔
      mask.length = type.lanes ∧ context.language = .c ∧ (context.instruction? .maskedStore type).isSome ∧
        Constructible context (maskType type) ∧ ∃ value, convert context source type = .ok value := by
  rw [maskedStore, map_isOk_iff, maskedStoreText_eq, maskedText_isOk_iff isVector]
  exact fun instruction flags => map_isOk_iff

/-- A mask can be read back from the text of an access from which its own text can. -/
theorem eq_of_maskedText {text : String} {other : List Bool}
    (readable : ∀ instruction flags otherFlags, finish instruction flags = .ok text →
      finish instruction otherFlags = .ok text → flags = otherFlags)
    (success : maskedText context operation mask type finish = .ok text)
    (otherSuccess : maskedText context operation other type finish = .ok text) : mask = other := by
  obtain ⟨complete, -, instruction, named, flags, built, finished⟩ := maskedText_eq_ok.mp success
  obtain ⟨otherComplete, -, _, otherNamed, otherFlags, otherBuilt, otherFinished⟩ :=
    maskedText_eq_ok.mp otherSuccess
  obtain rfl := Option.some.inj (named.symm.trans otherNamed)
  obtain rfl := readable instruction flags otherFlags finished otherFinished
  exact eq_of_buildText_flags (complete.trans otherComplete.symm) built otherBuilt

/-- The result of a masked access holds a vector that encodes its mask and no other. -/
theorem encodes_of_maskedText {operand : Operand} (isVector : type.isVector = true)
    (readable : ∀ text instruction flags otherFlags, finish instruction flags = .ok text →
      finish instruction otherFlags = .ok text → flags = otherFlags)
    (success : (maskedText context operation mask type finish).map (.computed · type) = .ok operand) :
    (∃ instruction term text, context.instruction? operation type = some instruction ∧
      Encodes context mask type term ∧ finish instruction term.print = .ok text ∧
      operand = .computed text type) ∧
    ∀ other, (maskedText context operation other type finish).map (.computed · type) = .ok operand →
      other = mask := by
  obtain ⟨text, textOk, rfl⟩ := map_eq_ok.mp success
  constructor
  · obtain ⟨complete, isC, instruction, named, flags, built, finished⟩ := maskedText_eq_ok.mp textOk
    obtain ⟨term, encodes, rfl⟩ := encodes_of_buildText isC isVector complete built
    exact ⟨instruction, term, text, named, encodes, finished, rfl⟩
  · intro other otherSuccess
    obtain ⟨otherText, otherOk, same⟩ := map_eq_ok.mp otherSuccess
    obtain rfl : otherText = text := congrArg Operand.text same
    exact eq_of_maskedText (readable otherText) otherOk textOk

/-- The call of a masked load shows its mask. -/
theorem maskedLoadCall_inj {source : Operand} {instruction flags otherFlags : String}
    (same : maskedLoadCall context source type instruction flags =
      maskedLoadCall context source type instruction otherFlags) : flags = otherFlags := by
  let front := instruction ++ "((" ++ context.spelling type.scalar ++ " * )" ++ source.address ++ ", "
  have same : front ++ flags ++ ")" = front ++ otherFlags ++ ")" := same
  simpa using same

/-- The call of a masked store shows its mask. -/
theorem maskedStoreCall_inj {destination : Operand} {instruction flags otherFlags value : String}
    (same : maskedStoreCall context destination type instruction flags value =
      maskedStoreCall context destination type instruction otherFlags value) : flags = otherFlags := by
  let front := instruction ++ "((" ++ context.spelling type.scalar ++ " * )" ++ destination.address ++ ", "
  have same : front ++ flags ++ ", " ++ value ++ ")" = front ++ otherFlags ++ ", " ++ value ++ ")" := same
  simpa using same

/-- A masked load that succeeds is a call on a vector that encodes its mask, and on that of
no other mask. -/
theorem maskedLoad_encodes {source operand : Operand} (isVector : type.isVector = true)
    (success : maskedLoad context source mask type = .ok operand) :
    (∃ instruction term, context.instruction? .maskedLoad type = some instruction ∧
      Encodes context mask type term ∧
      operand = .computed (maskedLoadCall context source type instruction term.print) type) ∧
    ∀ other, maskedLoad context source other type = .ok operand → other = mask := by
  simp only [maskedLoad, maskedLoadText_eq] at success ⊢
  have readable : ∀ text instruction flags otherFlags,
      (.ok (maskedLoadCall context source type instruction flags) : Except Fault String) = .ok text →
      (.ok (maskedLoadCall context source type instruction otherFlags) : Except Fault String) = .ok text →
      flags = otherFlags :=
    fun _ _ _ _ finished otherFinished =>
      maskedLoadCall_inj (Except.ok.inj (finished.trans otherFinished.symm))
  obtain ⟨⟨instruction, term, text, named, encodes, finished, rfl⟩, unique⟩ :=
    encodes_of_maskedText isVector readable success
  obtain rfl := Except.ok.inj finished
  exact ⟨⟨instruction, term, named, encodes, rfl⟩, unique⟩

/-- A masked store that succeeds is a call on a vector that encodes its mask, and on that of
no other mask. -/
theorem maskedStore_encodes {destination source operand : Operand} (isVector : type.isVector = true)
    (success : maskedStore context destination source mask type = .ok operand) :
    (∃ instruction term value, context.instruction? .maskedStore type = some instruction ∧
      Encodes context mask type term ∧ convert context source type = .ok value ∧
      operand = .computed (maskedStoreCall context destination type instruction term.print value) type) ∧
    ∀ other, maskedStore context destination source other type = .ok operand → other = mask := by
  simp only [maskedStore, maskedStoreText_eq] at success ⊢
  have readable : ∀ text instruction flags otherFlags,
      (convert context source type).map (maskedStoreCall context destination type instruction flags) = .ok text →
      (convert context source type).map (maskedStoreCall context destination type instruction otherFlags) =
        .ok text → flags = otherFlags := by
    intro text instruction flags otherFlags finished otherFinished
    obtain ⟨value, converts, stored⟩ := map_eq_ok.mp finished
    obtain ⟨otherValue, otherConverts, otherStored⟩ := map_eq_ok.mp otherFinished
    obtain rfl := Except.ok.inj (converts.symm.trans otherConverts)
    exact maskedStoreCall_inj (stored.trans otherStored.symm)
  obtain ⟨⟨instruction, term, text, named, encodes, finished, rfl⟩, unique⟩ :=
    encodes_of_maskedText isVector readable success
  obtain ⟨value, converts, rfl⟩ := map_eq_ok.mp finished
  exact ⟨⟨instruction, term, value, named, encodes, converts, rfl⟩, unique⟩

/-- Masked loads and stores report a wrong number of flags before a language without masked
access, and that before a missing instruction. A load of vectors that passes these checks
succeeds exactly if C can make vectors of integers of the width of the elements; a store
also needs its value in the type of the access. One of their arguments is then such a
vector, in which the lanes whose flag is set are -1 and the others 0, so that no other mask
has the same text. -/
theorem maskedAccess_exact (context : Context) (destination source : Operand) (mask : List Bool)
    (type : NumericType) :
    FaultOrder context .maskedLoad mask type (maskedLoad context source mask type) ∧
    FaultOrder context .maskedStore mask type (maskedStore context destination source mask type) ∧
    (type.isVector = true →
      ((∃ operand, maskedLoad context source mask type = .ok operand) ↔
        mask.length = type.lanes ∧ context.language = .c ∧
          (context.instruction? .maskedLoad type).isSome ∧ Constructible context (maskType type)) ∧
      ((∃ operand, maskedStore context destination source mask type = .ok operand) ↔
        mask.length = type.lanes ∧ context.language = .c ∧
          (context.instruction? .maskedStore type).isSome ∧ Constructible context (maskType type) ∧
          ∃ value, convert context source type = .ok value) ∧
      (∀ operand, maskedLoad context source mask type = .ok operand →
        (∃ instruction term, context.instruction? .maskedLoad type = some instruction ∧
          Encodes context mask type term ∧
          operand = .computed (maskedLoadCall context source type instruction term.print) type) ∧
        ∀ other, maskedLoad context source other type = .ok operand → other = mask) ∧
      ∀ operand, maskedStore context destination source mask type = .ok operand →
        (∃ instruction term value, context.instruction? .maskedStore type = some instruction ∧
          Encodes context mask type term ∧ convert context source type = .ok value ∧
          operand = .computed (maskedStoreCall context destination type instruction term.print value) type) ∧
        ∀ other, maskedStore context destination source other type = .ok operand → other = mask) := by
  refine ⟨faultOrder_maskedLoad context source mask type,
    faultOrder_maskedStore context destination source mask type, fun isVector => ?_⟩
  exact ⟨maskedLoad_isOk_iff isVector, maskedStore_isOk_iff isVector,
    fun operand success => maskedLoad_encodes isVector success,
    fun operand success => maskedStore_encodes isVector success⟩

/-- C with an instruction that loads four floats under a mask, and a constructor of four
integers. -/
def floatMasks : Context where
  target := ⟨.c, .x86⟩
  catalog := Catalog.empty.insertAll [(⟨.maskedLoad, .x86, ⟨.float, 32, 4⟩⟩, "_mm_maskload_ps"),
    (⟨.build, .x86, ⟨.signed, 32, 4⟩⟩, "_mm_setr_epi32")]

/-- A mask with a flag too few is refused before all else, a store for want of an
instruction; a complete mask has a text that no other mask has. -/
theorem floatMasks_exact :
    let type := (NumericType.float 32).vector 4
    let pointed := Operand.named "p" (NumericType.float 32)
    let text := "_mm_maskload_ps((float * )&p, _mm_setr_epi32( -1, 0, 0, -1 ))"
    maskedLoad floatMasks pointed [true, false, true] type = .error (.wrongCount .mask 4 3) ∧
    maskedStore floatMasks pointed pointed [true, false, false, true] type =
      .error (.noInstruction .maskedStore type.toSignature .x86) ∧
    maskedLoad floatMasks pointed [true, false, false, true] type = .ok (.computed text type) ∧
    ∀ other, maskedLoad floatMasks pointed other type = .ok (.computed text type) →
      other = [true, false, false, true] := by
  intro type pointed text
  obtain ⟨short, -, -⟩ := maskedAccess_exact floatMasks pointed pointed [true, false, true] type
  obtain ⟨-, stored, loads⟩ := maskedAccess_exact floatMasks pointed pointed [true, false, false, true] type
  have loaded : maskedLoad floatMasks pointed [true, false, false, true] type =
      .ok (.computed text type) := by
    decide +kernel
  exact ⟨(short.count _ _ _).mpr (by decide), (stored.instruction _ _).mpr (by decide), loaded,
    ((loads rfl).2.2.1 _ loaded).2⟩

end Encoding

end VectorKernel.Lowering
