import VectorKernel.Proofs.Occurrence
import VectorKernel.Proofs.Reachability
import VectorKernel.Proofs.Template.Lowering

/-!
# Larger catalogs

An expression that evaluates with some catalog also evaluates with a catalog that
has more instructions and conversions, to a value of the same type. The text may
change altogether: other names, a constructor in place of inserted lanes, a shorter
conversion chain. So the two evaluations are compared by `Survives`, which keeps
everything but the text.

Fused multiply-adds are left out. A new instruction for one switches it from a
product and a sum to a single step, whose operands must convert to another type.
-/

namespace VectorKernel

namespace Catalog

/-- The first catalog has an instruction and a conversion wherever the second one
has. Names may differ. -/
structure Covers (larger smaller : Catalog) : Prop where
  instruction : ∀ operation architecture signature,
    (smaller.lookup operation architecture signature).isSome →
      (larger.lookup operation architecture signature).isSome
  conversion : ∀ architecture source target,
    (smaller.conversion architecture source target).isSome →
      (larger.conversion architecture source target).isSome

namespace Covers

variable {larger smaller : Catalog}

theorem refl (catalog : Catalog) : catalog.Covers catalog where
  instruction _ _ _ known := known
  conversion _ _ _ known := known

/-- More instructions still cover what was covered. -/
theorem insert (covers : larger.Covers smaller) (key : Key) (name : String) :
    (larger.insert key name).Covers smaller where
  instruction operation architecture signature known := by
    have remains := covers.instruction operation architecture signature known
    rw [Catalog.lookup, Catalog.insert, Table.find?_insert]
    split
    · rfl
    · exact remains
  conversion := covers.conversion

/-- More conversions still cover what was covered. -/
theorem insertConversion (covers : larger.Covers smaller) (edge : Edge) (name : String) :
    (larger.insertConversion edge name).Covers smaller where
  instruction := covers.instruction
  conversion architecture source target known := by
    have remains := covers.conversion architecture source target known
    rw [Catalog.conversion, Catalog.insertConversion, Table.find?_insert]
    split
    · rfl
    · exact remains

/-- A chain of conversions remains, though perhaps not the same one. -/
theorem conversionPath (covers : larger.Covers smaller)
    {source target : Signature} {architecture : Architecture} {search : PathSearch Signature}
    {names : List String} (found : smaller.conversionPath source target architecture search = .ok names) :
    ∃ others, larger.conversionPath source target architecture search = .ok others := by
  have reaches := conversionPath_isOk_iff.mp ⟨names, found⟩
  refine conversionPath_isOk_iff.mpr (Relation.ReflTransGen.mono ?_ _ _ reaches)
  intro place next joins
  exact joins_edges_iff.mpr (covers.conversion _ _ _ (joins_edges_iff.mp joins))

end Covers

end Catalog

namespace Context

/-- The same target and rules with another catalog. -/
def withCatalog (context : Context) (catalog : Catalog) : Context :=
  { context with catalog }

variable (context : Context) (catalog : Catalog)

@[simp] theorem withCatalog_language : (context.withCatalog catalog).language = context.language := rfl

@[simp] theorem withCatalog_architecture :
    (context.withCatalog catalog).architecture = context.architecture := rfl

@[simp] theorem withCatalog_rules : (context.withCatalog catalog).rules = context.rules := rfl

end Context

open Textual (withText)

/-- Where the first computation succeeds, so does the second, with the same result
up to its text. -/
def Survives {α : Type} [Textual α] (run other : Except Fault α) : Prop :=
  ∀ value, run = .ok value → ∃ text, other = .ok (withText value text)

namespace Survives

variable {α β : Type} [Textual α] [Textual β]

/-- A failure asks for nothing: with more instructions anything may happen. -/
theorem fail (fault : Fault) (other : Except Fault α) : Survives (.error fault) other :=
  nofun

/-- A result survives with another text. -/
theorem ok (value : α) (text : String) : Survives (.ok value) (.ok (withText value text)) := by
  rintro _ ⟨⟩
  exact ⟨text, rfl⟩

theorem text (text other : String) : Survives (.ok text) (.ok other) :=
  ok text other

/-- Both computations take the same branch. -/
theorem branch {condition : Prop} [Decidable condition] {yes no yesOther noOther : Except Fault α}
    (whenTrue : condition → Survives yes yesOther) (whenFalse : ¬condition → Survives no noOther) :
    Survives (if condition then yes else no) (if condition then yesOther else noOther) := by
  by_cases holds : condition
  · rw [if_pos holds, if_pos holds]
    exact whenTrue holds
  · rw [if_neg holds, if_neg holds]
    exact whenFalse holds

/-- A step that is the same in both computations. -/
theorem bind_fixed {γ : Type} {step : Except Fault γ} {next nextOther : γ → Except Fault α}
    (rest : ∀ value, Survives (next value) (nextOther value)) :
    Survives (step >>= next) (step >>= nextOther) := by
  intro result success
  obtain ⟨value, stepOk, nextOk⟩ := bind_eq_ok.mp success
  obtain ⟨text, otherOk⟩ := rest value result nextOk
  exact ⟨text, bind_eq_ok.mpr ⟨value, stepOk, otherOk⟩⟩

/-- Steps survive one by one if the rest does not depend on texts. -/
theorem bind {run other : Except Fault α} {next nextOther : α → Except Fault β}
    (first : Survives run other)
    (rest : ∀ value text, Survives (next value) (nextOther (withText value text))) :
    Survives (run >>= next) (other >>= nextOther) := by
  intro result success
  obtain ⟨value, runOk, nextOk⟩ := bind_eq_ok.mp success
  obtain ⟨text, otherOk⟩ := first value runOk
  obtain ⟨resultText, restOk⟩ := rest value text result nextOk
  exact ⟨resultText, bind_eq_ok.mpr ⟨_, otherOk, restOk⟩⟩

/-- What is made of a result survives if the text alone decides how it is written. -/
theorem map {run other : Except Fault α} {change changeOther : α → β} (survives : Survives run other)
    (same : ∀ value text, ∃ result, changeOther (withText value text) = withText (change value) result) :
    Survives (run.map change) (other.map changeOther) := by
  intro result success
  obtain ⟨value, runOk, rfl⟩ := map_eq_ok.mp success
  obtain ⟨text, otherOk⟩ := survives value runOk
  obtain ⟨resultText, changed⟩ := same value text
  exact ⟨resultText, map_eq_ok.mpr ⟨_, otherOk, changed⟩⟩

/-- Operands survive if their texts do. -/
theorem computed {run other : Except Fault String} (survives : Survives run other) (type : DataType) :
    Survives (run.map (Operand.computed · type)) (other.map (Operand.computed · type)) :=
  survives.map fun _ text => ⟨text, rfl⟩

/-- Values survive if their operands do. -/
theorem typed {run other : Except Fault Operand} (survives : Survives run other) :
    Survives (run.map Evaluated.typed) (other.map Evaluated.typed) :=
  survives.map fun _ text => ⟨text, rfl⟩

/-- Values of other texts and the same type are the same but for the text. -/
theorem ofText (text other : String) (type : Option DataType) :
    Survives (.ok (Evaluated.ofText text type)) (.ok (Evaluated.ofText other type)) := by
  cases type with
  | none => exact .ok (Evaluated.text text) other
  | some type => exact .ok (Evaluated.typed (.computed text type)) other

end Survives

section Covered

variable {context : Context} {larger : Catalog} (covers : larger.Covers context.catalog)

include covers

/-- An instruction that was found is found in a larger catalog. -/
theorem Context.instruction_survives (operation : Intrinsic) (type : NumericType) :
    Survives (context.instruction operation type)
      ((context.withCatalog larger).instruction operation type) := by
  intro name found
  have known := instruction_eq_ok.mp found
  have remains := covers.instruction operation context.architecture type.toSignature
    (Option.isSome_of_eq_some known)
  obtain ⟨other, named⟩ := Option.isSome_iff_exists.mp remains
  exact ⟨other, instruction_eq_ok.mpr named⟩

namespace Lowering

open Context (instruction_survives)

/-- A chain that was found is found in a larger catalog, where it may be a shorter one. -/
theorem convert_survives (value : Operand) (text : String) (target : NumericType) :
    Survives (convert context value target)
      (convert (context.withCatalog larger) (value.withText text) target) := by
  simp only [convert, Operand.withText_numeric?, Operand.withText_text]
  cases value.numeric? with
  | none => exact .text _ _
  | some source =>
    refine .branch (fun _ => .text _ _) fun _ => ?_
    simp only [convertNumeric, Context.withCatalog_language]
    cases context.language with
    | openCl => exact .text _ _
    | fortran => exact .text _ _
    | cuda => exact .branch (fun _ => .fail _ _) fun _ => .text _ _
    | c =>
      cases source.isVector <;> cases target.isVector
      · exact .text _ _
      · exact .fail _ _
      · exact .fail _ _
      · intro converted success
        obtain ⟨names, found, -⟩ := map_eq_ok.mp success
        obtain ⟨others, remains⟩ := covers.conversionPath found
        exact ⟨nest text others, map_eq_ok.mpr ⟨others, remains, rfl⟩⟩

/-- What was spread over lanes still is. -/
theorem splatText_survives (text other : String) (type : NumericType) :
    Survives (splatText context text type) (splatText (context.withCatalog larger) other type) := by
  refine .branch (fun _ => .text _ _) fun _ => ?_
  exact .bind (instruction_survives covers .broadcast type) fun _ _ => .text _ _

/-- What was broadcast still is. -/
theorem broadcastText_survives (value : Operand) (text : String) (type : NumericType) :
    Survives (broadcastText context value type)
      (broadcastText (context.withCatalog larger) (value.withText text) type) := by
  simp only [broadcastText, Operand.withText_numeric?, Operand.withText_text]
  refine .branch (fun _ => ?_) fun _ => .text _ _
  cases value.numeric? with
  | none => exact .text _ _
  | some source =>
    exact .branch (fun _ => convert_survives covers value text type)
      fun _ => splatText_survives covers value.text text type

/-- What was converted or broadcast still is. -/
theorem coerce_survives (value : Operand) (text : String) (type : NumericType) :
    Survives (coerce context value type)
      (coerce (context.withCatalog larger) (value.withText text) type) := by
  simp only [coerce, Operand.withText_numeric?, Operand.withText_text]
  cases value.numeric? with
  | none => exact .text _ _
  | some held =>
    exact .branch (fun _ => broadcastText_survives covers value text type)
      fun _ => convert_survives covers value text type

/-- What was loaded from memory still is. -/
theorem memoryLoadText_survives (source : Operand) (text : String) (type : NumericType) :
    Survives (memoryLoadText context source type)
      (memoryLoadText (context.withCatalog larger) (source.withText text) type) := by
  simp only [memoryLoadText, isAligned_withText]
  refine .branch (fun _ => .text _ _) fun _ => ?_
  exact .bind (instruction_survives covers _ type) fun _ _ => .text _ _

/-- What was loaded, from memory or from a vector, still is. -/
theorem loadText_survives (source : Operand) (text : String) (type : NumericType) :
    Survives (loadText context source type)
      (loadText (context.withCatalog larger) (source.withText text) type) := by
  simp only [loadText, Operand.withText_numeric?, Operand.withText_text, Operand.withText_literal]
  refine .branch (fun _ => ?_) fun _ => .text _ _
  cases source.numeric? with
  | none => exact .text _ _
  | some held =>
    dsimp only
    refine .branch (fun _ => .text _ _) fun _ => ?_
    refine .branch (fun _ => convert_survives covers source text type) fun _ => ?_
    refine .branch (fun _ => broadcastText_survives covers source text type) fun _ => ?_
    exact .branch (fun _ => .text _ _) fun _ => memoryLoadText_survives covers source text type

/-- What was stored still is, whatever text the value has. -/
theorem memoryStoreText_survives (destination : Operand) (text value other : String)
    (type : NumericType) :
    Survives (memoryStoreText context destination value type)
      (memoryStoreText (context.withCatalog larger) (destination.withText text) other type) := by
  simp only [memoryStoreText, isAligned_withText]
  refine .branch (fun _ => .text _ _) fun _ => .branch (fun _ => .text _ _) fun _ => ?_
  exact .bind (instruction_survives covers _ type) fun _ _ => .text _ _

section Pairs

variable (left right : Operand) (leftText rightText : String)

/-- A store survives if loading its value and storing it do. -/
theorem storeText_survives :
    Survives (storeText context left right)
      (storeText (context.withCatalog larger) (left.withText leftText) (right.withText rightText)) := by
  simp only [storeText, Operand.withText_numeric?, Operand.withText_text, Context.withCatalog_language]
  cases context.language.movesVectors with
  | false => exact .text _ _
  | true =>
    cases right.numeric? with
    | none => exact .text _ _
    | some type =>
      refine .branch (fun _ => ?_) fun _ => .text _ _
      exact memoryStoreText_survives covers left leftText right.text rightText type

/-- An assignment to something that is no vector survives. -/
theorem scalarAssignText_survives :
    Survives (scalarAssignText context left right)
      (scalarAssignText (context.withCatalog larger) (left.withText leftText)
        (right.withText rightText)) := by
  simp only [scalarAssignText, Operand.withText_isVector]
  exact .branch (fun _ => storeText_survives covers left right leftText rightText)
    fun _ => .text _ _

/-- An assignment survives, whichever side is the vector. -/
theorem assignText_survives :
    Survives (assignText context left right)
      (assignText (context.withCatalog larger) (left.withText leftText)
        (right.withText rightText)) := by
  have scalar := scalarAssignText_survives covers left right leftText rightText
  simp only [assignText, Operand.withText_numeric?, Operand.withText_text]
  cases left.numeric? with
  | none => exact scalar
  | some type =>
    refine .branch (fun _ => ?_) fun _ => scalar
    exact (loadText_survives covers right rightText type).map fun _ _ => ⟨_, rfl⟩

/-- An operation on lanes survives: its operands are coerced and its instruction is found. -/
theorem vectorText_survives (operation : Intrinsic) (type : NumericType) :
    Survives (vectorText context operation left right type)
      (vectorText (context.withCatalog larger) operation (left.withText leftText)
        (right.withText rightText) type) := by
  refine .bind (instruction_survives covers operation type) fun _ _ => ?_
  refine .bind (coerce_survives covers left leftText type) fun _ _ => ?_
  exact .bind (coerce_survives covers right rightText type) fun _ _ => .text _ _

/-- Every operator survives, with an instruction or without. -/
theorem binaryText_survives (operator : Operator) (type : DataType) :
    Survives (binaryText context operator left right type)
      (binaryText (context.withCatalog larger) operator (left.withText leftText)
        (right.withText rightText) type) := by
  simp only [binaryText, Context.withCatalog_language]
  refine .branch (fun _ => assignText_survives covers left right leftText rightText) fun _ => ?_
  cases operator.intrinsic? with
  | none => exact .text _ _
  | some operation =>
    cases type with
    | handle name => exact .text _ _
    | numeric type =>
      exact .branch (fun _ => vectorText_survives covers left right leftText rightText operation type)
        fun _ => .text _ _

/-- Types of results do not depend on the catalog, so only the text may change. -/
theorem binary_survives (operator : Operator) :
    Survives (binary context operator left right)
      (binary (context.withCatalog larger) operator (left.withText leftText)
        (right.withText rightText)) := by
  -- The rules see the types of the operands only, so both evaluations use the same operator.
  refine .bind_fixed fun (type, effective) => ?_
  refine .bind (binaryText_survives covers left right leftText rightText effective type) fun _ text => ?_
  exact .ok (Operand.computed _ type) text

end Pairs

/-- A catalog may gain a constructor, but never loses both ways to build a
vector. -/
theorem laneListText_survives {lanes others : List String} (sameLength : lanes.length = others.length)
    (type : NumericType) :
    Survives (laneListText context lanes type)
      (laneListText (context.withCatalog larger) others type) := by
  simp only [laneListText, ← sameLength, Context.withCatalog_language]
  refine .branch (fun _ => ?_) fun _ => .fail _ _
  cases context.language with
  | openCl => exact .text _ _
  | cuda => exact .fail _ _
  | fortran => exact .fail _ _
  | c =>
    intro built success
    unfold buildText at success ⊢
    cases constructor : (context.withCatalog larger).instruction? .build type with
    | some instruction => exact ⟨_, rfl⟩
    | none =>
      have noConstructor : context.instruction? .build type = none := by
        by_contra known
        have remains := covers.instruction .build context.architecture type.toSignature
          (Option.isSome_iff_ne_none.mpr known)
        exact (Option.isSome_iff_ne_none.mp remains) constructor
      rw [noConstructor] at success
      refine Survives.bind (instruction_survives covers .insertLane type) (fun _ _ => ?_) built success
      refine .bind (broadcastText_survives covers (.computed "0" type.scalar) "0" type) fun _ _ => ?_
      exact .text _ _

/-- A vector of single lanes survives. Equally many lanes are all that matters. -/
theorem ofLanes_survives {lanes others : List String} (sameLength : lanes.length = others.length)
    (type : NumericType) :
    Survives (ofLanes context lanes type) (ofLanes (context.withCatalog larger) others type) :=
  (laneListText_survives covers sameLength type).computed type

/-- A masked load survives. -/
theorem maskedLoad_survives (source : Operand) (text : String) (mask : List Bool)
    (type : NumericType) :
    Survives (maskedLoad context source mask type)
      (maskedLoad (context.withCatalog larger) (source.withText text) mask type) := by
  refine .computed ?_ type
  refine .bind_fixed fun _ => ?_
  refine .bind (instruction_survives covers .maskedLoad type) fun _ _ => ?_
  exact .bind (laneListText_survives covers rfl (maskType type)) fun _ _ => .text _ _

/-- A masked store survives. -/
theorem maskedStore_survives (destination source : Operand) (text other : String) (mask : List Bool)
    (type : NumericType) :
    Survives (maskedStore context destination source mask type)
      (maskedStore (context.withCatalog larger) (destination.withText text) (source.withText other)
        mask type) := by
  refine .computed ?_ type
  refine .bind_fixed fun _ => ?_
  refine .bind (instruction_survives covers .maskedStore type) fun _ _ => ?_
  refine .bind (laneListText_survives covers rfl (maskType type)) fun _ _ => ?_
  exact .bind (convert_survives covers source other type) fun _ _ => .text _ _

end Lowering

namespace Context

/-- Operators survive on typed values and on plain texts, on either side or both. -/
theorem apply_survives (operator : Operator) (left right : Option Evaluated)
    (leftText rightText : String) :
    Survives (context.apply operator left right)
      ((context.withCatalog larger).apply operator (left.map (·.withText leftText))
        (right.map (·.withText rightText))) := by
  rcases left with _ | (left | _) <;> rcases right with _ | (right | _)
  case none.none => exact .fail _ _
  case some.typed.some.typed =>
    exact .typed (Lowering.binary_survives covers left right leftText rightText operator)
  all_goals exact .ofText _ _ _

omit covers in
/-- A choice survives: the types of its branches are what they were. -/
theorem conditional_survives (condition positive negative : Evaluated)
    (conditionText positiveText negativeText : String) :
    Survives (context.conditional condition positive negative)
      ((context.withCatalog larger).conditional (condition.withText conditionText)
        (positive.withText positiveText) (negative.withText negativeText)) := by
  simp only [conditional, conditionalText, conditionalType, Evaluated.type?_withText, bind_assoc,
    pure_bind]
  exact .bind_fixed fun _ => .bind_fixed fun type => .ofText _ _ type

/-- A broadcast survives, of an operand and of a plain text. -/
theorem broadcast_survives (source : Evaluated) (text : String) (type : NumericType) :
    Survives (context.broadcast source type)
      ((context.withCatalog larger).broadcast (source.withText text) type) := by
  cases source with
  | typed operand => exact .computed (Lowering.broadcastText_survives covers operand text type) type
  | text plain =>
    exact .computed (Lowering.broadcastText_survives covers (.computed plain type.scalar) text type) type

/-- A masked store survives: which type it stores is not a matter of texts. -/
theorem maskedStore_survives (destination source : Operand) (text other : String)
    (mask : List Bool) :
    Survives (context.maskedStore destination source mask)
      ((context.withCatalog larger).maskedStore (destination.withText text) (source.withText other)
        mask) := by
  simp only [maskedStore, Operand.withText_numeric?]
  cases source.numeric? with
  | none => exact .fail _ _
  | some type => exact Lowering.maskedStore_survives covers destination source text other mask type

end Context

omit covers in
/-- Asking for an operand looks at no text. -/
theorem Evaluated.require_survives (value : Evaluated) (text : String) (role : Role) :
    Survives (value.require role) ((value.withText text).require role) := by
  cases value with
  | typed operand => exact .ok operand text
  | text plain => exact .fail _ _

namespace Expr

omit covers in
/-- Several expressions survive with as many texts as before. -/
theorem evaluateAll_survives {lanes : List Expr}
    (each : ∀ lane ∈ lanes,
      Survives (lane.evaluate context) (lane.evaluate (context.withCatalog larger)))
    {texts : List String} (success : evaluateAll context lanes = .ok texts) :
    ∃ others, evaluateAll (context.withCatalog larger) lanes = .ok others ∧
      texts.length = others.length := by
  induction lanes generalizing texts with
  | nil =>
    obtain rfl := Except.ok.inj success
    exact ⟨[], rfl, rfl⟩
  | cons first rest ih =>
    simp only [evaluateAll, bind_eq_ok, pure_eq_ok] at success ⊢
    obtain ⟨value, firstOk, restTexts, restOk, rfl⟩ := success
    obtain ⟨text, firstSurvives⟩ := each first List.mem_cons_self value firstOk
    obtain ⟨others, restSurvive, sameLength⟩ :=
      ih (fun lane member => each lane (List.mem_cons_of_mem first member)) restOk
    refine ⟨_, ⟨_, firstSurvives, others, restSurvive, rfl⟩, ?_⟩
    rw [List.length_cons, List.length_cons, sameLength]

/-- An expression survives a larger catalog. -/
theorem evaluate_survives {expression : Expr} (free : expression.FmaFree) :
    Survives (expression.evaluate context) (expression.evaluate (context.withCatalog larger)) := by
  induction expression using Expr.induction with
  | literal constant =>
    intro value success
    exact ⟨value.render, by cases value <;> exact success⟩
  | value operand => exact .ok (Evaluated.typed operand) operand.text
  | bare operator => exact .fail _ _
  | binary operator left right leftSurvives rightSurvives =>
    refine .bind (leftSurvives (free.inPart (by simp [parts]))) fun leftValue leftText => ?_
    refine .bind (rightSurvives (free.inPart (by simp [parts]))) fun rightValue rightText => ?_
    exact context.apply_survives covers operator (some leftValue) (some rightValue) leftText rightText
  | unary operator right rightSurvives =>
    refine .bind (rightSurvives (free.inPart (by simp [parts]))) fun value text => ?_
    exact context.apply_survives covers operator none (some value) "" text
  | dangling operator left leftSurvives =>
    refine .bind (leftSurvives (free.inPart (by simp [parts]))) fun value text => ?_
    exact context.apply_survives covers operator (some value) none text ""
  | load source type sourceSurvives =>
    refine .bind (sourceSurvives (free.inPart (by simp [parts]))) fun value text => ?_
    refine .bind (Evaluated.require_survives value text _) fun operand text => ?_
    exact .typed (.computed (Lowering.loadText_survives covers operand text type) type)
  | store destination source destinationSurvives sourceSurvives =>
    refine .bind (destinationSurvives (free.inPart (by simp [parts]))) fun value text => ?_
    refine .bind (Evaluated.require_survives value text _) fun place placeText => ?_
    refine .bind (sourceSurvives (free.inPart (by simp [parts]))) fun value text => ?_
    refine .bind (Evaluated.require_survives value text _) fun stored storedText => ?_
    exact .typed (.computed (Lowering.storeText_survives covers place stored placeText storedText)
      stored.type)
  | broadcast source type sourceSurvives =>
    refine .bind (sourceSurvives (free.inPart (by simp [parts]))) fun value text => ?_
    exact .typed (context.broadcast_survives covers value text type)
  | ofLanes lanes type lanesSurvive =>
    intro value success
    obtain ⟨texts, textsOk, lowered⟩ := bind_eq_ok.mp success
    obtain ⟨others, othersOk, sameLength⟩ := evaluateAll_survives
      (fun lane member => lanesSurvive lane member (free.inPart member)) textsOk
    obtain ⟨text, loweredOther⟩ :=
      (Lowering.ofLanes_survives covers sameLength type).typed value lowered
    exact ⟨text, bind_eq_ok.mpr ⟨others, othersOk, loweredOther⟩⟩
  | maskedLoad source mask type sourceSurvives =>
    refine .bind (sourceSurvives (free.inPart (by simp [parts]))) fun value text => ?_
    refine .bind (Evaluated.require_survives value text _) fun operand text => ?_
    exact .typed (Lowering.maskedLoad_survives covers operand text mask type)
  | maskedStore destination source mask destinationSurvives sourceSurvives =>
    refine .bind (destinationSurvives (free.inPart (by simp [parts]))) fun value text => ?_
    refine .bind (Evaluated.require_survives value text _) fun place placeText => ?_
    refine .bind (sourceSurvives (free.inPart (by simp [parts]))) fun value text => ?_
    refine .bind (Evaluated.require_survives value text _) fun stored storedText => ?_
    exact .typed (context.maskedStore_survives covers place stored placeText storedText mask)
  | fma a b c => exact absurd rfl (free.here a b c)
  | conditional condition positive negative conditionSurvives positiveSurvives negativeSurvives =>
    refine .bind_fixed fun _ => ?_
    refine .bind (conditionSurvives (free.inPart (by simp [parts]))) fun conditionValue _ => ?_
    refine .bind (positiveSurvives (free.inPart (by simp [parts]))) fun positiveValue _ => ?_
    refine .bind (negativeSurvives (free.inPart (by simp [parts]))) fun negativeValue _ => ?_
    exact context.conditional_survives conditionValue positiveValue negativeValue _ _ _

end Expr

end Covered

namespace Expr

/-- A larger catalog never breaks an expression: what evaluates with the smaller
one still evaluates, with the same type or without one as before. -/
theorem evaluates_of_covers {context : Context} {larger : Catalog}
    (covers : larger.Covers context.catalog) {expression : Expr} (free : expression.FmaFree)
    {value : Evaluated} (success : expression.evaluate context = .ok value) :
    ∃ other, expression.evaluate (context.withCatalog larger) = .ok other ∧
      other.type? = value.type? := by
  obtain ⟨text, remains⟩ := evaluate_survives covers free value success
  exact ⟨_, remains, value.type?_withText text⟩

/-- Two integers put into lanes and added to two floats. -/
def laneSum : Expr :=
  let name (text : String) (type : NumericType) : Expr := .value (.named text type)
  .ofLanes [name "a" (.int 32), name "b" (.int 32)] ((NumericType.int 32).vector 2) +
    name "w" ((NumericType.float 32).vector 2)

/-- A catalog that inserts integers lane by lane and converts them in two steps. -/
def stepwise : Catalog :=
  let ints : Signature := ⟨.signed, 32, 2⟩
  let wide : Signature := ⟨.signed, 64, 2⟩
  let floats : Signature := ⟨.float, 32, 2⟩
  (Catalog.empty.insertAll [(⟨.insertLane, .arm, ints⟩, "put"), (⟨.broadcast, .arm, ints⟩, "splat"),
    (⟨.add, .arm, floats⟩, "sum")]).insertConversions
      [(⟨.arm, ints, wide⟩, "widen"), (⟨.arm, wide, floats⟩, "round")]

/-- The same catalog with a constructor and a conversion in one step. -/
def direct : Catalog :=
  (stepwise.insert ⟨.build, .arm, ⟨.signed, 32, 2⟩⟩ "make").insertConversion
    ⟨.arm, ⟨.signed, 32, 2⟩, ⟨.float, 32, 2⟩⟩ "convert"

/-- Both additions to the catalog change the text, and the sum stays a sum of two
floats. -/
theorem laneSum_evaluates :
    let context : Context := { target := ⟨.c, .arm⟩, catalog := stepwise }
    direct.Covers context.catalog ∧ laneSum.FmaFree ∧
      laneSum.render context = .ok "sum( round( widen( put(b, put(a, splat( 0 ), 0), 1) ) ), w )" ∧
      laneSum.render (context.withCatalog direct) = .ok "sum( convert( make( a, b ) ), w )" ∧
      ∃ other, laneSum.evaluate (context.withCatalog direct) = .ok other ∧
        other.type? = some (.numeric ((NumericType.float 32).vector 2)) := by
  intro context
  have covers : direct.Covers context.catalog :=
    ((Catalog.Covers.refl stepwise).insert _ _).insertConversion _ _
  have free : laneSum.FmaFree := by
    refine .of_parts nofun (List.forall_mem_cons.mpr ⟨?_, List.forall_mem_singleton.mpr (fmaFree_value _)⟩)
    refine .of_parts nofun (List.forall_mem_cons.mpr ⟨fmaFree_value _, ?_⟩)
    exact List.forall_mem_singleton.mpr (fmaFree_value _)
  have evaluated : laneSum.evaluate context =
      .ok (.typed (.computed "sum( round( widen( put(b, put(a, splat( 0 ), 0), 1) ) ), w )"
        ((NumericType.float 32).vector 2))) := by decide +kernel
  refine ⟨covers, free, ?_, by decide +kernel, evaluates_of_covers covers free evaluated⟩
  rw [render, evaluated]
  rfl

end Expr

end VectorKernel
