import Mathlib.Data.List.Forall2
import VectorKernel.Proofs.Attributes.Alike

/-!
# Attributes that rendering ignores

Alike trees evaluate in lockstep under alike rules, so rendering gives the same text
or the same fault. The texts of alike operands are equal outright, since a lowering
reads signatures and never asks the rules. Only the type of an operation may carry
an alignment on.
-/

namespace VectorKernel

namespace Context

/-- The same target and catalog with other rules. -/
def withRules (context : Context) (rules : Registry) : Context :=
  { context with rules }

variable (context : Context) (rules : Registry)

@[simp] theorem withRules_language : (context.withRules rules).language = context.language := rfl

@[simp] theorem withRules_architecture :
    (context.withRules rules).architecture = context.architecture := rfl

end Context

namespace Lowering

open Context (withRules_language)

variable {context : Context} (others : Registry) {value value' left left' right right' : Operand}

section Numeric

variable {type type' : NumericType} (types : type.Alike type')

include types

/-- Conversions look at signatures and texts only. -/
theorem convert_alike (values : value.Alike value') :
    convert (context.withRules others) value' type' = convert context value type := by
  cases types
  rcases values with ⟨_, ⟨⟨⟩⟩ | _⟩ <;> rfl

/-- A broadcast looks at the signature and the text of its value only. -/
theorem broadcastText_alike (values : value.Alike value') :
    broadcastText (context.withRules others) value' type' = broadcastText context value type := by
  cases types
  rcases values with ⟨_, ⟨⟨⟩⟩ | _⟩ <;> rfl

/-- Coercion gives alike values the same text. -/
theorem coerce_alike (values : value.Alike value') :
    coerce (context.withRules others) value' type' = coerce context value type := by
  cases types
  rcases values with ⟨_, ⟨⟨⟩⟩ | _⟩ <;> rfl

/-- Loads from alike sources have the same text, since the declared alignments are the same. -/
theorem loadText_alike (values : value.Alike value') :
    loadText (context.withRules others) value' type' = loadText context value type := by
  cases types
  rcases values with ⟨_, ⟨⟨⟩⟩ | _⟩ <;> rfl

/-- An instruction on lanes has the same text for alike operands. -/
theorem vectorText_alike (operation : Intrinsic) (lefts : left.Alike left') (rights : right.Alike right') :
    vectorText (context.withRules others) operation left' right' type' =
      vectorText context operation left right type := by
  rw [vectorText, vectorText, coerce_alike others types lefts, coerce_alike others types rights]
  cases types
  rfl

/-- A vector of single lanes has the same text for alike types. -/
theorem laneListText_alike (lanes : List String) :
    laneListText (context.withRules others) lanes type' = laneListText context lanes type := by
  cases types
  rfl

/-- A masked load has the same text for alike sources. -/
theorem maskedLoadText_alike (values : value.Alike value') (mask : List Bool) :
    maskedLoadText (context.withRules others) value' mask type' = maskedLoadText context value mask type := by
  cases types
  cases values
  rfl

/-- A masked store has the same text for alike sides. -/
theorem maskedStoreText_alike (lefts : left.Alike left') (rights : right.Alike right')
    (mask : List Bool) :
    maskedStoreText (context.withRules others) left' right' mask type' =
      maskedStoreText context left right mask type := by
  rw [maskedStoreText, maskedStoreText, convert_alike others types rights]
  cases types
  cases lefts
  rfl

end Numeric

/-- Stores to alike destinations have the same text, since the declared alignments are the same. -/
theorem storeText_alike (lefts : left.Alike left') (rights : right.Alike right') :
    storeText (context.withRules others) left' right' = storeText context left right := by
  cases lefts
  dsimp only [storeText, withRules_language]
  -- The type of the value is looked at once the language is known.
  rcases rights with ⟨_, ⟨⟨⟩⟩ | _⟩ <;> cases context.language.movesVectors <;> rfl

/-- Assignments to something that is no vector have the same text for alike sides. -/
theorem scalarAssignText_alike (lefts : left.Alike left') (rights : right.Alike right') :
    scalarAssignText (context.withRules others) left' right' = scalarAssignText context left right := by
  rw [scalarAssignText, scalarAssignText, storeText_alike others lefts rights]
  cases lefts
  rcases rights with ⟨_, ⟨⟨⟩⟩ | _⟩ <;> rfl

/-- Assignments have the same text for alike sides. -/
theorem assignText_alike (lefts : left.Alike left') (rights : right.Alike right') :
    assignText (context.withRules others) left' right' = assignText context left right := by
  have scalar : scalarAssignText (context.withRules others) left' right' =
      scalarAssignText context left right := scalarAssignText_alike others lefts rights
  rw [assignText, assignText, scalar]
  rcases lefts with ⟨_, types | _⟩
  · dsimp only [Operand.numeric?, DataType.numeric?]
    rw [loadText_alike others types rights]
    cases types
    rfl
  · rfl

variable {data data' : DataType} (types : data.Alike data')

include types

/-- Whatever the operator is, alike sides and alike result types give the same text. -/
theorem binaryText_alike (operator : Operator) (lefts : left.Alike left')
    (rights : right.Alike right') :
    binaryText (context.withRules others) operator left' right' data' =
      binaryText context operator left right data := by
  have assigned : assignText (context.withRules others) left' right' = assignText context left right :=
    assignText_alike others lefts rights
  unfold binaryText
  rw [assigned, lefts.text, rights.text]
  cases operator.intrinsic? with
  | none => rfl
  | some operation =>
    rcases types with types | _
    · dsimp only
      rw [vectorText_alike others types operation lefts rights]
      cases types
      rfl
    · rfl

/-- Alike values are prepared alike for a fused instruction. -/
theorem fusedOperand_alike (values : value.Alike value') :
    fusedOperand (context.withRules others) data' value' = fusedOperand context data value := by
  rcases types with types | _
  · exact coerce_alike others types values
  · cases values
    rfl

/-- The fused instruction of a type does not depend on its alignment. -/
theorem fusedInstruction?_alike :
    fusedInstruction? (context.withRules others) data' = fusedInstruction? context data := by
  rcases types with ⟨⟨⟩⟩ | _ <;> rfl

end Lowering

section Nodes

variable {context : Context} {others : Registry}

namespace Context

/-- Where only one side has a type, alike types give alike types of the result. -/
theorem oneSidedType_alike (operator : Operator) {type type' : DataType} (types : type.Alike type') :
    (oneSidedType operator type).Alike (oneSidedType operator type') := by
  rcases types with types | name
  · cases operator with
    | index =>
      dsimp only [oneSidedType, NumericType.scalar]
      rw [types.vector]
      exact .refl _
    | _ => exact .numeric types
  · cases operator <;> exact .handle name

/-- Broadcasts of alike sources give alike operands or the same fault. -/
theorem broadcast_lockstep {source source' : Evaluated} (sources : source.Alike source')
    {type type' : NumericType} (types : type.Alike type') :
    Lockstep Operand.Alike (context.broadcast source type)
      ((context.withRules others).broadcast source' type') := by
  rcases sources with sources | text
  · exact .computed (Lowering.broadcastText_alike others types sources) (.numeric types)
  · have element : (Operand.computed text type.scalar).Alike (.computed text type'.scalar) := by
      rw [NumericType.scalar, NumericType.scalar, types.vector]
      exact .mk text (.refl _) ..
    exact .computed (Lowering.broadcastText_alike others types element) (.numeric types)

/-- Masked stores with alike sides give alike operands or the same fault. -/
theorem maskedStore_lockstep {destination destination' source source' : Operand}
    (destinations : destination.Alike destination') (sources : source.Alike source') (mask : List Bool) :
    Lockstep Operand.Alike (context.maskedStore destination source mask)
      ((context.withRules others).maskedStore destination' source' mask) := by
  have stored {type type' : NumericType} (types : type.Alike type') :
      Lockstep Operand.Alike (Lowering.maskedStore context destination source mask type)
        (Lowering.maskedStore (context.withRules others) destination' source' mask type') :=
    .computed (Lowering.maskedStoreText_alike others types destinations sources mask) (.numeric types)
  unfold maskedStore
  rcases sources with ⟨_, types | _⟩
  · exact stored types
  · exact .error rfl

end Context

/-- Lanes in lockstep give the same texts or the same fault, the one of the first lane that fails.
-/
theorem Expr.evaluateAll_lockstep {lanes lanes' : List Expr}
    (pairs : List.Forall₂ (fun lane lane' => Lockstep Evaluated.Alike (lane.evaluate context)
      (lane'.evaluate (context.withRules others))) lanes lanes') :
    Lockstep Eq (evaluateAll context lanes) (evaluateAll (context.withRules others) lanes') := by
  induction pairs with
  | nil => exact .ok rfl
  | cons first _ rest =>
    refine .bind first fun value value' values => .bind rest ?_
    rintro texts _ rfl
    exact .ok (by rw [values.render])

variable (rules : context.rules.Alike others)

include rules

namespace Lowering

variable {left left' right right' a a' b b' c c' : Operand}

/-- Operations on alike operands have alike types and the same text, or the same fault. -/
theorem binary_lockstep (operator : Operator) (lefts : left.Alike left') (rights : right.Alike right') :
    Lockstep Operand.Alike (binary context operator left right)
      (binary (context.withRules others) operator left' right') := by
  refine .bind (Registry.transition_lockstep rules lefts.type rights.type operator) ?_
  rintro ⟨type, _⟩ ⟨type', effective⟩ ⟨types, rfl⟩
  dsimp only
  rw [binaryText_alike others types effective lefts rights]
  exact .bind_fixed fun text => .ok (.mk text types ..)

/-- A product and a sum of alike operands are in lockstep, one after the other. -/
theorem separate_lockstep (first : a.Alike a') (second : b.Alike b') (third : c.Alike c') :
    Lockstep Operand.Alike (separate context a b c) (separate (context.withRules others) a' b' c') :=
  .bind (binary_lockstep rules .mul first second) fun _ _ products =>
    binary_lockstep rules .add third products

/-- Fused operations choose the same instruction, or are made of two operations in both runs. -/
theorem fused_lockstep (first : a.Alike a') (second : b.Alike b') (third : c.Alike c') :
    Lockstep Operand.Alike (fused context a b c) (fused (context.withRules others) a' b' c') := by
  have types := third.type
  have apart := separate_lockstep rules first second third
  simp only [fused, Context.withRules_language, Context.withRules_architecture,
    fusedInstruction?_alike others types, fusedOperand_alike others types first,
    fusedOperand_alike others types second, fusedOperand_alike others types third]
  cases context.language with
  | fortran => exact apart
  | openCl | cuda => exact .bind_fixed fun _ => .ok (.mk _ types ..)
  | c =>
    cases fusedInstruction? context c.type with
    | none => exact apart
    | some instruction =>
      refine .bind_fixed fun _ => ?_
      cases context.architecture with
      | x86 | arm => exact .ok (.mk _ types ..)
      | generic | mppa =>
        exact .bind (binary_lockstep rules .mul first second) fun _ _ products =>
          binary_lockstep rules .add products third

end Lowering

namespace Context

/-- Operators on alike values, on either side or both, are in lockstep. -/
theorem apply_lockstep (operator : Operator) {left left' right right' : Option Evaluated}
    (lefts : Option.Rel Evaluated.Alike left left') (rights : Option.Rel Evaluated.Alike right right') :
    Lockstep Evaluated.Alike (context.apply operator left right)
      ((context.withRules others).apply operator left' right') := by
  rcases lefts with (lefts | _) | _ <;> rcases rights with (rights | _) | _
  case some.typed.some.typed => exact (Lowering.binary_lockstep rules operator lefts rights).typed
  case none.none => exact .error rfl
  case some.typed.some.text | some.typed.none =>
    cases lefts with
    | mk _ types => exact .ok (.ofText _ (.some (oneSidedType_alike operator types)))
  case some.text.some.typed | none.some.typed =>
    cases rights with
    | mk _ types => exact .ok (.ofText _ (.some (oneSidedType_alike operator types)))
  all_goals exact .ok (.text _)

/-- Fused operations on alike values are in lockstep, whichever of the values are typed. -/
theorem fma_lockstep {a a' b b' c c' : Evaluated} (first : a.Alike a') (second : b.Alike b')
    (third : c.Alike c') :
    Lockstep Evaluated.Alike (context.fma a b c) ((context.withRules others).fma a' b' c') := by
  have apart := Lockstep.bind (apply_lockstep rules .mul (.some first) (.some second)) fun _ _ products =>
    apply_lockstep rules .add (.some third) (.some products)
  rcases first with first | _
  · rcases second with second | _
    · rcases third with third | _
      · exact (Lowering.fused_lockstep rules first second third).typed
      · exact apart
    · exact apart
  · exact apart

/-- The two branches of a choice agree on a type in both runs or in none. -/
theorem conditionalType_lockstep {positive positive' negative negative' : Evaluated}
    (positives : positive.Alike positive') (negatives : negative.Alike negative') :
    Lockstep (Option.Rel DataType.Alike) (context.conditionalType positive negative)
      ((context.withRules others).conditionalType positive' negative') := by
  have firsts := positives.type?
  have seconds := negatives.type?
  unfold conditionalType
  generalize positive.type? = first, positive'.type? = first' at firsts ⊢
  generalize negative.type? = second, negative'.type? = second' at seconds ⊢
  rcases firsts with firsts | _ <;> rcases seconds with seconds | _
  · have joined := Registry.transition_lockstep rules firsts seconds .select
    exact joined.map fun _ _ results => .some results.1
  · exact .ok (.some firsts)
  · exact .ok (.some seconds)
  · exact .ok .none

/-- Choices between alike values are in lockstep. -/
theorem conditional_lockstep {condition condition' positive positive' negative negative' : Evaluated}
    (conditions : condition.Alike condition') (positives : positive.Alike positive')
    (negatives : negative.Alike negative') :
    Lockstep Evaluated.Alike (context.conditional condition positive negative)
      ((context.withRules others).conditional condition' positive' negative') := by
  unfold conditional
  rw [conditions.render, positives.render, negatives.render]
  exact .bind_fixed fun text => .bind (conditionalType_lockstep rules positives negatives)
    fun _ _ types => .ok (.ofText text types)

end Context

namespace Expr

/-- Alike trees evaluate in lockstep under alike rules. -/
theorem evaluate_lockstep {expression expression' : Expr} (alike : expression.Alike expression') :
    Lockstep Evaluated.Alike (expression.evaluate context)
      (expression'.evaluate (context.withRules others)) := by
  induction alike with
  | literal constant => exact .refl Evaluated.Alike.refl constant.evaluate
  | value alike => exact .ok (.typed alike)
  | binary operator _ _ lefts rights =>
    exact .bind lefts fun _ _ lefts => .bind rights fun _ _ rights =>
      Context.apply_lockstep rules operator (.some lefts) (.some rights)
  | unary operator _ rights =>
    exact .bind rights fun _ _ rights => Context.apply_lockstep rules operator .none (.some rights)
  | dangling operator _ lefts =>
    exact .bind lefts fun _ _ lefts => Context.apply_lockstep rules operator (.some lefts) .none
  | bare operator => exact .error rfl
  | load _ types sources =>
    refine .bind sources fun _ _ sources => .bind (sources.require _) fun _ _ sources => .typed ?_
    exact .computed (Lowering.loadText_alike others types sources) (.numeric types)
  | store _ _ destinations sources =>
    refine .bind destinations fun _ _ destinations => ?_
    refine .bind (destinations.require _) fun _ _ destinations => ?_
    refine .bind sources fun _ _ sources => .bind (sources.require _) fun _ _ sources => .typed ?_
    exact .computed (Lowering.storeText_alike others destinations sources) sources.type
  | broadcast _ types sources =>
    exact .bind sources fun _ _ sources => .typed (Context.broadcast_lockstep sources types)
  | ofLanes sameLength _ types lanes =>
    -- Lanes count by their texts alone, which are equal.
    refine .bind (evaluateAll_lockstep (List.forall₂_iff_zip.mpr ⟨sameLength, lanes⟩)) ?_
    rintro texts _ rfl
    exact .typed (.computed (Lowering.laneListText_alike others types texts) (.numeric types))
  | maskedLoad mask _ types sources =>
    refine .bind sources fun _ _ sources => .bind (sources.require _) fun _ _ sources => .typed ?_
    exact .computed (Lowering.maskedLoadText_alike others types sources mask) (.numeric types)
  | maskedStore mask _ _ destinations sources =>
    refine .bind destinations fun _ _ destinations => ?_
    refine .bind (destinations.require _) fun _ _ destinations => ?_
    refine .bind sources fun _ _ sources => .bind (sources.require _) fun _ _ sources => .typed ?_
    exact Context.maskedStore_lockstep destinations sources mask
  | fma _ _ _ first second third =>
    exact .bind first fun _ _ first => .bind second fun _ _ second => .bind third fun _ _ third =>
      Context.fma_lockstep rules first second third
  | conditional _ _ _ conditions positives negatives =>
    refine .bind_fixed fun _ => .bind conditions fun _ _ conditions => ?_
    refine .bind positives fun _ _ positives => .bind negatives fun _ _ negatives => ?_
    exact Context.conditional_lockstep rules conditions positives negatives

end Expr

end Nodes

namespace Expr

/-- Rendering ignores the alignments of types and the names, directions and constant
flags of operands, in the text that it gives as well as in the fault that it ends
with. -/
theorem render_ignores_attributes {context : Context} {others : Registry}
    (rules : context.rules.Alike others) {expression other : Expr} (alike : expression.Alike other) :
    (expression.render context).mapError Fault.report =
      (other.render (context.withRules others)).mapError Fault.report := by
  unfold render
  have lockstep := evaluate_lockstep rules alike
  generalize expression.evaluate context = run, other.evaluate (context.withRules others) = run' at lockstep ⊢
  cases lockstep with
  | ok values => exact congrArg Except.ok values.render.symm
  | error reported => exact congrArg Except.error reported

/-- Four floats at `p` multiplied with a queue. -/
def queueProduct (alignment : Nat) (name : Option String) (direction : Option Direction)
    (constant : Bool) : Expr :=
  let lane : NumericType := .float 32
  .binary .mul (.value (.named "q" (.handle "queue")))
    (.load (.value { text := "p", type := lane.withAlignment alignment, name, direction, constant })
      ((lane.vector 4).withAlignment alignment))

/-- C on x86, where a product of a queue and floats is a sum of four floats. -/
def addingToQueue (alignment : Nat) : Context where
  target := ⟨.c, .x86⟩
  catalog := Catalog.empty.insertAll [(⟨.load, .x86, ⟨.float, 32, 4⟩⟩, "_mm_loadu_ps"),
    (⟨.add, .x86, ⟨.float, 32, 4⟩⟩, "_mm_add_ps")]
  rules := Registry.empty.register (.handle "queue") .floating
    { fallback := some
        ((Outcome.fixed (((NumericType.float 32).vector 4).withAlignment alignment)).replacing .add) }

/-- The result of the sum carries the alignment of the rule, but neither the text nor
the fault of a further sum with two floats shows it. -/
theorem queueProduct_render :
    let plain := queueProduct 16 none none false
    let decorated := queueProduct 64 (some "samples") (some .input) true
    let pair (alignment : Nat) : Operand :=
      .named "v" (((NumericType.float 32).vector 2).withAlignment alignment)
    (addingToQueue 16).rules.Alike (addingToQueue 64).rules ∧ plain.Alike decorated ∧
      plain.render (addingToQueue 16) = .ok "_mm_add_ps( q, _mm_loadu_ps( &p ) )" ∧
      (plain.render (addingToQueue 16)).mapError Fault.report =
        (decorated.render (addingToQueue 64)).mapError Fault.report ∧
      (plain + .value (pair 8)).render (addingToQueue 16) = .error (.noTransition
        (((NumericType.float 32).vector 4).withAlignment 16) (pair 8).type .add) ∧
      ((plain + .value (pair 8)).render (addingToQueue 16)).mapError Fault.report =
        ((decorated + .value (pair 32)).render (addingToQueue 64)).mapError Fault.report := by
  intro plain decorated pair
  have rules : (addingToQueue 16).rules.Alike (addingToQueue 64).rules := by
    refine .register .empty _ _ ⟨fun _ => .none, .some ?_⟩
    exact .fixed (.numeric (.mk ..)) (some .add)
  have alike : plain.Alike decorated := by
    refine .binary .mul (.value (.mk "q" (.handle "queue") ..)) (.load (.value ?_) (.mk ..))
    exact .mk "p" (.numeric (.mk ..)) ..
  have sums : (plain + .value (pair 8)).Alike (decorated + .value (pair 32)) :=
    .binary .add alike (.value (.mk "v" (.numeric (.mk ..)) ..))
  exact ⟨rules, alike, rfl, render_ignores_attributes rules alike, rfl,
    render_ignores_attributes rules sums⟩

end Expr

end VectorKernel
