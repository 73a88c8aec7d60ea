import VectorKernel.Proofs.Template.Lowering

/-!
# Expressions follow templates

The leaves of an expression, which are its operands and its raw texts, are
numbered from left to right. `render_follows_template` says that the built-in
rules never let the text of a leaf steer the rendering: a tree fails for all
texts of its leaves, or renders by one template in which every leaf has exactly
one slot.
-/

namespace VectorKernel

namespace Expr

mutual

/-- The number of leaves whose text is free: operands and raw texts. -/
def leaves : Expr → Nat
  | .literal (.raw _) | .value _ => 1
  | .literal _ | .bare _ => 0
  | .binary _ left right => leaves left + leaves right
  | .unary _ part | .dangling _ part => leaves part
  | .load source _ | .broadcast source _ | .maskedLoad source _ _ => leaves source
  | .store destination source | .maskedStore destination source _ => leaves destination + leaves source
  | .ofLanes lanes _ => leavesAll lanes
  | .fma a b c => leaves a + leaves b + leaves c
  | .conditional condition positive negative => leaves condition + leaves positive + leaves negative

/-- The number of free leaves of several expressions. -/
def leavesAll : List Expr → Nat
  | [] => 0
  | first :: rest => leaves first + leavesAll rest

end

mutual

/-- The expression with the texts of its leaves replaced, where the leaves are
numbered from left to right, the first one `start`. -/
def relabel (texts : Nat → String) (start : Nat) : Expr → Expr
  | .literal (.raw _) => .literal (.raw (texts start))
  | .literal constant => .literal constant
  | .value operand => .value { operand with text := texts start }
  | .binary operator left right =>
    .binary operator (relabel texts start left) (relabel texts (start + leaves left) right)
  | .unary operator right => .unary operator (relabel texts start right)
  | .dangling operator left => .dangling operator (relabel texts start left)
  | .bare operator => .bare operator
  | .load source type => .load (relabel texts start source) type
  | .store destination source =>
    .store (relabel texts start destination) (relabel texts (start + leaves destination) source)
  | .broadcast source type => .broadcast (relabel texts start source) type
  | .ofLanes lanes type => .ofLanes (relabelAll texts start lanes) type
  | .maskedLoad source mask type => .maskedLoad (relabel texts start source) mask type
  | .maskedStore destination source mask =>
    .maskedStore (relabel texts start destination)
      (relabel texts (start + leaves destination) source) mask
  | .fma a b c =>
    .fma (relabel texts start a) (relabel texts (start + leaves a) b)
      (relabel texts (start + (leaves a + leaves b)) c)
  | .conditional condition positive negative =>
    .conditional (relabel texts start condition) (relabel texts (start + leaves condition) positive)
      (relabel texts (start + (leaves condition + leaves positive)) negative)

/-- Several expressions with the texts of their leaves replaced. -/
def relabelAll (texts : Nat → String) (start : Nat) : List Expr → List Expr
  | [] => []
  | first :: rest => relabel texts start first :: relabelAll texts (start + leaves first) rest

end

/-- Trees made with the building functions: every operator has the sides that
belong to it. -/
inductive Built : Expr → Prop where
  | literal (constant : Literal) : Built (.literal constant)
  | value (operand : Operand) : Built (.value operand)
  | binary {operator : Operator} {left right : Expr} (notUnary : operator.isUnary = false)
      (leftBuilt : Built left) (rightBuilt : Built right) : Built (.binary operator left right)
  | unary {operator : Operator} {right : Expr} (isUnary : operator.isUnary = true)
      (rightBuilt : Built right) : Built (.unary operator right)
  | load {source : Expr} (sourceBuilt : Built source) (type : NumericType) : Built (.load source type)
  | store {destination source : Expr} (destinationBuilt : Built destination)
      (sourceBuilt : Built source) : Built (.store destination source)
  | broadcast {source : Expr} (sourceBuilt : Built source) (type : NumericType) :
      Built (.broadcast source type)
  | ofLanes {lanes : List Expr} (lanesBuilt : ∀ lane ∈ lanes, Built lane) (type : NumericType) :
      Built (.ofLanes lanes type)
  | maskedLoad {source : Expr} (sourceBuilt : Built source) (mask : List Bool) (type : NumericType) :
      Built (.maskedLoad source mask type)
  | maskedStore {destination source : Expr} (destinationBuilt : Built destination)
      (sourceBuilt : Built source) (mask : List Bool) : Built (.maskedStore destination source mask)
  | fma {a b c : Expr} (aBuilt : Built a) (bBuilt : Built b) (cBuilt : Built c) : Built (.fma a b c)
  | conditional {condition positive negative : Expr} (conditionBuilt : Built condition)
      (positiveBuilt : Built positive) (negativeBuilt : Built negative) :
      Built (.conditional condition positive negative)

end Expr

namespace Context

variable {positions others thirds : List Nat} {text other third : (Nat → String) → String}
variable (context : Context)

/-- A text with an optional type is uniform if its text is traced. -/
theorem ofText_uniform (traced : Traced positions text) (type : Option DataType) :
    Uniform positions fun texts => (.ok (.ofText (text texts) type) : Except Fault Evaluated) := by
  cases type with
  | none => exact .ok traced (Evaluated.text "")
  | some type => exact .ok traced (Evaluated.typed (.computed "" type))

/-- An operator on two sides writes each of them once, whatever their texts are. -/
theorem apply_binary_uniform (builtin : context.rules = .empty) {operator : Operator}
    (notUnary : operator.isUnary = false) (left right : Evaluated) (leftTraced : Traced positions text)
    (rightTraced : Traced others other) :
    Uniform (positions ++ others) fun texts =>
      context.apply operator (some (left.withText (text texts)))
        (some (right.withText (other texts))) := by
  have plain := Lowering.render_traced leftTraced rightTraced notUnary context.language
  cases left with
  | text _ =>
    cases right with
    | text _ => exact ofText_uniform plain none
    | typed right => exact ofText_uniform plain (some (oneSidedType operator right.type))
  | typed left =>
    cases right with
    | text _ => exact ofText_uniform plain (some (oneSidedType operator left.type))
    | typed right =>
      exact .typed (Lowering.binary_uniform context left right leftTraced rightTraced builtin notUnary)

/-- The plain text of a unary operator has its only side once. -/
theorem render_unary_traced (traced : Traced positions text) {operator : Operator}
    (isUnary : operator.isUnary = true) (language : Language) :
    Traced positions fun texts => operator.render none (some (text texts)) language := by
  cases operator with
  | neg => exact (traced.before _).after _
  | plus => exact traced.before _
  | not =>
    simp only [Operator.render]
    split
    · exact (traced.before _).after _
    · exact (traced.before _).after _
  | addressOf =>
    simp only [Operator.render]
    split
    · exact traced.before _
    · exact traced.before _
  | deref => exact traced.before _
  | ret => exact traced.before _
  | assign | add | sub | mul | div | eq | ne | lt | le | gt | ge | and | or | index | select =>
    cases isUnary

/-- An operator in front of a side writes it once. -/
theorem apply_unary_uniform {operator : Operator} (isUnary : operator.isUnary = true) (right : Evaluated)
    (traced : Traced positions text) :
    Uniform positions fun texts => context.apply operator none (some (right.withText (text texts))) := by
  have plain := render_unary_traced traced isUnary context.language
  cases right with
  | text _ => exact ofText_uniform plain none
  | typed right => exact ofText_uniform plain (some (oneSidedType operator right.type))

/-- A choice writes each of its three parts once. -/
theorem conditional_uniform (condition positive negative : Evaluated)
    (conditionTraced : Traced positions text)
    (positiveTraced : Traced others other) (negativeTraced : Traced thirds third) :
    Uniform (positions ++ others ++ thirds) fun texts =>
      context.conditional (condition.withText (text texts)) (positive.withText (other texts))
        (negative.withText (third texts)) := by
  simp only [conditional, conditionalText, conditionalType, Evaluated.render_withText,
    Evaluated.type?_withText, bind_assoc, pure_bind]
  refine .bind_fixed fun _ _ => .bind_fixed fun type _ => ofText_uniform ?_ type
  exact ((((conditionTraced.before _).after _).append positiveTraced).after _).append negativeTraced
    |>.after _

/-- A broadcast writes its source once. -/
theorem broadcast_uniform (source : Evaluated) (traced : Traced positions text) (type : NumericType) :
    Uniform positions fun texts => context.broadcast (source.withText (text texts)) type := by
  cases source with
  | typed operand => exact .computed (Lowering.broadcastText_uniform context traced operand type) type
  | text _ =>
    exact .computed (Lowering.broadcastText_uniform context traced (.computed "" type.scalar) type) type

/-- A masked store writes both of its sides once. -/
theorem maskedStore_uniform (destination source : Operand) (destinationTraced : Traced positions text)
    (sourceTraced : Traced others other) (mask : List Bool) :
    Uniform (positions ++ others) fun texts =>
      context.maskedStore (destination.withText (text texts)) (source.withText (other texts)) mask := by
  simp only [maskedStore, Operand.withText_numeric?]
  cases source.numeric? with
  | none => exact .fail _
  | some type =>
    exact Lowering.maskedStore_uniform context destination source destinationTraced sourceTraced mask
      type

/-- A fused operation writes each of its three operands once, by one instruction or by two. -/
theorem fma_uniform (builtin : context.rules = .empty) (a b c : Evaluated)
    (aTraced : Traced positions text)
    (bTraced : Traced others other) (cTraced : Traced thirds third) :
    Uniform (positions ++ others ++ thirds) fun texts =>
      context.fma (a.withText (text texts)) (b.withText (other texts)) (c.withText (third texts)) := by
  have split : Uniform (positions ++ others ++ thirds) (fun texts => do
      let product ← context.apply .mul (some (a.withText (text texts))) (some (b.withText (other texts)))
      context.apply .add (some (c.withText (third texts))) (some product)) := by
    refine .bind (apply_binary_uniform context builtin rfl a b aTraced bTraced)
      fun product value traced => ?_
    exact (apply_binary_uniform context builtin rfl c product cTraced traced).perm List.perm_append_comm
  cases a <;> cases b <;> cases c <;> first
    | exact split
    | exact .typed (Lowering.fused_uniform context _ _ _ aTraced bTraced cTraced builtin)

/-- A value in a role that needs a type is uniform: whether there is a type does
not depend on the texts. -/
theorem require_uniform (value : Evaluated) (traced : Traced positions text) (role : Role) :
    Uniform positions fun texts => (value.withText (text texts)).require role := by
  cases value with
  | typed operand => exact .ok traced operand
  | text _ => exact .fail _

end Context

namespace Expr

variable {context : Context}

/-- A raw text is a leaf. A number is none: its text is fixed, or it is refused whatever the leaves
are. -/
theorem literal_uniform (constant : Literal) (start : Nat) :
    Uniform (List.range' start (leaves (.literal constant)))
      fun texts => (relabel texts start (.literal constant)).evaluate context := by
  cases constant with
  | raw text => exact .ok (.leaf start) (Evaluated.text "")
  | int number =>
    exact .ok (.chunk (Literal.int number).text) (Evaluated.typed (.constantOf "" _))
  | float number =>
    simp only [relabel, evaluate, Literal.evaluate]
    cases (Literal.float number).nonFinite? with
    | some refused => exact .fail _
    | none =>
      exact .ok (.chunk (Literal.float number).text)
        (Evaluated.typed (.constantOf "" (NumericType.float 64)))

/-- Several expressions fail for all texts of their leaves, or give one traced
text each. -/
theorem evaluateAll_uniform {lanes : List Expr}
    (each : ∀ lane ∈ lanes, ∀ start,
      Uniform (List.range' start (leaves lane)) fun texts => (relabel texts start lane).evaluate context)
    (start : Nat) :
    (∃ fault, ∀ texts, evaluateAll context (relabelAll texts start lanes) = .error fault) ∨
      ∃ parts lanesTexts, TracedAll parts lanesTexts ∧
        parts.flatten = List.range' start (leavesAll lanes) ∧ ∀ texts,
          evaluateAll context (relabelAll texts start lanes) = .ok (lanesTexts.map (· texts)) := by
  induction lanes generalizing start with
  | nil => exact .inr ⟨[], [], .nil, rfl, fun _ => rfl⟩
  | cons first rest ih =>
    have restEach : ∀ lane ∈ rest, ∀ start, Uniform (List.range' start (leaves lane))
        fun texts => (relabel texts start lane).evaluate context :=
      fun lane member => each lane (List.mem_cons_of_mem _ member)
    rcases each first (List.mem_cons_self ..) start with ⟨fault, failed⟩ | ⟨base, text, traced, succeeds⟩
    · refine .inl ⟨fault, fun texts => ?_⟩
      simp only [relabelAll, evaluateAll, failed]
      rfl
    · rcases ih restEach (start + leaves first) with
        ⟨fault, failed⟩ | ⟨parts, others, tracedAll, flat, restSucceeds⟩
      · refine .inl ⟨fault, fun texts => ?_⟩
        simp only [relabelAll, evaluateAll, succeeds, failed]
        rfl
      · refine .inr ⟨List.range' start (leaves first) :: parts, text :: others,
          .cons traced tracedAll, ?_, ?_⟩
        · rw [List.flatten_cons, flat, leavesAll, List.range'_append_1]
        · intro texts
          simp only [relabelAll, evaluateAll, succeeds, restSucceeds]
          cases base <;> rfl

/-- Evaluation of a built tree is uniform in the texts of its leaves. -/
theorem evaluate_uniform (builtin : context.rules = .empty) {expression : Expr}
    (built : expression.Built)
    (start : Nat) :
    Uniform (List.range' start expression.leaves)
      fun texts => (expression.relabel texts start).evaluate context := by
  induction built generalizing start with
  | literal constant => exact literal_uniform constant start
  | value operand => exact .ok (.leaf start) (Evaluated.typed operand)
  | @binary operator left right notUnary _ _ leftUniform rightUniform =>
    simp only [leaves, ← List.range'_append_1, relabel, evaluate]
    refine .bind (leftUniform start) fun leftValue leftText leftTraced => ?_
    refine .bind (rightUniform _) fun rightValue rightText rightTraced => ?_
    exact context.apply_binary_uniform builtin notUnary leftValue rightValue leftTraced rightTraced
  | unary isUnary _ rightUniform =>
    simp only [leaves, relabel, evaluate]
    refine .bind (rightUniform start) fun value text traced => ?_
    exact context.apply_unary_uniform isUnary value traced
  | load _ type sourceUniform =>
    simp only [leaves, relabel, evaluate]
    refine .bind (sourceUniform start) fun value text traced => ?_
    refine .bind (Context.require_uniform value traced _) fun source text traced => ?_
    exact .typed (.computed (Lowering.loadText_uniform context traced source type) type)
  | store _ _ destinationUniform sourceUniform =>
    simp only [leaves, ← List.range'_append_1, relabel, evaluate]
    refine .bind (destinationUniform start) fun value text traced => ?_
    refine .bind (Context.require_uniform value traced _) fun destination _ destinationTraced => ?_
    refine .bind (sourceUniform _) fun value text traced => ?_
    refine .bind (Context.require_uniform value traced _) fun source _ sourceTraced => ?_
    exact .typed (.computed
      (Lowering.storeText_uniform context destination source destinationTraced sourceTraced) source.type)
  | broadcast _ type sourceUniform =>
    simp only [leaves, relabel, evaluate]
    refine .bind (sourceUniform start) fun value text traced => ?_
    exact .typed (context.broadcast_uniform value traced type)
  | ofLanes _ type lanesUniform =>
    simp only [leaves, relabel, evaluate]
    rcases evaluateAll_uniform lanesUniform start with
      ⟨fault, failed⟩ | ⟨parts, lanes, traced, flat, succeeds⟩
    · exact .inl ⟨fault, fun texts => by simp only [failed]; rfl⟩
    · simp only [succeeds, ← flat]
      exact .typed (Lowering.ofLanes_uniform context traced type)
  | maskedLoad _ mask type sourceUniform =>
    simp only [leaves, relabel, evaluate]
    refine .bind (sourceUniform start) fun value text traced => ?_
    refine .bind (Context.require_uniform value traced _) fun source text traced => ?_
    exact .typed (Lowering.maskedLoad_uniform context traced source mask type)
  | maskedStore _ _ mask destinationUniform sourceUniform =>
    simp only [leaves, ← List.range'_append_1, relabel, evaluate]
    refine .bind (destinationUniform start) fun value text traced => ?_
    refine .bind (Context.require_uniform value traced _) fun destination _ destinationTraced => ?_
    refine .bind (sourceUniform _) fun value text traced => ?_
    refine .bind (Context.require_uniform value traced _) fun source _ sourceTraced => ?_
    exact .typed (context.maskedStore_uniform destination source destinationTraced sourceTraced mask)
  | fma _ _ _ aUniform bUniform cUniform =>
    simp only [leaves, ← List.range'_append_1, relabel, evaluate]
    refine .bind (aUniform start) fun a _ aTraced => ?_
    refine .bind (bUniform _) fun b _ bTraced => ?_
    refine .bind (cUniform _) fun c _ cTraced => ?_
    exact context.fma_uniform builtin a b c aTraced bTraced cTraced
  | conditional _ _ _ conditionUniform positiveUniform negativeUniform =>
    simp only [leaves, ← List.range'_append_1, relabel, evaluate]
    refine .bind_fixed fun _ _ => ?_
    refine .bind (conditionUniform start) fun condition _ conditionTraced => ?_
    refine .bind (positiveUniform _) fun positive _ positiveTraced => ?_
    refine .bind (negativeUniform _) fun negative _ negativeTraced => ?_
    exact context.conditional_uniform condition positive negative conditionTraced positiveTraced
      negativeTraced

/-- A built tree fails to render for all texts of its leaves, with one fault, or
renders by one template in which every leaf has exactly one slot. -/
theorem render_follows_template (builtin : context.rules = .empty) {expression : Expr}
    (built : expression.Built) :
    (∃ fault, ∀ texts, (expression.relabel texts 0).render context = .error fault) ∨
      ∃ template : Template, template.slots.Perm (List.range expression.leaves) ∧
        ∀ texts, (∀ position < expression.leaves, Text.PlainStart (texts position)) →
          (expression.relabel texts 0).render context = .ok (template.fill texts) := by
  rcases evaluate_uniform builtin built 0 with ⟨fault, failed⟩ | ⟨base, text, traced, succeeds⟩
  · exact .inl ⟨fault, fun texts => by simp only [render, failed]; rfl⟩
  · obtain ⟨template, slotsPerm, fills⟩ := traced
    rw [← List.range_eq_range'] at slotsPerm fills
    refine .inr ⟨template, slotsPerm, fun texts plain => ?_⟩
    rw [← fills texts fun position member => plain position (List.mem_range.mp member)]
    simp only [render, succeeds]
    cases base <;> rfl

/-- A fused product stored through a pointer. -/
def storedProduct : Expr :=
  let lane : NumericType := .float 32
  let vector (name : String) : Expr := .value (.named name (lane.vector 4))
  .store (.unary .deref (.value (.named "p" lane))) (.fma (vector "a") (vector "b") (vector "c"))

/-- In OpenCL C the product renders, whatever its leaves are called, by a
template of four slots. -/
theorem storedProduct_follows_template :
    let context : Context := { target := ⟨.openCl, .generic⟩, catalog := .empty }
    storedProduct.Built ∧
      ∃ template : Template, template.slots.Perm (List.range 4) ∧
        ∀ texts, (∀ position < 4, Text.PlainStart (texts position)) →
          (storedProduct.relabel texts 0).render context = .ok (template.fill texts) := by
  intro context
  have built : storedProduct.Built :=
    .store (.unary rfl (.value _)) (.fma (.value _) (.value _) (.value _))
  refine ⟨built, ?_⟩
  rcases @render_follows_template context rfl storedProduct built with ⟨fault, failed⟩ | follows
  · cases failed fun _ => "x"
  · exact follows

end Expr

end VectorKernel
