import VectorKernel.Expr.Evaluate
import VectorKernel.Proofs.Template.Basic

/-!
# Results that follow a template

A result that depends on the texts of numbered leaves follows a template if
each leaf occurs in it exactly once and nothing else depends on the leaves.
`Traced` says this of a text and `Uniform` of a computation that may fail: it
fails for all texts, with one fault, or for none. Both are closed under the
ways in which lowerings put texts together, so a lowering keeps them if each of
its branches is chosen without a look at a text.
-/

namespace VectorKernel

open Template (fill slots)

/-- A text that, for leaves with a plain start, fills one template in which
every listed leaf has exactly one slot. -/
def Traced (positions : List Nat) (text : (Nat → String) → String) : Prop :=
  ∃ template : Template, (slots template).Perm positions ∧
    ∀ texts, (∀ position ∈ positions, Text.PlainStart (texts position)) →
      text texts = fill texts template

namespace Traced

variable {positions others : List Nat} {text other : (Nat → String) → String}

/-- A fixed text shows no leaf. -/
theorem chunk (fixed : String) : Traced [] fun _ => fixed :=
  ⟨[.chunk fixed], .refl _, fun _ _ => by simp [fill]⟩

/-- The text of a leaf shows it once. -/
theorem leaf (position : Nat) : Traced [position] fun texts => texts position :=
  ⟨[.slot position], .refl _, fun _ _ => by simp [fill]⟩

/-- Two texts show the leaves of both. -/
theorem append (first : Traced positions text) (second : Traced others other) :
    Traced (positions ++ others) fun texts => text texts ++ other texts := by
  obtain ⟨left, leftSlots, leftFill⟩ := first
  obtain ⟨right, rightSlots, rightFill⟩ := second
  refine ⟨left ++ right, ?_, ?_⟩
  · rw [Template.slots_append]
    exact leftSlots.append rightSlots
  · intro texts plain
    have leftText := leftFill texts fun position member =>
      plain position (List.mem_append_left _ member)
    have rightText := rightFill texts fun position member =>
      plain position (List.mem_append_right _ member)
    rw [Template.fill_append, ← leftText, ← rightText]

/-- The order in which leaves are shown does not count. -/
theorem perm (traced : Traced positions text) (same : positions.Perm others) : Traced others text := by
  obtain ⟨template, slotsPerm, fills⟩ := traced
  exact ⟨template, slotsPerm.trans same,
    fun texts plain => fills texts fun position member => plain position (same.mem_iff.mp member)⟩

/-- A fixed text in front shows no further leaf. -/
theorem before (fixed : String) (traced : Traced positions text) :
    Traced positions fun texts => fixed ++ text texts :=
  (chunk fixed).append traced

/-- A fixed text behind shows no further leaf. -/
theorem after (traced : Traced positions text) (fixed : String) :
    Traced positions fun texts => text texts ++ fixed := by
  have both := traced.append (chunk fixed)
  rwa [List.append_nil] at both

/-- A pointer to a traced text is traced, whatever the text starts with. -/
theorem pointer (traced : Traced positions text) :
    Traced positions fun texts => Text.pointer (text texts) := by
  obtain ⟨template, slotsPerm, fills⟩ := traced
  refine ⟨template.address, ?_, ?_⟩
  · rw [Template.slots_address]
    exact slotsPerm
  · intro texts plain
    rw [Template.fill_address fun position member => plain position (slotsPerm.mem_iff.mp member),
      ← fills texts plain]

end Traced

namespace Operand

/-- The operand with another text. -/
def withText (operand : Operand) (text : String) : Operand :=
  { operand with text }

variable (operand : Operand) (text : String)

@[simp] theorem withText_text : (operand.withText text).text = text := rfl

@[simp] theorem withText_type : (operand.withText text).type = operand.type := rfl

@[simp] theorem withText_numeric? : (operand.withText text).numeric? = operand.numeric? := rfl

-- The two flags are not stated by `rfl`, so that rewriting also reaches the instances that decide
-- on them.
@[simp] theorem withText_isVector : (operand.withText text).isVector = operand.isVector := by
  cases operand
  rfl

@[simp] theorem withText_literal : (operand.withText text).literal = operand.literal := by
  cases operand
  rfl

@[simp] theorem withText_alignment : (operand.withText text).alignment = operand.alignment := rfl

end Operand

namespace Evaluated

/-- The value with another text. -/
def withText : Evaluated → String → Evaluated
  | .typed operand, plain => .typed (operand.withText plain)
  | .text _, plain => .text plain

@[simp] theorem render_withText (value : Evaluated) (text : String) :
    (value.withText text).render = text := by
  cases value <;> rfl

@[simp] theorem type?_withText (value : Evaluated) (text : String) :
    (value.withText text).type? = value.type? := by
  cases value <;> rfl

end Evaluated

/-- Results that carry a text beside other data. -/
class Textual (α : Type) where
  /-- The same result with another text. -/
  withText : α → String → α

instance : Textual String := ⟨fun _ text => text⟩

instance : Textual Operand := ⟨Operand.withText⟩

instance : Textual Evaluated := ⟨Evaluated.withText⟩

open Textual (withText)

/-- A computation that fails with one fault whatever the texts of the leaves
are, or always succeeds with one result up to a traced text. -/
def Uniform {α : Type} [Textual α] (positions : List Nat)
    (run : (Nat → String) → Except Fault α) : Prop :=
  (∃ fault, ∀ texts, run texts = .error fault) ∨
    ∃ base text, Traced positions text ∧ ∀ texts, run texts = .ok (withText base (text texts))

namespace Uniform

variable {α β : Type} [Textual α] [Textual β] {positions others : List Nat}

theorem fail (fault : Fault) : Uniform positions fun _ => (.error fault : Except Fault α) :=
  .inl ⟨fault, fun _ => rfl⟩

/-- A result of which only the text depends on the leaves is uniform. -/
theorem ok {text : (Nat → String) → String} (traced : Traced positions text) (base : α) :
    Uniform positions fun texts => .ok (withText base (text texts)) :=
  .inr ⟨base, text, traced, fun _ => rfl⟩

theorem text {text : (Nat → String) → String} (traced : Traced positions text) :
    Uniform positions fun texts => (.ok (text texts) : Except Fault String) :=
  ok traced ""

/-- The order in which leaves are counted does not count. -/
theorem perm {run : (Nat → String) → Except Fault α} (uniform : Uniform positions run)
    (same : positions.Perm others) : Uniform others run := by
  rcases uniform with failed | ⟨base, text, traced, succeeds⟩
  · exact .inl failed
  · exact .inr ⟨base, text, traced.perm same, succeeds⟩

/-- A branch that does not look at the texts is the same for all of them. -/
theorem branch {condition : Prop} [Decidable condition] {yes no : (Nat → String) → Except Fault α}
    (whenTrue : condition → Uniform positions yes) (whenFalse : ¬condition → Uniform positions no) :
    Uniform positions fun texts => if condition then yes texts else no texts := by
  by_cases holds : condition
  · simp only [if_pos holds]
    exact whenTrue holds
  · simp only [if_neg holds]
    exact whenFalse holds

/-- A step that does not look at the texts is the same for all of them. -/
theorem bind_fixed {γ : Type} {step : Except Fault γ} {next : γ → (Nat → String) → Except Fault α}
    (rest : ∀ value, step = .ok value → Uniform positions (next value)) :
    Uniform positions fun texts => step >>= fun value => next value texts := by
  cases step with
  | error fault => exact fail fault
  | ok value => exact rest value rfl

/-- A uniform step may be followed by whatever is uniform for all its results. -/
theorem bind {run : (Nat → String) → Except Fault α} {next : α → (Nat → String) → Except Fault β}
    (uniform : Uniform positions run)
    (rest : ∀ base text, Traced positions text →
      Uniform others fun texts => next (withText base (text texts)) texts) :
    Uniform others fun texts => run texts >>= fun value => next value texts := by
  rcases uniform with ⟨fault, failed⟩ | ⟨base, text, traced, succeeds⟩
  · exact .inl ⟨fault, fun texts => by simp only [failed]; rfl⟩
  · have continued := rest base text traced
    have sameRun : (fun texts => run texts >>= fun value => next value texts) =
        fun texts => next (withText base (text texts)) texts := by
      funext texts
      rw [succeeds]
      rfl
    rw [sameRun]
    exact continued

/-- A uniform text with a type is a uniform operand. -/
theorem computed {run : (Nat → String) → Except Fault String} (uniform : Uniform positions run)
    (type : DataType) : Uniform positions fun texts => (run texts).map (Operand.computed · type) := by
  rcases uniform with ⟨fault, failed⟩ | ⟨base, text, traced, succeeds⟩
  · exact .inl ⟨fault, fun texts => by simp only [failed]; rfl⟩
  · exact .inr ⟨.computed "" type, text, traced, fun texts => by simp only [succeeds]; rfl⟩

/-- A uniform operand is a uniform value. -/
theorem typed {run : (Nat → String) → Except Fault Operand} (uniform : Uniform positions run) :
    Uniform positions fun texts => (run texts).map Evaluated.typed := by
  rcases uniform with ⟨fault, failed⟩ | ⟨base, text, traced, succeeds⟩
  · exact .inl ⟨fault, fun texts => by simp only [failed]; rfl⟩
  · exact .inr ⟨.typed base, text, traced, fun texts => by simp only [succeeds]; rfl⟩

end Uniform

end VectorKernel
