import VectorKernel.Operand

/-!
# Templates

A template is text with numbered slots. Filling it puts a text into each slot.
The pointer to a filled template is again a filled template with the same
slots, provided that the texts in the slots begin with a character that the
pointer rule leaves alone.
-/

namespace VectorKernel

/-- A piece of a template: fixed text, or a slot. -/
inductive Piece where
  | chunk (text : String)
  | slot (position : Nat)
  deriving DecidableEq, Repr

/-- Text with numbered slots. -/
abbrev Template := List Piece

namespace Template

/-- The template with a text in each slot. -/
def fill (texts : Nat → String) : Template → String
  | [] => ""
  | .chunk text :: rest => text ++ fill texts rest
  | .slot position :: rest => texts position ++ fill texts rest

/-- The slots of a template, from first to last. -/
def slots : Template → List Nat
  | [] => []
  | .chunk _ :: rest => slots rest
  | .slot position :: rest => position :: slots rest

@[simp] theorem fill_append (texts : Nat → String) (left right : Template) :
    fill texts (left ++ right) = fill texts left ++ fill texts right := by
  induction left with
  | nil => simp [fill]
  | cons piece left ih => cases piece <;> simp [fill, ih, String.append_assoc]

@[simp] theorem slots_append (left right : Template) :
    slots (left ++ right) = slots left ++ slots right := by
  induction left with
  | nil => rfl
  | cons piece left ih => cases piece <;> simp [slots, ih]

/-- The template without the blanks at its start. A slot is no blank. -/
def trimmed : Template → Template
  | [] => []
  | .chunk text :: rest =>
    if Text.trimStart text = "" then trimmed rest else .chunk (Text.trimStart text) :: rest
  | .slot position :: rest => .slot position :: rest

/-- The template of a pointer to what the template stands for: a dereference at
its start is dropped, and anything else gets an address-of. -/
def address (template : Template) : Template :=
  match trimmed template with
  | [] => [.chunk "&"]
  | .chunk text :: rest =>
    match text.toList with
    | '*' :: pointer => trimmed (.chunk (.ofList pointer) :: rest)
    | _ => .chunk "&" :: .chunk text :: rest
  | .slot position :: rest => .chunk "&" :: .slot position :: rest

@[simp] theorem slots_trimmed (template : Template) : slots (trimmed template) = slots template := by
  fun_induction trimmed template <;> simp_all [slots]

@[simp] theorem slots_address (template : Template) : slots (address template) = slots template := by
  rw [← slots_trimmed template]
  unfold address
  split
  · next empty => simp [empty, slots]
  · next text rest shape => split <;> simp [shape, slots]
  · next position rest shape => simp [shape, slots]

end Template

namespace Text

/-- The text of a pointer to an operand with this text. Nothing else of the operand
matters. -/
def pointer (text : String) : String :=
  (Operand.computed text (.handle "")).address

/-- Whether a text is not empty and begins with neither a blank nor a star. -/
def PlainStart (text : String) : Prop :=
  ∃ first rest, text.toList = first :: rest ∧ isBlank first = false ∧ first ≠ '*'

/-- Trimming goes on behind a text that is all blank. -/
theorem trimStart_append_of_eq_empty {left : String} (blank : trimStart left = "") (right : String) :
    trimStart (left ++ right) = trimStart right := by
  have nothing : left.toList.dropWhile isBlank = [] := by
    simpa [trimStart, dropLeading] using blank
  simp [trimStart, dropLeading, List.dropWhile_append, nothing]

/-- Trimming stops inside a text that is not all blank. -/
theorem trimStart_append_of_ne_empty {left : String} (notBlank : trimStart left ≠ "") (right : String) :
    trimStart (left ++ right) = trimStart left ++ right := by
  have something : left.toList.dropWhile isBlank ≠ [] := by
    simpa [trimStart, dropLeading] using notBlank
  simp [trimStart, dropLeading, List.dropWhile_append, something]

/-- A text that starts with no blank is not trimmed. -/
theorem PlainStart.trimStart_append {left : String} (plain : PlainStart left) (right : String) :
    trimStart (left ++ right) = left ++ right := by
  obtain ⟨first, rest, shape, notBlank, -⟩ := plain
  apply String.toList_injective
  simp [trimStart, dropLeading, shape, notBlank]

/-- A star at the start is dropped, with the blanks around it. -/
theorem pointer_of_star {text pointed : String} (star : trimStart text = "*" ++ pointed) :
    pointer text = trimStart pointed := by
  simp [pointer, Operand.address, Operand.computed, star]

/-- Without a star at the start the text gets an address-of. -/
theorem pointer_of_first {text rest : String} {first : Char} (notStar : first ≠ '*')
    (shape : trimStart text = String.singleton first ++ rest) :
    pointer text = "&" ++ trimStart text := by
  have chars : (trimStart text).toList = first :: rest.toList := by simp [shape]
  simp only [pointer, Operand.address, Operand.computed, chars]
  split
  · next pointed equal => exact absurd (List.cons.inj equal).1 notStar
  · rfl

/-- The address of nothing is the mark alone. -/
theorem pointer_of_empty {text : String} (empty : trimStart text = "") : pointer text = "&" := by
  simp [pointer, Operand.address, Operand.computed, empty]

end Text

namespace Template

variable {texts : Nat → String}

/-- Trimming before or after the slots are filled makes no difference. -/
theorem fill_trimmed {template : Template}
    (plain : ∀ position ∈ slots template, Text.PlainStart (texts position)) :
    fill texts (trimmed template) = Text.trimStart (fill texts template) := by
  fun_induction trimmed template with
  | case1 => rfl
  | case2 text rest blank ih =>
    rw [ih plain, fill, Text.trimStart_append_of_eq_empty blank]
  | case3 text rest notBlank => rw [fill, fill, Text.trimStart_append_of_ne_empty notBlank]
  | case4 position rest =>
    have start := plain position (List.mem_cons_self ..)
    rw [fill, start.trimStart_append]

/-- A trimmed template never starts with an empty chunk. -/
theorem chunk_ne_empty {template rest : Template} {text : String}
    (shape : trimmed template = .chunk text :: rest) : text ≠ "" := by
  fun_induction trimmed template with
  | case1 => cases shape
  | case2 _ _ _ ih => exact ih shape
  | case3 _ _ notBlank =>
    cases shape
    exact notBlank
  | case4 => cases shape

/-- The pointer to a filled template is the filled template of a pointer. -/
theorem fill_address {template : Template}
    (plain : ∀ position ∈ slots template, Text.PlainStart (texts position)) :
    fill texts (address template) = Text.pointer (fill texts template) := by
  have trimmedFill := fill_trimmed plain
  rw [← slots_trimmed] at plain
  unfold address
  split
  · next empty =>
    rw [empty] at trimmedFill
    exact (Text.pointer_of_empty trimmedFill.symm).symm
  · next text rest shape =>
    have nonempty := chunk_ne_empty shape
    rw [shape] at trimmedFill plain
    split
    · next pointed star =>
      have text_eq : text = "*" ++ .ofList pointed := String.toList_injective (by simp [star])
      have behind : ∀ position ∈ slots (.chunk (.ofList pointed) :: rest),
          Text.PlainStart (texts position) := plain
      rw [fill_trimmed behind]
      refine (Text.pointer_of_star ?_).symm
      rw [← trimmedFill, fill, text_eq, String.append_assoc, fill]
    · next notStar =>
      obtain ⟨first, others, chars⟩ :=
        List.exists_cons_of_ne_nil (mt String.toList_eq_nil_iff.mp nonempty)
      have text_eq : text = String.singleton first ++ .ofList others :=
        String.toList_injective (by simp [chars])
      have apart : first ≠ '*' := by
        rintro rfl
        exact notStar others chars
      have starts : Text.trimStart (fill texts template) =
          String.singleton first ++ (.ofList others ++ fill texts rest) := by
        rw [← trimmedFill, fill, text_eq, String.append_assoc]
      rw [Text.pointer_of_first apart starts, ← trimmedFill]
      rfl
  · next position rest shape =>
    rw [shape] at trimmedFill plain
    obtain ⟨first, others, chars, -, apart⟩ := plain position (List.mem_cons_self ..)
    have text_eq : texts position = String.singleton first ++ .ofList others :=
      String.toList_injective (by simp [chars])
    have starts : Text.trimStart (fill texts template) =
        String.singleton first ++ (.ofList others ++ fill texts rest) := by
      rw [← trimmedFill, fill, text_eq, String.append_assoc]
    rw [Text.pointer_of_first apart starts, ← trimmedFill]
    rfl

end Template

end VectorKernel
