import VectorKernel.Json.Quoted

/-!
# String literals read back

A text written as a string literal is read back character by character. Each
character is written as one part of the literal, `readUnits_escape`, so the parts
denote the text whatever characters it has: none of them is taken for the closing
quote, for the start of an escape or for half of a surrogate pair.
-/

namespace VectorKernel.Json

/-- What a reader of literals finds with one more part in front. -/
def prepend (unit : CodeUnit) : Option (List CodeUnit × List Char) → Option (List CodeUnit × List Char) :=
  Option.map fun (units, rest) => (unit :: units, rest)

section Reading

variable (rest : List Char)

/-- An escape of one letter is read as the character it stands for. -/
theorem readUnits_short {letter char : Char} (short : escaped? letter = some char) :
    readUnits ('\\' :: letter :: rest) = prepend (.char char) (readUnits rest) := by
  have notCode : letter ≠ 'u' := by
    rintro rfl
    cases short
  rw [readUnits.eq_4 _ _ (fun _ _ _ _ _ code => absurd code notCode), short]
  cases readUnits rest <;> rfl

/-- An escape of four digits is read as their code. -/
theorem readUnits_code {a b c d : Char} {code : Nat} (read : hexValues? a b c d = some code) :
    readUnits ('\\' :: 'u' :: a :: b :: c :: d :: rest) = prepend (.code code) (readUnits rest) := by
  rw [readUnits.eq_3, read]
  cases readUnits rest <;> rfl

/-- A character that needs no escape is read as itself. -/
theorem readUnits_plain {char : Char} (notQuote : char ≠ '"') (notBackslash : char ≠ '\\')
    (notControl : ¬ char.toNat < 0x20) :
    readUnits (char :: rest) = prepend (.char char) (readUnits rest) := by
  rw [readUnits.eq_5 _ _ notQuote (fun _ _ _ _ _ escape => absurd escape notBackslash)
    (fun _ _ escape => absurd escape notBackslash)]
  simp only [notControl, notBackslash, decide_false, Bool.or_false, Bool.false_eq_true, if_false]
  cases readUnits rest <;> rfl

end Reading

/-- A digit to base sixteen is read as its value. -/
theorem hexValue?_hexDigit : ∀ value < 16, hexValue? (hexDigit value) = some value := by
  decide

/-- The two digits of a control character are read as its number. -/
theorem hexValues?_control {code : Nat} (control : code < 0x20) :
    hexValues? '0' '0' (hexDigit (code / 16)) (hexDigit (code % 16)) = some code := by
  have zero : hexValue? '0' = some 0 := rfl
  have high := hexValue?_hexDigit (code / 16) (by omega)
  have low := hexValue?_hexDigit (code % 16) (by omega)
  have parts : ((0 * 16 + 0) * 16 + code / 16) * 16 + code % 16 = code := by omega
  simp only [hexValues?, zero, high, low]
  exact congrArg some parts

/-- A part of a literal that stands for a character on its own. -/
inductive Denotes : CodeUnit → Char → Prop where
  | plain (char : Char) : Denotes (.char char) char
  | control {char : Char} (control : char.toNat < 0x20) : Denotes (.code char.toNat) char

/-- A unit that stands for a character gives this character, and the rest is read on its own. -/
theorem text?_cons {unit : CodeUnit} {char : Char} (denotes : Denotes unit char)
    (units : List CodeUnit) :
    CodeUnit.text? (unit :: units) = (CodeUnit.text? units).map (char :: ·) := by
  cases denotes with
  | plain => rfl
  | control control =>
    have below : char.toNat < 0xD800 := by omega
    rw [CodeUnit.text?.eq_def]
    simp [below]

/-- A written character is read as one part, which stands for it. -/
theorem readUnits_escape (char : Char) :
    ∃ unit, Denotes unit char ∧
      ∀ rest, readUnits (escape char ++ rest) = prepend unit (readUnits rest) := by
  unfold escape
  split
  case h_6 notQuote notBackslash _ _ _ =>
    -- Characters without a letter of their own: by number below the blank, else as they are.
    split
    · next backspace =>
      have same : char = .ofNat 0x8 := by rw [← backspace, Char.ofNat_toNat]
      exact ⟨_, .plain char, fun rest => readUnits_short rest (congrArg some same.symm)⟩
    split
    · next formFeed =>
      have same : char = .ofNat 0xC := by rw [← formFeed, Char.ofNat_toNat]
      exact ⟨_, .plain char, fun rest => readUnits_short rest (congrArg some same.symm)⟩
    split
    · next control =>
      exact ⟨_, .control control, fun rest => readUnits_code rest (hexValues?_control control)⟩
    · next notControl =>
      exact ⟨_, .plain char, fun rest => readUnits_plain rest notQuote notBackslash notControl⟩
  all_goals exact ⟨_, .plain _, fun rest => readUnits_short rest rfl⟩

/-- The inside of a literal is read up to the closing quote, and its parts denote
the text that was written. -/
theorem readUnits_escapes (chars rest : List Char) :
    ∃ units, readUnits (chars.flatMap escape ++ '"' :: rest) = some (units, rest) ∧
      CodeUnit.text? units = some chars := by
  induction chars with
  | nil => exact ⟨[], rfl, rfl⟩
  | cons char chars ih =>
    obtain ⟨units, readRest, denoted⟩ := ih
    obtain ⟨unit, denotes, readFirst⟩ := readUnits_escape char
    refine ⟨unit :: units, ?_, ?_⟩
    · rw [List.flatMap_cons, List.append_assoc, readFirst, readRest]
      rfl
    · rw [text?_cons denotes, denoted]
      rfl

end VectorKernel.Json
