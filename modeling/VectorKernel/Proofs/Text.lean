import Mathlib.Data.List.DropRight
import Mathlib.Data.List.TakeDrop
import VectorKernel.Text.Blank
import VectorKernel.Text.Numeral
import VectorKernel.Text.Split

/-!
# Parts of a text

What trimming, cutting, splitting and reading of numerals say about a text, in terms
of the pieces that the text consists of. Every lemma on an operation says what it makes of
a text with given pieces and that it finds such pieces wherever it succeeds, so that
readers built on it can be compared with a grammar.

The last section is about texts that can be arguments of a call: a call of them is
such a text again, and where one of them ends can be told from what stands behind it.
-/

namespace VectorKernel.Text

/-- `core` with characters of the class on both sides of it. -/
def Around (drops : Char → Bool) (core text : List Char) : Prop :=
  ∃ before after, text = before ++ core ++ after ∧ (∀ char ∈ before, drops char = true) ∧
    ∀ char ∈ after, drops char = true

/-- What is left of a text when characters of the class are taken off at both ends: it
neither starts nor ends with one. -/
structure Core (drops : Char → Bool) (core text : List Char) : Prop where
  around : Around drops core text
  first : ∀ char ∈ core.head?, drops char = false
  last : ∀ char ∈ core.getLast?, drops char = false

section Trimming

variable {drops : Char → Bool} {core : List Char} {text : String}

/-- Characters are dropped from the front and then from the end. -/
theorem toList_dropAround :
    (dropAround drops text).toList = (text.toList.dropWhile drops).rdropWhile drops := by
  simp [dropAround, dropTrailing, dropLeading, List.rdropWhile]

/-- Trimming drops nothing but characters of the class, at the ends. -/
theorem around_dropAround : Around drops (dropAround drops text).toList text.toList := by
  rw [toList_dropAround]
  refine ⟨text.toList.takeWhile drops, (text.toList.dropWhile drops).rtakeWhile drops, ?_,
    fun char => List.mem_takeWhile_imp, fun char => List.mem_rtakeWhile_imp⟩
  rw [List.append_assoc, List.rdropWhile_append_rtakeWhile, List.takeWhile_append_dropWhile]

/-- Trimming stops at the first and at the last character outside the class. -/
theorem toList_dropAround_of_around (around : Around drops core text.toList) (nonempty : core ≠ [])
    (first : drops (core.head nonempty) = false) (last : drops (core.getLast nonempty) = false) :
    (dropAround drops text).toList = core := by
  obtain ⟨before, after, shape, beforeDropped, afterDropped⟩ := around
  have started : (core ++ after).dropWhile drops = core ++ after := by
    obtain ⟨char, rest, rfl⟩ := List.exists_cons_of_ne_nil nonempty
    exact List.dropWhile_cons_of_neg (Bool.not_eq_true _ ▸ first)
  have ended : core.rdropWhile drops = core :=
    List.rdropWhile_eq_self_iff.mpr fun _ => Bool.not_eq_true _ ▸ last
  rw [toList_dropAround, shape, List.append_assoc, List.dropWhile_append_of_pos beforeDropped, started,
    List.rdropWhile, List.reverse_append, List.dropWhile_append_of_pos (by simpa using afterDropped)]
  exact ended

/-- What is left of a text starts at its first character outside the class. -/
theorem head?_dropAround : (dropAround drops text).toList.head? = text.toList.find? (!drops ·) := by
  rw [toList_dropAround, List.find?_eq_head?_dropWhile_not]
  simp only [Bool.not_not]
  cases shape : text.toList.dropWhile drops with
  | nil => rfl
  | cons char rest =>
    have kept : ¬ drops char = true := by
      have stops := List.head_dropWhile_not drops (l := text.toList) (by simp [shape])
      simpa [shape] using stops
    obtain ⟨ending, whole⟩ := List.rdropWhile_prefix drops (l := char :: rest)
    cases left : (char :: rest).rdropWhile drops with
    | nil => exact absurd (List.rdropWhile_eq_nil_iff.mp left char List.mem_cons_self) kept
    | cons first others =>
      rw [left] at whole
      exact congrArg some (List.cons.inj whole).1

/-- Trimming leaves the core of a text, and a text has no other core. -/
theorem core_iff {left : String} : Core drops left.toList text.toList ↔ dropAround drops text = left := by
  constructor
  · rintro ⟨around, first, last⟩
    rw [← String.toList_inj]
    by_cases empty : left.toList = []
    · obtain ⟨before, after, shape, beforeDropped, afterDropped⟩ := around
      rw [empty, List.append_nil] at shape
      have dropped : text.toList.dropWhile drops = [] := by
        rw [List.dropWhile_eq_nil_iff, shape]
        exact fun char member => (List.mem_append.mp member).elim (beforeDropped char) (afterDropped char)
      rw [toList_dropAround, dropped, empty]
      rfl
    · exact toList_dropAround_of_around around empty (first _ (List.head_mem_head? empty))
        (last _ (List.getLast_mem_getLast? empty))
  · rintro rfl
    refine ⟨around_dropAround, fun char start => ?_, fun char ending => ?_⟩
    · rw [head?_dropAround] at start
      simpa using List.find?_some start
    · rw [toList_dropAround] at ending
      obtain ⟨nonempty, rfl⟩ := List.mem_getLast?_eq_getLast ending
      simpa using List.rdropWhile_last_not drops (text.toList.dropWhile drops) nonempty

variable {before after : String}

/-- What trimming drops, as texts. -/
theorem exists_append_dropAround (drops : Char → Bool) (text : String) :
    ∃ before after : String, text = before ++ dropAround drops text ++ after ∧
      (∀ char ∈ before.toList, drops char = true) ∧ ∀ char ∈ after.toList, drops char = true := by
  have around : Around drops (dropAround drops text).toList text.toList := around_dropAround
  obtain ⟨before, after, shape, beforeDropped, afterDropped⟩ := around
  refine ⟨.ofList before, .ofList after, ?_, by simpa using beforeDropped, by simpa using afterDropped⟩
  rw [← String.toList_inj]
  simpa using shape

/-- Nothing is dropped from a text whose first and last character are not in the class. -/
theorem dropAround_eq_self (nonempty : text.toList ≠ [])
    (first : drops (text.toList.head nonempty) = false)
    (last : drops (text.toList.getLast nonempty) = false) :
    dropAround drops text = text := by
  rw [← String.toList_inj]
  exact toList_dropAround_of_around ⟨[], [], by simp, by simp, by simp⟩ nonempty first last

/-- Characters of the class in front of a text make no difference to what is left. -/
theorem dropAround_append_left (dropped : ∀ char ∈ before.toList, drops char = true) :
    dropAround drops (before ++ text) = dropAround drops text := by
  rw [← String.toList_inj, toList_dropAround, toList_dropAround, String.toList_append,
    List.dropWhile_append_of_pos dropped]

/-- Neither do characters of the class behind it. -/
theorem dropAround_append_right (dropped : ∀ char ∈ after.toList, drops char = true) :
    dropAround drops (text ++ after) = dropAround drops text := by
  rw [← String.toList_inj, toList_dropAround, toList_dropAround, String.toList_append, List.dropWhile_append]
  split
  · next nothing =>
    rw [List.isEmpty_iff.mp nothing, List.dropWhile_eq_nil_iff.mpr dropped]
  · rw [List.rdropWhile, List.reverse_append, List.dropWhile_append_of_pos (by simpa using dropped)]
    rfl

end Trimming

section Cutting

variable {mark : Char} {text before after : String}

/-- A part without the mark passes the test for each of its characters. -/
theorem ne_mark_iff {part : List Char} : mark ∉ part ↔ ∀ char ∈ part, (char != mark) = true := by
  simp only [bne_iff_ne, ne_eq]
  exact ⟨fun absent char member same => absent (same ▸ member), fun apart member => apart mark member rfl⟩

/-- A text is cut at the mark behind which the first piece ends. -/
theorem cutFirst_eq_some_iff :
    cutFirst mark text = some (before, after) ↔
      text.toList = before.toList ++ mark :: after.toList ∧ mark ∉ before.toList := by
  rw [cutFirst, List.span_eq_takeWhile_dropWhile]
  constructor
  · intro cut
    split at cut
    · next first found rest shape =>
      obtain ⟨rfl, behind⟩ := Prod.mk.inj shape
      obtain ⟨rfl, rfl⟩ := Prod.mk.inj (Option.some.inj cut)
      have isMark : found = mark := by
        have stops := List.head_dropWhile_not (· != mark) (l := text.toList) (by simp [behind])
        simpa [behind] using stops
      subst isMark
      refine ⟨?_, ?_⟩
      · rw [String.toList_ofList, String.toList_ofList, ← behind, List.takeWhile_append_dropWhile]
      · rw [String.toList_ofList, ne_mark_iff]
        exact fun char => List.mem_takeWhile_imp
    · cases cut
  · rintro ⟨shape, absent⟩
    rw [ne_mark_iff] at absent
    rw [shape, List.takeWhile_append_of_pos absent, List.dropWhile_append_of_pos absent]
    simp

/-- A text cannot be cut exactly if it has no mark. -/
theorem cutFirst_eq_none_iff : cutFirst mark text = none ↔ mark ∉ text.toList := by
  rw [cutFirst, List.span_eq_takeWhile_dropWhile, ne_mark_iff, ← List.dropWhile_eq_nil_iff]
  split
  · next shape => simp [(Prod.mk.inj shape).2]
  · next shape => simp [(Prod.mk.inj shape).2]

/-- Whether a text is trimmed before or after it is cut makes no difference to its
trimmed parts, unless trimming drops the mark. -/
theorem cutFirst_dropAround {drops : Char → Bool} (kept : drops mark = false) :
    (cutFirst mark (dropAround drops text)).map (Prod.map (dropAround drops) (dropAround drops)) =
      (cutFirst mark text).map (Prod.map (dropAround drops) (dropAround drops)) := by
  obtain ⟨front, back, shape, frontDropped, backDropped⟩ := exists_append_dropAround drops text
  have absent : ∀ part : String, (∀ char ∈ part.toList, drops char = true) → mark ∉ part.toList := by
    intro part dropped member
    rw [dropped mark member] at kept
    cases kept
  cases cut : cutFirst mark (dropAround drops text) with
  | none =>
    have nowhere : cutFirst mark text = none := by
      rw [cutFirst_eq_none_iff] at cut ⊢
      rw [shape, String.toList_append, String.toList_append]
      simp [cut, absent front frontDropped, absent back backDropped]
    rw [nowhere]
  | some parts =>
    obtain ⟨before, after⟩ := parts
    obtain ⟨core, first⟩ := cutFirst_eq_some_iff.mp cut
    have there : cutFirst mark text = some (front ++ before, after ++ back) := by
      refine cutFirst_eq_some_iff.mpr ⟨?_, ?_⟩
      · rw [shape, String.toList_append, String.toList_append, core]
        simp
      · rw [String.toList_append, List.mem_append]
        exact fun either => either.elim (absent front frontDropped) first
    rw [there, Option.map_some, Option.map_some, Prod.map, Prod.map,
      dropAround_append_left frontDropped, dropAround_append_right backDropped]

end Cutting

section Pieces

variable {mark : Char} {text before after : String}

/-- What is added at the end of a text without a mark goes to the last piece. -/
theorem splitOn_stem (mark : Char) (stem : List Char) :
    ∃ before last, ∀ ending, mark ∉ ending → (stem ++ ending).splitOn mark = before ++ [last ++ ending] := by
  induction stem with
  | nil => exact ⟨[], [], fun ending plain => List.splitOn_eq_singleton plain⟩
  | cons char stem ih =>
    obtain ⟨before, last, split⟩ := ih
    have step : ∀ ending, mark ∉ ending → (char :: stem ++ ending).splitOn mark =
        if char == mark then [] :: (before ++ [last ++ ending])
        else (before ++ [last ++ ending]).modifyHead (char :: ·) := by
      intro ending plain
      rw [← split ending plain]
      exact List.splitOn_cons_eq_if_modifyHead char (stem ++ ending)
    by_cases same : char == mark
    · exact ⟨[] :: before, last, fun ending plain => by rw [step ending plain, if_pos same]; rfl⟩
    · cases before with
      | nil => exact ⟨[], char :: last, fun ending plain => by rw [step ending plain, if_neg same]; rfl⟩
      | cons first before =>
        exact ⟨(char :: first) :: before, last, fun ending plain => by
          rw [step ending plain, if_neg same]; rfl⟩

/-- What is put behind a text without further marks is put behind its last piece. -/
theorem pieces_stem (mark : Char) (stem : String) :
    ∃ before last, ∀ ending : String, mark ∉ ending.toList →
      pieces mark (stem ++ ending) = before ++ [last ++ ending] := by
  obtain ⟨before, last, split⟩ := splitOn_stem mark stem.toList
  refine ⟨before.map .ofList, .ofList last, fun ending plain => ?_⟩
  rw [pieces, String.toList_append, split _ plain, List.map_append, List.map_singleton,
    String.ofList_append, String.ofList_toList]

/-- The pieces of a text that is put together around a mark are those of its parts. -/
theorem pieces_of_mark (shape : text.toList = before.toList ++ mark :: after.toList) :
    pieces mark text = pieces mark before ++ pieces mark after := by
  rw [pieces, pieces, pieces, shape, ← List.map_append, List.splitOn_eq_splitOnP, List.splitOn_eq_splitOnP,
    List.splitOn_eq_splitOnP, List.splitOnP_append_cons _ _ (by simp)]

/-- A text without marks is one piece. -/
theorem pieces_eq_singleton (absent : mark ∉ text.toList) : pieces mark text = [text] := by
  rw [pieces, List.splitOn_eq_singleton absent, List.map_singleton, String.ofList_toList]

/-- No piece holds the mark. -/
theorem notMem_of_mem_splitOn {chars part : List Char} (member : part ∈ chars.splitOn mark) :
    mark ∉ part := by
  induction chars generalizing part with
  | nil => simp_all
  | cons char chars ih =>
    rw [List.splitOn_cons_eq_if_modifyHead] at member
    split at member
    · rcases List.mem_cons.mp member with rfl | later
      · exact List.not_mem_nil
      · exact ih later
    · next other =>
      obtain ⟨first, more, split⟩ := List.exists_cons_of_ne_nil (List.splitOn_ne_nil mark chars)
      rw [split, List.modifyHead_cons] at member
      rcases List.mem_cons.mp member with rfl | later
      · have absent := ih (split ▸ List.mem_cons_self)
        simpa [absent] using fun same : mark = char => other (by simp [same])
      · exact ih (split ▸ List.mem_cons_of_mem _ later)

/-- The pieces of a text are the parts without a mark that it consists of when marks are put
between them. -/
theorem pieces_eq_iff {parts : List String} :
    pieces mark text = parts ↔ parts ≠ [] ∧ (∀ part ∈ parts, mark ∉ part.toList) ∧
      text.toList = [mark].intercalate (parts.map String.toList) := by
  constructor
  · rintro rfl
    have back : (pieces mark text).map String.toList = text.toList.splitOn mark := by
      simp [pieces, Function.comp_def]
    refine ⟨by simp [pieces], fun part member => ?_, ?_⟩
    · exact notMem_of_mem_splitOn (back ▸ List.mem_map_of_mem member)
    · rw [back, List.intercalate_splitOn]
  · rintro ⟨nonempty, absent, shape⟩
    rw [pieces, shape, List.splitOn_intercalate mark (by simpa using absent) (by simpa using nonempty)]
    simp [Function.comp_def]

/-- What is put before a text without a mark goes to the first piece. -/
theorem pieces_cons {char : Char} (other : char ≠ mark) (rest : List Char) :
    ∃ first more, pieces mark (.ofList rest) = first :: more ∧
      pieces mark (.ofList (char :: rest)) = (.singleton char ++ first) :: more := by
  obtain ⟨first, more, split⟩ := List.exists_cons_of_ne_nil (List.splitOn_ne_nil mark rest)
  refine ⟨.ofList first, more.map .ofList, ?_, ?_⟩
  · rw [pieces, String.toList_ofList, split, List.map_cons]
  · rw [pieces, String.toList_ofList, List.splitOn_cons_eq_if_modifyHead, if_neg (by simpa using other),
      split, List.modifyHead_cons, List.map_cons, ← String.ofList_toList (s := .singleton char),
      ← String.ofList_append]
    simp

/-- A character of joined texts is one of the separator or of a text. -/
theorem mem_join {separator : String} {texts : List String} {char : Char}
    (member : char ∈ (join separator texts).toList) :
    char ∈ separator.toList ∨ ∃ text ∈ texts, char ∈ text.toList := by
  fun_induction join separator texts with
  | case1 => cases member
  | case2 only => exact .inr ⟨only, List.mem_cons_self, member⟩
  | case3 first second rest ih =>
    rw [String.toList_append, String.toList_append, List.mem_append, List.mem_append] at member
    rcases member with (inFirst | inSeparator) | inRest
    · exact .inr ⟨first, List.mem_cons_self, inFirst⟩
    · exact .inl inSeparator
    · exact (ih inRest).imp_right fun ⟨text, among, inText⟩ => ⟨text, List.mem_cons_of_mem _ among, inText⟩

end Pieces

/-- The texts of a number: its decimal digits, any number of zeros before them, and
before these a plus sign or nothing. -/
inductive Numeral (value : Nat) : List Char → Prop where
  | plain (zeros : Nat) : Numeral value (List.replicate zeros '0' ++ Nat.toDigits 10 value)
  | plus (zeros : Nat) : Numeral value ('+' :: (List.replicate zeros '0' ++ Nat.toDigits 10 value))

section Numerals

variable {limit value : Nat} {digits text : List Char}

/-- The codes of digits stand together. -/
theorem toNat_of_isDigit {digit : Char} (isDigit : digit.isDigit = true) :
    '0'.toNat ≤ digit.toNat ∧ digit.toNat ≤ '9'.toNat := by
  simpa [Char.isDigit, UInt32.le_iff_toNat_le] using isDigit

/-- The value of a digit is below ten. -/
theorem digit_value_lt {digit : Char} (isDigit : digit.isDigit = true) :
    digit.toNat - '0'.toNat < 10 :=
  Nat.sub_lt_left_of_lt_add (toNat_of_isDigit isDigit).1
    (Nat.lt_succ_of_le (toNat_of_isDigit isDigit).2)

/-- A digit is the text of its value. -/
theorem toDigits_of_isDigit {digit : Char} (isDigit : digit.isDigit = true) :
    Nat.toDigits 10 (digit.toNat - '0'.toNat) = [digit] := by
  have small := digit_value_lt isDigit
  rw [Nat.toDigits_of_lt_base small, List.singleton_inj, ← Char.toNat_inj,
    Nat.toNat_digitChar_of_lt_ten small]
  exact Nat.add_sub_of_le (toNat_of_isDigit isDigit).1

/-- Digits are those of their value with zeros before them. The last digit is
looked at first, since a number is written from its front. -/
theorem eq_zeros_append_toDigits (nonempty : digits ≠ [])
    (areDigits : ∀ digit ∈ digits, digit.isDigit = true) :
    ∃ zeros, digits = List.replicate zeros '0' ++ Nat.toDigits 10 (digitsValue digits) := by
  induction digits using List.reverseRecOn with
  | nil => contradiction
  | append_singleton front digit ih =>
    have isDigit : digit.isDigit = true := areDigits digit (by simp)
    have last := toDigits_of_isDigit isDigit
    have value : digitsValue (front ++ [digit]) =
        10 * digitsValue front + (digit.toNat - '0'.toNat) := by
      simp [digitsValue]
    rcases Decidable.em (front = []) with rfl | more
    · exact ⟨0, by simpa [value, digitsValue] using last.symm⟩
    obtain ⟨zeros, shape⟩ := ih more fun other member => areDigits other (List.mem_append_left _ member)
    rcases Nat.eq_zero_or_pos (digitsValue front) with zero | positive
    · -- Up to here there are zeros only, and the last digit is the number.
      refine ⟨zeros + 1, ?_⟩
      rw [value, zero, Nat.mul_zero, Nat.zero_add, last, List.replicate_succ', shape, zero]
      rfl
    · refine ⟨zeros, ?_⟩
      rw [value, ← Nat.toDigits_append_toDigits (by decide) positive (digit_value_lt isDigit), last,
        ← List.append_assoc, ← shape]

/-- Leading zeros are digits as well. -/
theorem isDigit_of_mem {zeros : Nat} {digit : Char}
    (member : digit ∈ List.replicate zeros '0' ++ Nat.toDigits 10 value) : digit.isDigit = true := by
  rcases List.mem_append.mp member with member | member
  · rw [List.eq_of_mem_replicate member]
    rfl
  · exact Nat.isDigit_of_mem_toDigits (by decide) (by decide) member

/-- Leading zeros do not change a value. -/
theorem digitsValue_zeros_append (zeros : Nat) :
    digitsValue (List.replicate zeros '0' ++ Nat.toDigits 10 value) = value := by
  change Nat.ofDigitChars 10 _ 0 = value
  rw [Nat.ofDigitChars_append, Nat.ofDigitChars_replicate_zero, Nat.mul_zero,
    Nat.ofDigitChars_ten_toDigits]

/-- The digits of a number, with zeros before them, are the digits with its value. -/
theorem eq_zeros_append_toDigits_iff :
    (∃ zeros, digits = List.replicate zeros '0' ++ Nat.toDigits 10 value) ↔
      digits ≠ [] ∧ (∀ digit ∈ digits, digit.isDigit = true) ∧ digitsValue digits = value := by
  constructor
  · rintro ⟨zeros, rfl⟩
    exact ⟨by simp, fun digit => isDigit_of_mem, digitsValue_zeros_append zeros⟩
  · rintro ⟨nonempty, areDigits, rfl⟩
    exact eq_zeros_append_toDigits nonempty areDigits

/-- Behind a plus sign stand digits, with leading zeros or without. -/
theorem numeral_plus_iff : Numeral value ('+' :: digits) ↔
    ∃ zeros, digits = List.replicate zeros '0' ++ Nat.toDigits 10 value := by
  constructor
  · intro numeral
    generalize written : '+' :: digits = text at numeral
    cases numeral with
    | plain zeros =>
      have isDigit : '+'.isDigit = true := isDigit_of_mem (written ▸ List.mem_cons_self)
      cases isDigit
    | plus zeros => exact ⟨zeros, (List.cons.inj written).2⟩
  · rintro ⟨zeros, rfl⟩
    exact .plus zeros

/-- Without a plus sign a numeral is its digits, with leading zeros or without. -/
theorem numeral_iff_of_not_plus (notPlus : ∀ rest, digits ≠ '+' :: rest) : Numeral value digits ↔
    ∃ zeros, digits = List.replicate zeros '0' ++ Nat.toDigits 10 value := by
  constructor
  · intro numeral
    cases numeral with
    | plain zeros => exact ⟨zeros, rfl⟩
    | plus zeros => exact absurd rfl (notPlus _)
  · rintro ⟨zeros, rfl⟩
    exact .plain zeros

/-- Numerals are read with their value, if it is within the limit, and nothing else
is read. -/
theorem readNatural_eq_some_iff :
    readNatural limit text = some value ↔ Numeral value text ∧ value ≤ limit := by
  unfold readNatural
  dsimp only
  split
  · next digits =>
    rw [numeral_plus_iff, eq_zeros_append_toDigits_iff]
    grind
  · next notPlus =>
    rw [numeral_iff_of_not_plus notPlus, eq_zeros_append_toDigits_iff]
    grind

/-- A numeral consists of digits and perhaps a plus sign. -/
theorem Numeral.eq_plus_or_isDigit (numeral : Numeral value text) {char : Char} (member : char ∈ text) :
    char = '+' ∨ char.isDigit = true := by
  cases numeral with
  | plain zeros => exact .inr (isDigit_of_mem member)
  | plus zeros => exact (List.mem_cons.mp member).imp_right isDigit_of_mem

/-- No numeral holds a blank. -/
theorem Numeral.isBlank_eq_false (numeral : Numeral value text) {char : Char} (member : char ∈ text) :
    isBlank char = false := by
  rcases numeral.eq_plus_or_isDigit member with rfl | isDigit
  · rfl
  · have above : 48 ≤ char.toNat := (toNat_of_isDigit isDigit).1
    have below : char.toNat ≤ 57 := (toNat_of_isDigit isDigit).2
    simp only [isBlank, Bool.or_eq_false_iff, Bool.and_eq_false_iff, decide_eq_false_iff_not,
      beq_eq_false_iff_ne]
    omega

end Numerals

/-- The number of open brackets behind a character. A bracket that closes nothing and
a comma outside of brackets have no place in an argument. -/
def bracketStep (depth : Nat) (char : Char) : Option Nat :=
  if char = '(' then some (depth + 1)
  else if char = ')' then if depth = 0 then none else some (depth - 1)
  else if char = ',' ∧ depth = 0 then none
  else some depth

/-- A text that can be an argument of a call: its brackets match, and no comma stands
outside of them. -/
def Closed (text : List Char) : Prop :=
  text.foldlM bracketStep 0 = some 0

instance (text : List Char) : Decidable (Closed text) :=
  inferInstanceAs (Decidable (_ = _))

/-- A text that can be the arguments of a call, commas between them included. -/
def Enclosed (text : List Char) : Prop :=
  text.foldlM bracketStep 1 = some 1

/-- A text without brackets and commas, such as the name of an instruction. -/
def Plain (text : List Char) : Prop :=
  ∀ char ∈ text, char ∉ ['(', ')', ',']

-- Named, since there are finitely many characters and search could go through them all.
instance (text : List Char) : Decidable (Plain text) :=
  List.decidableBAll (· ∉ ['(', ')', ',']) text

section Arguments

variable {depth after : Nat} {text other rest behind : List Char} {mark otherMark : Char}

/-- Characters other than brackets and commas do not count. -/
theorem bracketStep_of_plain {char : Char} (plain : char ∉ ['(', ')', ',']) :
    bracketStep depth char = some depth := by
  simp only [List.mem_cons, List.not_mem_nil, or_false, not_or] at plain
  simp [bracketStep, plain]

/-- Within brackets the same text is passed at a greater depth. -/
theorem bracketStep_succ {char : Char} (step : bracketStep depth char = some after) :
    bracketStep (depth + 1) char = some (after + 1) := by
  unfold bracketStep at step ⊢
  grind

/-- What passes at a depth passes one level further in. -/
theorem foldlM_bracketStep_succ (passed : text.foldlM bracketStep depth = some after) :
    text.foldlM bracketStep (depth + 1) = some (after + 1) := by
  induction text generalizing depth with
  | nil =>
    obtain rfl := Option.some.inj passed
    rfl
  | cons char text ih =>
    obtain ⟨next, step, passed⟩ := Option.bind_eq_some_iff.mp passed
    rw [List.foldlM_cons, bracketStep_succ step]
    exact ih passed

/-- A text without brackets and commas is closed. -/
theorem Plain.closed (plain : Plain text) : Closed text := by
  unfold Closed
  induction text with
  | nil => rfl
  | cons char text ih =>
    obtain ⟨first, plain⟩ := List.forall_mem_cons.mp plain
    rw [List.foldlM_cons, bracketStep_of_plain first]
    exact ih plain

/-- Closed texts one behind the other are closed. -/
theorem Closed.append (closed : Closed text) (otherClosed : Closed other) : Closed (text ++ other) := by
  rw [Closed, List.foldlM_append, closed]
  exact otherClosed

theorem Closed.spaced (closed : Closed text) : Closed (' ' :: text) := closed

/-- A closed text may stand inside brackets. -/
theorem Closed.enclosed (closed : Closed text) : Enclosed text :=
  foldlM_bracketStep_succ closed

/-- Inside brackets, a comma may stand between two texts. -/
theorem Enclosed.comma (enclosed : Enclosed text) (otherEnclosed : Enclosed other) :
    Enclosed (text ++ ',' :: other) := by
  rw [Enclosed, List.foldlM_append, enclosed]
  exact otherEnclosed

/-- A call can itself be an argument. -/
theorem Enclosed.call (enclosed : Enclosed text) {name : List Char} (plain : Plain name) :
    Closed (name ++ '(' :: (text ++ [')'])) := by
  rw [Closed, List.foldlM_append, plain.closed]
  change (text ++ [')']).foldlM bracketStep 1 = some 0
  rw [List.foldlM_append, enclosed]
  rfl

/-- Texts of a class that never goes on behind a mark are told apart by their marks, be they
of characters or of bytes. -/
theorem eq_of_append_mark {α : Type} {text other rest behind : List α} {mark otherMark : α}
    (holds : List α → Prop) (ends : α → Prop)
    (stops : ∀ {first : List α} {char : α} {second : List α}, holds first → ends char →
      ¬ holds (first ++ char :: second))
    (textHolds : holds text) (otherHolds : holds other) (textEnds : ends mark)
    (otherEnds : ends otherMark) (same : text ++ mark :: rest = other ++ otherMark :: behind) :
    text = other ∧ mark = otherMark ∧ rest = behind := by
  rcases List.append_eq_append_iff.mp same with ⟨more, shape, tail⟩ | ⟨more, shape, tail⟩
  · cases more with
    | nil => simp_all
    | cons char more =>
      obtain ⟨rfl, -⟩ := List.cons.inj tail
      exact absurd (shape ▸ otherHolds) (stops textHolds textEnds)
  · cases more with
    | nil => simp_all
    | cons char more =>
      obtain ⟨rfl, -⟩ := List.cons.inj tail
      exact absurd (shape ▸ textHolds) (stops otherHolds otherEnds)

/-- An argument ends at the comma or bracket behind it, which it cannot pass itself. -/
theorem Closed.eq_of_append (closed : Closed text) (otherClosed : Closed other)
    (ends : bracketStep 0 mark = none) (otherEnds : bracketStep 0 otherMark = none)
    (same : text ++ mark :: rest = other ++ otherMark :: behind) :
    text = other ∧ mark = otherMark ∧ rest = behind := by
  refine eq_of_append_mark Closed (bracketStep 0 · = none) ?_ closed otherClosed ends otherEnds same
  intro first char second closed ends passed
  rw [Closed, List.foldlM_append, closed] at passed
  simp [ends] at passed

/-- A name ends at the bracket behind it. -/
theorem Plain.eq_of_append (plain : Plain text) (otherPlain : Plain other)
    (same : text ++ '(' :: rest = other ++ '(' :: behind) : text = other ∧ rest = behind := by
  have parts := eq_of_append_mark Plain (· = '(') ?_ plain otherPlain rfl rfl same
  · exact ⟨parts.1, parts.2.2⟩
  · rintro first char second - rfl plain
    exact plain '(' (by simp) (by simp)

end Arguments

end VectorKernel.Text
