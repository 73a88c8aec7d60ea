import VectorKernel.Proofs.Reading.Grammar

/-!
# Meaning of C expressions

A tree of the grammar computes a number or a truth value once its names have
values in a ring. `Reads` ties a text to such a meaning: the text is cut into
tokens, the tokens derive a tree, and the tree has the meaning whatever ring,
quotients and relations are chosen. There is one lemma for each way in which
operators put texts together.
-/

namespace VectorKernel.Reading

universe u

/-- What an expression computes. -/
inductive Value (R : Type u) where
  | number (value : R)
  | truth (holds : Prop)

/-- The values of names, the quotients and the relations that expressions are
read with. -/
structure Interpretation (R : Type u) where
  name : String → R
  quotient : R → R → R
  relation : Comparison → R → R → Prop

variable {R : Type u} [Ring R]

/-- The value of a link between two values, if they are of its sort. -/
def Link.apply (interpretation : Interpretation R) : Link → Value R → Value R → Option (Value R)
  | .arithmetic operation, .number left, .number right =>
    some (.number (operation.apply interpretation.quotient left right))
  | .comparison relation, .number left, .number right =>
    some (.truth (interpretation.relation relation left right))
  | .connective junction, .truth left, .truth right => some (.truth (junction.apply left right))
  | _, _, _ => none

/-- The value of a tree, if every operator has operands of its sort. -/
def Tree.value (interpretation : Interpretation R) : Tree → Option (Value R)
  | .name text => some (.number (interpretation.name text))
  | .numeral value => some (.number value)
  | .minus part =>
    match part.value interpretation with
    | some (.number value) => some (.number (-value))
    | _ => none
  | .not part =>
    match part.value interpretation with
    | some (.truth holds) => some (.truth (¬ holds))
    | _ => none
  | .link operator left right =>
    (left.value interpretation).bind fun left =>
      (right.value interpretation).bind fun right => operator.apply interpretation left right

/-- A link that computes a number does so from two numbers. -/
theorem Link.apply_eq_number {interpretation : Interpretation R} {link : Link} {left right : Value R}
    {value : R} (computed : link.apply interpretation left right = some (.number value)) :
    ∃ operation x y, link = .arithmetic operation ∧ left = .number x ∧ right = .number y ∧
      value = operation.apply interpretation.quotient x y := by
  unfold Link.apply at computed
  split at computed <;> cases computed
  exact ⟨_, _, _, rfl, rfl, rfl, rfl⟩

/-- The layer of sums and differences. -/
def sumLevel : Nat := Arithmetic.level .add

/-- A sum may be written before another sum without parentheses: the tokens
derive a tree that adds to the left, and it has the value of the sum. -/
theorem Derives.sum {lefts rights : List Token} {left right : Tree}
    (leftSide : Derives sumLevel lefts left) (rightSide : Derives sumLevel rights right) :
    ∃ tree, Derives sumLevel (lefts ++ .link (.arithmetic .add) :: rights) tree ∧
      ∀ (R : Type u) [Ring R] (interpretation : Interpretation R) (x y : R),
        left.value interpretation = some (.number x) → right.value interpretation = some (.number y) →
          tree.value interpretation = some (.number (x + y)) := by
  generalize atLevel : sumLevel = level at rightSide
  -- The right side is taken apart along its left spine, which holds its own sums.
  induction rightSide with
  | name | numeral | group | minus | not => exact absurd atLevel (by decide)
  | @tighter level tokens tree above ih =>
    subst atLevel
    refine ⟨.link (.arithmetic .add) left tree, .link (.arithmetic .add) leftSide above, ?_⟩
    intro R _ interpretation x y leftValue rightValue
    simp [Tree.value, leftValue, rightValue, Link.apply, Arithmetic.apply]
  | @link link firsts seconds first second firstSide secondSide firstIh _ =>
    obtain ⟨sum, derivation, value⟩ := firstIh atLevel
    refine ⟨.link link sum second, ?_, ?_⟩
    · rw [← List.cons_append, ← List.append_assoc]
      exact .link link derivation secondSide
    · intro R _ interpretation x y leftValue rightValue
      obtain ⟨firstValue, firstEq, rest⟩ := Option.bind_eq_some_iff.mp rightValue
      obtain ⟨secondValue, secondEq, computed⟩ := Option.bind_eq_some_iff.mp rest
      obtain ⟨operation, a, b, rfl, rfl, rfl, rfl⟩ := Link.apply_eq_number computed
      have regrouped := Arithmetic.apply_add interpretation.quotient atLevel.symm x a b
      rw [Tree.value, value R interpretation x a leftValue firstEq, secondEq]
      simp only [Option.bind_some, Link.apply, regrouped]

/-- A value for every ring and every interpretation in it. -/
abbrev Meaning := ∀ (R : Type u) [Ring R], Interpretation R → Value R

/-- A number for every ring and every interpretation in it. -/
abbrev NumberMeaning := ∀ (R : Type u) [Ring R], Interpretation R → R

/-- A proposition for every ring and every interpretation in it. -/
abbrev TruthMeaning := ∀ (R : Type u) [Ring R], Interpretation R → Prop

/-- The meaning of an expression that computes a number. -/
def NumberMeaning.toMeaning (value : NumberMeaning.{u}) : Meaning.{u} :=
  fun R _ interpretation => .number (value R interpretation)

/-- The meaning of a condition. -/
def TruthMeaning.toMeaning (holds : TruthMeaning.{u}) : Meaning.{u} :=
  fun R _ interpretation => .truth (holds R interpretation)

/-- A text that reads, as an expression of a layer, with a meaning. -/
def Reads (level : Nat) (text : List Char) (meaning : Meaning.{u}) : Prop :=
  ∃ tokens tree, scan text = some tokens ∧ Derives level tokens tree ∧
    ∀ (R : Type u) [Ring R] (interpretation : Interpretation R),
      tree.value interpretation = some (meaning R interpretation)

namespace Reads

variable {level : Nat} {text left right : List Char} {meaning leftMeaning rightMeaning : Meaning.{u}}

/-- What is read at a level is read at every looser one. -/
theorem lower {lowest : Nat} (reads : Reads level text meaning) (below : lowest ≤ level) :
    Reads lowest text meaning := by
  obtain ⟨tokens, tree, scanned, derivation, value⟩ := reads
  exact ⟨tokens, tree, scanned, derivation.lower below, value⟩

/-- A meaning may be replaced by one with the same value in every ring. -/
theorem of_eq {other : Meaning.{u}} (reads : Reads level text meaning)
    (same : ∀ (R : Type u) [Ring R] (interpretation : Interpretation R),
      meaning R interpretation = other R interpretation) : Reads level text other := by
  obtain ⟨tokens, tree, scanned, derivation, value⟩ := reads
  refine ⟨tokens, tree, scanned, derivation, fun R _ interpretation => ?_⟩
  rw [value, same]

/-- A blank in front of a text does not count. -/
theorem blank (reads : Reads level text meaning) : Reads level (' ' :: text) meaning := by
  obtain ⟨tokens, tree, scanned, derivation, value⟩ := reads
  exact ⟨tokens, tree, (scan_blank text).trans scanned, derivation, value⟩

/-- An identifier is read as its value. -/
theorem name {identifier : String} (valid : isIdentifier identifier = true) :
    Reads unaryLevel identifier.toList
      (NumberMeaning.toMeaning fun _ _ interpretation => interpretation.name identifier) :=
  ⟨_, _, scan_identifier valid, .name identifier, fun _ _ _ => rfl⟩

/-- Digits are read as their number. -/
theorem numeral (value : Nat) :
    Reads unaryLevel (Nat.toDigits 10 value) (NumberMeaning.toMeaning fun _ _ _ => value) :=
  ⟨_, _, scan_numeral value, .numeral value, fun _ _ _ => rfl⟩

/-- Parentheses around a text make it an operand of any operator. -/
theorem group (reads : Reads 0 text meaning) : Reads unaryLevel ('(' :: (text ++ [')'])) meaning := by
  obtain ⟨tokens, tree, scanned, derivation, value⟩ := reads
  refine ⟨_, tree, ?_, derivation.group, value⟩
  rw [scan_opening, scan_append (.inr (.inr rfl)) scanned, scan_closing]
  simp [scan]

/-- A minus sign before a text that it cannot form another token with. -/
theorem minus {first : Char} (apart : ∀ entry ∈ doubles, entry.1.2 ≠ first) {value : NumberMeaning.{u}}
    (reads : Reads unaryLevel (first :: text) value.toMeaning) :
    Reads unaryLevel ('-' :: first :: text)
      (NumberMeaning.toMeaning fun R _ interpretation => -value R interpretation) := by
  obtain ⟨tokens, tree, scanned, derivation, computed⟩ := reads
  refine ⟨_, _, ?_, derivation.minus, fun R _ interpretation => ?_⟩
  · rw [scan_minus apart, scanned, Option.map_some]
  · rw [Tree.value, computed]
    rfl

/-- A negation before a group. -/
theorem not {holds : TruthMeaning.{u}} (reads : Reads unaryLevel ('(' :: text) holds.toMeaning) :
    Reads unaryLevel ('!' :: '(' :: text)
      (TruthMeaning.toMeaning fun R _ interpretation => ¬ holds R interpretation) := by
  obtain ⟨tokens, tree, scanned, derivation, computed⟩ := reads
  refine ⟨_, _, ?_, derivation.not, fun R _ interpretation => ?_⟩
  · rw [scan_bang, scanned, Option.map_some]
  · rw [Tree.value, computed]
    rfl

/-- A link between blanks, with sides of the layers that it asks for. -/
theorem link (operator : Link) (leftReads : Reads operator.level left leftMeaning)
    (rightReads : Reads (operator.level + 1) right rightMeaning)
    (applies : ∀ (R : Type u) [Ring R] (interpretation : Interpretation R),
      operator.apply interpretation (leftMeaning R interpretation) (rightMeaning R interpretation) =
        some (meaning R interpretation)) :
    Reads operator.level (left ++ ' ' :: (operator.symbol ++ ' ' :: right)) meaning := by
  obtain ⟨lefts, leftTree, leftScanned, leftDerivation, leftValue⟩ := leftReads
  obtain ⟨rights, rightTree, rightScanned, rightDerivation, rightValue⟩ := rightReads
  refine ⟨_, _, ?_, .link operator leftDerivation rightDerivation, fun R _ interpretation => ?_⟩
  · exact scan_linked operator leftScanned rightScanned
  · rw [Tree.value, leftValue, rightValue]
    exact applies R interpretation

/-- A sum of two texts that may be sums themselves. -/
theorem sum {x y : NumberMeaning.{u}} (leftReads : Reads sumLevel left x.toMeaning)
    (rightReads : Reads sumLevel right y.toMeaning) :
    Reads sumLevel (left ++ ' ' :: '+' :: ' ' :: right)
      (NumberMeaning.toMeaning fun R _ interpretation => x R interpretation + y R interpretation) := by
  obtain ⟨lefts, leftTree, leftScanned, leftDerivation, leftValue⟩ := leftReads
  obtain ⟨rights, rightTree, rightScanned, rightDerivation, rightValue⟩ := rightReads
  obtain ⟨tree, derivation, value⟩ := leftDerivation.sum rightDerivation
  refine ⟨_, tree, scan_linked (.arithmetic .add) leftScanned rightScanned, derivation, ?_⟩
  intro R _ interpretation
  exact value R interpretation _ _ (leftValue R interpretation) (rightValue R interpretation)

end Reads

end VectorKernel.Reading
