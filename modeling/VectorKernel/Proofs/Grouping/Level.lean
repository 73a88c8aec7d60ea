import VectorKernel.Proofs.Grouping.Regroup

/-!
# Trees that keep their grouping

A tree is grouped if every operand binds as tightly as its place demands. Sums are
left alone: a sum may have a sum on either side. Regrouping leaves a grouped tree as it
is up to where sums stand in parentheses (`reassociated_regroup`), and makes every
other tree into a grouped one (`grouped_regroup`), which is then a different tree.
-/

namespace VectorKernel.Grouping

open Reading (unaryLevel)

/-- Every link binds weaker than a star. -/
theorem Link.level_lt_unaryLevel (link : Link) : link.level < unaryLevel :=
  link.toReading.level_lt_unaryLevel

/-- Sums bind tighter than all comparisons. -/
theorem Link.eq_sum {link : Link} (tight : Link.sum.level ≤ link.level) : link = .sum := by
  cases link with
  | sum => rfl
  | comparison relation => cases relation <;> exact absurd tight (by decide)

/-- How tightly the right side of a link has to bind if links group to the left. -/
def Link.strictRight (link : Link) : Nat :=
  link.level + 1

/-- How tightly the right side of a link has to bind if sums group to either side. -/
def Link.looseRight : Link → Nat
  | .sum => Link.sum.level
  | .comparison relation => (Link.comparison relation).level + 1

/-- Left grouping asks for more on the right side of a link than reading back needs. -/
theorem Link.looseRight_le (link : Link) : link.looseRight ≤ link.strictRight := by
  cases link with
  | sum => exact Nat.le_succ _
  | comparison relation => exact Nat.le_refl _

namespace Tree

/-- How tightly a tree binds: an access to an element more than a dereference, and both
more than links. -/
def level : Tree → Nat
  | .binary link _ _ => link.level
  | .deref _ => unaryLevel
  | .name _ | .index _ _ => unaryLevel + 1

/-- Whether all operands bind as tightly as their places demand, where `right` says what
the right side of a link demands. -/
def Fits (right : Link → Nat) : Tree → Prop
  | .name _ => True
  | .deref part => part.Fits right ∧ unaryLevel ≤ part.level
  | .index base position => base.Fits right ∧ unaryLevel < base.level ∧ position.Fits right
  | .binary link first second =>
    first.Fits right ∧ link.level ≤ first.level ∧ second.Fits right ∧ right link ≤ second.level

instance decidableFits (right : Link → Nat) : (tree : Tree) → Decidable (tree.Fits right)
  | .name _ => .isTrue trivial
  | .deref part =>
    have := decidableFits right part
    inferInstanceAs (Decidable (_ ∧ _))
  | .index base position =>
    have := decidableFits right base
    have := decidableFits right position
    inferInstanceAs (Decidable (_ ∧ _ ∧ _))
  | .binary _ first second =>
    have := decidableFits right first
    have := decidableFits right second
    inferInstanceAs (Decidable (_ ∧ _ ∧ _ ∧ _))

/-- Trees that are grouped as C groups their text, sums on either side. -/
abbrev Grouped (tree : Tree) : Prop :=
  tree.Fits Link.looseRight

/-- Trees that are grouped as C groups their text, sums to the left. -/
abbrev LeftGrouped (tree : Tree) : Prop :=
  tree.Fits Link.strictRight

/-- Trees that fit strict demands fit looser ones. -/
theorem Fits.mono {loose strict : Link → Nat} (weaker : ∀ link, loose link ≤ strict link) {tree : Tree}
    (fits : tree.Fits strict) : tree.Fits loose := by
  induction tree with
  | name => trivial
  | deref part ih => exact ⟨ih fits.1, fits.2⟩
  | index base position baseIh positionIh => exact ⟨baseIh fits.1, fits.2.1, positionIh fits.2.2⟩
  | binary link first second firstIh secondIh =>
    obtain ⟨firstFits, left, secondFits, right⟩ := fits
    exact ⟨firstIh firstFits, left, secondIh secondFits, (weaker link).trans right⟩

/-- Trees grouped to the left are grouped. -/
theorem LeftGrouped.grouped {tree : Tree} (fits : tree.LeftGrouped) : tree.Grouped :=
  Fits.mono Link.looseRight_le fits

section Regrouping

variable {tree first second operand position : Tree} {link : Link}

/-- On a tree that binds tightly, a star goes to the whole. -/
theorem starred_eq (tight : unaryLevel ≤ tree.level) : tree.starred = .deref tree := by
  cases tree with
  | binary link left right => exact absurd tight (Nat.not_le_of_lt link.level_lt_unaryLevel)
  | name | deref | index => rfl

/-- On a tree that binds more tightly than a star, a subscript goes to the whole. -/
theorem subscripted_eq (tight : unaryLevel < tree.level) : tree.subscripted position = .index tree position := by
  cases tree with
  | binary link left right => exact absurd tight (Nat.lt_asymm link.level_lt_unaryLevel)
  | deref part => exact absurd tight (Nat.lt_irrefl _)
  | name | index => rfl

/-- A tree that binds as tightly as a link becomes its left side. -/
theorem extend_eq (tight : link.level ≤ tree.level) : tree.extend link operand = .binary link tree operand := by
  cases tree with
  | binary outer left right => exact if_neg (Nat.not_lt_of_le tight)
  | name | deref | index => rfl

/-- A star in front keeps a tree grouped, and no tree with a star binds more tightly than one. -/
theorem LeftGrouped.starred (fits : tree.LeftGrouped) :
    tree.starred.LeftGrouped ∧ tree.starred.level = min unaryLevel tree.level := by
  induction tree with
  | binary link left right leftIh =>
    obtain ⟨leftFits, leftTight, rightFits, rightTight⟩ := fits
    obtain ⟨starredFits, starredLevel⟩ := leftIh leftFits
    have below := link.level_lt_unaryLevel
    refine ⟨⟨starredFits, ?_, rightFits, rightTight⟩, ?_⟩
    · omega
    · exact (Nat.min_eq_right (Nat.le_of_lt below)).symm
  | name => exact ⟨⟨fits, Nat.le_succ _⟩, rfl⟩
  | deref => exact ⟨⟨fits, Nat.le_refl _⟩, rfl⟩
  | index => exact ⟨⟨fits, Nat.le_succ _⟩, rfl⟩

/-- A subscript keeps a tree grouped, at its level. -/
theorem LeftGrouped.subscripted (fits : tree.LeftGrouped) (positionFits : position.LeftGrouped) :
    (tree.subscripted position).LeftGrouped ∧ (tree.subscripted position).level = tree.level := by
  induction tree with
  | binary link left right _ rightIh =>
    obtain ⟨leftFits, leftTight, rightFits, rightTight⟩ := fits
    obtain ⟨subscriptedFits, subscriptedLevel⟩ := rightIh rightFits
    exact ⟨⟨leftFits, leftTight, subscriptedFits, subscriptedLevel ▸ rightTight⟩, rfl⟩
  | deref part ih =>
    obtain ⟨partFits, partTight⟩ := fits
    obtain ⟨subscriptedFits, subscriptedLevel⟩ := ih partFits
    exact ⟨⟨subscriptedFits, subscriptedLevel ▸ partTight⟩, rfl⟩
  | name => exact ⟨⟨fits, Nat.lt_succ_self _, positionFits⟩, rfl⟩
  | index => exact ⟨⟨fits, Nat.lt_succ_self _, positionFits⟩, rfl⟩

/-- One operand more keeps a tree grouped, at the lower one of two levels. -/
theorem LeftGrouped.extend (fits : tree.LeftGrouped) (operandFits : operand.LeftGrouped)
    (tight : link.level < operand.level) :
    (tree.extend link operand).LeftGrouped ∧
      (tree.extend link operand).level = min link.level tree.level := by
  induction tree with
  | binary outer left right _ rightIh =>
    obtain ⟨leftFits, leftTight, rightFits, rightTight⟩ := fits
    obtain ⟨extendedFits, extendedLevel⟩ := rightIh rightFits
    -- Under a looser link the extended side still binds tighter than that link.
    by_cases below : outer.level < link.level
    · simp only [Tree.extend, if_pos below, level]
      refine ⟨⟨leftFits, leftTight, extendedFits, ?_⟩, ?_⟩
      · unfold Link.strictRight at rightTight ⊢
        omega
      · omega
    · simp only [Tree.extend, if_neg below, level]
      exact ⟨⟨⟨leftFits, leftTight, rightFits, rightTight⟩, Nat.le_of_not_lt below, operandFits, tight⟩,
        (Nat.min_eq_left (Nat.le_of_not_lt below)).symm⟩
  | deref =>
    have below := Nat.le_of_lt link.level_lt_unaryLevel
    exact ⟨⟨fits, below, operandFits, tight⟩, (Nat.min_eq_left below).symm⟩
  | name | index =>
    have below := Nat.le_succ_of_le (Nat.le_of_lt link.level_lt_unaryLevel)
    exact ⟨⟨fits, below, operandFits, tight⟩, (Nat.min_eq_left below).symm⟩

/-- Two grouped trees with a link between them are grouped, since the links of the second come one by one. -/
theorem LeftGrouped.join (firstFits : first.LeftGrouped) (fits : tree.LeftGrouped) :
    (first.join link tree).LeftGrouped := by
  have below := link.level_lt_unaryLevel
  induction tree with
  | binary inner left right leftIh =>
    obtain ⟨leftFits, -, rightFits, rightTight⟩ := fits
    exact ((leftIh leftFits).extend rightFits rightTight).1
  | deref => exact (firstFits.extend fits below).1
  | name => exact (firstFits.extend fits (Nat.lt_succ_of_lt below)).1
  | index => exact (firstFits.extend fits (Nat.lt_succ_of_lt below)).1

end Regrouping

/-- A regrouped tree is grouped as C groups its text, with sums to the left. -/
theorem leftGrouped_regroup (tree : Tree) : tree.regroup.LeftGrouped := by
  induction tree with
  | name => trivial
  | deref part ih => exact ih.starred.1
  | index base position baseIh positionIh => exact (baseIh.subscripted positionIh).1
  | binary link left right leftIh rightIh => exact leftIh.join rightIh

/-- A tree can be read back after regrouping. -/
theorem grouped_regroup (tree : Tree) : tree.regroup.Grouped :=
  tree.leftGrouped_regroup.grouped

end Tree

open Grouping.Tree

/-- Equality of trees up to the grouping of sums. -/
inductive Reassociated : Tree → Tree → Prop where
  | refl (tree : Tree) : Reassociated tree tree
  | symm {tree other : Tree} (related : Reassociated tree other) : Reassociated other tree
  | trans {tree middle other : Tree} (first : Reassociated tree middle)
      (second : Reassociated middle other) : Reassociated tree other
  | assoc (first second third : Tree) :
      Reassociated (.binary .sum (.binary .sum first second) third)
        (.binary .sum first (.binary .sum second third))
  | deref {part other : Tree} (related : Reassociated part other) :
      Reassociated (.deref part) (.deref other)
  | index {base otherBase position otherPosition : Tree} (bases : Reassociated base otherBase)
      (positions : Reassociated position otherPosition) :
      Reassociated (.index base position) (.index otherBase otherPosition)
  | binary (link : Link) {left otherLeft right otherRight : Tree} (lefts : Reassociated left otherLeft)
      (rights : Reassociated right otherRight) :
      Reassociated (.binary link left right) (.binary link otherLeft otherRight)

namespace Reassociated

variable {tree other first second : Tree}

/-- Reassociated trees bind equally tightly. -/
theorem level_eq (related : Reassociated tree other) : tree.level = other.level := by
  induction related with
  | symm _ ih => exact ih.symm
  | trans _ _ firstIh secondIh => exact firstIh.trans secondIh
  | _ => rfl

/-- Whether a tree is grouped does not depend on how its sums are. -/
theorem grouped_iff (related : Reassociated tree other) : tree.Grouped ↔ other.Grouped := by
  induction related with
  | refl => exact Iff.rfl
  | symm _ ih => exact ih.symm
  | trans _ _ firstIh secondIh => exact firstIh.trans secondIh
  | assoc first second third =>
    constructor
    · rintro ⟨⟨firstFits, firstTight, secondFits, secondTight⟩, same, thirdFits, thirdTight⟩
      exact ⟨firstFits, firstTight, ⟨secondFits, secondTight, thirdFits, thirdTight⟩, same⟩
    · rintro ⟨firstFits, firstTight, ⟨secondFits, secondTight, thirdFits, thirdTight⟩, same⟩
      exact ⟨⟨firstFits, firstTight, secondFits, secondTight⟩, same, thirdFits, thirdTight⟩
  | deref related ih => simp only [Fits, ih, related.level_eq]
  | index bases positions baseIh positionIh => simp only [Fits, baseIh, positionIh, bases.level_eq]
  | binary link lefts rights leftIh rightIh =>
    simp only [Fits, leftIh, rightIh, lefts.level_eq, rights.level_eq]

/-- A link between trees that bind tightly enough is kept. -/
theorem join_eq {link : Link} (firstTight : link.level ≤ first.level) (fits : second.LeftGrouped)
    (secondTight : link.level < second.level) : first.join link second = .binary link first second := by
  induction second with
  | binary inner left right leftIh =>
    obtain ⟨leftFits, leftTight, -, -⟩ := fits
    have kept := leftIh leftFits (Nat.lt_of_lt_of_le secondTight leftTight)
    -- The inner link is the tighter one, so it goes back to where it was.
    calc
      (first.join link left).extend inner right
      _ = (Tree.binary link first left).extend inner right := by rw [kept]
      _ = .binary link first (left.extend inner right) := if_pos secondTight
      _ = .binary link first (.binary inner left right) := by rw [extend_eq leftTight]
  | name | deref | index => exact extend_eq firstTight

/-- A sum of sums is kept up to its grouping. -/
theorem join_sum (firstTight : Link.sum.level ≤ first.level) (fits : second.LeftGrouped)
    (secondTight : Link.sum.level ≤ second.level) :
    Reassociated (first.join .sum second) (.binary .sum first second) := by
  induction second with
  | binary inner left right leftIh =>
    obtain rfl := Link.eq_sum secondTight
    obtain ⟨leftFits, leftTight, -, -⟩ := fits
    have kept := leftIh leftFits leftTight
    have outermost : (first.join .sum left).extend .sum right = .binary .sum (first.join .sum left) right :=
      extend_eq (Nat.le_of_eq kept.level_eq.symm)
    rw [Tree.join, outermost]
    exact (binary .sum kept (.refl right)).trans (assoc first left right)
  | name | deref | index =>
    change Reassociated (first.extend .sum _) _
    rw [extend_eq firstTight]
    exact .refl _

end Reassociated

/-- A grouped tree is read as it was, up to the grouping of sums. -/
theorem reassociated_regroup {tree : Tree} (grouped : tree.Grouped) : Reassociated tree.regroup tree := by
  induction tree with
  | name => exact .refl _
  | deref part ih =>
    have kept := ih grouped.1
    rw [regroup, starred_eq (kept.level_eq ▸ grouped.2)]
    exact .deref kept
  | index base position baseIh positionIh =>
    obtain ⟨baseGrouped, tight, positionGrouped⟩ := grouped
    have kept := baseIh baseGrouped
    rw [regroup, subscripted_eq (kept.level_eq ▸ tight)]
    exact .index kept (positionIh positionGrouped)
  | binary link left right leftIh rightIh =>
    obtain ⟨leftGrouped, leftTight, rightGrouped, rightTight⟩ := grouped
    have lefts := leftIh leftGrouped
    have rights := rightIh rightGrouped
    rw [← lefts.level_eq] at leftTight
    rw [← rights.level_eq] at rightTight
    have fits := right.leftGrouped_regroup
    cases link with
    | sum => exact (Reassociated.join_sum leftTight fits rightTight).trans (.binary .sum lefts rights)
    | comparison relation =>
      rw [regroup, Reassociated.join_eq leftTight fits rightTight]
      exact .binary _ lefts rights

end VectorKernel.Grouping
