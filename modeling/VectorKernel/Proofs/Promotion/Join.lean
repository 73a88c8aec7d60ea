import Mathlib.Order.Bounds.Basic
import Mathlib.Order.Lattice
import VectorKernel.Proofs.Arithmetic

/-!
# Promotion as a join

Signatures are ordered by what they can be promoted to: `join` is the least
upper bound of this order. Promotion of two types is that join wherever their
lanes fit, so promotion of many types neither depends on their order nor on how
they are grouped; `exists_promoteAll` says this of types taken one after the
other.

Lanes are the only reason why promotion fails. A scalar between two vectors hides
neither from the other: `lanesCompatible_iff` compares the joins on both sides and
finds a conflict between any two types below them.
-/

namespace VectorKernel

namespace Signature

/-- The joined kind is the same in either order. -/
theorem joinKind_comm (left right : Signature) : left.joinKind right = right.joinKind left := by
  unfold joinKind
  cases leftKind : left.kind <;> cases rightKind : right.kind <;>
    simp [Kind.isFloat, Kind.isSigned] <;> grind

/-- Signatures can be joined in either order. -/
theorem join_comm (left right : Signature) : left.join right = right.join left := by
  simp only [join, mk.injEq]
  exact ⟨joinKind_comm left right, Nat.max_comm .., Nat.max_comm ..⟩

/-- A signature joined with itself is itself. -/
theorem join_self (signature : Signature) : signature.join signature = signature := by
  have kind : signature.joinKind signature = signature.kind := by
    unfold joinKind
    cases signature.kind <;> simp [Kind.isFloat, Kind.isSigned]
  simp [join, kind]

instance : Max Signature := ⟨join⟩

instance : SemilatticeSup Signature := .mk' join_comm join_assoc join_self

theorem sup_eq_join (left right : Signature) : left ⊔ right = left.join right := rfl

end Signature

namespace NumericType

/-- Types of which no two have different lane counts other than one. -/
def LanesAgree (types : List NumericType) : Prop :=
  ∀ left ∈ types, ∀ right ∈ types, left.lanes ≠ 1 → right.lanes ≠ 1 → left.lanes = right.lanes

instance (types : List NumericType) : Decidable (LanesAgree types) :=
  inferInstanceAs (Decidable (∀ left ∈ types, ∀ right ∈ types, _ → _ → _))

/-- Fewer types agree if more do. -/
theorem LanesAgree.of_subset {types others : List NumericType} (agree : LanesAgree types)
    (subset : others ⊆ types) : LanesAgree others :=
  fun left leftMem right rightMem => agree left (subset leftMem) right (subset rightMem)

/-- The promotion of types, taken one after the other. -/
def promoteAll : List NumericType → Option NumericType
  | [] => none
  | first :: rest => rest.foldlM promote first

/-- A type in which types with at least one lane meet: up to alignment it is the
least one above them all, and a vector among them has its lanes. -/
structure IsJoin (types : List NumericType) (type : NumericType) : Prop where
  least : IsLUB {signature | ∃ leaf ∈ types, leaf.toSignature = signature} type.toSignature
  positive : ∀ leaf ∈ types, 0 < leaf.lanes
  lanes : ∀ leaf ∈ types, leaf.lanes = 1 ∨ leaf.lanes = type.lanes
  attained : ∃ leaf ∈ types, leaf.lanes = type.lanes

namespace IsJoin

variable {types others : List NumericType} {type other : NumericType}

/-- A single type with lanes is its own join. -/
theorem single (positive : 0 < type.lanes) : IsJoin [type] type where
  least := by simp
  positive := List.forall_mem_singleton.mpr positive
  lanes := List.forall_mem_singleton.mpr (.inr rfl)
  attained := ⟨type, List.mem_singleton_self type, rfl⟩

/-- What types meet in does not depend on their order. -/
theorem toSignature_eq (joined : IsJoin types type) (otherJoined : IsJoin others other)
    (perm : types.Perm others) : type.toSignature = other.toSignature := by
  have sameLeaves : {signature | ∃ leaf ∈ types, leaf.toSignature = signature} =
      {signature | ∃ leaf ∈ others, leaf.toSignature = signature} := by
    ext signature
    simp only [Set.mem_ofPred_eq, perm.mem_iff]
  exact joined.least.unique (sameLeaves ▸ otherJoined.least)

/-- Types with a join agree on their lanes. -/
theorem lanesAgree (joined : IsJoin types type) : LanesAgree types := by
  intro left leftMem right rightMem leftVector rightVector
  have leftLanes := (joined.lanes left leftMem).resolve_left leftVector
  have rightLanes := (joined.lanes right rightMem).resolve_left rightVector
  rw [leftLanes, rightLanes]

/-- A join has lanes. -/
theorem lanes_pos (joined : IsJoin types type) : 0 < type.lanes := by
  obtain ⟨leaf, member, lanes⟩ := joined.attained
  exact lanes ▸ joined.positive leaf member

/-- Two joins fit exactly when all types below them do. -/
theorem lanesCompatible_iff (joined : IsJoin types type) (otherJoined : IsJoin others other) :
    type.lanesCompatible other = true ↔ LanesAgree (types ++ others) := by
  simp only [lanesCompatible, Bool.or_eq_true, decide_eq_true_eq]
  constructor
  · intro fits left leftMem right rightMem leftVector rightVector
    -- Every leaf that is no scalar has the lanes of the join on its side.
    have sides : ∀ leaf ∈ types ++ others, leaf.lanes ≠ 1 →
        leaf.lanes = max type.lanes other.lanes := by
      intro leaf member vector
      have typePositive := joined.lanes_pos
      have otherPositive := otherJoined.lanes_pos
      rcases List.mem_append.mp member with member | member
      · have here := joined.lanes leaf member
        omega
      · have here := otherJoined.lanes leaf member
        omega
    rw [sides left leftMem leftVector, sides right rightMem rightVector]
  · intro agree
    obtain ⟨left, leftMem, leftLanes⟩ := joined.attained
    obtain ⟨right, rightMem, rightLanes⟩ := otherJoined.attained
    have equal := agree left (List.mem_append_left _ leftMem) right (List.mem_append_right _ rightMem)
    omega

/-- Promotion of two joins is the join of all types below them. -/
theorem promote {result : NumericType} (joined : IsJoin types type)
    (otherJoined : IsJoin others other) (promoted : type.promote other = some result) :
    IsJoin (types ++ others) result where
  least := by
    have union := joined.least.union otherJoined.least
    rw [Signature.sup_eq_join, ← toSignature_of_promote promoted] at union
    convert union using 1
    ext signature
    simp only [List.mem_append, Set.mem_ofPred_eq, Set.mem_union, or_and_right, exists_or]
  positive := by
    intro leaf member
    exact (List.mem_append.mp member).elim (joined.positive leaf) (otherJoined.positive leaf)
  lanes := by
    intro leaf member
    have fits := (Option.ite_none_right_eq_some.mp promoted).1
    simp only [lanesCompatible, Bool.or_eq_true, decide_eq_true_eq] at fits
    have resultLanes : result.lanes = max type.lanes other.lanes :=
      congrArg Signature.lanes (toSignature_of_promote promoted)
    have typePositive := joined.lanes_pos
    have otherPositive := otherJoined.lanes_pos
    rcases List.mem_append.mp member with member | member
    · have here := joined.lanes leaf member
      omega
    · have here := otherJoined.lanes leaf member
      omega
  attained := by
    have resultLanes : result.lanes = max type.lanes other.lanes :=
      congrArg Signature.lanes (toSignature_of_promote promoted)
    rcases Nat.le_total type.lanes other.lanes with smaller | smaller
    · obtain ⟨leaf, member, lanes⟩ := otherJoined.attained
      exact ⟨leaf, List.mem_append_right _ member, by omega⟩
    · obtain ⟨leaf, member, lanes⟩ := joined.attained
      exact ⟨leaf, List.mem_append_left _ member, by omega⟩

end IsJoin

/-- Promotion of two joins is defined exactly when all types below them fit. -/
theorem isSome_promote_iff {types others : List NumericType} {type other : NumericType}
    (joined : IsJoin types type) (otherJoined : IsJoin others other) :
    (type.promote other).isSome ↔ LanesAgree (types ++ others) := by
  rw [← joined.lanesCompatible_iff otherJoined, NumericType.promote]
  split <;> simp [*]

section Folding

variable {seen rest types : List NumericType} {first result : NumericType}

/-- Promoting further types into a join gives the join of them all. -/
theorem isJoin_of_foldlM (joined : IsJoin seen first) (positive : ∀ leaf ∈ rest, 0 < leaf.lanes)
    (promoted : rest.foldlM promote first = some result) : IsJoin (seen ++ rest) result := by
  induction rest generalizing seen first with
  | nil =>
    obtain rfl := Option.some.inj promoted
    rwa [List.append_nil]
  | cons next rest ih =>
    obtain ⟨onward, step, promoted⟩ := Option.bind_eq_some_iff.mp promoted
    obtain ⟨nextPositive, positive⟩ := List.forall_mem_cons.mp positive
    have grown := joined.promote (.single nextPositive) step
    rw [List.append_cons]
    exact ih grown positive promoted

/-- Types that agree on their lanes are promoted one after the other without fault. -/
theorem isSome_foldlM (joined : IsJoin seen first) (positive : ∀ leaf ∈ rest, 0 < leaf.lanes)
    (agree : LanesAgree (seen ++ rest)) : (rest.foldlM promote first).isSome := by
  induction rest generalizing seen first with
  | nil => rfl
  | cons next rest ih =>
    obtain ⟨nextPositive, positive⟩ := List.forall_mem_cons.mp positive
    rw [List.append_cons] at agree
    have soFar : LanesAgree (seen ++ [next]) := agree.of_subset (List.subset_append_left _ rest)
    have defined := (isSome_promote_iff joined (.single nextPositive)).mpr soFar
    obtain ⟨onward, step⟩ := Option.isSome_iff_exists.mp defined
    have grown := joined.promote (.single nextPositive) step
    rw [List.foldlM_cons, step]
    exact ih grown positive agree

/-- Types that fit have a promotion, taken one after the other, and it is their
join. -/
theorem exists_promoteAll (nonempty : types ≠ []) (positive : ∀ leaf ∈ types, 0 < leaf.lanes)
    (agree : LanesAgree types) : ∃ type, promoteAll types = some type ∧ IsJoin types type := by
  cases types with
  | nil => contradiction
  | cons first rest =>
    obtain ⟨firstPositive, positive⟩ := List.forall_mem_cons.mp positive
    have start : IsJoin [first] first := .single firstPositive
    obtain ⟨type, promoted⟩ := Option.isSome_iff_exists.mp (isSome_foldlM start positive agree)
    exact ⟨type, promoted, isJoin_of_foldlM start positive promoted⟩

/-- A join is the promotion of the types below it in any order, up to alignment. -/
theorem IsJoin.promoteAll_of_perm {type : NumericType} {order : List NumericType}
    (joined : IsJoin types type) (perm : order.Perm types) :
    ∃ promoted, promoteAll order = some promoted ∧ promoted.toSignature = type.toSignature := by
  have nonempty : order ≠ [] := by
    obtain ⟨leaf, member, -⟩ := joined.attained
    exact List.ne_nil_of_mem (perm.mem_iff.mpr member)
  have positive : ∀ leaf ∈ order, 0 < leaf.lanes :=
    fun leaf member => joined.positive leaf (perm.mem_iff.mp member)
  have agree : LanesAgree order := joined.lanesAgree.of_subset perm.subset
  obtain ⟨promoted, found, orderJoined⟩ := exists_promoteAll nonempty positive agree
  exact ⟨promoted, found, orderJoined.toSignature_eq joined perm⟩

end Folding

end NumericType

end VectorKernel
