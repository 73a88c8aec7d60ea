import VectorKernel.Proofs.Promotion.Join

/-!
# Laws of promotion

Promotion is the join of signatures wherever lanes fit, always with natural
alignment (`promote_eq_some_iff`). The laws of a join therefore carry over to it
as a partial operation: `promote_laws` gives them for two and three types, with
the exact reason for which a promotion is undefined and with what a promoted type
is made of.
-/

namespace VectorKernel

namespace Signature

variable (left right : Signature)

/-- A join is floating exactly if one side is. -/
theorem join_kind_eq_float_iff :
    (left.join right).kind = .float ↔ left.kind = .float ∨ right.kind = .float := by
  simp only [join, joinKind]
  cases leftKind : left.kind <;> cases rightKind : right.kind <;>
    simp [Kind.isFloat, Kind.isSigned] <;> grind

/-- A join of integers has no sign exactly if a side that no other side is wider
than has none. -/
theorem join_kind_eq_unsigned_iff (leftInteger : left.kind ≠ .float)
    (rightInteger : right.kind ≠ .float) :
    (left.join right).kind = .unsigned ↔
      right.width ≤ left.width ∧ left.kind = .unsigned ∨
        left.width ≤ right.width ∧ right.kind = .unsigned := by
  simp only [join, joinKind]
  cases leftKind : left.kind <;> cases rightKind : right.kind <;>
    simp_all [Kind.isFloat, Kind.isSigned] <;> grind

end Signature

namespace NumericType

/-- What the promotion of two types is made of. -/
structure IsPromotion (left right type : NumericType) : Prop where
  natural : type.alignment = type.totalSize
  width : type.width = max left.width right.width
  lanes : type.lanes = max left.lanes right.lanes
  floating : type.kind = .float ↔ left.kind = .float ∨ right.kind = .float
  unsigned : left.kind ≠ .float → right.kind ≠ .float →
    (type.kind = .unsigned ↔
      ∃ side ∈ [left, right], side.width = max left.width right.width ∧ side.kind = .unsigned)

variable {a b c type : NumericType}

/-- Two types have a promotion exactly if their lanes fit, and it is the naturally
aligned type of the join of their signatures. -/
theorem promote_eq_some_iff :
    a.promote b = some type ↔
      a.lanesCompatible b = true ∧ (a.toSignature.join b.toSignature).natural = type := by
  have joined : (a.promotedElement b).vector (max a.lanes b.lanes) =
      (a.toSignature.join b.toSignature).natural := by
    rw [Signature.join, ← promotedElement_kind, ← promotedElement_width]
    rfl
  rw [promote, joined, Option.ite_none_right_eq_some, Option.some.injEq]

/-- Compatibility of lanes has no sides. -/
theorem lanesCompatible_comm (a b : NumericType) : a.lanesCompatible b = b.lanesCompatible a := by
  rw [Bool.eq_iff_iff]
  simp only [lanesCompatible, Bool.or_eq_true, decide_eq_true_eq]
  omega

/-- Promotion has no sides. -/
theorem promote_comm (a b : NumericType) : a.promote b = b.promote a := by
  ext type
  rw [promote_eq_some_iff, promote_eq_some_iff, lanesCompatible_comm, Signature.join_comm]

/-- A type promotes with itself to the natural type of its signature. -/
theorem promote_self (a : NumericType) : a.promote a = some a.toSignature.natural := by
  rw [promote_eq_some_iff, Signature.join_self]
  exact ⟨by simp [lanesCompatible], rfl⟩

/-- The type that promotion gives is the one that the rules describe. -/
theorem isPromotion_of_promote (promoted : a.promote b = some type) : IsPromotion a b type := by
  obtain ⟨-, rfl⟩ := promote_eq_some_iff.mp promoted
  refine ⟨rfl, rfl, rfl, Signature.join_kind_eq_float_iff _ _, fun aInteger bInteger => ?_⟩
  have unsigned := Signature.join_kind_eq_unsigned_iff _ _ aInteger bInteger
  change (a.toSignature.join b.toSignature).kind = .unsigned ↔ _
  simpa [eq_comm] using unsigned

/-- Three types taken from the left have a promotion exactly if no two of them
conflict, and it is the join of all three. -/
theorem promote_chain (positive : ∀ leaf ∈ [a, b, c], 0 < leaf.lanes) :
    (a.promote b).bind (·.promote c) =
      if LanesAgree [a, b, c] then
        some ((a.toSignature.join b.toSignature).join c.toSignature).natural
      else none := by
  obtain ⟨aPositive, bPositive, cPositive⟩ : 0 < a.lanes ∧ 0 < b.lanes ∧ 0 < c.lanes := by
    simpa using positive
  have firstDefined := isSome_promote_iff (.single aPositive) (.single bPositive)
  cases first : a.promote b with
  | none =>
    have conflict : ¬ LanesAgree [a, b, c] := fun agree => by
      have agreeFirst : LanesAgree [a, b] := agree.of_subset (by simp)
      simp [first, agreeFirst] at firstDefined
    rw [if_neg conflict]
    rfl
  | some joined =>
    have isJoin := (IsJoin.single aPositive).promote (.single bPositive) first
    have defined := isSome_promote_iff isJoin (.single cPositive)
    obtain ⟨-, rfl⟩ := promote_eq_some_iff.mp first
    split
    · next agree =>
      obtain ⟨type, second⟩ := Option.isSome_iff_exists.mp (defined.mpr agree)
      exact second.trans (congrArg some (promote_eq_some_iff.mp second).2.symm)
    · next conflict => exact Option.not_isSome_iff_eq_none.mp (mt defined.mp conflict)

/-- The grouping of three types makes no difference. -/
theorem promote_assoc (positive : ∀ leaf ∈ [a, b, c], 0 < leaf.lanes) :
    (a.promote b).bind (·.promote c) = (b.promote c).bind (a.promote ·) := by
  have rotated : ([b, c] ++ [a]).Perm ([a] ++ [b, c]) := List.perm_append_comm
  have sameAgreement : LanesAgree [a, b, c] ↔ LanesAgree [b, c, a] :=
    ⟨fun agree => agree.of_subset rotated.subset, fun agree => agree.of_subset rotated.symm.subset⟩
  have sameJoin : (a.toSignature.join b.toSignature).join c.toSignature =
      (b.toSignature.join c.toSignature).join a.toSignature := by
    rw [Signature.join_assoc, Signature.join_comm]
  calc (a.promote b).bind (·.promote c)
    _ = if LanesAgree [a, b, c] then
          some ((a.toSignature.join b.toSignature).join c.toSignature).natural
        else none := promote_chain positive
    _ = if LanesAgree [b, c, a] then
          some ((b.toSignature.join c.toSignature).join a.toSignature).natural
        else none := by simp only [sameAgreement, sameJoin]
    _ = (b.promote c).bind (·.promote a) :=
      (promote_chain fun leaf member => positive leaf (rotated.subset member)).symm
    _ = (b.promote c).bind (a.promote ·) := by simp only [promote_comm a]

/-- Three types conflict exactly if two of them have different lane counts, neither
of which is one. -/
theorem promote_chain_eq_none_iff (positive : ∀ leaf ∈ [a, b, c], 0 < leaf.lanes) :
    (a.promote b).bind (·.promote c) = none ↔
      ∃ left ∈ [a, b, c], ∃ right ∈ [a, b, c],
        left.lanes ≠ right.lanes ∧ left.lanes ≠ 1 ∧ right.lanes ≠ 1 := by
  rw [promote_chain positive, ite_eq_right_iff]
  simp only [reduceCtorEq, imp_false, LanesAgree, not_forall]
  grind

/-- Promotion is a partial join of types with at least one lane: the order of two
types and the grouping of three make no difference, a type promoted with itself
gains natural alignment only, three types have no promotion exactly if two of them
have different lane counts other than one, and a promotion has the width, the lanes
and the kind that `IsPromotion` demands. -/
theorem promote_laws (positive : ∀ leaf ∈ [a, b, c], 0 < leaf.lanes) :
    a.promote b = b.promote a ∧
    a.promote a = some a.toSignature.natural ∧
    (a.promote b).bind (·.promote c) = (b.promote c).bind (a.promote ·) ∧
    ((a.promote b).bind (·.promote c) = none ↔
      ∃ left ∈ [a, b, c], ∃ right ∈ [a, b, c],
        left.lanes ≠ right.lanes ∧ left.lanes ≠ 1 ∧ right.lanes ≠ 1) ∧
    ∀ type, a.promote b = some type → IsPromotion a b type :=
  ⟨promote_comm a b, promote_self a, promote_assoc positive, promote_chain_eq_none_iff positive,
    fun _ => isPromotion_of_promote⟩

/-- A wide unsigned scalar makes four half-precision lanes double-precision ones.
Eight bytes fit neither the four lanes nor what these are promoted to, in either
grouping. -/
theorem wideScalar_promote_laws :
    let scalar := NumericType.uint 64
    let halves := (NumericType.float 16).vector 4
    let bytes := (NumericType.int 8).vector 8
    (∀ leaf ∈ [scalar, halves, bytes], 0 < leaf.lanes) ∧
      IsPromotion scalar halves ((NumericType.float 64).vector 4) ∧
      (scalar.promote halves).bind (·.promote bytes) = none ∧
      (halves.promote bytes).bind (scalar.promote ·) = none := by
  intro scalar halves bytes
  have positive : ∀ leaf ∈ [scalar, halves, bytes], 0 < leaf.lanes := by decide
  obtain ⟨-, -, grouping, undefined, defined⟩ := promote_laws positive
  have conflict := undefined.mpr ⟨halves, by decide, bytes, by decide, by decide⟩
  exact ⟨positive, defined _ rfl, conflict, grouping.symm.trans conflict⟩

end NumericType

end VectorKernel
