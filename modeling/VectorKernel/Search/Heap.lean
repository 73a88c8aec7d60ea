/-!
# Heaps

A heap hands its items out by cost, the cheapest first. The items are the nodes of a binary
tree, level by level: the parent of the item at position `i` is at `(i - 1) / 2`, and no item is
cheaper than its parent. Which of several equally cheap items comes out first follows from the
ways in which items change places, so these are fixed here step by step. An item that is put in
rises from the end as long as its parent is dearer. When the first item is taken out, the last
one takes its place, sinks to the bottom whatever it costs, and rises from there.
-/

namespace VectorKernel

namespace Heap

variable {α : Type} (cost : α → Nat)

/-- The cost of the item at a position. Positions without an item cost nothing. -/
def costAt (items : Array α) (position : Nat) : Nat :=
  items[position]?.elim 0 cost

/-- No item is cheaper than its parent. -/
def Ordered (items : Array α) : Prop :=
  ∀ position, 0 < position → position < items.size →
    costAt cost items ((position - 1) / 2) ≤ costAt cost items position

/-- Lets the item at a position change places with its parent as long as that is dearer. -/
def rise (items : Array α) (position : Nat) : Array α :=
  if position = 0 then items
  else
    let parent := (position - 1) / 2
    if costAt cost items parent ≤ costAt cost items position then items
    else rise (items.swapIfInBounds position parent) parent
  termination_by position
  decreasing_by omega

/-- Lets the item at a position change places with its cheaper child until it has none, and says
where it has arrived. Of two equally cheap children the right one moves up. -/
def sink (items : Array α) (position : Nat) : Array α × Nat :=
  let left := 2 * position + 1
  if left + 1 < items.size then
    let child := if costAt cost items (left + 1) ≤ costAt cost items left then left + 1 else left
    sink (items.swapIfInBounds position child) child
  else if left + 1 = items.size then (items.swapIfInBounds position left, left)
  else (items, position)
  termination_by items.size - position
  decreasing_by
    rw [Array.size_swapIfInBounds]
    split <;> omega

section Places

variable {cost : α → Nat} {items : Array α} {position first second : Nat}

/-- Two items that have changed places, and all others where they were. -/
theorem costAt_swap (firstInside : first < items.size) (secondInside : second < items.size) :
    costAt cost (items.swapIfInBounds first second) position =
      if position = first then costAt cost items second
      else if position = second then costAt cost items first else costAt cost items position := by
  rw [Array.swapIfInBounds_def, dif_pos firstInside, dif_pos secondInside]
  simp only [costAt, Array.getElem?_swap, Array.getElem?_eq_getElem firstInside,
    Array.getElem?_eq_getElem secondInside]
  by_cases atFirst : position = first
  · by_cases atSecond : second = position
    · simp [atFirst, atSecond]
    · simp [atFirst, atFirst ▸ atSecond]
  · by_cases atSecond : position = second
    · simp [← atSecond, atFirst]
    · simp [atFirst, atSecond, Ne.symm atFirst, Ne.symm atSecond]

/-- Swapping two places keeps the items. -/
theorem swap_perm (items : Array α) (first second : Nat) :
    (items.swapIfInBounds first second).toList.Perm items.toList := by
  rw [Array.swapIfInBounds_def]
  split
  · split
    · exact (Array.swap_perm ..).toList
    · exact .refl _
  · exact .refl _

/-- Changing places neither adds nor drops items. -/
theorem rise_perm (items : Array α) (position : Nat) :
    (rise cost items position).toList.Perm items.toList := by
  fun_induction rise cost items position with
  | case1 => exact .refl _
  | case2 => exact .refl _
  | case3 items position _ parent _ ih => exact ih.trans (swap_perm items position parent)

/-- Sinking keeps the items. -/
theorem sink_perm (items : Array α) (position : Nat) :
    (sink cost items position).1.toList.Perm items.toList := by
  fun_induction sink cost items position with
  | case1 items position left more child ih => exact ih.trans (swap_perm items position child)
  | case2 items position left last => exact swap_perm items position left
  | case3 => exact .refl _

/-- What an item needs to rise from a position: all others are in order, and the item's children
are not cheaper than its parent. -/
structure MayRise (cost : α → Nat) (items : Array α) (position : Nat) : Prop where
  inside : position < items.size
  others : ∀ other, 0 < other → other < items.size → other ≠ position →
    costAt cost items ((other - 1) / 2) ≤ costAt cost items other
  children : 0 < position → ∀ child, 0 < child → child < items.size → (child - 1) / 2 = position →
    costAt cost items ((position - 1) / 2) ≤ costAt cost items child

/-- What an item needs to sink from a position: the same, but it may be dearer than its children. -/
structure MaySink (cost : α → Nat) (items : Array α) (position : Nat) : Prop where
  inside : position < items.size
  others : ∀ other, 0 < other → other < items.size → other ≠ position → (other - 1) / 2 ≠ position →
    costAt cost items ((other - 1) / 2) ≤ costAt cost items other
  children : 0 < position → ∀ child, 0 < child → child < items.size → (child - 1) / 2 = position →
    costAt cost items ((position - 1) / 2) ≤ costAt cost items child

/-- The order is restored as soon as the item is no cheaper than the one above it. -/
theorem MayRise.ordered_of_le (ready : MayRise cost items position)
    (cheaper : 0 < position → costAt cost items ((position - 1) / 2) ≤ costAt cost items position) :
    Ordered cost items := by
  intro other positive inside
  by_cases here : other = position
  · exact here ▸ cheaper (here ▸ positive)
  · exact ready.others other positive inside here

/-- An item that is cheaper than its parent may go on rising from there. -/
theorem MayRise.swap (ready : MayRise cost items position) (positive : 0 < position)
    (dearer : costAt cost items position < costAt cost items ((position - 1) / 2)) :
    MayRise cost (items.swapIfInBounds position ((position - 1) / 2)) ((position - 1) / 2) := by
  have inside := ready.inside
  have parentInside : (position - 1) / 2 < items.size := by omega
  refine ⟨by simpa using parentInside, ?_, ?_⟩
  · intro other otherPositive otherInside different
    rw [Array.size_swapIfInBounds] at otherInside
    have others := ready.others other otherPositive otherInside
    have children := ready.children positive other otherPositive otherInside
    simp only [costAt_swap inside parentInside]
    grind
  · intro parentPositive child childPositive childInside isChild
    rw [Array.size_swapIfInBounds] at childInside
    have upper := ready.others ((position - 1) / 2) parentPositive parentInside (by omega)
    have others := ready.others child childPositive childInside
    simp only [costAt_swap inside parentInside]
    grind

/-- An item that rises restores the order. By induction on its position, which gets smaller. -/
theorem rise_ordered (ready : MayRise cost items position) : Ordered cost (rise cost items position) := by
  fun_induction rise cost items position with
  | case1 => exact ready.ordered_of_le fun positive => absurd positive (Nat.lt_irrefl 0)
  | case2 items position _ parent cheaper => exact ready.ordered_of_le fun _ => cheaper
  | case3 items position notFirst parent dearer ih =>
    exact ih (ready.swap (Nat.pos_of_ne_zero notFirst) (Nat.lt_of_not_le dearer))

/-- An item that has changed places with its cheaper child may go on sinking from there. -/
theorem MaySink.swap {child : Nat} (ready : MaySink cost items position) (positive : 0 < child)
    (inside : child < items.size) (isChild : (child - 1) / 2 = position)
    (cheapest : ∀ other, 0 < other → other < items.size → (other - 1) / 2 = position →
      costAt cost items child ≤ costAt cost items other) :
    MaySink cost (items.swapIfInBounds position child) child := by
  have here := ready.inside
  refine ⟨by simpa using inside, ?_, ?_⟩
  · intro other otherPositive otherInside different apart
    rw [Array.size_swapIfInBounds] at otherInside
    have others := ready.others other otherPositive otherInside
    have cheaper := cheapest other otherPositive otherInside
    have upper := fun below : 0 < position => ready.children below child positive inside isChild
    simp only [costAt_swap here inside]
    grind
  · intro _ grandchild grandPositive grandInside isGrandchild
    rw [Array.size_swapIfInBounds] at grandInside
    have others := ready.others grandchild grandPositive grandInside
    simp only [costAt_swap here inside]
    grind

/-- An item without children may rise. -/
theorem MaySink.mayRise (ready : MaySink cost items position) (bottom : items.size ≤ 2 * position + 1) :
    MayRise cost items position where
  inside := ready.inside
  others other positive inside different := ready.others other positive inside different (by omega)
  children := ready.children

/-- An item that has sunk to the bottom may rise from there. -/
theorem sink_mayRise (ready : MaySink cost items position) :
    MayRise cost (sink cost items position).1 (sink cost items position).2 := by
  fun_induction sink cost items position with
  | case1 items position left more child ih =>
    refine ih (ready.swap ?_ ?_ ?_ fun other otherPositive otherInside isChild => ?_)
    · grind
    · grind
    · grind
    · have either : other = left ∨ other = left + 1 := by omega
      grind
  | case2 items position left last =>
    refine (ready.swap (by omega) (by omega) (by omega) fun other _ otherInside isChild => ?_).mayRise ?_
    · obtain rfl : other = left := by omega
      exact Nat.le_refl _
    · rw [Array.size_swapIfInBounds]
      omega
  | case3 items position left none notLast => exact ready.mayRise (by omega)

/-- The first item of an ordered array is a cheapest one. -/
theorem Ordered.first_le (ordered : Ordered cost items) (inside : position < items.size) :
    costAt cost items 0 ≤ costAt cost items position := by
  induction position using Nat.strongRecOn with
  | _ position ih =>
    by_cases first : position = 0
    · exact first ▸ Nat.le_refl _
    · exact Nat.le_trans (ih ((position - 1) / 2) (by omega) (by omega))
        (ordered position (Nat.pos_of_ne_zero first) inside)

end Places

end Heap

/-- Items that are in order by their cost. -/
structure Heap {α : Type} (cost : α → Nat) where
  items : Array α
  ordered : Heap.Ordered cost items

namespace Heap

variable {α : Type} {cost : α → Nat}

/-- The heap without items. -/
def empty : Heap cost := ⟨#[], fun _ _ inside => absurd inside (Nat.not_lt_zero _)⟩

/-- The items, in the order in which they are kept. -/
def toList (heap : Heap cost) : List α :=
  heap.items.toList

/-- A new item behind the others may rise. -/
theorem mayRise_push (heap : Heap cost) (item : α) :
    MayRise cost (heap.items.push item) heap.items.size := by
  refine ⟨by simp, fun other positive inside different => ?_, fun _ child _ inside isChild => ?_⟩
  · rw [Array.size_push] at inside
    have inOrder := heap.ordered other positive (by omega)
    simp only [costAt, Array.getElem?_push, if_neg different,
      if_neg (show (other - 1) / 2 ≠ heap.items.size by omega)]
    exact inOrder
  · rw [Array.size_push] at inside
    omega

/-- A heap with one more item. -/
def push (heap : Heap cost) (item : α) : Heap cost where
  items := rise cost (heap.items.push item) heap.items.size
  ordered := rise_ordered (heap.mayRise_push item)

/-- An item that replaces the first one may sink. -/
theorem maySink_setFirst (heap : Heap cost) (item : α) (nonempty : 0 < heap.items.pop.size) :
    MaySink cost (heap.items.pop.setIfInBounds 0 item) 0 := by
  refine ⟨by simpa using nonempty, fun other positive inside different apart => ?_,
    fun positive => absurd positive (Nat.lt_irrefl 0)⟩
  rw [Array.size_setIfInBounds, Array.size_pop] at inside
  have inOrder := heap.ordered other positive (by omega)
  have shifted : ∀ place, 0 < place → place < heap.items.size - 1 →
      costAt cost (heap.items.pop.setIfInBounds 0 item) place = costAt cost heap.items place := by
    intro place placePositive placeInside
    simp only [costAt, Array.getElem?_setIfInBounds, Array.getElem?_pop, if_neg (Nat.ne_of_lt placePositive),
      if_pos placeInside]
  rw [shifted other positive inside, shifted _ (by omega) (by omega)]
  exact inOrder

/-- A cheapest item and the heap without it, unless the heap is empty. -/
def pop? (heap : Heap cost) : Option (α × Heap cost) :=
  match heap.items.back? with
  | none => none
  | some last =>
    if nonempty : 0 < heap.items.pop.size then
      let sunk := sink cost (heap.items.pop.setIfInBounds 0 last) 0
      some (heap.items.pop[0],
        ⟨rise cost sunk.1 sunk.2, rise_ordered (sink_mayRise (heap.maySink_setFirst last nonempty))⟩)
    else some (last, empty)

/-- Pushing adds one item and loses none. -/
theorem push_perm (heap : Heap cost) (item : α) :
    (heap.push item).toList.Perm (item :: heap.toList) := by
  refine (rise_perm _ _).trans ?_
  rw [Array.toList_push]
  exact List.perm_append_singleton item heap.items.toList

/-- Nothing comes out of an empty heap only. -/
theorem pop?_eq_none_iff {heap : Heap cost} : heap.pop? = none ↔ heap.toList = [] := by
  unfold pop? toList
  cases last : heap.items.back? with
  | none => simpa using last
  | some item =>
    have nonempty : heap.items ≠ #[] := by
      intro empty
      simp [empty] at last
    constructor
    · intro missing
      dsimp only at missing
      split at missing <;> cases missing
    · intro empty
      exact absurd (Array.toList_eq_nil_iff.mp empty) nonempty

/-- The two ways in which an item comes out: it is the only one, or the first of several, whose
place the last one takes. -/
theorem pop?_cases {heap rest : Heap cost} {item : α} (popped : heap.pop? = some (item, rest)) :
    heap.toList = [item] ∧ rest = empty ∨
      ∃ middle last, heap.toList = item :: middle ++ [last] ∧ rest.toList.Perm (last :: middle) := by
  unfold pop? at popped
  cases final : heap.items.back? with
  | none =>
    rw [final] at popped
    cases popped
  | some last =>
    rw [final] at popped
    have shape : heap.toList = heap.items.pop.toList ++ [last] := by
      rw [← Array.getLast?_toList] at final
      obtain ⟨front, whole⟩ := List.getLast?_eq_some_iff.mp final
      rw [Array.toList_pop, toList, whole, List.dropLast_concat]
    dsimp only at popped
    split at popped
    · next nonempty =>
      obtain ⟨rfl, rfl⟩ := Prod.mk.inj (Option.some.inj popped)
      obtain ⟨first, middle, front⟩ : ∃ first middle, heap.items.pop = ⟨first :: middle⟩ := by
        obtain ⟨_ | ⟨first, middle⟩, front⟩ : ∃ list, heap.items.pop = ⟨list⟩ := ⟨_, rfl⟩
        · rw [front] at nonempty
          cases nonempty
        · exact ⟨first, middle, front⟩
      refine .inr ⟨middle, last, ?_, ?_⟩
      · simp only [shape, front]
        rfl
      · refine (rise_perm _ _).trans ((sink_perm _ _).trans (.of_eq ?_))
        rw [front]
        rfl
    · next single =>
      obtain ⟨rfl, rfl⟩ := Prod.mk.inj (Option.some.inj popped)
      have front : heap.items.pop = #[] := Array.eq_empty_of_size_eq_zero (by omega)
      refine .inl ⟨?_, rfl⟩
      rw [shape, front]
      rfl

/-- What comes out was in the heap, and everything else stays there. -/
theorem pop?_perm {heap rest : Heap cost} {item : α} (popped : heap.pop? = some (item, rest)) :
    (item :: rest.toList).Perm heap.toList := by
  rcases pop?_cases popped with ⟨shape, rfl⟩ | ⟨middle, last, shape, same⟩
  · rw [shape]
    exact .refl _
  · rw [shape, List.cons_append]
    exact (same.trans (List.perm_append_singleton last middle).symm).cons item

/-- What comes out is a cheapest item. -/
theorem pop?_le {heap rest : Heap cost} {item other : α} (popped : heap.pop? = some (item, rest))
    (member : other ∈ heap.toList) : cost item ≤ cost other := by
  obtain ⟨position, inside, rfl⟩ := List.getElem_of_mem member
  have first : heap.items[0]? = some item := by
    rw [← Array.getElem?_toList]
    change heap.toList[0]? = some item
    rcases pop?_cases popped with ⟨shape, -⟩ | ⟨middle, last, shape, -⟩ <;> simp [shape]
  have cheapest := heap.ordered.first_le (show position < heap.items.size from inside)
  simp only [costAt, first, Array.getElem?_eq_getElem inside] at cheapest
  exact cheapest

end Heap

end VectorKernel
