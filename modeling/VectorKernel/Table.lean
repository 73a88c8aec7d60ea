/-!
# Tables

A table maps keys to values and remembers the order in which keys were first
entered. Entering a key again changes its value and keeps its place. The view
of a table is `find?`; the listing is `rows`.
-/

namespace VectorKernel

/-- Rows with a key given a value: in place if the key occurs, else at the end. -/
def putRow {κ ν : Type} [DecidableEq κ] (key : κ) (value : ν) : List (κ × ν) → List (κ × ν)
  | [] => [(key, value)]
  | row :: rows =>
    if row.1 = key then (key, value) :: rows else row :: putRow key value rows

/-- The keys after a row is put: a new key comes last. -/
theorem keys_putRow {κ ν : Type} [DecidableEq κ] (key : κ) (value : ν) (rows : List (κ × ν)) :
    (putRow key value rows).map Prod.fst =
      if key ∈ rows.map Prod.fst then rows.map Prod.fst else rows.map Prod.fst ++ [key] := by
  induction rows with
  | nil => simp [putRow]
  | cons row rows ih =>
    by_cases same : row.1 = key
    · simp [putRow, same]
    · have other : key ≠ row.1 := fun equal => same equal.symm
      simp only [putRow, if_neg same, List.map_cons, ih, List.mem_cons, other, false_or]
      split <;> simp

/-- Rows with distinct keys, in the order in which the keys were entered. -/
structure Table (κ ν : Type) [DecidableEq κ] where
  rows : List (κ × ν)
  nodup : (rows.map Prod.fst).Nodup

namespace Table

variable {κ ν : Type} [DecidableEq κ]

/-- The table without rows. -/
def empty : Table κ ν := ⟨[], by simp⟩

instance : Inhabited (Table κ ν) := ⟨empty⟩

/-- The value of a key. -/
def find? (table : Table κ ν) (key : κ) : Option ν :=
  table.rows.lookup key

/-- The number of keys. -/
def size (table : Table κ ν) : Nat :=
  table.rows.length

/-- Gives a key a value. -/
def insert (table : Table κ ν) (key : κ) (value : ν) : Table κ ν where
  rows := putRow key value table.rows
  nodup := by
    rw [keys_putRow]
    split
    · exact table.nodup
    · next absent =>
      refine List.nodup_append.mpr ⟨table.nodup, by simp, ?_⟩
      intro left leftMem right rightMem equal
      simp only [List.mem_singleton] at rightMem
      exact absent (rightMem ▸ equal ▸ leftMem)

/-- Looking a key up in rows with a first one. -/
theorem lookup_cons_eq (row : κ × ν) (rows : List (κ × ν)) (key : κ) :
    (row :: rows).lookup key = if key = row.1 then some row.2 else rows.lookup key := by
  obtain ⟨rowKey, value⟩ := row
  rw [List.lookup_cons]
  by_cases same : key = rowKey
  · simp [same]
  · have apart : (key == rowKey) = false := by simp [same]
    simp [same, apart]

/-- Putting a row gives its key the new value and leaves other keys. -/
theorem lookup_putRow (key : κ) (value : ν) (rows : List (κ × ν)) (other : κ) :
    (putRow key value rows).lookup other = if other = key then some value else rows.lookup other := by
  induction rows with
  | nil => simp [putRow, lookup_cons_eq]
  | cons row rows ih =>
    by_cases here : row.1 = key
    · by_cases same : other = key <;> simp [putRow, here, same, lookup_cons_eq]
    · simp only [putRow, if_neg here, lookup_cons_eq, ih]
      by_cases atRow : other = row.1
      · simp [atRow, here]
      · simp [atRow]

/-- After an insertion the key has the new value and other keys the old one. -/
@[simp] theorem find?_insert (table : Table κ ν) (key : κ) (value : ν) (other : κ) :
    (table.insert key value).find? other = if other = key then some value else table.find? other :=
  lookup_putRow key value table.rows other

@[simp] theorem find?_empty (key : κ) : (empty : Table κ ν).find? key = none := rfl

end Table

end VectorKernel
