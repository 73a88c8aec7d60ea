import VectorKernel.Table

/-!
# Rows entered into tables

What a table answers after rows were entered one after the other: for each key
the value of its last row, and the value from before if no row has the key.
Entering the same rows again changes nothing, not even their order, although the
values of a repeated key go through all its rows once more.
-/

namespace VectorKernel.Table

variable {κ ν : Type} [DecidableEq κ]

/-- A table with rows entered one after the other. -/
def insertRows (table : Table κ ν) (rows : List (κ × ν)) : Table κ ν :=
  rows.foldl (fun table row => table.insert row.1 row.2) table

@[simp] theorem insertRows_nil (table : Table κ ν) : table.insertRows [] = table := rfl

@[simp] theorem insertRows_cons (table : Table κ ν) (row : κ × ν) (rows : List (κ × ν)) :
    table.insertRows (row :: rows) = (table.insert row.1 row.2).insertRows rows := rfl

/-- The values that rows give a key, from first to last. -/
def valuesOf (key : κ) (rows : List (κ × ν)) : List ν :=
  rows.filterMap fun row => if key = row.1 then some row.2 else none

/-- Whatever takes in rows one by one, each giving its key a value, has for each key the
value of its last row, and the value from before where there is none. -/
theorem view_foldl {σ : Type} {step : σ → κ × ν → σ} {view : σ → κ → Option ν}
    (view_step : ∀ state row key,
      view (step state row) key = if key = row.1 then some row.2 else view state key)
    (state : σ) (rows : List (κ × ν)) (key : κ) :
    view (rows.foldl step state) key = (valuesOf key rows).getLast?.or (view state key) := by
  induction rows generalizing state with
  | nil => rfl
  | cons row rows ih =>
    rw [List.foldl_cons, ih, view_step, valuesOf, valuesOf, List.filterMap_cons]
    by_cases same : key = row.1
    · rw [if_pos same, if_pos same, List.getLast?_cons]
      cases (rows.filterMap _).getLast? <;> rfl
    · rw [if_neg same, if_neg same]

/-- The last row of a key decides, and the table from before where there is none. -/
theorem find?_insertRows (table : Table κ ν) (rows : List (κ × ν)) (key : κ) :
    (table.insertRows rows).find? key = (valuesOf key rows).getLast?.or (table.find? key) :=
  view_foldl (fun table row => find?_insert table row.1 row.2) table rows key

theorem insertRows_append (table : Table κ ν) (rows others : List (κ × ν)) :
    table.insertRows (rows ++ others) = (table.insertRows rows).insertRows others :=
  List.foldl_append

/-- A key has no values exactly if no row has it. -/
theorem valuesOf_eq_nil_iff {rows : List (κ × ν)} {key : κ} :
    valuesOf key rows = [] ↔ key ∉ rows.map Prod.fst := by
  rw [valuesOf, List.filterMap_eq_nil_iff]
  constructor
  · intro none member
    obtain ⟨row, rowMember, rfl⟩ := List.mem_map.mp member
    simpa using none row rowMember
  · intro absent row member
    exact if_neg fun same => absent (List.mem_map.mpr ⟨row, member, same.symm⟩)

/-- The value in the last row of a key. -/
def LastGiven (rows : List (κ × ν)) (key : κ) (value : ν) : Prop :=
  ∃ earlier later, rows = earlier ++ (key, value) :: later ∧ key ∉ later.map Prod.fst

/-- The last value of a key is the one that no later row overrides. -/
theorem getLast?_valuesOf_iff {rows : List (κ × ν)} {key : κ} {value : ν} :
    (valuesOf key rows).getLast? = some value ↔ LastGiven rows key value := by
  constructor
  · intro last
    obtain ⟨_, split⟩ := List.getLast?_eq_some_iff.mp last
    obtain ⟨earlier, behind, rfl, -, values⟩ := List.filterMap_eq_append_iff.mp split
    obtain ⟨others, row, later, rfl, -, atRow, none⟩ := List.filterMap_eq_cons_iff.mp values
    obtain ⟨rfl, given⟩ := Option.ite_none_right_eq_some.mp atRow
    obtain rfl := Option.some.inj given
    exact ⟨earlier ++ others, later, by simp, valuesOf_eq_nil_iff.mp none⟩
  · rintro ⟨earlier, later, rfl, fresh⟩
    have none := valuesOf_eq_nil_iff.mpr fresh
    rw [valuesOf] at none ⊢
    simp [none]

/-- Rows entered into the empty table are looked up by their last one. -/
theorem find?_insertRows_empty {rows : List (κ × ν)} {key : κ} {value : ν} :
    (empty.insertRows rows).find? key = some value ↔ LastGiven rows key value := by
  rw [find?_insertRows, find?_empty, Option.or_none, getLast?_valuesOf_iff]

/-- Exactly the keys of rows that were entered are found. -/
theorem isSome_find?_insertRows_empty {rows : List (κ × ν)} {key : κ} :
    ((empty.insertRows rows).find? key).isSome ↔ key ∈ rows.map Prod.fst := by
  rw [find?_insertRows, find?_empty, Option.or_none, Option.isSome_iff_ne_none, Ne, List.getLast?_eq_none_iff,
    valuesOf_eq_nil_iff, Decidable.not_not]

/-- The keys of a table, in the order in which they were entered. -/
def keys (table : Table κ ν) : List κ :=
  table.rows.map Prod.fst

/-- A new key comes last, and a known one keeps its place. -/
theorem keys_insert (table : Table κ ν) (key : κ) (value : ν) :
    (table.insert key value).keys = if key ∈ table.keys then table.keys else table.keys ++ [key] :=
  keys_putRow key value table.rows

/-- An insertion adds one key and loses none. -/
theorem mem_keys_insert {table : Table κ ν} {key other : κ} {value : ν} :
    other ∈ (table.insert key value).keys ↔ other = key ∨ other ∈ table.keys := by
  rw [keys_insert]
  split
  · next present => exact ⟨.inr, fun either => either.elim (· ▸ present) id⟩
  · simp [or_comm]

/-- Rows add their keys and lose none. -/
theorem mem_keys_insertRows {table : Table κ ν} {rows : List (κ × ν)} {key : κ} :
    key ∈ (table.insertRows rows).keys ↔ key ∈ rows.map Prod.fst ∨ key ∈ table.keys := by
  induction rows generalizing table with
  | nil => simp
  | cons row rows ih =>
    rw [insertRows_cons, ih, mem_keys_insert, List.map_cons, List.mem_cons, or_assoc, or_left_comm]

/-- Rows whose keys are all there leave the keys as they are. -/
theorem keys_insertRows_of_subset {table : Table κ ν} {rows : List (κ × ν)}
    (present : ∀ row ∈ rows, row.1 ∈ table.keys) : (table.insertRows rows).keys = table.keys := by
  induction rows generalizing table with
  | nil => rfl
  | cons row rows ih =>
    obtain ⟨here, behind⟩ := List.forall_mem_cons.mp present
    have same : (table.insert row.1 row.2).keys = table.keys := by rw [keys_insert, if_pos here]
    rw [insertRows_cons, ih (same ▸ behind), same]

/-- A key that no row has is not found. -/
theorem lookup_of_not_mem {rows : List (κ × ν)} {key : κ} (absent : key ∉ rows.map Prod.fst) :
    rows.lookup key = none := by
  refine List.lookup_eq_none_iff.mpr fun row member => ?_
  have other : key ≠ row.1 := fun equal => absent (equal ▸ List.mem_map_of_mem member)
  simpa using other

/-- A key has the value of the row that it occurs in. -/
theorem find?_eq_some_iff {table : Table κ ν} {key : κ} {value : ν} :
    table.find? key = some value ↔ (key, value) ∈ table.rows := by
  obtain ⟨rows, nodup⟩ := table
  change rows.lookup key = some value ↔ (key, value) ∈ rows
  induction rows with
  | nil => simp
  | cons row rows ih =>
    obtain ⟨fresh, nodup⟩ := List.nodup_cons.mp nodup
    rw [lookup_cons_eq, List.mem_cons]
    by_cases first : key = row.1
    · have absent : (key, value) ∉ rows := fun member => fresh (first ▸ List.mem_map_of_mem member)
      rw [if_pos first, or_iff_left absent, Option.some.injEq, Prod.ext_iff, and_iff_right first, eq_comm]
    · have other : (key, value) ≠ row := fun same => first (congrArg Prod.fst same)
      rw [if_neg first, or_iff_right other, ih nodup]

/-- Rows with distinct keys are determined by their keys and by look-ups. -/
theorem rows_eq_of_lookup {rows others : List (κ × ν)} (nodup : (rows.map Prod.fst).Nodup)
    (sameKeys : rows.map Prod.fst = others.map Prod.fst)
    (values : ∀ key, rows.lookup key = others.lookup key) : rows = others := by
  induction rows generalizing others with
  | nil => exact (List.map_eq_nil_iff.mp sameKeys.symm).symm
  | cons row rows ih =>
    cases others with
    | nil => cases sameKeys
    | cons other others =>
      obtain ⟨sameFirst, sameRest⟩ := List.cons.inj sameKeys
      obtain ⟨fresh, nodup⟩ := List.nodup_cons.mp nodup
      have atFirst := values row.1
      rw [lookup_cons_eq, lookup_cons_eq, if_pos rfl, if_pos sameFirst] at atFirst
      obtain rfl : row = other := Prod.ext sameFirst (Option.some.inj atFirst)
      refine congrArg (row :: ·) (ih nodup sameRest fun key => ?_)
      by_cases first : key = row.1
      · rw [first, lookup_of_not_mem fresh, lookup_of_not_mem (sameRest ▸ fresh)]
      · simpa [lookup_cons_eq, first] using values key

/-- Tables with the same keys in the same order and the same answers are equal. -/
theorem eq_of_find? {table other : Table κ ν} (keys : table.keys = other.keys)
    (values : ∀ key, table.find? key = other.find? key) : table = other := by
  have rows := rows_eq_of_lookup table.nodup keys values
  cases table
  cases other
  cases rows
  rfl

/-- Entering the same rows twice in a row is entering them once. -/
theorem insertRows_insertRows (table : Table κ ν) (rows : List (κ × ν)) :
    (table.insertRows rows).insertRows rows = table.insertRows rows := by
  apply eq_of_find?
  · apply keys_insertRows_of_subset
    intro row member
    exact mem_keys_insertRows.mpr (.inl (List.mem_map_of_mem member))
  · intro key
    rw [find?_insertRows, find?_insertRows, ← Option.or_assoc, Option.or_self]

/-- Entering a row changes no part of the listing that its key does not belong
to. -/
theorem filter_rows_insert (table : Table κ ν) (belongs : κ → Bool) {key : κ} (value : ν)
    (foreign : belongs key = false) :
    (table.insert key value).rows.filter (belongs ·.1) = table.rows.filter (belongs ·.1) := by
  change (putRow key value table.rows).filter (belongs ·.1) = _
  induction table.rows with
  | nil => simp [putRow, foreign]
  | cons row rows ih =>
    by_cases same : row.1 = key
    · simp [putRow, same, foreign]
    · simp only [putRow, if_neg same, List.filter_cons, ih]

/-- Rows that do not belong to a part of the table leave that part as it is. -/
theorem filter_rows_insertRows (table : Table κ ν) (belongs : κ → Bool) {rows : List (κ × ν)}
    (foreign : ∀ row ∈ rows, belongs row.1 = false) :
    (table.insertRows rows).rows.filter (belongs ·.1) = table.rows.filter (belongs ·.1) := by
  induction rows generalizing table with
  | nil => rfl
  | cons row rows ih =>
    obtain ⟨here, behind⟩ := List.forall_mem_cons.mp foreign
    rw [insertRows_cons, ih _ behind, filter_rows_insert table belongs row.2 here]

end VectorKernel.Table
