import VectorKernel.Catalog.Standard
import VectorKernel.Catalog.Path

/-!
# Walks along conversions

A chain of instructions is a walk: each instruction is the one of a conversion that starts
where the one before it ended. Walks and paths through the types are two views of the same, so
what a search promises of paths, whatever search it is, holds of chains. `KeepsLanes` holds
of catalogs whose conversions join types of equally many lanes; the standard
catalog is one of them.
-/

namespace VectorKernel.Catalog

/-- The instructions met on a walk along conversions from one type to another. -/
inductive Walk (edges : List (Edge × String)) (source : Signature) :
    List String → Signature → Prop where
  | start : Walk edges source [] source
  | step {names : List String} {edge : Edge} {name : String}
      (walked : Walk edges source names edge.source) (known : (edge, name) ∈ edges) :
      Walk edges source (names ++ [name]) edge.target

section Walks

variable {rows : List (Edge × String)} {source target goal : Signature} {names : List String}
  {nodes : List Signature}

/-- A walk may be continued at its start. -/
theorem Walk.cons {edge : Edge} {name : String} (known : (edge, name) ∈ rows)
    (walk : Walk rows edge.target names goal) : Walk rows edge.source (name :: names) goal := by
  induction walk with
  | start => exact Walk.start.step known
  | step _ last longer => exact longer.step last

/-- Neighbours on a path have a conversion between them, and it is found. -/
theorem exists_nameBetween? (joined : (source, target) ∈ rows.map fun row => (row.1.source, row.1.target)) :
    ∃ row ∈ rows, row.1.source = source ∧ row.1.target = target ∧
      nameBetween? rows source target = some row.2 := by
  obtain ⟨known, member, ends⟩ := List.mem_map.mp joined
  obtain ⟨rfl, rfl⟩ := Prod.mk.inj ends
  have some : (rows.find? fun row =>
      row.1.source = known.1.source && row.1.target = known.1.target).isSome := by
    rw [List.find?_isSome]
    exact ⟨known, member, by simp⟩
  obtain ⟨row, found⟩ := Option.isSome_iff_exists.mp some
  have same := List.find?_some found
  rw [Bool.and_eq_true, decide_eq_true_eq, decide_eq_true_eq] at same
  exact ⟨row, List.mem_of_find?_eq_some found, same.1, same.2, by rw [nameBetween?, found, Option.map_some]⟩

/-- The names along a path are a walk, with one name for each step of the path: none is missing. -/
theorem walk_of_leads
    (leads : Leads (rows.map fun row => (row.1.source, row.1.target)) nodes source target) :
    Walk rows source (namesAlong rows nodes) target ∧
      (namesAlong rows nodes).length + 1 = nodes.length := by
  induction leads with
  | stay node => exact ⟨.start, rfl⟩
  | @step source middle target nodes joined onward ih =>
    obtain ⟨⟨edge, name⟩, known, rfl, rfl, named⟩ := exists_nameBetween? joined
    obtain ⟨more, rfl⟩ : ∃ more, nodes = edge.target :: more := by cases onward <;> exact ⟨_, rfl⟩
    have first : namesAlong rows (edge.source :: edge.target :: more) =
        name :: namesAlong rows (edge.target :: more) := by
      simp only [namesAlong, List.tail_cons, List.zip_cons_cons, List.filterMap_cons, named]
    rw [first]
    exact ⟨ih.1.cons known, congrArg Nat.succ ih.2⟩

/-- A walk goes along a path, with one more type than names. -/
theorem Walk.exists_leads (walk : Walk rows source names target) :
    ∃ nodes, Leads (rows.map fun row => (row.1.source, row.1.target)) nodes source target ∧
      nodes.length = names.length + 1 := by
  induction walk with
  | start => exact ⟨_, .stay source, rfl⟩
  | step _ known ih =>
    obtain ⟨nodes, leads, length⟩ := ih
    exact ⟨_, leads.concat (List.mem_map.mpr ⟨_, known, rfl⟩), by simp [length]⟩

/-- The ends of a walk between different types are nodes. -/
theorem Walk.isNode_of_ne (walk : Walk rows source names target) (different : source ≠ target) :
    isNode rows source = true ∧ isNode rows target = true := by
  have ends : ∀ {edge : Edge} {name : String}, (edge, name) ∈ rows →
      isNode rows edge.source = true ∧ isNode rows edge.target = true := fun known =>
    ⟨List.any_eq_true.mpr ⟨_, known, by simp⟩, List.any_eq_true.mpr ⟨_, known, by simp⟩⟩
  induction walk with
  | start => exact absurd rfl different
  | @step names edge name _ known ih =>
    refine ⟨?_, (ends known).2⟩
    by_cases here : source = edge.source
    · exact here ▸ (ends known).1
    · exact (ih here).1

variable {catalog : Catalog} {architecture : Architecture} {search : PathSearch Signature}

/-- The instructions of a conversion are a walk along the conversions of the
architecture. -/
theorem conversionPath_walk (found : catalog.conversionPath source target architecture search = .ok names) :
    Walk (catalog.edges architecture) source names target := by
  unfold conversionPath at found
  dsimp only at found
  split at found
  · next same =>
    cases found
    exact same ▸ .start
  · split at found
    · cases found
    · split at found
      · next nodes searched =>
        cases found
        exact (walk_of_leads (search.leads searched)).1
      · cases found

/-- A conversion path is found, and is no longer than any walk. -/
theorem conversionPath_le (search : PathSearch Signature)
    (walk : Walk (catalog.edges architecture) source names target) :
    ∃ found, catalog.conversionPath source target architecture search = .ok found ∧
      found.length ≤ names.length := by
  unfold conversionPath
  dsimp only
  split
  · exact ⟨[], rfl, Nat.zero_le _⟩
  · next different =>
    obtain ⟨sourceKnown, targetKnown⟩ := walk.isNode_of_ne different
    obtain ⟨nodes, leads, length⟩ := walk.exists_leads
    obtain ⟨found, searched, bound⟩ := search.shortest leads
    have count := (walk_of_leads (search.leads searched)).2
    simp only [sourceKnown, targetKnown, Bool.and_self, Bool.not_true, searched]
    exact ⟨_, rfl, by omega⟩

/-- The only reason why there is no conversion path. -/
theorem fault_of_conversionPath {fault : Fault}
    (missing : catalog.conversionPath source target architecture search = .error fault) :
    fault = .noConversion source target architecture := by
  unfold conversionPath at missing
  dsimp only at missing
  split at missing
  · cases missing
  · split at missing
    · exact (Except.error.inj missing).symm
    · split at missing
      · cases missing
      · exact (Except.error.inj missing).symm

end Walks

/-- Catalogs whose conversions join types of equally many lanes. -/
def KeepsLanes (catalog : Catalog) : Prop :=
  ∀ row ∈ catalog.conversions.rows, row.1.source.lanes = row.1.target.lanes

/-- Entering a row adds at most that row. -/
theorem mem_putRow {κ ν : Type} [DecidableEq κ] {key : κ} {value : ν} {rows : List (κ × ν)}
    {row : κ × ν} (member : row ∈ putRow key value rows) : row = (key, value) ∨ row ∈ rows := by
  induction rows with
  | nil => exact .inl (List.mem_singleton.mp member)
  | cons first rows ih =>
    by_cases same : first.1 = key
    · rw [putRow, if_pos same] at member
      exact (List.mem_cons.mp member).imp_right (List.mem_cons_of_mem first)
    · rw [putRow, if_neg same] at member
      rcases List.mem_cons.mp member with rfl | behind
      · exact .inr List.mem_cons_self
      · exact (ih behind).imp_right (List.mem_cons_of_mem first)

/-- Instructions add no conversions. -/
theorem keepsLanes_insertAll {catalog : Catalog} (keeps : catalog.KeepsLanes)
    (rows : List (Key × String)) :
    (catalog.insertAll rows).KeepsLanes := by
  unfold insertAll
  induction rows generalizing catalog with
  | nil => exact keeps
  | cons row rows ih => exact ih keeps

/-- Conversions may be added that keep the lanes. -/
theorem keepsLanes_insertConversions {catalog : Catalog} (keeps : catalog.KeepsLanes)
    {rows : List (Edge × String)} (rowsKeep : ∀ row ∈ rows, row.1.source.lanes = row.1.target.lanes) :
    (catalog.insertConversions rows).KeepsLanes := by
  unfold insertConversions
  induction rows generalizing catalog with
  | nil => exact keeps
  | cons row rows ih =>
    refine ih (fun entered member => ?_) fun other member =>
      rowsKeep other (List.mem_cons_of_mem row member)
    rcases mem_putRow member with rfl | old
    · exact rowsKeep row List.mem_cons_self
    · exact keeps entered old

theorem keepsLanes_empty : empty.KeepsLanes :=
  fun _ member => absurd member List.not_mem_nil

/-- Every standard conversion for x86 keeps the lanes. -/
theorem X86.conversions_keep : ∀ row ∈ X86.conversions, row.1.source.lanes = row.1.target.lanes := by
  decide

/-- Every standard conversion for NEON keeps the lanes. -/
theorem Neon.conversions_keep : ∀ row ∈ Neon.conversions, row.1.source.lanes = row.1.target.lanes := by
  decide

/-- The built-in conversions keep the number of lanes. -/
theorem standard_keepsLanes : standard.KeepsLanes :=
  keepsLanes_insertConversions (keepsLanes_insertAll (keepsLanes_insertConversions
    (keepsLanes_insertAll keepsLanes_empty X86.rows) X86.conversions_keep) Neon.rows) Neon.conversions_keep

end VectorKernel.Catalog
