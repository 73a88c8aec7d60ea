import Mathlib.Logic.Relation
import VectorKernel.Proofs.ShortestChain

/-!
# Reachable types

A conversion chain is found whenever the conversions of the architecture lead
from one type to the other, by whatever way. Which instructions the conversions are
named by plays no part, so catalogs with the same conversions under other names
reach the same types.
-/

namespace VectorKernel

/-- A key has a value exactly when there is a row for it. -/
theorem Table.isSome_find? {κ ν : Type} [DecidableEq κ] {table : Table κ ν} {key : κ} :
    (table.find? key).isSome ↔ ∃ row ∈ table.rows, key = row.1 := by
  rw [Option.isSome_iff_ne_none, Ne, Table.find?, List.lookup_eq_none_iff]
  simp

namespace Catalog

open Relation (ReflTransGen)

variable {edges : List (Edge × String)} {source target : Signature}

/-- Some conversion leads from a type to another in one step. -/
def Joins (edges : List (Edge × String)) (source target : Signature) : Prop :=
  ∃ row ∈ edges, row.1.source = source ∧ row.1.target = target

/-- Conversions lead from a type to another, in any number of steps. -/
def Reaches (edges : List (Edge × String)) : Signature → Signature → Prop :=
  ReflTransGen (Joins edges)

/-- A walk shows that its end is reached. -/
theorem Walk.reaches {names : List String} (walk : Walk edges source names target) :
    Reaches edges source target := by
  induction walk with
  | start => exact .refl
  | step _ known reached => exact reached.tail ⟨_, known, rfl, rfl⟩

/-- What is reached is reached by a walk, conversion by conversion. -/
theorem Reaches.exists_walk (reaches : Reaches edges source target) :
    ∃ names, Walk edges source names target := by
  induction reaches with
  | refl => exact ⟨[], .start⟩
  | tail _ joins walked =>
    obtain ⟨row, known, rfl, rfl⟩ := joins
    obtain ⟨names, walk⟩ := walked
    exact ⟨names ++ [row.2], walk.step known⟩

/-- There is a conversion chain exactly when conversions lead from one type to
the other. -/
theorem conversionPath_isOk_iff {catalog : Catalog} {architecture : Architecture}
    {search : PathSearch Signature} :
    (∃ names, catalog.conversionPath source target architecture search = .ok names) ↔
      Reaches (catalog.edges architecture) source target := by
  constructor
  · rintro ⟨names, found⟩
    exact (conversionPath_walk found).reaches
  · intro reaches
    obtain ⟨names, walk⟩ := reaches.exists_walk
    obtain ⟨found, answered, -⟩ := conversionPath_le search walk
    exact ⟨found, answered⟩

/-- The conversions of an architecture are those that can be looked up. -/
theorem joins_edges_iff {catalog : Catalog} {architecture : Architecture} :
    Joins (catalog.edges architecture) source target ↔
      (catalog.conversion architecture source target).isSome := by
  rw [conversion, Table.isSome_find?]
  constructor
  · rintro ⟨⟨edge, name⟩, member, rfl, rfl⟩
    obtain ⟨known, here⟩ := List.mem_filter.mp member
    obtain rfl := of_decide_eq_true here
    exact ⟨_, known, rfl⟩
  · rintro ⟨⟨edge, name⟩, known, rfl⟩
    exact ⟨_, List.mem_filter.mpr ⟨known, decide_eq_true rfl⟩, rfl, rfl⟩

end Catalog

end VectorKernel
