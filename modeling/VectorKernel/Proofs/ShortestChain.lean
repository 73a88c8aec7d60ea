import VectorKernel.Proofs.Conversion
import VectorKernel.Proofs.Merging.Rows

/-!
# Shortest conversion chains

A conversion path is a shortest chain of instructions, and there is one whenever there is a
chain. Both hold whatever search is used: nothing is assumed of it but that it keeps what
`PathSearch` promises. What is left to show is that nothing is lost around the search: that the
types at the ends are nodes of the graph, and that every step of a path has a name.

Labels are those of the catalog as it is: `Chain` speaks of look-ups, and a name
that was replaced is on no chain.
-/

namespace VectorKernel.Catalog

variable {source target : Signature} {names : List String} {catalog : Catalog}
  {architecture : Architecture}

/-- Instructions that lead from a type to another, each the one that is looked up
for the two types it converts between. -/
inductive Chain (catalog : Catalog) (architecture : Architecture) (source : Signature) :
    List String → Signature → Prop where
  | start : Chain catalog architecture source [] source
  | step {names : List String} {middle target : Signature} {name : String}
      (earlier : Chain catalog architecture source names middle)
      (named : catalog.conversion architecture middle target = some name) :
      Chain catalog architecture source (names ++ [name]) target

/-- The conversions of an architecture are those that the catalog names for it. -/
theorem mem_edges_iff {edge : Edge} {name : String} :
    (edge, name) ∈ catalog.edges architecture ↔
      edge.architecture = architecture ∧
        catalog.conversion architecture edge.source edge.target = some name := by
  rw [edges, List.mem_filter, conversion, Table.find?_eq_some_iff, decide_eq_true_eq, and_comm]
  exact and_congr_right fun same => same ▸ Iff.rfl

/-- Chains are the walks along the conversions of the architecture. -/
theorem chain_iff_walk :
    Chain catalog architecture source names target ↔
      Walk (catalog.edges architecture) source names target := by
  constructor
  · intro chain
    induction chain with
    | start => exact .start
    | @step _ middle target name _ named walked =>
      have known : (⟨architecture, middle, target⟩, name) ∈ catalog.edges architecture :=
        mem_edges_iff.mpr ⟨rfl, named⟩
      exact walked.step known
  · intro walk
    induction walk with
    | start => exact .start
    | step _ known chain => exact chain.step (mem_edges_iff.mp known).2

/-- No conversion leads nowhere else. -/
theorem Chain.eq_of_nil (chain : Chain catalog architecture source [] target) : source = target := by
  generalize empty : ([] : List String) = names at chain
  cases chain with
  | start => rfl
  | step => exact absurd empty.symm (List.append_ne_nil_of_right_ne_nil _ (List.cons_ne_nil _ _))

/-- All that asking for a conversion path can lead to: a shortest chain, or the
fault, and then there is none. -/
theorem conversionPath_cases (catalog : Catalog) (architecture : Architecture)
    (source target : Signature) (search : PathSearch Signature) :
    (∃ names, catalog.conversionPath source target architecture search = .ok names ∧
      Chain catalog architecture source names target ∧
      ∀ others, Chain catalog architecture source others target → names.length ≤ others.length) ∨
    (catalog.conversionPath source target architecture search =
        .error (.noConversion source target architecture) ∧
      ∀ names, ¬ Chain catalog architecture source names target) := by
  cases asked : catalog.conversionPath source target architecture search with
  | ok names =>
    refine .inl ⟨names, rfl, chain_iff_walk.mpr (conversionPath_walk asked), fun others chain => ?_⟩
    obtain ⟨found, answered, bound⟩ := conversionPath_le search (chain_iff_walk.mp chain)
    obtain rfl := Except.ok.inj (asked.symm.trans answered)
    exact bound
  | error fault =>
    refine .inr ⟨congrArg _ (fault_of_conversionPath asked), fun names chain => ?_⟩
    obtain ⟨found, answered, -⟩ := conversionPath_le search (chain_iff_walk.mp chain)
    cases asked.symm.trans answered

/-- With any search for shortest paths: a conversion path is empty exactly between equal types.
Between different types there is one exactly if there is a chain, and then it is a chain of the
fewest instructions; otherwise the fault says so. -/
theorem conversionPath_shortest (catalog : Catalog) (architecture : Architecture)
    (source target : Signature) (search : PathSearch Signature) :
    (catalog.conversionPath source target architecture search = .ok [] ↔ source = target) ∧
    ((∃ names, names ≠ [] ∧ catalog.conversionPath source target architecture search = .ok names) ↔
      source ≠ target ∧ ∃ names, Chain catalog architecture source names target) ∧
    (∀ names, catalog.conversionPath source target architecture search = .ok names →
      Chain catalog architecture source names target ∧
        ∀ others, Chain catalog architecture source others target → names.length ≤ others.length) ∧
    (catalog.conversionPath source target architecture search =
        .error (.noConversion source target architecture) ↔
      source ≠ target ∧ ∀ names, ¬ Chain catalog architecture source names target) := by
  rcases conversionPath_cases catalog architecture source target search with
    ⟨names, found, chain, shortest⟩ | ⟨missing, unreachable⟩
  · have empty : names = [] ↔ source = target := by
      constructor
      · rintro rfl
        exact chain.eq_of_nil
      · rintro rfl
        exact List.eq_nil_of_length_eq_zero (Nat.le_zero.mp (shortest [] .start))
    rw [found]
    refine ⟨?_, ⟨?_, ?_⟩, ?_, ?_⟩
    · rw [Except.ok.injEq, empty]
    · rintro ⟨_, nonempty, ⟨⟩⟩
      exact ⟨mt empty.mpr nonempty, names, chain⟩
    · rintro ⟨different, -⟩
      exact ⟨names, mt empty.mp different, rfl⟩
    · rintro _ ⟨⟩
      exact ⟨chain, shortest⟩
    · exact ⟨nofun, fun ⟨_, unreachable⟩ => absurd chain (unreachable names)⟩
  · have different : source ≠ target := by
      rintro rfl
      exact unreachable [] .start
    rw [missing]
    refine ⟨⟨nofun, fun same => absurd same different⟩, ⟨?_, ?_⟩, nofun, ?_⟩
    · rintro ⟨_, _, ⟨⟩⟩
    · rintro ⟨-, names, chain⟩
      exact absurd chain (unreachable names)
    · exact ⟨fun _ => ⟨different, unreachable⟩, fun _ => rfl⟩

/-- Eight lanes of signed integers. -/
def integerLanes (width : Nat) : Signature := ⟨.signed, width, 8⟩

/-- Conversions with a loop at a type, a cycle, a detour that was entered first and
a name that was replaced. -/
def widening : Catalog :=
  empty.insertConversions [
    (⟨.x86, integerLanes 8, integerLanes 8⟩, "copy"), (⟨.x86, integerLanes 8, integerLanes 16⟩, "widen"),
    (⟨.x86, integerLanes 16, integerLanes 8⟩, "narrow"), (⟨.x86, integerLanes 16, integerLanes 32⟩, "widen"),
    (⟨.x86, integerLanes 8, integerLanes 32⟩, "replaced"), (⟨.x86, integerLanes 32, integerLanes 64⟩, "extend"),
    (⟨.x86, integerLanes 8, integerLanes 32⟩, "quadruple")]

/-- The shorter way is taken, under its present name, and there is no way back. -/
theorem widening_shortest :
    widening.conversionPath (integerLanes 8) (integerLanes 64) .x86 = .ok ["quadruple", "extend"] ∧
    (∀ others, Chain widening .x86 (integerLanes 8) others (integerLanes 64) → 2 ≤ others.length) ∧
    ∀ names, ¬ Chain widening .x86 (integerLanes 64) names (integerLanes 8) := by
  have found : widening.conversionPath (integerLanes 8) (integerLanes 64) .x86 =
      .ok ["quadruple", "extend"] := by with_unfolding_all rfl
  have missing : widening.conversionPath (integerLanes 64) (integerLanes 8) .x86 =
      .error (.noConversion (integerLanes 64) (integerLanes 8) .x86) := by with_unfolding_all rfl
  obtain ⟨-, -, shortest, -⟩ :=
    conversionPath_shortest widening .x86 (integerLanes 8) (integerLanes 64) .nearestFirst
  obtain ⟨-, -, -, unreachable⟩ :=
    conversionPath_shortest widening .x86 (integerLanes 64) (integerLanes 8) .nearestFirst
  exact ⟨found, (shortest _ found).2, (unreachable.mp missing).2⟩

end VectorKernel.Catalog
