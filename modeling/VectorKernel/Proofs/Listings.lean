import Mathlib.Data.List.Basic
import Mathlib.Data.List.Induction
import VectorKernel.Catalog.Standard
import VectorKernel.Proofs.Merging.Tables
import VectorKernel.Proofs.ShortestChain

/-!
# Listings of a catalog

A catalog is seen in three ways: by look-ups, by the sorted listing of its instructions
and by the listing of its conversions in the order of their first entry. `after_eq` says
what any run of changes leaves, however refused texts are strewn in: the rows that were
added, entered into the empty catalog in order. All three views are read off from these
rows, so that they agree (`listings_agree`).
-/

namespace VectorKernel

namespace Table

variable {κ ν : Type} [DecidableEq κ]

/-- Keys that are listed are listed once. -/
theorem nodup_filter (table : Table κ ν) (listed : κ × ν → Bool) :
    ((table.rows.filter listed).map Prod.fst).Nodup :=
  (List.filter_sublist.map Prod.fst).nodup table.nodup

/-- Keys are listed in the order of their first rows. -/
theorem keys_insertRows_pairwise (rows : List (κ × ν)) :
    (empty.insertRows rows).keys.Pairwise fun earlier later =>
      (rows.map Prod.fst).idxOf earlier < (rows.map Prod.fst).idxOf later := by
  -- From the end: one more row moves no key, and a new key goes behind all others.
  induction rows using List.reverseRecOn with
  | nil => exact .nil
  | append_singleton rows row ih =>
    have listed : ∀ {key}, key ∈ (empty.insertRows rows).keys → key ∈ rows.map Prod.fst := by
      intro key member
      exact (mem_keys_insertRows.mp member).resolve_right List.not_mem_nil
    have before : (empty.insertRows rows).keys.Pairwise fun earlier later =>
        ((rows ++ [row]).map Prod.fst).idxOf earlier < ((rows ++ [row]).map Prod.fst).idxOf later := by
      refine ih.imp_of_mem fun earlierMem laterMem less => ?_
      rwa [List.map_append, List.idxOf_append_of_mem (listed earlierMem),
        List.idxOf_append_of_mem (listed laterMem)]
    rw [insertRows_append, insertRows_cons, insertRows_nil, keys_insert]
    split
    · exact before
    · next fresh =>
      refine List.pairwise_append.mpr ⟨before, List.pairwise_singleton _ _, ?_⟩
      intro earlier earlierMem later laterMem
      obtain rfl := List.mem_singleton.mp laterMem
      have new : row.1 ∉ rows.map Prod.fst := fun member => fresh (mem_keys_insertRows.mpr (.inl member))
      rw [List.map_append, List.idxOf_append_of_mem (listed earlierMem), List.idxOf_append_of_notMem new]
      exact Nat.lt_add_right _ (List.idxOf_lt_length_of_mem (listed earlierMem))

end Table

/-- Operations have ranks of their own. -/
theorem Intrinsic.rank_inj {operation other : Intrinsic} : operation.rank = other.rank ↔ operation = other := by
  have found : ∀ operation : Intrinsic, all[operation.rank]? = some operation := by
    intro operation
    cases operation <;> rfl
  refine ⟨fun same => ?_, congrArg rank⟩
  rw [← Option.some.injEq, ← found, same, found]

/-- Architectures have ranks of their own. -/
theorem Architecture.ctorIdx_inj {architecture other : Architecture} :
    architecture.ctorIdx = other.ctorIdx ↔ architecture = other := by
  cases architecture <;> cases other <;> decide

/-- A kind is determined by its two marks. -/
theorem Kind.eq_of_marks {kind other : Kind} (float : kind.isFloat = other.isFloat)
    (signed : kind.isSigned = other.isSigned) : kind = other := by
  cases kind <;> cases other <;> simp_all [isFloat, isSigned]

namespace Catalog

section Order

/-- A key that stands before another one in listings: the first of operation,
architecture, kind, width, sign and lanes in which they differ decides. Integers stand
before floats and unsigned integers before signed ones. -/
def Key.Precedes (key other : Key) : Prop :=
  key.operation.rank < other.operation.rank ∨ key.operation = other.operation ∧
    (key.architecture.ctorIdx < other.architecture.ctorIdx ∨ key.architecture = other.architecture ∧
      (key.signature.kind.isFloat < other.signature.kind.isFloat ∨
        key.signature.kind.isFloat = other.signature.kind.isFloat ∧
          (key.signature.width < other.signature.width ∨ key.signature.width = other.signature.width ∧
            (key.signature.kind.isSigned < other.signature.kind.isSigned ∨
              key.signature.kind.isSigned = other.signature.kind.isSigned ∧
                key.signature.lanes < other.signature.lanes))))

/-- Marks are ordered as the numbers that stand for them. -/
theorem toNat_lt_toNat {mark other : Bool} : mark.toNat < other.toNat ↔ mark < other := by
  cases mark <;> cases other <;> decide

/-- Marks are determined by the numbers that stand for them. -/
theorem toNat_inj {mark other : Bool} : mark.toNat = other.toNat ↔ mark = other := by
  cases mark <;> cases other <;> decide

/-- The numbers that stand for a key are compared as the key is. -/
theorem Key.lex_order_iff {key other : Key} : List.Lex (· < ·) key.order other.order ↔ key.Precedes other := by
  simp only [order, Precedes, List.cons_lex_cons_iff, Intrinsic.rank_inj, Architecture.ctorIdx_inj,
    toNat_lt_toNat, toNat_inj, List.not_lex_nil, and_false, or_false]

/-- A key is determined by the numbers that stand for it. -/
theorem Key.order_injective {key other : Key} (same : key.order = other.order) : key = other := by
  obtain ⟨operation, architecture, kind, width, lanes⟩ := key
  obtain ⟨otherOperation, otherArchitecture, otherKind, otherWidth, otherLanes⟩ := other
  simp only [order, List.cons.injEq, Intrinsic.rank_inj, Architecture.ctorIdx_inj, toNat_inj, and_true] at same
  obtain ⟨rfl, rfl, floats, rfl, signs, rfl⟩ := same
  obtain rfl := Kind.eq_of_marks floats signs
  rfl

/-- The comparison is the lexicographic one, or equality. -/
theorem comesBefore_iff {left right : List Nat} :
    comesBefore left right = true ↔ List.Lex (· < ·) left right ∨ left = right := by
  induction left generalizing right with
  | nil => cases right <;> simp [comesBefore]
  | cons first lefts ih =>
    cases right with
    | nil => simp [comesBefore]
    | cons other rights =>
      simp only [comesBefore, Bool.or_eq_true, Bool.and_eq_true, decide_eq_true_eq, ih, List.cons_lex_cons_iff,
        List.cons.injEq]
      grind

/-- The comparison is transitive, as sorting asks. -/
theorem comesBefore_trans {first second third : List Nat} (before : comesBefore first second = true)
    (behind : comesBefore second third = true) : comesBefore first third = true := by
  induction first generalizing second third with
  | nil => rfl
  | cons a firsts ih =>
    cases second with
    | nil => cases before
    | cons b seconds =>
      cases third with
      | nil => cases behind
      | cons c thirds =>
        simp only [comesBefore, Bool.or_eq_true, Bool.and_eq_true, decide_eq_true_eq] at before behind ⊢
        rcases before with less | ⟨rfl, before⟩
        · exact .inl (by omega)
        · exact behind.imp_right fun ⟨same, behind⟩ => ⟨same, ih before behind⟩

/-- The comparison is total, as sorting asks. -/
theorem comesBefore_total (left right : List Nat) :
    (comesBefore left right || comesBefore right left) = true := by
  induction left generalizing right with
  | nil => rfl
  | cons a lefts ih =>
    cases right with
    | nil => rfl
    | cons b rights =>
      have rest := ih rights
      simp only [comesBefore, Bool.or_eq_true, Bool.and_eq_true, decide_eq_true_eq] at rest ⊢
      rcases Nat.lt_trichotomy a b with less | rfl | greater
      · exact .inl (.inl less)
      · exact rest.imp (fun before => .inr ⟨rfl, before⟩) fun behind => .inr ⟨rfl, behind⟩
      · exact .inr (.inl greater)

end Order

section Entries

variable (catalog : Catalog) (architecture : Architecture)

/-- A listing holds the instructions of the architecture, each as often as the table does. -/
theorem entries_perm :
    (catalog.entries architecture).Perm
      (catalog.instructions.rows.filter (·.1.architecture = architecture)) :=
  List.mergeSort_perm ..

/-- Listings are strictly increasing. -/
theorem entries_increasing :
    (catalog.entries architecture).Pairwise fun earlier later => earlier.1.Precedes later.1 := by
  have sorted : (catalog.entries architecture).Pairwise fun earlier later =>
      comesBefore earlier.1.order later.1.order = true := by
    refine List.pairwise_mergeSort ?_ ?_ _
    · intro first second third
      exact comesBefore_trans
    · intro earlier later
      exact comesBefore_total _ _
  have distinct : (catalog.entries architecture).Pairwise fun earlier later => earlier.1 ≠ later.1 := by
    have nodup := catalog.instructions.nodup_filter fun row => decide (row.1.architecture = architecture)
    exact List.pairwise_map.mp (((catalog.entries_perm architecture).map Prod.fst).nodup_iff.mpr nodup)
  refine (sorted.and distinct).imp fun ⟨before, other⟩ => ?_
  rw [← Key.lex_order_iff]
  exact (comesBefore_iff.mp before).resolve_right fun same => other (Key.order_injective same)

/-- The listing of instructions holds what look-ups answer. -/
theorem mem_entries_iff {key : Key} {name : String} :
    (key, name) ∈ catalog.entries architecture ↔
      key.architecture = architecture ∧
        catalog.lookup key.operation key.architecture key.signature = some name := by
  rw [(catalog.entries_perm architecture).mem_iff, List.mem_filter, lookup, Table.find?_eq_some_iff,
    decide_eq_true_eq, and_comm]

end Entries

/-- A change of a catalog. -/
inductive Change where
  | insert (key : Key) (name : String)
  | insertConversion (edge : Edge) (name : String)
  /-- A text is merged, unless it is refused. -/
  | extend (text : String)

namespace Change

/-- The catalog that a change leaves. -/
def apply (catalog : Catalog) : Change → Catalog
  | insert key name => catalog.insert key name
  | insertConversion edge name => catalog.insertConversion edge name
  | extend text => ((mergeText text).run.run catalog).2

/-- The instructions that a change adds, in order. A refused text adds none. -/
def keys : Change → List (Key × String)
  | insert key name => [(key, name)]
  | insertConversion .. => []
  | extend text =>
    ((InstructionTable.accepted? text).bind fun table => table.keys.toOption).getD []

/-- The conversions that a change adds, in order. A refused text adds none. -/
def edges : Change → List (Edge × String)
  | insert .. => []
  | insertConversion edge name => [(edge, name)]
  | extend text =>
    ((InstructionTable.accepted? text).bind fun table => table.edges.toOption).getD []

/-- The architecture that a change is on. A refused text is on none. -/
def architecture? : Change → Option Architecture
  | insert key _ => some key.architecture
  | insertConversion edge _ => some edge.architecture
  | extend text => (InstructionTable.accepted? text).map (·.architecture)

/-- All that a change does is to enter the rows that it adds. -/
theorem apply_eq (catalog : Catalog) (change : Change) :
    change.apply catalog = catalog.withRows change.keys change.edges := by
  cases change with
  | insert key name => rfl
  | insertConversion edge name => rfl
  | extend text =>
    rcases mergeText_cases text with
      ⟨refused, fault, run⟩ | ⟨table, added, addedEdges, -, accepted, keysRead, edgesRead, run⟩
    · simp only [apply, run, keys, edges, refused]
      rfl
    · simp only [apply, run, keys, edges, accepted, Option.bind_some, keysRead, edgesRead]
      rfl

/-- A change adds rows of the architecture that it is on. -/
theorem architecture_of_rows (change : Change) :
    (∀ row ∈ change.keys, change.architecture? = some row.1.architecture) ∧
      ∀ row ∈ change.edges, change.architecture? = some row.1.architecture := by
  cases change with
  | insert key name => simp [keys, edges, architecture?]
  | insertConversion edge name => simp [keys, edges, architecture?]
  | extend text =>
    rcases mergeText_cases text with
      ⟨refused, -⟩ | ⟨table, added, addedEdges, -, accepted, keysRead, edgesRead, -⟩
    · simp [keys, edges, refused]
    · simp only [keys, edges, architecture?, accepted, Option.bind_some, keysRead, edgesRead,
        Option.map_some, Option.some.injEq]
      exact ⟨fun row member => (InstructionTable.architecture_of_keys keysRead row member).symm,
        fun row member => (InstructionTable.architecture_of_edges edgesRead row member).symm⟩

/-- Changes one after the other enter all their rows one after the other. -/
theorem foldl_apply (catalog : Catalog) (run : List Change) :
    run.foldl apply catalog = catalog.withRows (run.flatMap keys) (run.flatMap edges) := by
  induction run generalizing catalog with
  | nil => rfl
  | cons change run ih =>
    rw [List.foldl_cons, ih, apply_eq, List.flatMap_cons, List.flatMap_cons, withRows_append]

end Change

/-- The catalogs that runs start from. -/
inductive Origin where
  | empty
  | standard

namespace Origin

/-- The catalog at the start of a run. -/
def catalog : Origin → Catalog
  | empty => .empty
  | standard => .standard

/-- The instructions added before the first change. -/
def keys : Origin → List (Key × String)
  | empty => []
  | standard => X86.rows ++ Neon.rows

/-- The conversions added before the first change. -/
def edges : Origin → List (Edge × String)
  | empty => []
  | standard => X86.conversions ++ Neon.conversions

/-- The catalog after a run of changes. -/
def after (origin : Origin) (run : List Change) : Catalog :=
  run.foldl Change.apply origin.catalog

/-- A catalog is the empty one with the rows of its origin. -/
theorem catalog_eq (origin : Origin) :
    origin.catalog = Catalog.empty.withRows origin.keys origin.edges := by
  cases origin with
  | empty => rfl
  | standard =>
    simp only [catalog, Catalog.standard, insertAll_eq, insertConversions_eq, keys, edges, withRows,
      Table.insertRows_append]

/-- What a run leaves is made of the rows added from the start on. -/
theorem after_eq (origin : Origin) (run : List Change) :
    origin.after run = Catalog.empty.withRows (origin.keys ++ run.flatMap Change.keys)
      (origin.edges ++ run.flatMap Change.edges) := by
  rw [after, Change.foldl_apply, catalog_eq, withRows_append]

end Origin

/-- How the listings of an architecture agree with look-ups, and with the rows that were
added so far. -/
structure Listed (architecture : Architecture) (keys : List (Key × String))
    (edges : List (Edge × String)) (catalog : Catalog) : Prop where
  increasing : (catalog.entries architecture).Pairwise fun earlier later => earlier.1.Precedes later.1
  entry : ∀ key name, (key, name) ∈ catalog.entries architecture ↔
    key.architecture = architecture ∧
      catalog.lookup key.operation key.architecture key.signature = some name
  lastEntry : ∀ key name, (key, name) ∈ catalog.entries architecture ↔
    key.architecture = architecture ∧ Table.LastGiven keys key name
  once : ((catalog.edges architecture).map Prod.fst).Nodup
  /-- Conversions stand in the order of the first rows that added them. -/
  ordered : ((catalog.edges architecture).map Prod.fst).Pairwise fun earlier later =>
    (edges.map Prod.fst).idxOf earlier < (edges.map Prod.fst).idxOf later
  edge : ∀ edge name, (edge, name) ∈ catalog.edges architecture ↔
    edge.architecture = architecture ∧
      catalog.conversion edge.architecture edge.source edge.target = some name
  lastEdge : ∀ edge name, (edge, name) ∈ catalog.edges architecture ↔
    edge.architecture = architecture ∧ Table.LastGiven edges edge name

/-- Rows entered into the empty catalog are listed: the last name of each key, in order. -/
theorem listed_withRows (architecture : Architecture) (keys : List (Key × String))
    (edges : List (Edge × String)) :
    Listed architecture keys edges (Catalog.empty.withRows keys edges) := by
  have edge : ∀ edge name, (edge, name) ∈ (Catalog.empty.withRows keys edges).edges architecture ↔
      edge.architecture = architecture ∧
        (Catalog.empty.withRows keys edges).conversion edge.architecture edge.source edge.target =
          some name := by
    intro edge name
    rw [mem_edges_iff]
    exact and_congr_right fun same => same ▸ Iff.rfl
  constructor
  case increasing => exact entries_increasing _ architecture
  case entry => exact fun key name => mem_entries_iff _ architecture
  case lastEntry =>
    intro key name
    rw [mem_entries_iff, lookup, withRows, Catalog.empty, Table.find?_insertRows_empty]
  case once => exact Table.nodup_filter _ _
  case ordered =>
    exact (Table.keys_insertRows_pairwise edges).sublist (List.filter_sublist.map Prod.fst)
  case edge => exact edge
  case lastEdge =>
    intro key name
    rw [edge, conversion, withRows, Catalog.empty, Table.find?_insertRows_empty]

/-- Changes on other architectures leave the listings of an architecture. -/
theorem listings_foldl_of_foreign {architecture : Architecture} {run : List Change}
    (foreign : ∀ change ∈ run, change.architecture? ≠ some architecture) (catalog : Catalog) :
    (run.foldl Change.apply catalog).entries architecture = catalog.entries architecture ∧
      (run.foldl Change.apply catalog).edges architecture = catalog.edges architecture := by
  rw [Change.foldl_apply]
  constructor
  · refine entries_withRows catalog fun row member same => ?_
    obtain ⟨change, changeMem, rowMem⟩ := List.mem_flatMap.mp member
    exact foreign change changeMem (same ▸ change.architecture_of_rows.1 row rowMem)
  · refine edges_withRows catalog fun row member same => ?_
    obtain ⟨change, changeMem, rowMem⟩ := List.mem_flatMap.mp member
    exact foreign change changeMem (same ▸ change.architecture_of_rows.2 row rowMem)

/-- After any run of changes, refused texts among them, the listings of each architecture
hold what look-ups answer: instructions in strictly increasing order, and conversions once
each, in the order in which they were first added and with the name that was given last.
Changes that follow do not touch the listings of architectures that they are not on. -/
theorem listings_agree (origin : Origin) (run : List Change) (architecture : Architecture) :
    Listed architecture (origin.keys ++ run.flatMap Change.keys)
      (origin.edges ++ run.flatMap Change.edges) (origin.after run) ∧
    ∀ later : List Change, (∀ change ∈ later, change.architecture? ≠ some architecture) →
      (origin.after (run ++ later)).entries architecture = (origin.after run).entries architecture ∧
      (origin.after (run ++ later)).edges architecture = (origin.after run).edges architecture := by
  constructor
  · rw [Origin.after_eq]
    exact listed_withRows architecture _ _
  · intro later foreign
    rw [Origin.after, List.foldl_append]
    exact listings_foldl_of_foreign foreign (origin.after run)

/-- A conversion that is named again keeps its place, and the rows of a refused text are
not listed. -/
example :
    let bytes : Signature := ⟨.signed, 8, 8⟩
    let words : Signature := ⟨.signed, 16, 8⟩
    let badRow := "[\"x86\", [], [[\"i8x8\", \"i32x8\", \"lost\"], [\"i8x8\", \"i99\", \"cast\"]]]"
    (Origin.empty.after [.insertConversion ⟨.x86, bytes, words⟩ "first",
      .insertConversion ⟨.x86, words, bytes⟩ "narrow", .extend badRow,
      .insertConversion ⟨.x86, bytes, words⟩ "last"]).edges .x86 =
      [(⟨.x86, bytes, words⟩, "last"), (⟨.x86, words, bytes⟩, "narrow")] := by
  decide +kernel

end Catalog

end VectorKernel
