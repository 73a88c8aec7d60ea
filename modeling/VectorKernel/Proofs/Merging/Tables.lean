import VectorKernel.Catalog.Extend
import VectorKernel.Catalog.Path
import VectorKernel.Proofs.Merging.Rows
import VectorKernel.Proofs.Success

/-!
# Merging instruction tables

Merging changes a catalog in place, row by row, so a failure in the middle could
leave it half changed. `mergeText_cases` says all that a call can do: it refuses
the text before the first row is entered, or it enters every row. From it follow
what the catalog answers after one call and after any sequence of calls,
`merging_all_or_nothing`: the last row for a key decides, a refused text changes
nothing, and the answers for other architectures stay as they are.
-/

namespace VectorKernel

/-- Results read one by one are those of the rows that can be read. -/
theorem filterMap_of_mapM {ε α β : Type} {read : α → Except ε β} {rows : List α} {results : List β}
    (success : rows.mapM read = .ok results) :
    results = rows.filterMap fun row => (read row).toOption := by
  induction rows generalizing results with
  | nil => exact (pure_eq_ok.mp success).symm
  | cons row rows ih =>
    rw [List.mapM_cons] at success
    obtain ⟨first, firstRead, rest⟩ := bind_eq_ok.mp success
    obtain ⟨others, othersRead, last⟩ := bind_eq_ok.mp rest
    obtain rfl := pure_eq_ok.mp last
    rw [List.filterMap_cons, firstRead, ih othersRead]
    rfl

namespace InstructionTable

/-- The signature that a type name stands for, if it is a type name. -/
def signature? (name : String) : Option Signature :=
  (signature name).toOption

/-- The names that a table gives an instruction of its architecture: those in the
rows of the operation and the type, from first to last. -/
def instructionNames (table : InstructionTable) (key : Catalog.Key) : List String :=
  table.instructions.filterMap fun (operation, type, name) =>
    if key.architecture = table.architecture ∧ operation = key.operation ∧
      signature? type = some key.signature then some name else none

/-- The names that a table gives a conversion of its architecture, from first to
last row. -/
def conversionNames (table : InstructionTable) (edge : Catalog.Edge) : List String :=
  table.conversions.filterMap fun (source, target, name) =>
    if edge.architecture = table.architecture ∧ signature? source = some edge.source ∧
      signature? target = some edge.target then some name else none

/-- A table names no instructions of other architectures. -/
theorem instructionNames_of_ne {table : InstructionTable} {key : Catalog.Key}
    (other : key.architecture ≠ table.architecture) : table.instructionNames key = [] := by
  refine List.filterMap_eq_nil_iff.mpr fun row _ => ?_
  exact if_neg fun ⟨same, _⟩ => other same

/-- A table names no conversions of other architectures. -/
theorem conversionNames_of_ne {table : InstructionTable} {edge : Catalog.Edge}
    (other : edge.architecture ≠ table.architecture) : table.conversionNames edge = [] := by
  refine List.filterMap_eq_nil_iff.mpr fun row _ => ?_
  exact if_neg fun ⟨same, _⟩ => other same

/-- A row of instructions can be read exactly if its type can. -/
theorem toOption_keyRow (architecture : Architecture) (operation : Intrinsic) (type name : String) :
    (keyRow architecture (operation, type, name)).toOption =
      (signature? type).map fun signature => (⟨operation, architecture, signature⟩, name) := by
  simp only [keyRow, signature?]
  generalize signature type = read
  cases read <;> rfl

/-- A row of conversions can be read exactly if both its types can. -/
theorem toOption_edgeRow (architecture : Architecture) (source target name : String) :
    (edgeRow architecture (source, target, name)).toOption =
      (signature? source).bind fun source =>
        (signature? target).map fun target => (⟨architecture, source, target⟩, name) := by
  simp only [edgeRow, signature?]
  generalize signature source = readSource, signature target = readTarget
  cases readSource with
  | error fault => rfl
  | ok source => cases readTarget <;> rfl

variable {table : InstructionTable} {keys : List (Catalog.Key × String)}
  {edges : List (Catalog.Edge × String)}

/-- All instructions of a table are for its architecture. -/
theorem architecture_of_keys (read : table.keys = .ok keys) :
    ∀ row ∈ keys, row.1.architecture = table.architecture := by
  intro row member
  rw [filterMap_of_mapM read, List.mem_filterMap] at member
  obtain ⟨⟨operation, type, name⟩, -, readRow⟩ := member
  rw [toOption_keyRow] at readRow
  obtain ⟨signature, -, rfl⟩ := Option.map_eq_some_iff.mp readRow
  rfl

/-- All conversions of a table are for its architecture. -/
theorem architecture_of_edges (read : table.edges = .ok edges) :
    ∀ row ∈ edges, row.1.architecture = table.architecture := by
  intro row member
  rw [filterMap_of_mapM read, List.mem_filterMap] at member
  obtain ⟨⟨source, target, name⟩, -, readRow⟩ := member
  rw [toOption_edgeRow] at readRow
  obtain ⟨source, -, mapped⟩ := Option.bind_eq_some_iff.mp readRow
  obtain ⟨target, -, rfl⟩ := Option.map_eq_some_iff.mp mapped
  rfl

/-- The catalog rows of a table name an instruction as the rows of the table do. -/
theorem valuesOf_keys (read : table.keys = .ok keys) (key : Catalog.Key) :
    Table.valuesOf key keys = table.instructionNames key := by
  rw [filterMap_of_mapM read, Table.valuesOf, List.filterMap_filterMap, instructionNames]
  refine congrArg (List.filterMap · table.instructions) (funext fun row => ?_)
  obtain ⟨operation, type, name⟩ := row
  obtain ⟨keyOperation, architecture, wanted⟩ := key
  rw [toOption_keyRow]
  dsimp only
  generalize signature? type = read
  cases read <;> simp [eq_comm, and_left_comm]

/-- The rows that were read give a conversion the names that the table gives it. -/
theorem valuesOf_edges (read : table.edges = .ok edges) (edge : Catalog.Edge) :
    Table.valuesOf edge edges = table.conversionNames edge := by
  rw [filterMap_of_mapM read, Table.valuesOf, List.filterMap_filterMap, conversionNames]
  refine congrArg (List.filterMap · table.conversions) (funext fun row => ?_)
  obtain ⟨source, target, name⟩ := row
  obtain ⟨architecture, wantedSource, wantedTarget⟩ := edge
  rw [toOption_edgeRow]
  dsimp only
  generalize signature? source = readSource, signature? target = readTarget
  cases readSource <;> cases readTarget <;> simp [eq_comm]

/-- The table that a text stands for, if all its type names can be read. Whether a
text is accepted does not depend on the catalog. -/
def accepted? (text : String) : Option InstructionTable :=
  (ofText? text).filter fun table => table.keys.toBool && table.edges.toBool

end InstructionTable

namespace Catalog

/-- Instructions are entered as rows of their table. -/
theorem insertAll_eq (catalog : Catalog) (rows : List (Key × String)) :
    catalog.insertAll rows = { catalog with instructions := catalog.instructions.insertRows rows } := by
  unfold insertAll
  induction rows generalizing catalog with
  | nil => rfl
  | cons row rows ih => exact ih (catalog.insert row.1 row.2)

/-- Conversions are entered as rows of their table. -/
theorem insertConversions_eq (catalog : Catalog) (rows : List (Edge × String)) :
    catalog.insertConversions rows =
      { catalog with conversions := catalog.conversions.insertRows rows } := by
  unfold insertConversions
  induction rows generalizing catalog with
  | nil => rfl
  | cons row rows ih => exact ih (catalog.insertConversion row.1 row.2)

/-- A catalog with the rows of a table entered. -/
def withRows (catalog : Catalog) (keys : List (Key × String)) (edges : List (Edge × String)) : Catalog where
  instructions := catalog.instructions.insertRows keys
  conversions := catalog.conversions.insertRows edges

/-- Rows may be entered in two portions. -/
theorem withRows_append (catalog : Catalog) (keys moreKeys : List (Key × String))
    (edges moreEdges : List (Edge × String)) :
    catalog.withRows (keys ++ moreKeys) (edges ++ moreEdges) =
      (catalog.withRows keys edges).withRows moreKeys moreEdges := by
  simp only [withRows, Table.insertRows_append]

/-- Entering the same rows again changes nothing. -/
theorem withRows_withRows (catalog : Catalog) (keys : List (Key × String)) (edges : List (Edge × String)) :
    (catalog.withRows keys edges).withRows keys edges = catalog.withRows keys edges := by
  simp only [withRows, Table.insertRows_insertRows]

/-- Entering instructions one by one enters them all and never fails. -/
theorem run_forM_enter (rows : List (Key × String)) (catalog : Catalog) :
    (rows.forM enter).run.run catalog = (.ok (), catalog.insertAll rows) := by
  induction rows generalizing catalog with
  | nil => rfl
  | cons row rows ih => exact ih (catalog.insert row.1 row.2)

/-- Entering conversions one by one enters them all and never fails. -/
theorem run_forM_enterConversion (rows : List (Edge × String)) (catalog : Catalog) :
    (rows.forM enterConversion).run.run catalog = (.ok (), catalog.insertConversions rows) := by
  induction rows generalizing catalog with
  | nil => rfl
  | cons row rows ih => exact ih (catalog.insertConversion row.1 row.2)

/-- Reading a table changes no catalog. -/
theorem run_lift {α : Type} (read : Except TableFault α) (catalog : Catalog) :
    (liftM read : MergeM α).run.run catalog = (read, catalog) := rfl

/-- Merging refuses a table before the first row is entered, or enters all its
rows. -/
theorem run_merge (table : InstructionTable) (catalog : Catalog) :
    (merge table).run.run catalog =
      match table.keys, table.edges with
      | .ok keys, .ok edges => (.ok (), catalog.withRows keys edges)
      | .error fault, _ => (.error fault, catalog)
      | .ok _, .error fault => (.error fault, catalog) := by
  simp only [merge, run_bind, run_lift]
  cases table.keys with
  | error fault => rfl
  | ok keys =>
    cases table.edges with
    | error fault => rfl
    | ok edges =>
      simp only [run_forM_enter, run_forM_enterConversion, insertAll_eq, insertConversions_eq, withRows]

/-- All that merging a text does: a refused text leaves the catalog, and the rows
of an accepted one are all entered. -/
theorem mergeText_cases (text : String) :
    (InstructionTable.accepted? text = none ∧
      ∃ fault, ∀ catalog, (mergeText text).run.run catalog = (.error fault, catalog)) ∨
    ∃ table keys edges, InstructionTable.ofText? text = some table ∧
      InstructionTable.accepted? text = some table ∧ table.keys = .ok keys ∧ table.edges = .ok edges ∧
      ∀ catalog, (mergeText text).run.run catalog = (.ok (), catalog.withRows keys edges) := by
  unfold mergeText InstructionTable.accepted?
  cases InstructionTable.ofText? text with
  | none => exact .inl ⟨rfl, .notTable, fun _ => rfl⟩
  | some table =>
    simp only [run_merge]
    cases keysRead : table.keys with
    | error fault => exact .inl ⟨by simp [keysRead, Except.toBool], fault, fun _ => rfl⟩
    | ok keys =>
      cases edgesRead : table.edges with
      | error fault => exact .inl ⟨by simp [edgesRead, Except.toBool], fault, fun _ => rfl⟩
      | ok edges =>
        refine .inr ⟨table, keys, edges, rfl, ?_, keysRead, edgesRead, fun _ => rfl⟩
        simp [keysRead, edgesRead, Except.toBool]

/-- Two catalogs that answer alike for an architecture. -/
structure SameAnswers (architecture : Architecture) (before after : Catalog) : Prop where
  lookup : ∀ operation signature,
    after.lookup operation architecture signature = before.lookup operation architecture signature
  conversion : ∀ source target,
    after.conversion architecture source target = before.conversion architecture source target
  conversionPath : ∀ source target search,
    after.conversionPath source target architecture search =
      before.conversionPath source target architecture search
  entries : after.entries architecture = before.entries architecture
  edges : after.edges architecture = before.edges architecture

/-- What a catalog answers after a table is merged: the last row of the table for a
key, and as before where the table has none. -/
structure Merged (table : InstructionTable) (before after : Catalog) : Prop where
  lookup : ∀ operation architecture signature,
    after.lookup operation architecture signature =
      (table.instructionNames ⟨operation, architecture, signature⟩).getLast?.or
        (before.lookup operation architecture signature)
  conversion : ∀ architecture source target,
    after.conversion architecture source target =
      (table.conversionNames ⟨architecture, source, target⟩).getLast?.or
        (before.conversion architecture source target)
  elsewhere : ∀ architecture, architecture ≠ table.architecture → SameAnswers architecture before after

section Answers

variable {table : InstructionTable} {keys : List (Key × String)} {edges : List (Edge × String)}

/-- After a table was read, an instruction has its last name in the table, or else the one from
before. -/
theorem lookup_withRows (read : table.keys = .ok keys) (catalog : Catalog) (operation : Intrinsic)
    (architecture : Architecture) (signature : Signature) :
    (catalog.withRows keys edges).lookup operation architecture signature =
      (table.instructionNames ⟨operation, architecture, signature⟩).getLast?.or
        (catalog.lookup operation architecture signature) := by
  rw [← InstructionTable.valuesOf_keys read]
  exact Table.find?_insertRows catalog.instructions keys _

/-- After a table was read, a conversion has its last name in the table, or else the one from
before. -/
theorem conversion_withRows (read : table.edges = .ok edges) (catalog : Catalog)
    (architecture : Architecture) (source target : Signature) :
    (catalog.withRows keys edges).conversion architecture source target =
      (table.conversionNames ⟨architecture, source, target⟩).getLast?.or
        (catalog.conversion architecture source target) := by
  rw [← InstructionTable.valuesOf_edges read]
  exact Table.find?_insertRows catalog.conversions edges _

/-- Rows of other architectures leave the listing of instructions. -/
theorem entries_withRows (catalog : Catalog) {architecture : Architecture}
    (foreign : ∀ row ∈ keys, row.1.architecture ≠ architecture) :
    (catalog.withRows keys edges).entries architecture = catalog.entries architecture := by
  have sameRows : (catalog.withRows keys edges).instructions.rows.filter (·.1.architecture = architecture) =
      catalog.instructions.rows.filter (·.1.architecture = architecture) :=
    Table.filter_rows_insertRows catalog.instructions
      (fun key => decide (key.architecture = architecture)) fun row member =>
        decide_eq_false (foreign row member)
  rw [entries, sameRows, entries]

/-- Rows of other architectures leave the listing of conversions. -/
theorem edges_withRows (catalog : Catalog) {architecture : Architecture}
    (foreign : ∀ row ∈ edges, row.1.architecture ≠ architecture) :
    (catalog.withRows keys edges).edges architecture = catalog.edges architecture :=
  Table.filter_rows_insertRows catalog.conversions
    (fun edge => decide (edge.architecture = architecture)) fun row member =>
      decide_eq_false (foreign row member)

/-- The rows of a table leave the answers for other architectures. -/
theorem sameAnswers_withRows (keysRead : table.keys = .ok keys) (edgesRead : table.edges = .ok edges)
    (catalog : Catalog) {architecture : Architecture} (other : architecture ≠ table.architecture) :
    SameAnswers architecture catalog (catalog.withRows keys edges) := by
  have sameEdges : (catalog.withRows keys edges).edges architecture = catalog.edges architecture :=
    edges_withRows catalog fun row member =>
      InstructionTable.architecture_of_edges edgesRead row member ▸ other.symm
  constructor
  case edges => exact sameEdges
  case entries =>
    exact entries_withRows catalog fun row member =>
      InstructionTable.architecture_of_keys keysRead row member ▸ other.symm
  case conversionPath => exact conversionPath_congr sameEdges
  case lookup =>
    intro operation signature
    rw [lookup_withRows keysRead, InstructionTable.instructionNames_of_ne other]
    rfl
  case conversion =>
    intro source target
    rw [conversion_withRows edgesRead, InstructionTable.conversionNames_of_ne other]
    rfl

end Answers

/-- Offers texts to a catalog one after the other. A refused text does not keep the
later ones from being offered. -/
def offerAll (texts : List String) : StateM Catalog (List (Except TableFault Unit)) :=
  texts.mapM fun text => (mergeText text).run

/-- The catalog after texts were offered to it. -/
def afterOffers (catalog : Catalog) (texts : List String) : Catalog :=
  ((offerAll texts).run catalog).2

/-- Texts are offered one after the other, whether they are accepted or not. -/
theorem afterOffers_cons (catalog : Catalog) (text : String) (texts : List String) :
    catalog.afterOffers (text :: texts) = ((mergeText text).run.run catalog).2.afterOffers texts := by
  unfold afterOffers offerAll
  rw [List.mapM_cons, StateT.run_bind]
  rfl

/-- The refused texts of a sequence may be left out. -/
theorem afterOffers_filter (catalog : Catalog) (texts : List String) :
    catalog.afterOffers (texts.filter fun text => (InstructionTable.accepted? text).isSome) =
      catalog.afterOffers texts := by
  induction texts generalizing catalog with
  | nil => rfl
  | cons text texts ih =>
    rw [List.filter_cons, afterOffers_cons, ← ih]
    rcases mergeText_cases text with ⟨refused, fault, run⟩ | ⟨table, _, _, -, accepted, -, -, -⟩
    · simp only [refused, Option.isSome_none, Bool.false_eq_true, if_false, run]
    · simp only [accepted, Option.isSome_some, if_true, afterOffers_cons]

/-- At every point of a sequence of texts, a refused text leaves the catalog
exactly as it was, and an accepted one is merged whole, with its last row for a key
deciding; merging it again changes nothing. So only the accepted texts of the
sequence count. -/
theorem merging_all_or_nothing (start : Catalog) (earlier : List String) (text : String) :
    (match (mergeText text).run.run (start.afterOffers earlier) with
      | (.error _, after) =>
        InstructionTable.accepted? text = none ∧ after = start.afterOffers earlier
      | (.ok (), after) =>
        ∃ table, InstructionTable.accepted? text = some table ∧
          InstructionTable.ofText? text = some table ∧
          Merged table (start.afterOffers earlier) after ∧
          (mergeText text).run.run after = (.ok (), after)) ∧
    start.afterOffers earlier =
      start.afterOffers (earlier.filter fun text => (InstructionTable.accepted? text).isSome) := by
  refine ⟨?_, (afterOffers_filter start earlier).symm⟩
  rcases mergeText_cases text with
    ⟨refused, fault, run⟩ | ⟨table, keys, edges, read, accepted, keysRead, edgesRead, run⟩
  · rw [run]
    exact ⟨refused, rfl⟩
  · simp only [run]
    have merged : Merged table (start.afterOffers earlier)
        ((start.afterOffers earlier).withRows keys edges) := {
      lookup := lookup_withRows keysRead _
      conversion := conversion_withRows edgesRead _
      elsewhere := fun _ other => sameAnswers_withRows keysRead edgesRead _ other }
    exact ⟨table, accepted, read, merged, by rw [withRows_withRows]⟩

/-- A later row of the same table counts; the rows of a table with a bad type name
do not. -/
example :
    let twoRows := "[\"x86\", [[\"add\", \"f32x4\", \"first\"], [\"add\", \"f32x4\", \"last\"]]]"
    let badRow := "[\"x86\", [[\"add\", \"f32x4\", \"other\"]], [[\"f32x4\", \"f99\", \"cast\"]]]"
    (empty.afterOffers [twoRows, badRow]).lookup .add .x86 ⟨.float, 32, 4⟩ = some "last" := by
  decide +kernel

end Catalog

end VectorKernel
