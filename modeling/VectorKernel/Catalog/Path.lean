import VectorKernel.Catalog.Basic
import VectorKernel.Search.Path

/-!
# Conversion chains

Types without a direct conversion are bridged by a chain of instructions. The types are the
nodes of a graph, with an edge for each conversion. A search finds the types on a shortest path
through it, and the names of the conversions between neighbours are the chain.
-/

namespace VectorKernel.Catalog

/-- Whether some conversion starts or ends at a type. -/
def isNode (rows : List (Edge × String)) (signature : Signature) : Bool :=
  rows.any fun row => row.1.source = signature || row.1.target = signature

/-- The instruction of the conversion between two types, if there is one. -/
def nameBetween? (rows : List (Edge × String)) (source target : Signature) : Option String :=
  (rows.find? fun row => row.1.source = source && row.1.target = target).map Prod.snd

/-- The instructions between neighbouring types. -/
def namesAlong (rows : List (Edge × String)) (nodes : List Signature) : List String :=
  (nodes.zip nodes.tail).filterMap fun (source, target) => nameBetween? rows source target

/-- The instructions that convert a value, the first to apply first. Equal
signatures need none. -/
def conversionPath (catalog : Catalog) (source target : Signature) (architecture : Architecture)
    (search : PathSearch Signature := .nearestFirst) : Except Fault (List String) :=
  let rows := catalog.edges architecture
  if source = target then .ok []
  else if !(isNode rows source && isNode rows target) then
    .error (.noConversion source target architecture)
  else match search.find (rows.map fun row => (row.1.source, row.1.target)) source target with
    | some nodes => .ok (namesAlong rows nodes)
    | none => .error (.noConversion source target architecture)

/-- A conversion path depends on the conversions of the architecture only. -/
theorem conversionPath_congr {catalog other : Catalog} {architecture : Architecture}
    (same : other.edges architecture = catalog.edges architecture) (source target : Signature)
    (search : PathSearch Signature) :
    other.conversionPath source target architecture search =
      catalog.conversionPath source target architecture search := by
  rw [conversionPath, same, conversionPath]

end VectorKernel.Catalog
