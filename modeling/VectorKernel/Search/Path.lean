import VectorKernel.Search.Heap

/-!
# Shortest paths

What is expected of a search for shortest paths, and one that keeps to it. `PathSearch` has the
expectations as its fields, so that whatever uses a search can rely on them and on nothing else:
which of several shortest paths is found is left open.

`PathSearch.nearestFirst` explores nodes by their distance from the source. Nodes of one distance
are explored in the order in which a heap hands them out, and a node is met once, on the first
way to it. Exploring a node uses its edges up, so the search ends.
-/

namespace VectorKernel

/-- Nodes that lead from one node to another, each joined to the next by an edge. -/
inductive Leads {α : Type} (edges : List (α × α)) : (nodes : List α) → (source target : α) → Prop where
  | stay (node : α) : Leads edges [node] node node
  | step {source middle target : α} {nodes : List α} (edge : (source, middle) ∈ edges)
      (onward : Leads edges nodes middle target) : Leads edges (source :: nodes) source target

/-- A search for shortest paths in a graph, which is given by its edges in the order in which they
were entered. -/
structure PathSearch (α : Type) where
  /-- The nodes of a path, source and target included. -/
  find : (edges : List (α × α)) → (source target : α) → Option (List α)
  /-- What is found is a path. -/
  leads : ∀ {edges source target nodes}, find edges source target = some nodes →
    Leads edges nodes source target
  /-- If there is a path, one is found that is not longer. -/
  shortest : ∀ {edges source target nodes}, Leads edges nodes source target →
    ∃ found, find edges source target = some found ∧ found.length ≤ nodes.length

namespace Leads

variable {α : Type} {edges : List (α × α)} {source middle target : α} {nodes : List α}

/-- A path goes on along an edge from its last node. -/
theorem concat (leads : Leads edges nodes source middle) (edge : (middle, target) ∈ edges) :
    Leads edges (nodes ++ [target]) source target := by
  induction leads with
  | stay node => exact .step edge (.stay target)
  | step first _ ih => exact .step first (ih edge)

end Leads

/-- A node with the nodes on the way to it, the last one first. -/
structure Trail (α : Type) where
  node : α
  before : List α := []

namespace Trail

variable {α : Type}

/-- The number of edges on the way. -/
def length (trail : Trail α) : Nat :=
  trail.before.length

/-- The nodes on the way, the first one first. -/
def path (trail : Trail α) : List α :=
  (trail.node :: trail.before).reverse

/-- The way on to a node. -/
def onward (trail : Trail α) (next : α) : Trail α :=
  ⟨next, trail.node :: trail.before⟩

/-- A trail visits one node more than it has edges. -/
theorem length_path (trail : Trail α) : trail.path.length = trail.length + 1 := by
  simp [path, length]

/-- A longer trail visits its new end last. -/
theorem path_onward (trail : Trail α) (next : α) : (trail.onward next).path = trail.path ++ [next] := by
  simp [path, onward]

theorem length_onward (trail : Trail α) (next : α) : (trail.onward next).length = trail.length + 1 := rfl

end Trail

/-- How far a search has come. -/
structure Frontier (α : Type) where
  /-- The ways to nodes that are not explored yet. -/
  heap : Heap (Trail.length : Trail α → Nat)
  /-- All nodes that were met, explored ones included. -/
  met : List α

namespace Frontier

variable {α : Type}

/-- Only the source is met. -/
def start (source : α) : Frontier α where
  heap := Heap.empty.push ⟨source, []⟩
  met := [source]

/-- At the start only the way to the source waits. -/
theorem toList_start (source : α) : (start source).heap.toList = [⟨source, []⟩] :=
  List.perm_singleton.mp (Heap.empty.push_perm _)

variable [DecidableEq α]

/-- Goes on to a node, unless it was met before. -/
def meet (trail : Trail α) (frontier : Frontier α) (next : α) : Frontier α :=
  if next ∈ frontier.met then frontier
  else { heap := frontier.heap.push (trail.onward next), met := next :: frontier.met }

variable {trail other : Trail α} {frontier : Frontier α} {nexts : List α}

/-- Ways that wait keep waiting. -/
theorem mem_heap_foldl_meet (member : other ∈ frontier.heap.toList) :
    other ∈ (nexts.foldl (meet trail) frontier).heap.toList := by
  induction nexts generalizing frontier with
  | nil => exact member
  | cons next nexts ih =>
    refine ih ?_
    unfold meet
    split
    · exact member
    · exact (frontier.heap.push_perm _).mem_iff.mpr (List.mem_cons_of_mem _ member)

/-- A new way is the explored one and one edge more. -/
theorem of_mem_heap_foldl_meet (member : other ∈ (nexts.foldl (meet trail) frontier).heap.toList) :
    other ∈ frontier.heap.toList ∨ ∃ next ∈ nexts, other = trail.onward next := by
  induction nexts generalizing frontier with
  | nil => exact .inl member
  | cons next nexts ih =>
    rcases ih member with waiting | ⟨later, among, new⟩
    · unfold meet at waiting
      split at waiting
      · exact .inl waiting
      · rcases List.mem_cons.mp ((frontier.heap.push_perm _).mem_iff.mp waiting) with new | old
        · exact .inr ⟨next, List.mem_cons_self, new⟩
        · exact .inl old
    · exact .inr ⟨later, List.mem_cons_of_mem _ among, new⟩

/-- No more trails are added than there are edges to follow. -/
theorem length_heap_foldl_meet (trail : Trail α) (frontier : Frontier α) (nexts : List α) :
    (nexts.foldl (meet trail) frontier).heap.toList.length ≤
      frontier.heap.toList.length + nexts.length := by
  induction nexts generalizing frontier with
  | nil => exact Nat.le_refl _
  | cons next nexts ih =>
    refine Nat.le_trans (ih _) ?_
    unfold meet
    split
    · simp only [List.length_cons]
      omega
    · have pushed := (frontier.heap.push_perm (trail.onward next)).length_eq
      simp only [List.length_cons] at pushed ⊢
      omega

/-- A node that was met stays met. -/
theorem mem_met_foldl_meet {node : α} (member : node ∈ frontier.met) :
    node ∈ (nexts.foldl (meet trail) frontier).met := by
  induction nexts generalizing frontier with
  | nil => exact member
  | cons next nexts ih =>
    refine ih ?_
    unfold meet
    split
    · exact member
    · exact List.mem_cons_of_mem _ member

/-- All nodes that edges lead to are met. -/
theorem mem_met_of_mem {next : α} (among : next ∈ nexts) :
    next ∈ (nexts.foldl (meet trail) frontier).met := by
  induction nexts generalizing frontier with
  | nil => cases among
  | cons first nexts ih =>
    rcases List.mem_cons.mp among with rfl | later
    · rw [List.foldl_cons]
      refine mem_met_foldl_meet ?_
      unfold meet
      split
      · assumption
      · exact List.mem_cons_self
    · exact ih later

/-- A node that is met was met before, or there is a new way to it. -/
theorem of_mem_met_foldl_meet {node : α} (member : node ∈ (nexts.foldl (meet trail) frontier).met) :
    node ∈ frontier.met ∨ ∃ other ∈ (nexts.foldl (meet trail) frontier).heap.toList, other.node = node := by
  induction nexts generalizing frontier with
  | nil => exact .inl member
  | cons next nexts ih =>
    rcases ih member with before | new
    · by_cases known : next ∈ frontier.met
      · rw [meet, if_pos known] at before
        exact .inl before
      · have same : meet trail frontier next =
            { heap := frontier.heap.push (trail.onward next), met := next :: frontier.met } := if_neg known
        rw [same] at before
        rw [List.foldl_cons, same]
        rcases List.mem_cons.mp before with rfl | old
        · refine .inr ⟨trail.onward node, mem_heap_foldl_meet ?_, rfl⟩
          exact (frontier.heap.push_perm _).mem_iff.mpr List.mem_cons_self
        · exact .inl old
    · exact .inr new

end Frontier

namespace PathSearch

variable {α : Type} [DecidableEq α]

/-- The edges from a node. -/
def leaving (node : α) (edges : List (α × α)) : List (α × α) :=
  edges.filter (·.1 = node)

/-- The edges from other nodes. -/
def remaining (node : α) (edges : List (α × α)) : List (α × α) :=
  edges.filter (·.1 ≠ node)

/-- Every edge either leaves the node or remains. -/
theorem length_leaving_add_remaining (node : α) (edges : List (α × α)) :
    (leaving node edges).length + (remaining node edges).length = edges.length := by
  unfold leaving remaining
  induction edges with
  | nil => rfl
  | cons edge edges ih => by_cases same : edge.1 = node <;> simp_all <;> omega

/-- Explores the nearest node until that is the goal. -/
def explore (goal : α) (frontier : Frontier α) (edges : List (α × α)) : Option (List α) :=
  match _popped : frontier.heap.pop? with
  | none => none
  | some (trail, heap) =>
    if trail.node = goal then some trail.path
    else
      let nexts := (leaving trail.node edges).map Prod.snd
      explore goal (nexts.foldl (Frontier.meet trail) { frontier with heap }) (remaining trail.node edges)
  termination_by frontier.heap.toList.length + edges.length
  decreasing_by
    have bound := Frontier.length_heap_foldl_meet trail { frontier with heap } nexts
    have total := length_leaving_add_remaining trail.node edges
    have less := (Heap.pop?_perm _popped).length_eq
    simp only [nexts, List.length_map, List.length_cons] at bound less
    omega

section Exploring

variable {edges all : List (α × α)} {source goal node place : α} {nodes : List α}

/-- A path to the goal takes no edge from a given node, or one of these is followed by a
shorter path that takes none. -/
theorem without (node : α) (leads : Leads edges nodes place goal) :
    Leads (remaining node edges) nodes place goal ∨
      ∃ next, (node, next) ∈ edges ∧ ∃ rest, Leads (remaining node edges) rest next goal ∧
        rest.length < nodes.length := by
  -- The induction reaches the goal first, so it meets the last visit to the node first.
  induction leads with
  | stay goal => exact .inl (.stay goal)
  | @step place middle goal nodes edge _ ih =>
    rcases ih with apart | ⟨next, leaves, rest, apart, shorter⟩
    · by_cases here : place = node
      · exact .inr ⟨middle, here ▸ edge, nodes, apart, Nat.lt_succ_self _⟩
      · exact .inl (.step (List.mem_filter.mpr ⟨edge, by simpa using here⟩) apart)
    · exact .inr ⟨next, leaves, rest, apart, Nat.lt_succ_of_lt shorter⟩

/-- What holds while a search goes on. Ways that wait differ in length by one edge at most. A
node that was met is waiting, or it is explored: then it is not the goal and its edges are
used up. -/
structure Invariant (goal : α) (frontier : Frontier α) (edges : List (α × α)) : Prop where
  layered : ∀ trail ∈ frontier.heap.toList, ∀ other ∈ frontier.heap.toList, other.length ≤ trail.length + 1
  met : ∀ node ∈ frontier.met, (∃ trail ∈ frontier.heap.toList, trail.node = node) ∨
    node ≠ goal ∧ ∀ next, (node, next) ∉ edges

variable {frontier : Frontier α} {trail : Trail α} {heap : Heap (Trail.length : Trail α → Nat)}

/-- The explored way is a shortest one, so the ways that wait then have its length or one edge
more. -/
theorem Invariant.length_bounds (invariant : Invariant goal frontier edges)
    (popped : frontier.heap.pop? = some (trail, heap)) {nexts : List α} {other : Trail α}
    (waits : other ∈ (nexts.foldl (Frontier.meet trail) { frontier with heap }).heap.toList) :
    trail.length ≤ other.length ∧ other.length ≤ trail.length + 1 := by
  have same := Heap.pop?_perm popped
  rcases Frontier.of_mem_heap_foldl_meet waits with old | ⟨next, -, rfl⟩
  · have waited : other ∈ frontier.heap.toList := same.mem_iff.mp (List.mem_cons_of_mem _ old)
    exact ⟨Heap.pop?_le popped waited,
      invariant.layered trail (same.mem_iff.mp List.mem_cons_self) other waited⟩
  · rw [Trail.length_onward]
    omega

/-- Exploring the nearest node keeps the invariant. -/
theorem Invariant.step (invariant : Invariant goal frontier edges)
    (popped : frontier.heap.pop? = some (trail, heap)) (notGoal : trail.node ≠ goal) :
    Invariant goal (((leaving trail.node edges).map Prod.snd).foldl (Frontier.meet trail)
      { frontier with heap }) (remaining trail.node edges) := by
  have same := Heap.pop?_perm popped
  have used : ∀ node next, (node, next) ∉ edges → (node, next) ∉ remaining trail.node edges :=
    fun node next absent member => absent (List.mem_filter.mp member).1
  constructor
  · intro first firstMember second secondMember
    have firstBounds := invariant.length_bounds popped firstMember
    have secondBounds := invariant.length_bounds popped secondMember
    omega
  · intro node member
    rcases Frontier.of_mem_met_foldl_meet member with before | new
    · rcases invariant.met node before with ⟨other, waiting, rfl⟩ | ⟨apart, done⟩
      · rcases List.mem_cons.mp (same.mem_iff.mpr waiting) with rfl | left
        · exact .inr ⟨notGoal, fun next edge => by simpa using (List.mem_filter.mp edge).2⟩
        · exact .inl ⟨other, Frontier.mem_heap_foldl_meet left, rfl⟩
      · exact .inr ⟨apart, fun next => used node next (done next)⟩
    · exact .inl new

/-- A search finds a path that is not longer than any that goes on from a way that waits. -/
theorem explore_le (invariant : Invariant goal frontier edges) :
    ∀ trail ∈ frontier.heap.toList, ∀ nodes, Leads edges nodes trail.node goal →
      ∃ found, explore goal frontier edges = some found ∧ found.length ≤ trail.length + nodes.length := by
  fun_induction explore goal frontier edges with
  | case1 frontier edges empty =>
    intro trail member
    rw [Heap.pop?_eq_none_iff.mp empty] at member
    cases member
  | case2 frontier edges trail heap popped =>
    intro other member nodes leads
    refine ⟨trail.path, rfl, ?_⟩
    have nearest := Heap.pop?_le popped member
    have nonempty : 0 < nodes.length := by cases leads <;> simp
    rw [Trail.length_path]
    omega
  | case3 frontier edges trail heap popped notGoal nexts ih =>
    intro other member nodes leads
    have next := invariant.step popped notGoal
    have nearest := Heap.pop?_le popped member
    have done : ∀ {rest}, ¬ Leads (remaining trail.node edges) rest trail.node goal := by
      intro rest leads
      cases leads with
      | stay => exact notGoal rfl
      | step edge => simpa using (List.mem_filter.mp edge).2
    rcases without trail.node leads with apart | ⟨target, leaves, rest, apart, shorter⟩
    · rcases List.mem_cons.mp ((Heap.pop?_perm popped).mem_iff.mpr member) with rfl | waiting
      · exact absurd apart done
      · exact ih next other (Frontier.mem_heap_foldl_meet waiting) nodes apart
    · -- The target was met now or before. If it still waits, it is at most one edge away.
      have among : target ∈ nexts :=
        List.mem_map.mpr ⟨_, List.mem_filter.mpr ⟨leaves, decide_eq_true rfl⟩, rfl⟩
      rcases next.met target (Frontier.mem_met_of_mem among) with ⟨met, waiting, rfl⟩ | ⟨apartGoal, unused⟩
      · obtain ⟨found, searched, bound⟩ := ih next met waiting rest apart
        refine ⟨found, searched, ?_⟩
        have close := (invariant.length_bounds popped waiting).2
        omega
      · cases apart with
        | stay => exact absurd rfl apartGoal
        | step edge => exact absurd edge (unused _)

/-- A search that has taken paths only finds a path. -/
theorem explore_leads (found : explore goal frontier edges = some nodes) (known : ∀ edge ∈ edges, edge ∈ all)
    (leads : ∀ trail ∈ frontier.heap.toList, Leads all trail.path source trail.node) :
    Leads all nodes source goal := by
  fun_induction explore goal frontier edges with
  | case1 => cases found
  | case2 frontier edges trail heap popped isGoal =>
    obtain rfl := Option.some.inj found
    exact isGoal ▸ leads trail ((Heap.pop?_perm popped).mem_iff.mp List.mem_cons_self)
  | case3 frontier edges trail heap popped notGoal nexts ih =>
    have same := Heap.pop?_perm popped
    refine ih found (fun edge member => known edge (List.mem_filter.mp member).1) fun other member => ?_
    rcases Frontier.of_mem_heap_foldl_meet member with old | ⟨next, among, rfl⟩
    · exact leads other (same.mem_iff.mp (List.mem_cons_of_mem _ old))
    · obtain ⟨⟨place, target⟩, leaves, rfl⟩ := List.mem_map.mp among
      obtain ⟨edge, isNode⟩ := List.mem_filter.mp leaves
      obtain rfl : place = trail.node := of_decide_eq_true isNode
      rw [Trail.path_onward]
      exact (leads trail (same.mem_iff.mp List.mem_cons_self)).concat (known _ edge)

end Exploring

/-- The search that explores the nearest nodes first. -/
def nearestFirst : PathSearch α where
  find edges source target := explore target (.start source) edges
  leads found := by
    refine explore_leads found (fun _ member => member) fun trail member => ?_
    rw [Frontier.toList_start] at member
    obtain rfl := List.mem_singleton.mp member
    exact .stay _
  shortest {edges source target nodes} leads := by
    have invariant : Invariant target (.start source) edges := by
      constructor
      · rw [Frontier.toList_start]
        simp
      · intro node member
        refine .inl ⟨⟨source, []⟩, ?_, (List.mem_singleton.mp member).symm⟩
        rw [Frontier.toList_start]
        exact List.mem_singleton_self _
    obtain ⟨found, searched, bound⟩ := explore_le invariant ⟨source, []⟩
      (by rw [Frontier.toList_start]; exact List.mem_singleton_self _) nodes leads
    exact ⟨found, searched, by simpa [Trail.length] using bound⟩

-- Four nodes are equally near, and two of them are next to the target. The third one is explored
-- before the second one, since the last one has taken the place of the first.
example : nearestFirst.find [(0, 1), (0, 2), (0, 3), (0, 4), (2, 5), (3, 5)] 0 5 = some [0, 3, 5] := by
  decide +kernel

end PathSearch

end VectorKernel
