import VectorKernel.Proofs.Reading.Grammar

/-!
# Operators without parentheses

Sums, comparisons, dereferences and element accesses are written without parentheses
around their sides. What is left of a tree of them is the row of its tokens. A reader
groups these by how tightly operators bind, whatever the tree was: `Tree.regroup` is
the tree so found. `tokens_eq_iff` says that two trees have the same tokens exactly if
they are regrouped alike.

The regrouped tree is put together from the regrouped parts. A star in front goes to
the leftmost operand, a subscript behind to the rightmost one, and a link between two
trees goes below everything that binds less tightly.
-/

namespace VectorKernel.Grouping

/-- A name that C accepts. -/
abbrev Identifier := { text : String // Reading.isIdentifier text = true }

/-- An operator between two sides that are written without parentheses. -/
inductive Link where
  | sum
  | comparison (relation : Comparison)
  deriving DecidableEq, Repr

/-- The same operator among all that stand between two sides. -/
def Link.toReading : Link → Reading.Link
  | .sum => .arithmetic .add
  | .comparison relation => .comparison relation

/-- How tightly a link binds. -/
def Link.level (link : Link) : Nat :=
  link.toReading.level

/-- A tree of operators that are written without parentheses. -/
inductive Tree where
  | name (identifier : Identifier)
  | deref (part : Tree)
  | index (base position : Tree)
  | binary (link : Link) (left right : Tree)
  deriving DecidableEq, Repr

/-- A token of the text of such a tree. -/
inductive Token where
  | name (identifier : Identifier)
  | star
  | link (link : Link)
  | opening
  | closing
  deriving DecidableEq, Repr

namespace Tree

/-- The tokens of a tree, in the order in which they are written. -/
def tokens : Tree → List Token
  | .name identifier => [.name identifier]
  | .deref part => .star :: part.tokens
  | .index base position => base.tokens ++ .opening :: (position.tokens ++ [.closing])
  | .binary link left right => left.tokens ++ .link link :: right.tokens

/-- A tree with a star in front of it, which belongs to the leftmost operand. -/
def starred : Tree → Tree
  | .binary link left right => .binary link left.starred right
  | tree => .deref tree

/-- A tree with a subscript behind it, which belongs to the rightmost operand and binds
tighter than the stars of that. -/
def subscripted : (tree position : Tree) → Tree
  | .binary link left right, position => .binary link left (right.subscripted position)
  | .deref part, position => .deref (part.subscripted position)
  | tree, position => .index tree position

/-- A tree with a link and its right side behind it. The link takes as its left side
what is not held back by a looser one. -/
def extend : (tree : Tree) → (link : Link) → (operand : Tree) → Tree
  | .binary outer left right, link, operand =>
    if outer.level < link.level then .binary outer left (right.extend link operand)
    else .binary link (.binary outer left right) operand
  | tree, link, operand => .binary link tree operand

/-- Two trees with a link between them. The links of the second are brought in from
left to right. -/
def join (first : Tree) (link : Link) : (second : Tree) → Tree
  | .binary inner left right => (first.join link left).extend inner right
  | tree => first.extend link tree

/-- The tree that the tokens of a tree are read as. -/
def regroup : Tree → Tree
  | .name identifier => .name identifier
  | .deref part => part.regroup.starred
  | .index base position => base.regroup.subscripted position.regroup
  | .binary link left right => left.regroup.join link right.regroup

section Tokens

variable (tree first operand position : Tree) (link : Link)

@[simp] theorem tokens_starred : tree.starred.tokens = .star :: tree.tokens := by
  induction tree with
  | binary link left right leftIh => simp [starred, tokens, leftIh]
  | name | deref | index => rfl

@[simp] theorem tokens_subscripted :
    (tree.subscripted position).tokens = tree.tokens ++ .opening :: (position.tokens ++ [.closing]) := by
  induction tree with
  | binary link left right _ rightIh => simp [subscripted, tokens, rightIh]
  | deref part ih => simp [subscripted, tokens, ih]
  | name | index => rfl

@[simp] theorem tokens_extend :
    (tree.extend link operand).tokens = tree.tokens ++ .link link :: operand.tokens := by
  induction tree with
  | binary outer left right _ rightIh =>
    unfold extend
    split
    · simp [tokens, rightIh]
    · rfl
  | name | deref | index => rfl

@[simp] theorem tokens_join :
    (first.join link tree).tokens = first.tokens ++ .link link :: tree.tokens := by
  induction tree with
  | binary inner left right leftIh => simp [join, tokens, leftIh]
  | name | deref | index => simp [join]

/-- Regrouping moves no token. -/
theorem tokens_regroup : tree.regroup.tokens = tree.tokens := by
  induction tree with
  | name => rfl
  | deref part ih => simp [regroup, tokens, ih]
  | index base position baseIh positionIh => simp [regroup, tokens, baseIh, positionIh]
  | binary link left right leftIh rightIh => simp [regroup, tokens, leftIh, rightIh]

end Tokens

section Commutation

variable (tree first second operand position : Tree) (link : Link)

/-- A star in front and a link behind do not meet. -/
theorem starred_extend : (tree.extend link operand).starred = tree.starred.extend link operand := by
  cases tree with
  | binary outer left right =>
    simp only [extend, starred]
    split <;> rfl
  | name | deref | index => rfl

/-- A star in front of two linked trees belongs to the first one. -/
theorem starred_join : (first.join link tree).starred = first.starred.join link tree := by
  induction tree with
  | binary inner left right leftIh => simp only [join, starred_extend, leftIh]
  | name | deref | index => exact starred_extend ..

/-- A subscript belongs to the operand below the star. -/
theorem subscripted_starred :
    tree.starred.subscripted position = (tree.subscripted position).starred := by
  cases tree <;> rfl

/-- A subscript behind a link belongs to what the link has brought in. -/
theorem subscripted_extend :
    (tree.extend link operand).subscripted position = tree.extend link (operand.subscripted position) := by
  induction tree with
  | binary outer left right _ rightIh =>
    simp only [extend]
    split
    · simp only [subscripted, rightIh]
    · rfl
  | name | deref | index => rfl

/-- A subscript behind two linked trees belongs to the second one. -/
theorem subscripted_join :
    (first.join link tree).subscripted position = first.join link (tree.subscripted position) := by
  cases tree <;> exact subscripted_extend ..

/-- A link goes into what a looser link has brought in. -/
theorem extend_extend {outer : Link} (looser : outer.level < link.level) :
    (tree.extend outer first).extend link operand = tree.extend outer (first.extend link operand) := by
  induction tree with
  | binary held left right _ rightIh =>
    by_cases below : held.level < outer.level
    · have belowLink : held.level < link.level := below.trans looser
      simp only [extend, if_pos below, if_pos belowLink, rightIh]
    · simp only [extend, if_neg below, if_pos looser]
  | name | deref | index => simp only [extend, if_pos looser]

/-- An operand behind two linked trees may be brought in before or after they are linked. -/
theorem join_extend (inner : Link) :
    first.join link (second.extend inner operand) = (first.join link second).extend inner operand := by
  cases second with
  | binary held left right =>
    by_cases below : held.level < inner.level
    · simp only [extend, if_pos below, join, extend_extend _ _ _ _ below]
    · simp only [extend, if_neg below, join]
  | name | deref | index => rfl

/-- Of two links it does not matter which is brought in first. -/
theorem join_join (inner : Link) :
    (first.join link second).join inner tree = first.join link (second.join inner tree) := by
  induction tree with
  | binary held left right leftIh => simp only [join, leftIh, join_extend]
  | name | deref | index => exact (join_extend ..).symm

end Commutation

end Tree

/-- The reader waits for an operand, which completes a tree, or holds a tree. Outside
are the trees whose subscripts have been opened. -/
inductive State where
  | waiting (complete : Tree → Tree) (outer : List Tree)
  | holding (tree : Tree) (outer : List Tree)

/-- One step of the reader. -/
def step : State → Token → Option State
  | .waiting complete outer, .name identifier => some (.holding (complete (.name identifier)) outer)
  | .waiting complete outer, .star => some (.waiting (fun tree => complete tree.starred) outer)
  | .holding tree outer, .link link => some (.waiting (tree.join link ·) outer)
  | .holding tree outer, .opening => some (.waiting id (tree :: outer))
  | .holding position (base :: outer), .closing => some (.holding (base.subscripted position) outer)
  | _, _ => none

/-- A run of the reader over tokens. -/
def run : State → List Token → Option State
  | state, [] => some state
  | state, token :: tokens => (step state token).bind (run · tokens)

/-- Tokens may be read in two portions. -/
theorem run_append (state : State) (front back : List Token) :
    run state (front ++ back) = (run state front).bind (run · back) := by
  induction front generalizing state with
  | nil => rfl
  | cons token tokens ih =>
    simp only [List.cons_append, run, Option.bind_assoc]
    congr 1
    funext next
    exact ih next

/-- What stands in front of an operand has no part in what follows behind it. -/
structure InFront (complete : Tree → Tree) : Prop where
  subscripted : ∀ tree position, (complete tree).subscripted position = complete (tree.subscripted position)
  join : ∀ tree link right, (complete tree).join link right = complete (tree.join link right)

namespace InFront

theorem nothing : InFront id where
  subscripted _ _ := rfl
  join _ _ _ := rfl

/-- A star may stand in front. -/
theorem star {complete : Tree → Tree} (front : InFront complete) :
    InFront fun tree => complete tree.starred where
  subscripted tree position := by
    rw [front.subscripted, Tree.subscripted_starred]
  join tree link right := by
    rw [front.join, Tree.starred_join]

/-- An operand and an operator may stand in front. -/
theorem link (left : Tree) (link : Link) : InFront (left.join link ·) where
  subscripted tree position := Tree.subscripted_join tree left position link
  join tree inner right := Tree.join_join right left tree link inner

end InFront

/-- Reading the tokens of a tree brings its regrouped form to the place of the operand
that the reader waits for. -/
theorem run_tokens (tree : Tree) {complete : Tree → Tree} (front : InFront complete)
    (outer : List Tree) :
    run (.waiting complete outer) tree.tokens = some (.holding (complete tree.regroup) outer) := by
  induction tree generalizing complete outer with
  | name identifier => rfl
  | deref part ih => exact ih front.star outer
  | index base position baseIh positionIh =>
    rw [Tree.tokens, run_append, baseIh front, Option.bind_some]
    change (run (.waiting id (_ :: outer)) (position.tokens ++ [.closing])) = _
    rw [run_append, positionIh .nothing, Option.bind_some, Tree.regroup, ← front.subscripted]
    rfl
  | binary link left right leftIh rightIh =>
    rw [Tree.tokens, run_append, leftIh front, Option.bind_some]
    change run (.waiting ((complete left.regroup).join link ·) outer) right.tokens = _
    rw [rightIh (.link _ link), Tree.regroup, front.join]

/-- Two trees have the same tokens exactly if they are regrouped alike. -/
theorem tokens_eq_iff (tree other : Tree) :
    tree.tokens = other.tokens ↔ tree.regroup = other.regroup := by
  constructor
  · intro same
    have read := run_tokens tree .nothing []
    rw [same, run_tokens other .nothing []] at read
    injection read with read
    injection read with read
    exact read.symm
  · intro same
    rw [← tree.tokens_regroup, same, other.tokens_regroup]

end VectorKernel.Grouping
