import VectorKernel.Proofs.Reading.Token

/-!
# The grammar of C expressions

The grammar is layered by precedence, from `||` at the bottom to unary operators
at the top, and every operator between two sides associates to the left. The
grammar is unambiguous: `Derives.unique` says that tokens have at most one tree.
The proof runs a machine over the tokens that keeps unfinished operators on a
stack, and shows that it ends with the tree of whatever derivation there is.
-/

namespace VectorKernel.Reading

/-- The layer of a link: links of higher layers bind tighter. -/
def Link.level : Link → Nat
  | .connective .or => 0
  | .connective .and => 1
  | .comparison .eq | .comparison .ne => 2
  | .comparison _ => 3
  | .arithmetic operation => operation.level

/-- The layer of unary operators, names, numerals and groups, above all links. -/
def unaryLevel : Nat := 6

/-- Every operator between two operands binds weaker than those in front of one. -/
theorem Link.level_lt_unaryLevel (link : Link) : link.level < unaryLevel := by
  rcases link with (_ | _) | (_ | _) | (_ | _) <;> decide

/-- The syntax tree of an expression, in which parentheses have done their work. -/
inductive Tree where
  | name (text : String)
  | numeral (value : Nat)
  | minus (part : Tree)
  | not (part : Tree)
  | link (link : Link) (left right : Tree)
  deriving DecidableEq, Repr

/-- The tokens of a layer that the grammar reads as a tree. -/
inductive Derives : (level : Nat) → List Token → Tree → Prop where
  | name (text : String) : Derives unaryLevel [.name text] (.name text)
  | numeral (value : Nat) : Derives unaryLevel [.numeral value] (.numeral value)
  | group {tokens : List Token} {tree : Tree} (inner : Derives 0 tokens tree) :
      Derives unaryLevel (.opening :: (tokens ++ [.closing])) tree
  | minus {tokens : List Token} {part : Tree} (operand : Derives unaryLevel tokens part) :
      Derives unaryLevel (.minus :: tokens) (.minus part)
  | not {tokens : List Token} {part : Tree} (operand : Derives unaryLevel tokens part) :
      Derives unaryLevel (.bang :: tokens) (.not part)
  /-- An expression of a layer is one of the layer below. -/
  | tighter {level : Nat} {tokens : List Token} {tree : Tree} (above : Derives (level + 1) tokens tree) :
      Derives level tokens tree
  /-- The right side is of the next layer, so links of one layer group to the left. -/
  | link (link : Link) {lefts rights : List Token} {left right : Tree}
      (leftSide : Derives link.level lefts left) (rightSide : Derives (link.level + 1) rights right) :
      Derives link.level (lefts ++ .link link :: rights) (.link link left right)

/-- An expression of a layer is one of every lower layer. -/
theorem Derives.lower {level lowest : Nat} {tokens : List Token} {tree : Tree}
    (derivation : Derives level tokens tree) (below : lowest ≤ level) : Derives lowest tokens tree := by
  induction below with
  | refl => exact derivation
  | step _ ih => exact ih derivation.tighter

/-- An operator that waits on the stack for its operand or its right side, or an
open parenthesis. -/
inductive Frame where
  | minus
  | not
  | opening
  | left (link : Link) (tree : Tree)

/-- The machine waits for an operand, or holds a tree that may be the left side
of what follows. -/
inductive State where
  | waiting (stack : List Frame)
  | holding (stack : List Frame) (tree : Tree)

/-- Completes the operators on the stack that bind a tree at least as tightly as
a link of the given layer would. -/
def settle (level : Nat) : List Frame → Tree → List Frame × Tree
  | .minus :: stack, tree => settle level stack (.minus tree)
  | .not :: stack, tree => settle level stack (.not tree)
  | .left link left :: stack, tree =>
    if level ≤ link.level then settle level stack (.link link left tree)
    else (.left link left :: stack, tree)
  | stack, tree => (stack, tree)

/-- One step of the machine. -/
def step : State → Token → Option State
  | .waiting stack, .name text => some (.holding stack (.name text))
  | .waiting stack, .numeral value => some (.holding stack (.numeral value))
  | .waiting stack, .minus => some (.waiting (.minus :: stack))
  | .waiting stack, .bang => some (.waiting (.not :: stack))
  | .waiting stack, .opening => some (.waiting (.opening :: stack))
  | .holding stack tree, .link link =>
    let (stack, left) := settle link.level stack tree
    some (.waiting (.left link left :: stack))
  | .holding stack tree, .closing =>
    match settle 0 stack tree with
    | (.opening :: stack, tree) => some (.holding stack tree)
    | _ => none
  | _, _ => none

/-- A run of the machine over tokens. -/
def run : State → List Token → Option State
  | state, [] => some state
  | state, token :: tokens => (step state token).bind (run · tokens)

/-- Tokens may be read in two portions. -/
theorem run_append (state : State) (front back : List Token) :
    run state (front ++ back) = (run state front).bind (run · back) := by
  induction front generalizing state with
  | nil => rfl
  | cons token tokens ih =>
    simp only [List.cons_append, run, Option.bind_assoc]
    exact congrArg _ (funext fun next => ih next)

/-- Whether the stack leaves a tree of a layer alone: nothing on top of it could
take a part of the tree. -/
def Blocks (level : Nat) : List Frame → Prop
  | .minus :: _ | .not :: _ => unaryLevel ≤ level
  | .left link _ :: _ => link.level < level
  | _ => True

/-- What leaves trees of a layer alone leaves those of the next one alone. -/
theorem Blocks.succ {level : Nat} {stack : List Frame} (blocks : Blocks level stack) :
    Blocks (level + 1) stack := by
  cases stack with
  | nil => trivial
  | cons frame stack =>
    cases frame with
    | minus | not => exact Nat.le_succ_of_le blocks
    | opening => trivial
    | left link left => exact Nat.lt_succ_of_lt blocks

/-- A stack that leaves the left side of a link alone is not changed by it. -/
theorem Blocks.settle_eq {link : Link} {stack : List Frame} (blocks : Blocks link.level stack)
    (tree : Tree) :
    settle link.level stack tree = (stack, tree) := by
  have below := link.level_lt_unaryLevel
  cases stack with
  | nil => rfl
  | cons frame stack =>
    cases frame with
    | minus | not => exact absurd blocks (Nat.not_le_of_lt below)
    | opening => rfl
    | left other left => simp only [settle, if_neg (Nat.not_le_of_lt blocks)]

/-- The machine reads tokens as their derivation does: it ends with a tree in
hand, and any link that follows finds the stack as if the whole tree were there. -/
theorem Derives.reaches {level : Nat} {tokens : List Token} {tree : Tree}
    (derivation : Derives level tokens tree) (stack : List Frame) (blocks : Blocks level stack) :
    ∃ held part, run (.waiting stack) tokens = some (.holding held part) ∧
      ∀ limit ≤ level, settle limit held part = settle limit stack tree := by
  induction derivation generalizing stack with
  | name text => exact ⟨stack, .name text, rfl, fun _ _ => rfl⟩
  | numeral value => exact ⟨stack, .numeral value, rfl, fun _ _ => rfl⟩
  | @group tokens tree inner ih =>
    obtain ⟨held, part, reaches, settles⟩ := ih (.opening :: stack) trivial
    have closes : settle 0 held part = (.opening :: stack, tree) := settles 0 (Nat.le_refl 0)
    refine ⟨stack, tree, ?_, fun _ _ => rfl⟩
    change run (.waiting (.opening :: stack)) (tokens ++ [.closing]) = _
    rw [run_append, reaches, Option.bind_some]
    simp only [run, step, closes, Option.bind_some]
  | minus operand ih =>
    obtain ⟨held, part, reaches, settles⟩ := ih (.minus :: stack) (Nat.le_refl unaryLevel)
    exact ⟨held, part, reaches, settles⟩
  | not operand ih =>
    obtain ⟨held, part, reaches, settles⟩ := ih (.not :: stack) (Nat.le_refl unaryLevel)
    exact ⟨held, part, reaches, settles⟩
  | tighter above ih =>
    obtain ⟨held, part, reaches, settles⟩ := ih stack blocks.succ
    exact ⟨held, part, reaches, fun limit below => settles limit (Nat.le_succ_of_le below)⟩
  | @link link lefts rights left right leftSide rightSide leftIh rightIh =>
    obtain ⟨held, part, reaches, settles⟩ := leftIh stack blocks
    have whole : settle link.level held part = (stack, left) :=
      (settles link.level (Nat.le_refl _)).trans (blocks.settle_eq left)
    obtain ⟨heldRight, partRight, reachesRight, settlesRight⟩ :=
      rightIh (.left link left :: stack) (Nat.lt_succ_self link.level)
    refine ⟨heldRight, partRight, ?_, fun limit below => ?_⟩
    · rw [run_append, reaches, Option.bind_some]
      simpa only [run, step, whole, Option.bind_some] using reachesRight
    · rw [settlesRight limit (Nat.le_succ_of_le below), settle, if_pos below]

/-- Tokens have at most one tree. -/
theorem Derives.unique {tokens : List Token} {tree other : Tree} (derivation : Derives 0 tokens tree)
    (otherDerivation : Derives 0 tokens other) : other = tree := by
  obtain ⟨held, part, reaches, settles⟩ := derivation.reaches [] trivial
  obtain ⟨heldOther, partOther, reachesOther, settlesOther⟩ := otherDerivation.reaches [] trivial
  obtain ⟨rfl, rfl⟩ : held = heldOther ∧ part = partOther := by
    simpa using reaches.symm.trans reachesOther
  have same := (settlesOther 0 (Nat.le_refl 0)).symm.trans (settles 0 (Nat.le_refl 0))
  simpa [settle] using same

end VectorKernel.Reading
