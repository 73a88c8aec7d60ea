import VectorKernel.Proofs.Grouping.Level
import VectorKernel.Proofs.Reading.Scalar

/-!
# What a text without parentheses says

The text of a tree spells its tokens, and a text that spells tokens spells them in one
way. So two trees have the same text exactly if they are regrouped alike, and among the
trees with a given text, those that are grouped are all one tree up to the grouping of
sums. `grouping_kept_iff` puts this together: that one tree is what the text says, and
it is the tree that was written exactly if that was a grouped one.
-/

namespace VectorKernel

/-- The built-in laws give an element of a scalar the type of a scalar. -/
theorem Registry.keepsScalarsAt_index : Registry.empty.KeepsScalarsAt .index :=
  fun left _ _ _ => ⟨left.scalar, rfl, rfl⟩

namespace Grouping

open Reading (isWordChar isIdentifier)

/-- The characters of a token in C. -/
def Token.spelling : Token → List Char
  | .name identifier => identifier.val.toList
  | .star => [' ', '*']
  | .link joint => ' ' :: (joint.toReading.symbol ++ [' '])
  | .opening => ['[']
  | .closing => [']']

/-- The characters of tokens in a row. -/
def spell (tokens : List Token) : List Char :=
  tokens.flatMap Token.spelling

section Spelling

/-- The token at the front of a text that does not start with a name, and the text
behind it. -/
def mark? : List Char → Option (Token × List Char)
  | ' ' :: '*' :: text => some (.star, text)
  | ' ' :: '+' :: ' ' :: text => some (.link .sum, text)
  | ' ' :: '=' :: '=' :: ' ' :: text => some (.link (.comparison .eq), text)
  | ' ' :: '!' :: '=' :: ' ' :: text => some (.link (.comparison .ne), text)
  | ' ' :: '<' :: ' ' :: text => some (.link (.comparison .lt), text)
  | ' ' :: '<' :: '=' :: ' ' :: text => some (.link (.comparison .le), text)
  | ' ' :: '>' :: ' ' :: text => some (.link (.comparison .gt), text)
  | ' ' :: '>' :: '=' :: ' ' :: text => some (.link (.comparison .ge), text)
  | '[' :: text => some (.opening, text)
  | ']' :: text => some (.closing, text)
  | _ => none

/-- The token at the front of a text, and the text behind it. -/
def token? (text : List Char) : Option (Token × List Char) :=
  if named : isIdentifier (.ofList (text.takeWhile isWordChar)) = true then
    some (.name ⟨.ofList (text.takeWhile isWordChar), named⟩, text.dropWhile isWordChar)
  else mark? text

/-- A text that does not go on with the word before it. -/
def StartsApart (text : List Char) : Prop :=
  ∀ character ∈ text.head?, isWordChar character = false

/-- What does not go on with a letter or a digit starts with a mark. -/
theorem token?_of_apart {text : List Char} (apart : StartsApart text) : token? text = mark? text := by
  have none : text.takeWhile isWordChar = [] := by
    cases text with
    | nil => rfl
    | cons first rest => simp [apart first rfl]
  simp [token?, none, isIdentifier]

/-- A name is read as a whole if the text behind it does not go on with it. -/
theorem token?_name (identifier : Identifier) {text : List Char} (apart : StartsApart text) :
    token? (identifier.val.toList ++ text) = some (.name identifier, text) := by
  have word : ∀ character ∈ identifier.val.toList, isWordChar character = true :=
    List.all_eq_true.mp (Bool.and_eq_true_iff.mp identifier.property).1
  have taken : (identifier.val.toList ++ text).takeWhile isWordChar = identifier.val.toList := by
    rw [List.takeWhile_append_of_pos word]
    cases text with
    | nil => simp
    | cons first rest => simp [apart first rfl]
  have dropped : (identifier.val.toList ++ text).dropWhile isWordChar = text := by
    rw [List.dropWhile_append_of_pos word]
    cases text with
    | nil => rfl
    | cons first rest => simp [apart first rfl]
  simp [token?, taken, dropped, identifier.property]

section Marks

variable {token : Token} (notName : ∀ identifier, token ≠ .name identifier) (text : List Char)
include notName

/-- Only names start with a character of a word. -/
theorem startsApart_spelling : StartsApart (token.spelling ++ text) := by
  cases token with
  | name identifier => exact absurd rfl (notName identifier)
  | star | link | opening | closing =>
    intro character first
    obtain rfl : _ = character := Option.some.inj first
    decide

/-- No mark is spelled like the front of another one. -/
theorem mark?_spelling : mark? (token.spelling ++ text) = some (token, text) := by
  cases token with
  | name identifier => exact absurd rfl (notName identifier)
  | star | opening | closing => rfl
  | link link =>
    cases link with
    | sum => rfl
    | comparison relation => cases relation <;> rfl

end Marks

/-- The token that a text was spelled from is found in front of it. -/
theorem token?_spelling {token : Token} {text : List Char}
    (apart : ∀ identifier, token = .name identifier → StartsApart text) :
    token? (token.spelling ++ text) = some (token, text) := by
  by_cases named : ∃ identifier, token = .name identifier
  · obtain ⟨identifier, rfl⟩ := named
    exact token?_name identifier (apart identifier rfl)
  · have notName := not_exists.mp named
    rw [token?_of_apart (startsApart_spelling notName text), mark?_spelling notName]

/-- A reader that holds a tree accepts no name, so what it accepts is spelled apart. -/
theorem startsApart_of_holding {tree : Tree} {outer : List Tree} {tokens : List Token}
    (accepted : (run (.holding tree outer) tokens).isSome) : StartsApart (spell tokens) := by
  cases tokens with
  | nil => exact nofun
  | cons token tokens =>
    refine startsApart_spelling ?_ (spell tokens)
    rintro identifier rfl
    exact absurd accepted Bool.false_ne_true

/-- Tokens that a reader accepts can be told apart in what they spell. -/
theorem token?_spell {state : State} {token : Token} {tokens : List Token}
    (accepted : (run state (token :: tokens)).isSome) :
    token? (spell (token :: tokens)) = some (token, spell tokens) ∧
      ∃ after, (run after tokens).isSome := by
  obtain ⟨result, accepted⟩ := Option.isSome_iff_exists.mp accepted
  obtain ⟨after, stepped, rest⟩ := Option.bind_eq_some_iff.mp accepted
  have restAccepted : (run after tokens).isSome := Option.isSome_iff_exists.mpr ⟨result, rest⟩
  refine ⟨token?_spelling ?_, after, restAccepted⟩
  -- Behind a name the reader holds a tree, so that no second name follows without a mark.
  rintro identifier rfl
  cases state with
  | waiting complete outer =>
    cases stepped
    exact startsApart_of_holding restAccepted
  | holding => cases stepped

/-- Rows of tokens that a reader accepts are spelled differently if they differ. -/
theorem eq_of_spell {state otherState : State} {tokens others : List Token}
    (accepted : (run state tokens).isSome) (othersAccepted : (run otherState others).isSome)
    (same : spell tokens = spell others) : tokens = others := by
  have nothing : token? (spell []) = none := rfl
  induction tokens generalizing state otherState others with
  | nil =>
    cases others with
    | nil => rfl
    | cons other others =>
      have found := (token?_spell othersAccepted).1
      rw [← same, nothing] at found
      cases found
  | cons token tokens ih =>
    obtain ⟨found, after, restAccepted⟩ := token?_spell accepted
    cases others with
    | nil =>
      rw [same, nothing] at found
      cases found
    | cons other others =>
      obtain ⟨otherFound, otherAfter, otherRest⟩ := token?_spell othersAccepted
      rw [same, otherFound] at found
      injection found with found
      injection found with sameToken sameRest
      rw [sameToken, ih restAccepted otherRest sameRest.symm]

end Spelling

/-- The tokens of a tree are read to their end, from the start of a text. -/
theorem accepts_tokens (tree : Tree) : (run (.waiting id []) tree.tokens).isSome := by
  rw [run_tokens tree .nothing []]
  rfl

/-- Trees have the same text exactly if they are regrouped alike. -/
theorem spell_eq_iff (tree other : Tree) :
    spell tree.tokens = spell other.tokens ↔ tree.regroup = other.regroup := by
  rw [← tokens_eq_iff]
  constructor
  · exact eq_of_spell (accepts_tokens tree) (accepts_tokens other)
  · exact congrArg spell

/-- The scalars that names stand for. -/
structure Scope where
  scalar : Identifier → Reading.Variable
  text_scalar : ∀ identifier, (scalar identifier).operand.text = identifier.val

/-- The expression of a tree. -/
def Tree.toExpr (scope : Scope) : Tree → Expr
  | .name identifier => .value (scope.scalar identifier).operand
  | .deref part => .unary .deref (part.toExpr scope)
  | .index base position => .binary .index (base.toExpr scope) (position.toExpr scope)
  | .binary link left right => .binary link.toReading.operator (left.toExpr scope) (right.toExpr scope)

section Text

variable {context : Context}

/-- Every tree evaluates to a scalar whose text spells its tokens. -/
theorem Tree.evaluate_spells (inC : context.language ≠ .fortran) (keeps : context.rules.KeepsScalars)
    (elements : context.rules.KeepsScalarsAt .index) (scope : Scope) (tree : Tree) :
    ∃ value, (tree.toExpr scope).evaluate context = .ok value ∧ value.IsScalar ∧
      value.render.toList = spell tree.tokens := by
  induction tree with
  | name identifier =>
    refine ⟨.typed (scope.scalar identifier).operand, rfl, ?_, ?_⟩
    · exact Evaluated.isScalar_typed (scope.scalar identifier).typed (scope.scalar identifier).scalar
    · simp [Evaluated.render, scope.text_scalar, spell, tokens, Token.spelling]
  | deref part ih =>
    obtain ⟨partValue, partEq, partScalar, partText⟩ := ih
    obtain ⟨value, evaluated, scalar, rendered⟩ := Expr.evaluate_unary .deref partEq partScalar
    refine ⟨value, evaluated, scalar, ?_⟩
    simp [rendered, Operator.render, toString, partText, spell, tokens, Token.spelling]
  | index base position baseIh positionIh =>
    obtain ⟨baseValue, baseEq, baseScalar, baseText⟩ := baseIh
    obtain ⟨positionValue, positionEq, positionScalar, positionText⟩ := positionIh
    obtain ⟨value, evaluated, scalar, rendered⟩ :=
      Expr.evaluate_binary (by decide) elements baseEq baseScalar positionEq positionScalar
    refine ⟨value, evaluated, scalar, ?_⟩
    simp [rendered, Operator.render, inC, toString, baseText, positionText, spell, tokens, Token.spelling]
  | binary link left right leftIh rightIh =>
    obtain ⟨leftValue, leftEq, leftScalar, leftText⟩ := leftIh
    obtain ⟨rightValue, rightEq, rightScalar, rightText⟩ := rightIh
    obtain ⟨value, evaluated, scalar, rendered⟩ :=
      Expr.evaluate_link keeps link.toReading leftEq leftScalar rightEq rightScalar
    refine ⟨value, evaluated, scalar, ?_⟩
    have plain : link.toReading.groupsLeft = false ∧ link.toReading.groupsRight = false := by
      cases link <;> exact ⟨rfl, rfl⟩
    rw [rendered, Reading.Link.toList_render _ inC, plain.1, plain.2]
    simp [Reading.side, leftText, rightText, spell, tokens, Token.spelling]

/-- Trees are written without parentheses, as a row of tokens, so the text is read as the
regrouped tree. That is a grouped tree, all grouped trees with the same text are
groupings of its sums, and the tree that was written is one of them exactly if it is
grouped itself. -/
theorem grouping_kept_iff (inC : context.language ≠ .fortran) (keeps : context.rules.KeepsScalars)
    (elements : context.rules.KeepsScalarsAt .index) (scope : Scope) (tree : Tree) :
    ∃ text, (tree.toExpr scope).render context = .ok text ∧
      (tree.regroup.toExpr scope).render context = .ok text ∧ tree.regroup.Grouped ∧
      ∀ other : Tree,
        ((other.toExpr scope).render context = .ok text ↔ other.regroup = tree.regroup) ∧
        ((other.toExpr scope).render context = .ok text → other.Grouped →
          (Reassociated tree other ↔ tree.Grouped)) := by
  obtain ⟨value, evaluated, -, text⟩ := tree.evaluate_spells inC keeps elements scope
  have sameText (other : Tree) :
      (other.toExpr scope).render context = .ok value.render ↔ other.regroup = tree.regroup := by
    obtain ⟨otherValue, otherEvaluated, -, otherText⟩ := other.evaluate_spells inC keeps elements scope
    rw [← spell_eq_iff, ← otherText, ← text, String.toList_inj, Expr.render, otherEvaluated]
    exact ⟨Except.ok.inj, congrArg Except.ok⟩
  have regroupedTwice : tree.regroup.regroup = tree.regroup := by
    rw [← tokens_eq_iff, tree.tokens_regroup]
  refine ⟨value.render, (sameText tree).mpr rfl, (sameText tree.regroup).mpr regroupedTwice,
    tree.grouped_regroup, fun other => ⟨sameText other, fun alike otherGrouped => ?_⟩⟩
  constructor
  · intro related
    exact related.grouped_iff.mpr otherGrouped
  · intro grouped
    have otherRead := reassociated_regroup otherGrouped
    rw [(sameText other).mp alike] at otherRead
    exact (reassociated_regroup grouped).symm.trans otherRead

end Text

/-- All names stand for numbers of single precision. -/
def floats : Scope where
  scalar identifier :=
    { operand := .named identifier.val (NumericType.float 32), type := .float 32, typed := rfl,
      scalar := rfl, identifier := identifier.property }
  text_scalar _ := rfl

/-- Plain C, without instructions. -/
def plainC : Context := { target := ⟨.c, .generic⟩, catalog := .empty }

/-- A name for each of three numbers. -/
def nameX : Tree := .name ⟨"x", by decide⟩

def nameY : Tree := .name ⟨"y", by decide⟩

def nameZ : Tree := .name ⟨"z", by decide⟩

/-- Two trees with one text in plain C that differ in more than the grouping of sums. -/
def Confused (text : String) (tree other : Tree) : Prop :=
  (tree.toExpr floats).render plainC = .ok text ∧ (other.toExpr floats).render plainC = .ok text ∧
    ¬ Reassociated tree other

/-- An element of a sum is written like a sum with an element, a dereferenced sum like a
sum with a dereference, and a comparison on the right of another like one on its left. -/
theorem groupings_lost :
    Confused "x + y[z]" (.index (.binary .sum nameX nameY) nameZ)
        (.binary .sum nameX (.index nameY nameZ)) ∧
      Confused " *x + y" (.deref (.binary .sum nameX nameY)) (.binary .sum (.deref nameX) nameY) ∧
      Confused "x == y == z"
        (.binary (.comparison .eq) nameX (.binary (.comparison .eq) nameY nameZ))
        (.binary (.comparison .eq) (.binary (.comparison .eq) nameX nameY) nameZ) := by
  have apart {tree other : Tree} (loose : ¬ tree.Grouped) (grouped : other.Grouped) :
      ¬ Reassociated tree other := fun related => loose (related.grouped_iff.mpr grouped)
  refine ⟨⟨rfl, rfl, apart ?_ ?_⟩, ⟨rfl, rfl, apart ?_ ?_⟩, ⟨rfl, rfl, apart ?_ ?_⟩⟩ <;> decide

/-- A comparison with a dereferenced sum. -/
def comparedTarget : Tree :=
  .binary (.comparison .lt) nameX (.deref (.binary .sum nameY nameZ))

/-- A comparison with a sum in which only the first number is dereferenced. -/
def comparedSum : Tree :=
  .binary (.comparison .lt) nameX (.binary .sum (.deref nameY) nameZ)

/-- The two comparisons have one text, which says the second. -/
theorem comparedTarget_read_as_comparedSum :
    plainC.language ≠ .fortran ∧ plainC.rules.KeepsScalars ∧ plainC.rules.KeepsScalarsAt .index ∧
      (comparedTarget.toExpr floats).render plainC = .ok "x <  *y + z" ∧
      comparedTarget.regroup = comparedSum ∧
      ∀ other : Tree, (other.toExpr floats).render plainC = .ok "x <  *y + z" → other.Grouped →
        ¬ Reassociated comparedTarget other ∧ Reassociated comparedSum other := by
  have inC : plainC.language ≠ .fortran := by decide
  have keeps : plainC.rules.KeepsScalars := Registry.keepsScalars_empty
  have elements : plainC.rules.KeepsScalarsAt .index := Registry.keepsScalarsAt_index
  have rendered : (comparedTarget.toExpr floats).render plainC = .ok "x <  *y + z" := rfl
  obtain ⟨text, renders, -, -, others⟩ := grouping_kept_iff inC keeps elements floats comparedTarget
  obtain rfl := Except.ok.inj (rendered.symm.trans renders)
  have sumRendered : (comparedSum.toExpr floats).render plainC = .ok "x <  *y + z" := rfl
  obtain ⟨sumText, sumRenders, -, -, sumOthers⟩ := grouping_kept_iff inC keeps elements floats comparedSum
  obtain rfl := Except.ok.inj (sumRendered.symm.trans sumRenders)
  refine ⟨inC, keeps, elements, rendered, by decide, fun other alike grouped => ⟨?_, ?_⟩⟩
  · intro related
    have kept : comparedTarget.Grouped := ((others other).2 alike grouped).mp related
    exact absurd kept (by decide)
  · exact ((sumOthers other).2 alike grouped).mpr (by decide)

end Grouping

end VectorKernel
