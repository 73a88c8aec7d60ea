import Mathlib.Data.Finset.Card
import VectorKernel.Proofs.Merging.Rows
import VectorKernel.Proofs.Promotion.Laws

/-!
# Registered rules

What a registry answers after any sequence of registrations. A registration gives a rule
to an ordered pair of classes, and the clauses of a rule give outcomes to operators. On
both levels the last one counts: `outcome?_ofClauses` says so of the clauses of a rule and
`find?_ofRegistrations` of the rules of a registry. So a rule that was replaced has no part
in any answer, and where the last rule of a pair has no outcome the built-in laws apply.
-/

namespace VectorKernel

/-- A clause of a rule: the outcome for an operator, or the one for all operators without
an outcome of their own. -/
abbrev Clause := Option Operator × Outcome

/-- Two types whose lanes cannot meet in one operation. -/
def NumericType.LanesConflict (left right : NumericType) : Prop :=
  left.lanes ≠ right.lanes ∧ left.lanes ≠ 1 ∧ right.lanes ≠ 1

/-- Lanes are compatible exactly if they do not conflict. -/
theorem NumericType.lanesCompatible_iff_not_conflict {left right : NumericType} :
    left.lanesCompatible right = true ↔ ¬ left.LanesConflict right := by
  simp only [lanesCompatible, LanesConflict, Bool.or_eq_true, decide_eq_true_eq]
  omega

namespace Rule

/-- The rule with one more clause. -/
def give (rule : Rule) : Clause → Rule
  | (some operator, outcome) => rule.on operator outcome
  | (none, outcome) => rule.otherwise outcome

/-- The rule that is made by giving clauses one after the other. -/
def ofClauses (clauses : List Clause) : Rule :=
  clauses.foldl give {}

/-- The outcome that a rule has for an operator itself, or for all others. -/
def given? (rule : Rule) : Option Operator → Option Outcome
  | some operator => rule.operators.find? operator
  | none => rule.fallback

/-- A clause gives its scope an outcome and leaves other scopes as they are. -/
theorem given?_give (rule : Rule) (clause : Clause) (scope : Option Operator) :
    (rule.give clause).given? scope = if scope = clause.1 then some clause.2 else rule.given? scope := by
  obtain ⟨_ | operator, outcome⟩ := clause <;> cases scope <;> simp [give, given?, on, otherwise]

/-- A rule gives each scope the outcome of its last clause. -/
theorem given?_ofClauses (clauses : List Clause) (scope : Option Operator) :
    (ofClauses clauses).given? scope = (Table.valuesOf scope clauses).getLast? := by
  have nothing : given? {} scope = none := by cases scope <;> rfl
  rw [ofClauses, Table.view_foldl given?_give, nothing, Option.or_none]

/-- The last clause for an operator decides, and the last one for all others where the
operator has none. -/
theorem outcome?_ofClauses (clauses : List Clause) (operator : Operator) :
    (ofClauses clauses).outcome? operator =
      (Table.valuesOf (some operator) clauses).getLast?.or (Table.valuesOf none clauses).getLast? := by
  rw [← given?_ofClauses, ← given?_ofClauses]
  exact Option.orElse_eq_or ..

end Rule

/-- A call of the registry: a rule, made of clauses, for an ordered pair of classes. -/
abbrev Registration := (TypeClass × TypeClass) × List Clause

namespace Registry

/-- The registry after one more call. -/
def receive (registry : Registry) (call : Registration) : Registry :=
  registry.register call.1.1 call.1.2 (.ofClauses call.2)

/-- A new registry after calls, in order. -/
def ofRegistrations (calls : List Registration) : Registry :=
  calls.foldl receive .empty

/-- Registrations are rows entered one after the other, each with a rule of its own. -/
theorem rules_ofRegistrations (calls : List Registration) :
    (ofRegistrations calls).rules =
      Table.empty.insertRows (calls.map fun call => (call.1, Rule.ofClauses call.2)) := by
  suffices run : ∀ registry : Registry, (calls.foldl receive registry).rules =
      registry.rules.insertRows (calls.map fun call => (call.1, Rule.ofClauses call.2)) from run .empty
  induction calls with
  | nil => exact fun _ => rfl
  | cons call calls ih => exact fun registry => ih (registry.receive call)

/-- A pair of classes has the rule of its last registration. -/
theorem find?_ofRegistrations (calls : List Registration) (classes : TypeClass × TypeClass) :
    (ofRegistrations calls).rules.find? classes =
      (Table.valuesOf classes calls).getLast?.map Rule.ofClauses := by
  have values : Table.valuesOf classes (calls.map fun call => (call.1, Rule.ofClauses call.2)) =
      (Table.valuesOf classes calls).map Rule.ofClauses := by
    rw [Table.valuesOf, Table.valuesOf, List.filterMap_map, List.map_filterMap]
    refine congrArg (List.filterMap · calls) (funext fun call => ?_)
    rw [apply_ite (Option.map Rule.ofClauses)]
    rfl
  rw [rules_ofRegistrations, Table.find?_insertRows, Table.find?_empty, Option.or_none, values,
    List.getLast?_map]

/-- The number of rules is that of the pairs of classes with a registration. -/
theorem size_ofRegistrations (calls : List Registration) :
    (ofRegistrations calls).size = (calls.map Prod.fst).toFinset.card := by
  have sameKeys : (ofRegistrations calls).rules.keys.toFinset = (calls.map Prod.fst).toFinset := by
    ext classes
    rw [List.mem_toFinset, List.mem_toFinset, rules_ofRegistrations, Table.mem_keys_insertRows]
    simp [Table.keys, Table.empty]
  calc (ofRegistrations calls).size
    _ = (ofRegistrations calls).rules.keys.length := (List.length_map _).symm
    _ = (ofRegistrations calls).rules.keys.toFinset.card :=
      (List.toFinset_card_of_nodup (ofRegistrations calls).rules.nodup).symm
    _ = (calls.map Prod.fst).toFinset.card := by rw [sameKeys]

/-- What the built-in laws answer: element access takes the element type on the left
whatever is on the right, an assignment the type on the left, any other operation the
promoted type. Types whose lanes conflict and handles have no answer. -/
structure Builtin (answer : DataType → DataType → Operator → Except Fault (DataType × Operator)) :
    Prop where
  index : ∀ left right : NumericType, answer left right .index = .ok (left.scalar, .index)
  assign : ∀ left right : NumericType, ¬ left.LanesConflict right →
    answer left right .assign = .ok (left.toSignature.natural, .assign)
  promoted : ∀ (left right : NumericType) (operator : Operator), operator ≠ .index →
    operator ≠ .assign → ¬ left.LanesConflict right →
    ∃ type, left.promote right = some type ∧ answer left right operator = .ok (type, operator)
  conflict : ∀ (left right : NumericType) (operator : Operator), operator ≠ .index →
    left.LanesConflict right → answer left right operator = .error (.noTransition left right operator)
  handle : ∀ (left right : DataType) (operator : Operator),
    left.numeric? = none ∨ right.numeric? = none →
    answer left right operator = .error (.noTransition left right operator)

/-- Without rules the built-in transition decides, and the operator stays. -/
theorem transition_empty_eq (left right : DataType) (operator : Operator) :
    empty.transition left right operator =
      (builtinTransition left right operator).map fun type => (type, operator) := rfl

/-- The transition without rules is the built-in one, with all that is said of it. -/
theorem builtin_empty : Builtin empty.transition where
  index := fun _ _ => rfl
  assign := by
    intro left right fits
    have compatible := NumericType.lanesCompatible_iff_not_conflict.mpr fits
    rw [transition_empty_eq, builtinTransition, if_neg (by decide), if_pos ⟨rfl, compatible⟩]
    rfl
  promoted := by
    intro left right operator notIndex notAssign fits
    have compatible := NumericType.lanesCompatible_iff_not_conflict.mpr fits
    obtain ⟨type, promoted⟩ : ∃ type, left.promote right = some type :=
      ⟨_, NumericType.promote_eq_some_iff.mpr ⟨compatible, rfl⟩⟩
    exact ⟨type, promoted, by rw [transition_empty notIndex notAssign, promoted]⟩
  conflict := by
    intro left right operator notIndex conflict
    have apart : ¬ left.lanesCompatible right = true :=
      fun compatible => NumericType.lanesCompatible_iff_not_conflict.mp compatible conflict
    have undefined : left.promote right = none := if_neg apart
    rw [transition_empty_eq, builtinTransition, if_neg notIndex, if_neg fun both => apart both.2, undefined]
    rfl
  handle := by
    intro left right operator either
    cases left with
    | handle name => rfl
    | numeric type =>
      cases right with
      | handle name => rfl
      | numeric other => simp [DataType.numeric?] at either

/-- What calls make of the answer for two types and an operator. -/
structure Decided (calls : List Registration) (left right : DataType) (operator : Operator)
    (answer : Except Fault (DataType × Operator)) : Prop where
  /-- The last rule of the pair has an outcome for the operator: the last one counts. -/
  entry : ∀ clauses outcome, Table.LastGiven calls (left.typeClass, right.typeClass) clauses →
    Table.LastGiven clauses (some operator) outcome →
    answer = .ok (outcome.result left right, outcome.substitute.getD operator)
  /-- It has none for the operator, but one for all others. -/
  fallback : ∀ clauses outcome, Table.LastGiven calls (left.typeClass, right.typeClass) clauses →
    some operator ∉ clauses.map Prod.fst → Table.LastGiven clauses none outcome →
    answer = .ok (outcome.result left right, outcome.substitute.getD operator)
  /-- It has neither, whatever rules the pair had before. -/
  uncovered : ∀ clauses, Table.LastGiven calls (left.typeClass, right.typeClass) clauses →
    some operator ∉ clauses.map Prod.fst → none ∉ clauses.map Prod.fst →
    answer = empty.transition left right operator
  unregistered : (left.typeClass, right.typeClass) ∉ calls.map Prod.fst →
    answer = empty.transition left right operator

/-- Only the last registration of two classes counts. Where it says nothing of an operator, the
built-in transition decides. -/
theorem transition_ofRegistrations (calls : List Registration) (left right : DataType)
    (operator : Operator) :
    (ofRegistrations calls).transition left right operator =
      match (Table.valuesOf (left.typeClass, right.typeClass) calls).getLast?.bind
        fun clauses => (Rule.ofClauses clauses).outcome? operator with
      | some outcome => .ok (outcome.result left right, outcome.substitute.getD operator)
      | none => empty.transition left right operator := by
  rw [transition, find?_ofRegistrations, Option.bind_map]
  rfl

/-- Every transition is decided by a clause of the last registration or by the built-in rules. -/
theorem decided_ofRegistrations (calls : List Registration) (left right : DataType)
    (operator : Operator) :
    Decided calls left right operator ((ofRegistrations calls).transition left right operator) := by
  rw [transition_ofRegistrations]
  constructor
  case entry =>
    intro clauses outcome last entry
    rw [Table.getLast?_valuesOf_iff.mpr last, Option.bind_some, Rule.outcome?_ofClauses,
      Table.getLast?_valuesOf_iff.mpr entry, Option.some_or]
  case fallback =>
    intro clauses outcome last noEntry fallback
    rw [Table.getLast?_valuesOf_iff.mpr last, Option.bind_some, Rule.outcome?_ofClauses,
      Table.valuesOf_eq_nil_iff.mpr noEntry, Table.getLast?_valuesOf_iff.mpr fallback]
    rfl
  case uncovered =>
    intro clauses last noEntry noFallback
    rw [Table.getLast?_valuesOf_iff.mpr last, Option.bind_some, Rule.outcome?_ofClauses,
      Table.valuesOf_eq_nil_iff.mpr noEntry, Table.valuesOf_eq_nil_iff.mpr noFallback]
    rfl
  case unregistered =>
    intro absent
    rw [Table.valuesOf_eq_nil_iff.mpr absent]
    rfl

/-- After any calls of a new registry, each pair of types and each operator is answered
from the last rule of the pair, by the outcome that this rule has for the operator. All
else is answered as in an empty registry, that is, by the built-in laws, and there are as
many rules as pairs. -/
theorem registrations_decide (calls : List Registration) :
    (∀ left right operator,
      Decided calls left right operator ((ofRegistrations calls).transition left right operator)) ∧
    Builtin empty.transition ∧
    (ofRegistrations calls).size = (calls.map Prod.fst).toFinset.card :=
  ⟨decided_ofRegistrations calls, builtin_empty, size_ofRegistrations calls⟩

/-- Three calls, the last of which replaces a rule for handles with integers that covered
every operator. -/
def replacedRule : List Registration :=
  let handle := TypeClass.handle "VALUE"
  [((handle, .integer), [(none, .fixed (NumericType.int 64))]),
    ((.integer, .floating), [(some .div, .fixed (NumericType.float 64))]),
    ((handle, .integer), [(some .assign, .right), (some .assign, Outcome.left.replacing .eq)])]

/-- The later of two outcomes for an assignment counts, and nothing is left of the rule
that was replaced. -/
theorem replacedRule_decided :
    let handle := DataType.handle "VALUE"
    let byte := DataType.numeric (NumericType.int 8)
    (ofRegistrations replacedRule).transition handle byte .assign = .ok (handle, .eq) ∧
    (ofRegistrations replacedRule).transition handle byte .add =
      .error (.noTransition handle byte .add) ∧
    (ofRegistrations replacedRule).size = 2 := by
  intro handle byte
  obtain ⟨decided, builtin, size⟩ := registrations_decide replacedRule
  have last : Table.LastGiven replacedRule (handle.typeClass, byte.typeClass)
      [(some .assign, .right), (some .assign, Outcome.left.replacing .eq)] :=
    ⟨replacedRule.take 2, [], rfl, List.not_mem_nil⟩
  refine ⟨?_, ?_, size.trans (by decide)⟩
  · exact (decided handle byte .assign).entry _ _ last ⟨[_], [], rfl, List.not_mem_nil⟩
  · have uncovered := (decided handle byte .add).uncovered _ last (by decide) (by decide)
    exact uncovered.trans (builtin.handle handle byte .add (.inl rfl))

end Registry

end VectorKernel
