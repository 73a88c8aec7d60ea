import Mathlib.Data.List.Forall2
import VectorKernel.Proofs.Text
import VectorKernel.Settings

/-!
# Lines of a settings file

What a line of a settings file can be, said of its characters: blank, a comment, a
heading in brackets, or an assignment, which is cut at its first equals sign. For each
of these shapes there is one lemma, which says that exactly the lines of that shape are
read as such. A heading takes precedence over an assignment, and blanks at the ends of a
line and of its parts make no difference.

The value of an assignment may be a list in brackets. `lists_iff` says which names are in it.
-/

namespace VectorKernel.Settings

/-- A line of white space only. -/
def IsBlank (line : String) : Prop :=
  ∀ char ∈ line.toList, Text.isBlank char = true

-- Named, since there are finitely many characters and search could go through them all.
instance (line : String) : Decidable (IsBlank line) :=
  List.decidableBAll (Text.isBlank · = true) line.toList

/-- A line whose first character other than a blank is a hash sign. -/
def IsComment (line : String) : Prop :=
  ∃ before after, line.toList = before ++ '#' :: after ∧ ∀ char ∈ before, Text.isBlank char = true

/-- A line that consists of a name in brackets, with blanks around them. -/
def IsHeading (line name : String) : Prop :=
  ∃ inner : String, Text.Around Text.isBlank ('[' :: (inner.toList ++ [']'])) line.toList ∧
    Text.Core Text.isBlank name.toList inner.toList

/-- Any other line with an equals sign, the first of which parts the key from the value. -/
structure IsAssignment (line key value : String) : Prop where
  parts : ∃ before after : String, line.toList = before.toList ++ '=' :: after.toList ∧
    '=' ∉ before.toList ∧ Text.Core Text.isBlank key.toList before.toList ∧
    Text.Core Text.isBlank value.toList after.toList
  notComment : ¬ IsComment line
  notHeading : ∀ name, ¬ IsHeading line name

/-- The name in an item of a list: the item without the blanks around it, and then without the
quotes around that. -/
def IsItem (item name : String) : Prop :=
  ∃ inner : String, Text.Core Text.isBlank inner.toList item.toList ∧
    Text.Core (· == '"') name.toList inner.toList

/-- The names that a value lists. A list stands in brackets, with commas between its items, and
items without a name do not count. Any other value lists nothing. -/
inductive Lists (value : String) : (names : List String) → Prop where
  | items {items found : List String} (nonempty : items ≠ [])
      (brackets : value.toList = '[' :: ([','].intercalate (items.map String.toList) ++ [']']))
      (parted : ∀ item ∈ items, ',' ∉ item.toList) (named : List.Forall₂ IsItem items found) :
      Lists value (found.filter (· ≠ ""))
  | nothing (noBrackets : ∀ inner, value.toList ≠ '[' :: (inner ++ [']'])) : Lists value []

variable {line key value name text inner : String}

/-- A text is in brackets if it consists of an opening one, its inside and a closing one. -/
theorem bracketed?_eq_some_iff :
    bracketed? text = some inner ↔ text.toList = '[' :: (inner.toList ++ [']']) := by
  unfold bracketed?
  split
  · next rest shape =>
    rw [shape, List.cons_inj_right, Option.ite_none_right_eq_some, List.getLast?_eq_some_iff]
    constructor
    · rintro ⟨⟨front, rfl⟩, same⟩
      obtain rfl := Option.some.inj same
      simp
    · rintro rfl
      exact ⟨⟨_, rfl⟩, by simp⟩
  · next other =>
    exact ⟨nofun, fun shape => absurd shape (other _)⟩

/-- A line is blank exactly if nothing is left of it. -/
theorem trim_isEmpty_iff : (Text.trim line).isEmpty = true ↔ IsBlank line := by
  rw [String.isEmpty_iff, ← String.toList_inj, String.toList_empty, ← List.head?_eq_none_iff, Text.trim,
    Text.head?_dropAround, List.find?_eq_none]
  simp [IsBlank]

/-- A line is a comment exactly if its first mark that is no blank is a hash. -/
theorem head?_trim_iff : (Text.trim line).toList.head? = some '#' ↔ IsComment line := by
  rw [Text.trim, Text.head?_dropAround, List.find?_eq_some_iff_append]
  simp [IsComment, Text.isBlank]

/-- A heading is told by what trimming leaves of the line. -/
theorem isHeading_iff :
    IsHeading line name ↔ ∃ inner, bracketed? (Text.trim line) = some inner ∧ Text.trim inner = name := by
  simp only [IsHeading, bracketed?_eq_some_iff, Text.core_iff]
  constructor
  · rintro ⟨inner, around, named⟩
    exact ⟨inner, Text.toList_dropAround_of_around around (by simp) rfl (by simp [Text.isBlank]), named⟩
  · rintro ⟨inner, shape, named⟩
    exact ⟨inner, shape ▸ Text.around_dropAround, named⟩

/-- No heading is a comment: it starts with a bracket. -/
theorem IsHeading.not_isComment (heading : IsHeading line name) : ¬ IsComment line := by
  obtain ⟨inner, brackets, -⟩ := isHeading_iff.mp heading
  rw [← head?_trim_iff, bracketed?_eq_some_iff.mp brackets]
  simp

/-- No heading is blank. -/
theorem IsHeading.not_isBlank (heading : IsHeading line name) : ¬ IsBlank line := by
  obtain ⟨inner, brackets, -⟩ := isHeading_iff.mp heading
  rw [← trim_isEmpty_iff, String.isEmpty_iff, ← String.toList_inj, bracketed?_eq_some_iff.mp brackets]
  simp

/-- No assignment is blank: it holds an equals sign. -/
theorem IsAssignment.not_isBlank (assignment : IsAssignment line key value) : ¬ IsBlank line := by
  obtain ⟨before, after, shape, -⟩ := assignment.parts
  intro blank
  cases blank '=' (by simp [shape])

/-- The parts of an assignment are also those of the trimmed line. -/
theorem parts_iff :
    (∃ before after : String, line.toList = before.toList ++ '=' :: after.toList ∧
      '=' ∉ before.toList ∧ Text.Core Text.isBlank key.toList before.toList ∧
      Text.Core Text.isBlank value.toList after.toList) ↔
    ∃ before after, Text.cutFirst '=' (Text.trim line) = some (before, after) ∧
      Text.trim before = key ∧ Text.trim after = value := by
  have cut : (Text.cutFirst '=' (Text.trim line)).map (Prod.map Text.trim Text.trim) =
      (Text.cutFirst '=' line).map (Prod.map Text.trim Text.trim) := Text.cutFirst_dropAround rfl
  have same : (Text.cutFirst '=' (Text.trim line)).map (Prod.map Text.trim Text.trim) = some (key, value) ↔
      (Text.cutFirst '=' line).map (Prod.map Text.trim Text.trim) = some (key, value) := by rw [cut]
  simp only [Option.map_eq_some_iff, Prod.exists, Prod.map, Prod.mk.injEq] at same
  rw [same]
  simp only [Text.cutFirst_eq_some_iff, Text.core_iff, Text.trim, and_assoc]

namespace Line

/-- Blanks before a line make no difference. -/
theorem read_append_left {before : String} (blank : IsBlank before) :
    Line.read (before ++ line) = Line.read line := by
  have same : Text.trim (before ++ line) = Text.trim line := Text.dropAround_append_left blank
  unfold Line.read
  rw [same]

/-- Blanks behind a line make no difference. -/
theorem read_append_right {after : String} (blank : IsBlank after) :
    Line.read (line ++ after) = Line.read line := by
  have same : Text.trim (line ++ after) = Text.trim line := Text.dropAround_append_right blank
  unfold Line.read
  rw [same]

/-- Exactly the blank lines and the comments are silent. -/
theorem silent_iff : ((Text.trim line).isEmpty || (Text.trim line).toList.head? = some '#') = true ↔
    IsBlank line ∨ IsComment line := by
  rw [Bool.or_eq_true, trim_isEmpty_iff, decide_eq_true_eq, head?_trim_iff]

/-- Blank lines and comments say nothing, and no other lines do. -/
theorem read_eq_silent_iff : Line.read line = .silent ↔ IsBlank line ∨ IsComment line := by
  rw [← silent_iff]
  unfold Line.read
  dsimp only
  split
  · next silent => exact ⟨fun _ => silent, fun _ => rfl⟩
  · next speaks =>
    refine ⟨fun read => ?_, fun silent => absurd silent speaks⟩
    split at read
    · simp at read
    · split at read <;> simp at read

/-- Names in brackets are headings, and no other lines are. -/
theorem read_eq_heading_iff : Line.read line = .heading name ↔ IsHeading line name := by
  unfold Line.read
  dsimp only
  split
  · next silent =>
    refine ⟨nofun, fun heading => ?_⟩
    exact absurd (silent_iff.mp silent) (not_or.mpr ⟨heading.not_isBlank, heading.not_isComment⟩)
  · rw [isHeading_iff]
    cases bracketed? (Text.trim line) with
    | some inner => simp
    | none =>
      refine ⟨fun read => ?_, nofun⟩
      dsimp only at read
      split at read <;> simp at read

/-- Lines with an equals sign are assignments, unless they are of another shape, and no
other lines are. -/
theorem read_eq_assignment_iff :
    Line.read line = .assignment key value ↔ IsAssignment line key value := by
  unfold Line.read
  dsimp only
  split
  · next silent =>
    refine ⟨nofun, fun assignment => ?_⟩
    exact absurd (silent_iff.mp silent) (not_or.mpr ⟨assignment.not_isBlank, assignment.notComment⟩)
  · next speaks =>
    have notComment : ¬ IsComment line := fun comment => speaks (silent_iff.mpr (.inr comment))
    cases brackets : bracketed? (Text.trim line) with
    | some inner =>
      have heading : IsHeading line (Text.trim inner) := isHeading_iff.mpr ⟨inner, brackets, rfl⟩
      exact ⟨nofun, fun assignment => absurd heading (assignment.notHeading _)⟩
    | none =>
      have notHeading : ∀ name, ¬ IsHeading line name := fun name heading => by
        obtain ⟨inner, found, -⟩ := isHeading_iff.mp heading
        cases brackets.symm.trans found
      have parts : IsAssignment line key value ↔ _ :=
        ⟨fun assignment => parts_iff.mp assignment.parts,
          fun cut => ⟨parts_iff.mpr cut, notComment, notHeading⟩⟩
      rw [parts]
      cases Text.cutFirst '=' (Text.trim line) with
      | none => simp
      | some cut =>
        obtain ⟨before, after⟩ := cut
        simp [and_assoc]

end Line

/-- An item has one name, which is what the quotes and the blanks around it leave. -/
theorem isItem_iff {item : String} : IsItem item name ↔ Text.unquote (Text.trim item) = name := by
  simp only [IsItem, Text.core_iff, exists_eq_left']
  rfl

/-- Items are read one by one. -/
theorem forall₂_isItem_iff {items found : List String} :
    List.Forall₂ IsItem items found ↔ items.map (fun item => Text.unquote (Text.trim item)) = found := by
  rw [← List.forall₂_eq_eq_eq, List.forall₂_map_left_iff]
  exact ⟨.imp fun _ _ => isItem_iff.mp, .imp fun _ _ => isItem_iff.mpr⟩

/-- Names that are dropped are the empty ones. -/
theorem filter_isEmpty (found : List String) : found.filter (!·.isEmpty) = found.filter (· ≠ "") :=
  List.filter_congr fun name _ => by by_cases empty : name = "" <;> simp [empty]

/-- The names of tables that are read from a value are those that it lists, and it lists no others. -/
theorem lists_iff {names : List String} : Lists value names ↔ Setting.tableNames value = names := by
  constructor
  · rintro (⟨nonempty, brackets, parted, named⟩ | noBrackets)
    · rename_i items found
      have inside : bracketed? value = some (.ofList ([','].intercalate (items.map String.toList))) :=
        bracketed?_eq_some_iff.mpr (by simpa using brackets)
      have pieces : Text.pieces ',' (.ofList ([','].intercalate (items.map String.toList))) = items :=
        Text.pieces_eq_iff.mpr ⟨nonempty, parted, by simp⟩
      rw [Setting.tableNames, inside]
      dsimp only
      rw [pieces, forall₂_isItem_iff.mp named, filter_isEmpty]
    · have open? : bracketed? value = none := by
        rw [Option.eq_none_iff_forall_not_mem]
        exact fun inner brackets => noBrackets _ (bracketed?_eq_some_iff.mp brackets)
      rw [Setting.tableNames, open?]
  · rintro rfl
    unfold Setting.tableNames
    split
    · next inside brackets =>
      obtain ⟨nonempty, parted, shape⟩ := Text.pieces_eq_iff.mp (rfl : Text.pieces ',' inside = _)
      rw [filter_isEmpty]
      exact .items nonempty (shape ▸ bracketed?_eq_some_iff.mp brackets) parted (forall₂_isItem_iff.mpr rfl)
    · next open? =>
      refine .nothing fun inner shape => ?_
      have brackets : bracketed? value = some (.ofList inner) := bracketed?_eq_some_iff.mpr (by simpa using shape)
      cases open?.symm.trans brackets

end VectorKernel.Settings
