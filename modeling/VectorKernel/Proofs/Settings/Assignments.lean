import VectorKernel.Proofs.Settings.Line
import VectorKernel.Proofs.Success

/-!
# Assignments in a settings file

Which lines of a settings file count. A line stands in the section of the last heading
before it, and only assignments to four places, each a key in a section, make a
difference. `readLines_append` takes reading apart at any line: what is behind it depends
on the settings and on the section up to there. So a line that is none of these
assignments can be put in anywhere, and by induction on the last line each setting is the
one that the last assignment to its place gives, or the preset one without any.
-/

namespace VectorKernel

namespace Text

/-- A line without the carriage return at its end, if there is one. -/
def dropReturn (line : String) : String :=
  if line.toList.getLast? = some '\r' then .ofList line.toList.dropLast else line

/-- The lines of a text. A line feed, or a carriage return and a line feed, ends a line,
and the last line may lack it. -/
def lines (text : String) : List String :=
  let parts := (text.toList.splitOn '\n').map String.ofList
  let ended := parts.dropLast.map dropReturn
  let last := parts.getLastD ""
  if last.isEmpty then ended else ended ++ [last]

example : lines "a\r\n\nb\n" = ["a", "", "b"] ∧ lines "a\nb" = ["a", "b"] ∧ lines "" = [] := by decide

end Text

namespace Settings

/-- The section that a line stands in, by the lines before it: that of the last heading,
or a nameless one. -/
inductive InSection : (before : List String) → (name : String) → Prop where
  | start : InSection [] ""
  | heading {before : List String} {line name : String} (opens : IsHeading line name) :
      InSection (before ++ [line]) name
  | other {before : List String} {line name : String} (earlier : InSection before name)
      (plain : ∀ opened, ¬ IsHeading line opened) : InSection (before ++ [line]) name

/-- A key in a section. -/
abbrev Place := String × String

/-- The places that settings have. -/
def places : List Place :=
  [("target", "language"), ("target", "architecture"), ("output", "indent"), ("catalog", "files")]

/-- A line without meaning in a section: blank, a comment, or an assignment to a place
that settings do not have. -/
inductive IsIrrelevant (name line : String) : Prop where
  | blank (blank : IsBlank line)
  | comment (comment : IsComment line)
  | assignment {key value : String} (assignment : IsAssignment line key value)
      (foreign : (name, key) ∉ places)

/-- A line behind others gives a place a value. -/
def Assigns (before : List String) (line : String) (place : Place) (value : String) : Prop :=
  InSection before place.1 ∧ IsAssignment line place.2 value

/-- The line at a position gives a place a value. -/
def AssignsAt (lines : List String) (position : Nat) (place : Place) (value : String) : Prop :=
  ∃ line, lines[position]? = some line ∧ Assigns (lines.take position) line place value

/-- The value that the last of the lines which assign to a place gives it. -/
def LastAssigned (lines : List String) (place : Place) (value : String) : Prop :=
  ∃ position, AssignsAt lines position place value ∧
    ∀ later other, position < later → ¬ AssignsAt lines later place other

/-- A setting is the one that the last assignment to its place stands for, or the preset
one where there is no assignment to it. -/
def Holds {α : Type} (lines : List String) (place : Place) (reads : String → α → Prop)
    (preset held : α) : Prop :=
  (∃ value, LastAssigned lines place value ∧ reads value held) ∨
    (∀ position value, ¬ AssignsAt lines position place value) ∧ held = preset

/-- A value names something by its text without the quotes around it. -/
def Named {α : Type} (ofName? : String → Option α) (value : String) (choice : α) : Prop :=
  ∃ name : String, Text.Core (· == '"') name.toList value.toList ∧ ofName? name = some choice

/-- A value names a choice exactly if the name without quotes is known. -/
theorem named_iff {α : Type} {ofName? : String → Option α} {value : String} {choice : α} :
    Named ofName? value choice ↔ ofName? (Text.unquote value) = some choice := by
  simp only [Named, Text.core_iff, exists_eq_left']
  rfl

/-- Settings that lines decide, in a file in the directory `base`. -/
structure Decided (base : Path) (lines : List String) (settings : Settings) : Prop where
  language : Holds lines ("target", "language") (Named Language.ofName?) .c settings.language
  architecture : Holds lines ("target", "architecture") (Named Architecture.ofName?) .generic
    settings.architecture
  indent : Holds lines ("output", "indent")
    (fun value width => Text.Numeral width value.toList ∧ width ≤ Text.limit64) 2 settings.indent
  tables : Holds lines ("catalog", "files")
    (fun value tables => ∃ names, Lists value names ∧ tables = names.map (Path.join base)) [] settings.tables

section Steps

variable {heading line : String} {lines : List String}

/-- The section behind a line. -/
def Line.opened (heading : String) : Line → String
  | .heading name => name
  | _ => heading

/-- The settings behind a line in a section. -/
def Line.apply (base : Path) (settings : Settings) (heading : String) : Line → Except SettingsFault Settings
  | .silent | .heading _ => .ok settings
  | .other text => .error (.notAssignment text)
  | .assignment key value => (Setting.read heading key value).map (·.elim settings (settings.assign base))

/-- The section behind lines. -/
def headingAfter (heading : String) (lines : List String) : String :=
  lines.foldl (fun heading line => (Line.read line).opened heading) heading

/-- The first line may open a section for those behind it. -/
theorem headingAfter_cons (heading line : String) (lines : List String) :
    headingAfter heading (line :: lines) = headingAfter ((Line.read line).opened heading) lines := by
  rw [headingAfter, List.foldl_cons, headingAfter]

/-- The last line may open a section in place of the one from before. -/
theorem headingAfter_concat (heading : String) (lines : List String) (line : String) :
    headingAfter heading (lines ++ [line]) = (Line.read line).opened (headingAfter heading lines) := by
  rw [headingAfter, List.foldl_concat, headingAfter]

/-- Reading takes one line after the other. -/
theorem readLines_cons (base : Path) (settings : Settings) (heading line : String) (lines : List String) :
    readLines base settings heading (line :: lines) =
      ((Line.read line).apply base settings heading >>= fun after =>
        readLines base after ((Line.read line).opened heading) lines) := by
  conv_lhs => unfold readLines
  cases Line.read line with
  | silent => rfl
  | heading name => rfl
  | other text => rfl
  | assignment key value =>
    rw [Line.apply]
    dsimp only
    rcases Setting.read heading key value with fault | _ | setting <;> rfl

/-- Reading goes on behind some lines with the settings and in the section that they leave. -/
theorem readLines_append (base : Path) (settings : Settings) (heading : String) (lines more : List String) :
    readLines base settings heading (lines ++ more) =
      (readLines base settings heading lines >>= fun after =>
        readLines base after (headingAfter heading lines) more) := by
  induction lines generalizing settings heading with
  | nil => rfl
  | cons line lines ih =>
    rw [List.cons_append, readLines_cons, readLines_cons, bind_assoc, headingAfter_cons]
    exact bind_congr fun after => ih after _

/-- Lines are read from first to last: the last one is applied to what the others left. -/
theorem readLines_concat (base : Path) (settings : Settings) (heading : String) (lines : List String)
    (line : String) :
    readLines base settings heading (lines ++ [line]) =
      (readLines base settings heading lines >>= fun after =>
        (Line.read line).apply base after (headingAfter heading lines)) := by
  rw [readLines_append]
  refine bind_congr fun after => ?_
  rw [readLines_cons]
  exact bind_pure _

/-- Only a heading opens another section. -/
theorem opened_read_of_plain (plain : ∀ opened, ¬ IsHeading line opened) :
    (Line.read line).opened heading = heading := by
  cases read : Line.read line with
  | heading name => exact absurd (Line.read_eq_heading_iff.mp read) (plain name)
  | silent => rfl
  | other text => rfl
  | assignment key value => rfl

/-- The section of a line is the one that reading is in. -/
theorem inSection_iff {name : String} : InSection lines name ↔ headingAfter "" lines = name := by
  constructor
  · intro inSection
    induction inSection with
    | start => rfl
    | heading opens => rw [headingAfter_concat, Line.read_eq_heading_iff.mpr opens, Line.opened]
    | other _ plain ih => rw [headingAfter_concat, opened_read_of_plain plain, ih]
  · rintro rfl
    induction lines using List.reverseRecOn with
    | nil => exact .start
    | append_singleton lines line ih =>
      rw [headingAfter_concat]
      by_cases opens : ∃ name, IsHeading line name
      · obtain ⟨name, opens⟩ := opens
        rw [Line.read_eq_heading_iff.mpr opens]
        exact .heading opens
      · have plain := not_exists.mp opens
        rw [opened_read_of_plain plain]
        exact .other ih plain

end Steps

/-- The lines that say something. -/
def spoken (lines : List String) : List Line :=
  (lines.map Line.read).filter (· ≠ .silent)

/-- Silent lines are dropped in each portion on its own. -/
theorem spoken_append (lines more : List String) : spoken (lines ++ more) = spoken lines ++ spoken more := by
  rw [spoken, List.map_append, List.filter_append, spoken, spoken]

/-- A silent line may be left out. -/
theorem spoken_cons_of_silent {line : String} (silent : Line.read line = .silent) (lines : List String) :
    spoken (line :: lines) = spoken lines := by
  rw [spoken, List.map_cons, silent, List.filter_cons_of_neg (by simp), spoken]

/-- A line may be replaced by one that is read the same. -/
theorem spoken_cons_congr {line other : String} (same : Line.read line = Line.read other)
    (lines : List String) :
    spoken (line :: lines) = spoken (other :: lines) := by
  rw [spoken, List.map_cons, same, ← List.map_cons, spoken]

/-- The settings behind lines of which it is known what they are. -/
def applyAll (base : Path) : (settings : Settings) → (heading : String) → List Line →
    Except SettingsFault Settings
  | settings, _, [] => .ok settings
  | settings, heading, line :: lines =>
    line.apply base settings heading >>= fun after => applyAll base after (line.opened heading) lines

/-- Reading depends on the lines that say something, and on nothing else in the text. -/
theorem readLines_eq (base : Path) (settings : Settings) (heading : String) (lines : List String) :
    readLines base settings heading lines = applyAll base settings heading (spoken lines) := by
  induction lines generalizing settings heading with
  | nil => rfl
  | cons line lines ih =>
    rw [readLines_cons]
    by_cases silent : Line.read line = .silent
    · rw [spoken_cons_of_silent silent, silent]
      exact ih settings heading
    · rw [spoken, List.map_cons, List.filter_cons_of_pos (by simpa using silent), ← spoken, applyAll]
      exact bind_congr fun after => ih after _

section Irrelevance

variable {base : Path} {settings : Settings} {heading line key value : String} {before after : List String}

/-- Assignments elsewhere are read as nothing, with whatever value. -/
theorem Setting.read_of_foreign (foreign : (heading, key) ∉ places) :
    Setting.read heading key value = .ok none := by
  simp only [places, List.mem_cons, Prod.mk.injEq, List.not_mem_nil, or_false, not_or] at foreign
  unfold Setting.read
  split <;> simp_all

/-- A line without effect may be left out. -/
theorem readLines_cons_of_irrelevant (irrelevant : IsIrrelevant heading line) :
    readLines base settings heading (line :: after) = readLines base settings heading after := by
  rw [readLines_cons]
  cases irrelevant with
  | blank blank => rw [Line.read_eq_silent_iff.mpr (.inl blank)]; rfl
  | comment comment => rw [Line.read_eq_silent_iff.mpr (.inr comment)]; rfl
  | assignment assignment foreign =>
    rw [Line.read_eq_assignment_iff.mpr assignment, Line.apply, Setting.read_of_foreign foreign]
    rfl

/-- A line without meaning where it stands can be put in and taken out. -/
theorem readLines_insert (inSection : InSection before heading) (irrelevant : IsIrrelevant heading line) :
    readLines base settings "" (before ++ line :: after) = readLines base settings "" (before ++ after) := by
  rw [readLines_append, readLines_append, inSection_iff.mp inSection]
  exact bind_congr fun _ => readLines_cons_of_irrelevant irrelevant

end Irrelevance

section LastLine

variable {base : Path} {settings earlier : Settings} {line value : String} {lines : List String}
  {place : Place}

/-- With one more line, that line may assign to a place as well. -/
theorem assignsAt_concat {position : Nat} :
    AssignsAt (lines ++ [line]) position place value ↔
      AssignsAt lines position place value ∨ position = lines.length ∧ Assigns lines line place value := by
  unfold AssignsAt
  rcases Nat.lt_trichotomy position lines.length with inside | rfl | beyond
  · rw [List.getElem?_append_left inside, List.take_append_of_le_length (Nat.le_of_lt inside)]
    exact (or_iff_left fun last => Nat.ne_of_lt inside last.1).symm
  · simp
  · have none : ∀ more : List String, more.length ≤ lines.length + 1 → more[position]? = none :=
      fun more short => List.getElem?_eq_none (by omega)
    rw [none _ (by simp), none lines (by omega)]
    simp only [reduceCtorEq, false_and, exists_false, false_or, false_iff]
    exact fun last => Nat.ne_of_gt beyond last.1

/-- An assignment in the last line is the last one. -/
theorem lastAssigned_concat (assigns : Assigns lines line place value) :
    LastAssigned (lines ++ [line]) place value := by
  refine ⟨lines.length, assignsAt_concat.mpr (.inr ⟨rfl, assigns⟩), ?_⟩
  rintro later other beyond ⟨found, there, -⟩
  have inside : later < (lines ++ [line]).length := (List.getElem?_eq_some_iff.mp there).1
  simp only [List.length_append, List.length_singleton] at inside
  omega

/-- A line that does not assign to a place leaves its setting. -/
theorem Holds.skip {α : Type} {reads : String → α → Prop} {preset held : α}
    (holds : Holds lines place reads preset held) (silent : ∀ value, ¬ Assigns lines line place value) :
    Holds (lines ++ [line]) place reads preset held := by
  have same : ∀ position value, AssignsAt (lines ++ [line]) position place value ↔
      AssignsAt lines position place value := fun position value =>
    assignsAt_concat.trans (or_iff_left fun last => silent value last.2)
  simpa only [Holds, LastAssigned, same] using holds

/-- A line that assigns to a place decides its setting. -/
theorem Holds.given {α : Type} {reads : String → α → Prop} {preset held : α}
    (assigns : Assigns lines line place value) (stands : reads value held) :
    Holds (lines ++ [line]) place reads preset held :=
  .inl ⟨value, lastAssigned_concat assigns, stands⟩

/-- What an assignment of a value to a place means. -/
inductive Setting.Given (value : String) : Place → Setting → Prop where
  | language {language : Language} (named : Named Language.ofName? value language) :
      Given value ("target", "language") (.language language)
  | architecture {architecture : Architecture} (named : Named Architecture.ofName? value architecture) :
      Given value ("target", "architecture") (.architecture architecture)
  | indent {width : Nat} (written : Text.Numeral width value.toList) (bounded : width ≤ Text.limit64) :
      Given value ("output", "indent") (.indent width)
  | tables {names : List String} (lists : Lists value names) :
      Given value ("catalog", "files") (.tables names)

/-- An assignment with a proper value is read as the setting it gives. -/
theorem Setting.read_of_given {heading key : String} {setting : Setting}
    (given : Given value (heading, key) setting) : Setting.read heading key value = .ok (some setting) := by
  cases given with
  | language named =>
    unfold Setting.read
    simp only [named_iff.mp named]
  | architecture named =>
    unfold Setting.read
    simp only [named_iff.mp named]
  | indent written bounded =>
    unfold Setting.read
    simp only [Text.readNatural_eq_some_iff.mpr ⟨written, bounded⟩]
  | tables lists =>
    unfold Setting.read
    simp only [lists_iff.mp lists]

/-- What was read without fault is a setting that the value gives, or stands elsewhere. -/
theorem Setting.given_or_foreign {heading key : String} {setting : Option Setting}
    (read : Setting.read heading key value = .ok setting) :
    (∃ given, setting = some given ∧ Given value (heading, key) given) ∨
      setting = none ∧ (heading, key) ∉ places := by
  unfold Setting.read at read
  split at read
  · split at read
    · next named => cases read; exact .inl ⟨_, rfl, .language (named_iff.mpr named)⟩
    · cases read
  · split at read
    · next named => cases read; exact .inl ⟨_, rfl, .architecture (named_iff.mpr named)⟩
    · cases read
  · split at read
    · next width number =>
      cases read
      obtain ⟨written, bounded⟩ := Text.readNatural_eq_some_iff.mp number
      exact .inl ⟨_, rfl, .indent written bounded⟩
    · cases read
  · cases read; exact .inl ⟨_, rfl, .tables (lists_iff.mpr rfl)⟩
  · cases read
    refine .inr ⟨rfl, ?_⟩
    simp_all [places]

/-- A line that gives one place a value changes the setting of that place only. -/
theorem Decided.concat_given {setting : Setting} (decided : Decided base lines settings)
    (assigns : Assigns lines line place value) (given : Setting.Given value place setting)
    (only : ∀ other found, Assigns lines line other found → other = place) :
    Decided base (lines ++ [line]) (settings.assign base setting) := by
  have elsewhere : ∀ other, other ≠ place → ∀ found, ¬ Assigns lines line other found :=
    fun other different found assigned => different (only other found assigned)
  cases given with
  | language named =>
    exact ⟨.given assigns named, decided.architecture.skip (elsewhere _ (by decide)),
      decided.indent.skip (elsewhere _ (by decide)), decided.tables.skip (elsewhere _ (by decide))⟩
  | architecture named =>
    exact ⟨decided.language.skip (elsewhere _ (by decide)), .given assigns named,
      decided.indent.skip (elsewhere _ (by decide)), decided.tables.skip (elsewhere _ (by decide))⟩
  | indent written bounded =>
    exact ⟨decided.language.skip (elsewhere _ (by decide)),
      decided.architecture.skip (elsewhere _ (by decide)), .given assigns ⟨written, bounded⟩,
      decided.tables.skip (elsewhere _ (by decide))⟩
  | tables lists =>
    exact ⟨decided.language.skip (elsewhere _ (by decide)),
      decided.architecture.skip (elsewhere _ (by decide)),
      decided.indent.skip (elsewhere _ (by decide)), .given assigns ⟨_, lists, rfl⟩⟩

/-- A line that assigns nothing leaves the settings decided. -/
theorem Decided.concat_silent (decided : Decided base lines settings)
    (silent : ∀ place ∈ places, ∀ value, ¬ Assigns lines line place value) :
    Decided base (lines ++ [line]) settings :=
  ⟨decided.language.skip (silent _ (by simp [places])),
    decided.architecture.skip (silent _ (by simp [places])),
    decided.indent.skip (silent _ (by simp [places])), decided.tables.skip (silent _ (by simp [places]))⟩

/-- An assignment has one place and one value. -/
theorem eq_of_assigns {key found : String} (read : Line.read line = .assignment key value)
    (assigns : Assigns lines line place found) : place = (headingAfter "" lines, key) ∧ found = value := by
  obtain ⟨inSection, assignment⟩ := assigns
  obtain ⟨rfl, rfl⟩ := Line.assignment.inj (read.symm.trans (Line.read_eq_assignment_iff.mpr assignment))
  exact ⟨Prod.ext (inSection_iff.mp inSection).symm rfl, rfl⟩

/-- One more line keeps the settings decided by the lines so far. -/
theorem Decided.concat (decided : Decided base lines earlier)
    (applied : (Line.read line).apply base earlier (headingAfter "" lines) = .ok settings) :
    Decided base (lines ++ [line]) settings := by
  cases read : Line.read line with
  | other text =>
    rw [read] at applied
    cases applied
  | silent =>
    rw [read] at applied
    cases applied
    refine decided.concat_silent fun place _ value assigns => ?_
    cases read.symm.trans (Line.read_eq_assignment_iff.mpr assigns.2)
  | heading name =>
    rw [read] at applied
    cases applied
    refine decided.concat_silent fun place _ value assigns => ?_
    cases read.symm.trans (Line.read_eq_assignment_iff.mpr assigns.2)
  | assignment key value =>
    rw [read] at applied
    obtain ⟨setting, understood, rfl⟩ := map_eq_ok.mp applied
    rcases Setting.given_or_foreign understood with ⟨given, rfl, means⟩ | ⟨rfl, foreign⟩
    · have assigns : Assigns lines line (headingAfter "" lines, key) value :=
        ⟨inSection_iff.mpr rfl, Line.read_eq_assignment_iff.mp read⟩
      exact decided.concat_given assigns means fun _ _ assigned => (eq_of_assigns read assigned).1
    · refine decided.concat_silent fun place known _ assigned => foreign ?_
      exact (eq_of_assigns read assigned).1 ▸ known

/-- Lines that are read decide what is read from them. -/
theorem decided_of_readLines (read : readLines base {} "" lines = .ok settings) :
    Decided base lines settings := by
  induction lines using List.reverseRecOn generalizing settings with
  | nil =>
    obtain rfl : ({} : Settings) = settings := Except.ok.inj read
    have never : ∀ place position value, ¬ AssignsAt [] position place value := by
      rintro place position value ⟨line, there, -⟩
      cases there
    exact ⟨.inr ⟨never _, rfl⟩, .inr ⟨never _, rfl⟩, .inr ⟨never _, rfl⟩, .inr ⟨never _, rfl⟩⟩
  | append_singleton lines line ih =>
    rw [readLines_concat] at read
    obtain ⟨earlier, readEarlier, applied⟩ := bind_eq_ok.mp read
    exact (ih readEarlier).concat applied

end LastLine

section Lines

/-- A carriage return at the end of a line does not count. -/
theorem Line.read_dropReturn (line : String) : Line.read (Text.dropReturn line) = Line.read line := by
  unfold Text.dropReturn
  split
  · next last =>
    obtain ⟨front, shape⟩ := List.getLast?_eq_some_iff.mp last
    have whole : line = .ofList front ++ "\r" := by
      rw [← String.toList_inj, shape]
      simp
    rw [whole, Line.read_append_right (by decide)]
    simp
  · rfl

/-- Carriage returns at the ends of lines do not count. -/
theorem spoken_map_dropReturn (lines : List String) : spoken (lines.map Text.dropReturn) = spoken lines := by
  rw [spoken, List.map_map, spoken]
  refine congrArg (List.filter _) (List.map_congr_left fun line _ => ?_)
  rw [Function.comp_apply, Line.read_dropReturn]

/-- What a text says is what its lines say. -/
theorem spoken_pieces (text : String) : spoken (Text.pieces '\n' text) = spoken (Text.lines text) := by
  have nonempty : Text.pieces '\n' text ≠ [] := by simp [Text.pieces]
  obtain ⟨front, last, shape⟩ : ∃ front last, Text.pieces '\n' text = front ++ [last] :=
    ⟨_, _, (List.dropLast_concat_getLast nonempty).symm⟩
  rw [Text.lines, ← Text.pieces, shape, List.dropLast_concat, List.getLastD_concat, spoken_append]
  split
  · next empty =>
    -- The text ends with a line feed, behind which there is no line.
    obtain rfl := String.isEmpty_iff.mp empty
    have silent : Line.read "" = .silent := Line.read_eq_silent_iff.mpr (.inl (by decide))
    rw [spoken_map_dropReturn, spoken_cons_of_silent silent]
    exact List.append_nil _
  · rw [spoken_append, spoken_map_dropReturn]

/-- Settings are read from the lines of a text. -/
theorem ofText_eq (path : Path) (text : String) :
    ofText path text =
      (readLines ((Path.parent? path).getD "") {} "" (Text.lines text)).mapError (.settings path) := by
  rw [ofText, readLines_eq, spoken_pieces, ← readLines_eq]

end Lines

/-- A section that is opened twice, with an assignment to the same key in both, and a list of
tables with a name without quotes and an item without a name. -/
def reopened : String :=
  "[output]\nindent = 4\n[catalog]\nfiles = [\"a.json\", , b]\n[ output ]\n indent = +08\r\n"

/-- The same text with a key of another section at the end of the first one. -/
def reopenedLonger : String :=
  "[output]\nindent = 4\n architecture = [x86 # =\n" ++
    "[catalog]\nfiles = [\"a.json\", , b]\n[ output ]\n indent = +08\r\n"

end Settings

end VectorKernel
