import Mathlib.Data.List.Perm.Basic
import VectorKernel.Proofs.Settings.Assignments

/-!
# Canonical settings files

Every choice of settings has a text from which it is read back, whatever the names of its
tables are: equals signs, hashes and brackets in them do no harm, since a line is cut at
its first equals sign and only its own ends count as brackets. The sections may stand in
any order, and there may be any white space around the lines, blank lines included.
-/

namespace VectorKernel.Settings

/-- Texts that consist of given lines with white space around each of them. -/
inductive Spread : (lines : List String) → (text : String) → Prop where
  | nothing {text : String} (blank : IsBlank text) : Spread [] text
  | last {line text : String} (around : Text.Around Text.isBlank line.toList text.toList) :
      Spread [line] text
  | line {line first rest : String} {lines : List String}
      (around : Text.Around Text.isBlank line.toList first.toList) (behind : Spread lines rest) :
      Spread (line :: lines) (first ++ "\n" ++ rest)

/-- A text in quotes. -/
def quoted (text : String) : String :=
  "\"" ++ text ++ "\""

/-- The line that gives a key a value. -/
def assignmentLine (key value : String) : String :=
  key ++ " = " ++ value

/-- The sections of a settings file. -/
inductive Part where
  | target
  | output
  | catalog
  deriving DecidableEq, Repr

/-- The lines of a section that make given choices. -/
def Part.lines (language : Language) (architecture : Architecture) (indent : Nat) (files : List String) :
    Part → List String
  | .target =>
    ["[target]", assignmentLine "language" (quoted language.name),
      assignmentLine "architecture" (quoted architecture.name)]
  | .output => ["[output]", assignmentLine "indent" (toString indent)]
  | .catalog => ["[catalog]", assignmentLine "files" ("[" ++ Text.join ", " (files.map quoted) ++ "]")]

/-- A name of a table that can stand in a list of quoted names. -/
structure IsTableName (file : String) : Prop where
  nonempty : file ≠ ""
  noQuote : '"' ∉ file.toList
  noComma : ',' ∉ file.toList
  noBreak : '\n' ∉ file.toList

section White

variable {before text after line : String} {lines : List String}

theorem spoken_pieces_empty : spoken (Text.pieces '\n' "") = [] := by
  have silent : Line.read "" = .silent := Line.read_eq_silent_iff.mpr (.inl (by decide))
  rw [Text.pieces_eq_singleton (by decide), spoken_cons_of_silent silent]
  rfl

/-- A blank character alone is a blank line. -/
theorem isBlank_singleton {char : Char} (blank : Text.isBlank char = true) :
    IsBlank (.singleton char) := by
  intro other member
  rw [String.toList_singleton] at member
  rwa [List.mem_singleton.mp member]

/-- White space before a text says nothing. -/
theorem spoken_pieces_append_left (blank : IsBlank before) (text : String) :
    spoken (Text.pieces '\n' (before ++ text)) = spoken (Text.pieces '\n' text) := by
  obtain ⟨chars, rfl⟩ : ∃ chars, before = .ofList chars := ⟨_, String.ofList_toList.symm⟩
  induction chars with
  | nil => simp
  | cons char chars ih =>
    simp only [IsBlank, String.toList_ofList, List.forall_mem_cons] at blank ih
    obtain ⟨blankChar, blankRest⟩ := blank
    have whole : .ofList (char :: chars) ++ text = .ofList (char :: (.ofList chars ++ text).toList) := by
      rw [← String.toList_inj]
      simp
    by_cases feed : char = '\n'
    · have shape : (.ofList (char :: chars) ++ text).toList =
          "".toList ++ '\n' :: (.ofList chars ++ text).toList := by
        rw [whole, feed, String.toList_ofList]
        rfl
      rw [Text.pieces_of_mark shape, spoken_append, spoken_pieces_empty, List.nil_append, ih blankRest]
    · obtain ⟨first, more, split, splitCons⟩ := Text.pieces_cons feed (.ofList chars ++ text).toList
      rw [whole, splitCons, spoken_cons_congr (Line.read_append_left (isBlank_singleton blankChar)), ← split,
        String.ofList_toList, ih blankRest]

/-- White space behind a text says nothing. -/
theorem spoken_pieces_append_right (text : String) (blank : IsBlank after) :
    spoken (Text.pieces '\n' (text ++ after)) = spoken (Text.pieces '\n' text) := by
  obtain ⟨chars, rfl⟩ : ∃ chars, after = .ofList chars := ⟨_, String.ofList_toList.symm⟩
  induction chars using List.reverseRecOn with
  | nil => simp
  | append_singleton chars char ih =>
    simp only [IsBlank, String.toList_ofList, List.forall_mem_append, List.forall_mem_singleton] at blank ih
    obtain ⟨blankRest, blankChar⟩ := blank
    have whole : text ++ .ofList (chars ++ [char]) = (text ++ .ofList chars) ++ .singleton char := by
      rw [← String.toList_inj]
      simp
    rw [whole, ← ih blankRest]
    by_cases feed : char = '\n'
    · have shape : ((text ++ .ofList chars) ++ .singleton char).toList =
          (text ++ .ofList chars).toList ++ '\n' :: "".toList := by
        rw [feed, String.toList_append, String.toList_singleton]
        rfl
      rw [Text.pieces_of_mark shape, spoken_append, spoken_pieces_empty, List.append_nil]
    · obtain ⟨front, last, split⟩ := Text.pieces_stem '\n' (text ++ .ofList chars)
      have plain := split "" List.not_mem_nil
      rw [String.append_empty, String.append_empty] at plain
      rw [split (.singleton char) (by simpa using Ne.symm feed), plain, spoken_append, spoken_append,
        spoken_cons_congr (Line.read_append_right (isBlank_singleton blankChar))]

/-- A line with white space around it, line feeds included, says what the line says. -/
theorem spoken_pieces_around (single : '\n' ∉ line.toList)
    (around : Text.Around Text.isBlank line.toList text.toList) :
    spoken (Text.pieces '\n' text) = spoken [line] := by
  obtain ⟨before, after, shape, beforeBlank, afterBlank⟩ := around
  have whole : text = .ofList before ++ line ++ .ofList after := by
    rw [← String.toList_inj, shape]
    simp
  have blankBefore : IsBlank (.ofList before) := by simpa [IsBlank] using beforeBlank
  have blankAfter : IsBlank (.ofList after) := by simpa [IsBlank] using afterBlank
  rw [whole, spoken_pieces_append_right _ blankAfter, spoken_pieces_append_left blankBefore,
    Text.pieces_eq_singleton single]

/-- Lines that were spread over a text are what it says, whatever white space is between them. -/
theorem Spread.spoken_eq (spread : Spread lines text) (single : ∀ line ∈ lines, '\n' ∉ line.toList) :
    spoken (Text.pieces '\n' text) = spoken lines := by
  induction spread with
  | @nothing text blank =>
    have empty := spoken_pieces_append_left blank ""
    rw [String.append_empty, spoken_pieces_empty] at empty
    exact empty
  | last around => exact spoken_pieces_around (single _ List.mem_cons_self) around
  | @line line first rest lines around behind ih =>
    obtain ⟨here, there⟩ := List.forall_mem_cons.mp single
    have shape : (first ++ "\n" ++ rest).toList = first.toList ++ '\n' :: rest.toList := by simp
    rw [Text.pieces_of_mark shape, spoken_append, spoken_pieces_around here around, ih there, ← spoken_append,
      List.singleton_append]

end White

section Parts

variable {text key value : String}

/-- A quoted text, character by character. -/
theorem toList_quoted (text : String) : (quoted text).toList = '"' :: (text.toList ++ ['"']) := by
  simp [quoted]

/-- Quotes come off a text without quotes. -/
theorem unquote_quoted (nonempty : text ≠ "") (noQuote : '"' ∉ text.toList) :
    Text.unquote (quoted text) = text := by
  have some : text.toList ≠ [] := fun empty => nonempty (String.toList_inj.mp empty)
  have kept : ∀ char ∈ text.toList, (char == '"') = false := by
    intro char member
    simpa using fun same : char = '"' => noQuote (same ▸ member)
  rw [← String.toList_inj]
  refine Text.toList_dropAround_of_around ⟨['"'], ['"'], ?_, by simp, by simp⟩ some
    (kept _ (List.head_mem some)) (kept _ (List.getLast_mem some))
  rw [toList_quoted]
  simp

/-- Quotes keep the blanks inside. -/
theorem trim_quoted (text : String) : Text.trim (quoted text) = quoted text :=
  Text.dropAround_eq_self (by simp [quoted]) (by simp [toList_quoted, Text.isBlank])
    (by simp [toList_quoted, Text.isBlank])

/-- A word of letters, such as a key. -/
structure IsWord (text : String) : Prop where
  nonempty : text.toList ≠ []
  letters : ∀ char ∈ text.toList, char.isAlpha = true

instance (text : String) : Decidable (IsWord text) :=
  decidable_of_iff (text.toList ≠ [] ∧ text.toList.all Char.isAlpha = true)
    ⟨fun ⟨nonempty, letters⟩ => ⟨nonempty, List.all_eq_true.mp letters⟩,
      fun ⟨nonempty, letters⟩ => ⟨nonempty, List.all_eq_true.mpr letters⟩⟩

/-- No letter is a blank. -/
theorem isBlank_of_isAlpha {char : Char} (letter : char.isAlpha = true) : Text.isBlank char = false := by
  have range : 65 ≤ char.toNat ∧ char.toNat ≤ 90 ∨ 97 ≤ char.toNat ∧ char.toNat ≤ 122 := by
    unfold Char.isAlpha Char.isUpper Char.isLower at letter
    simpa [UInt32.le_iff_toNat_le] using letter
  simp only [Text.isBlank, Bool.or_eq_false_iff, Bool.and_eq_false_iff, decide_eq_false_iff_not,
    beq_eq_false_iff_ne]
  omega

/-- The line for a word and a value without blanks at its ends assigns the value to the
word. -/
theorem read_assignmentLine (word : IsWord key) (trimmed : Text.trim value = value) :
    Line.read (assignmentLine key value) = .assignment key value := by
  have letter : (key.toList.head word.nonempty).isAlpha = true := word.letters _ (List.head_mem _)
  have letters : ∀ char ∈ key.toList, Text.isBlank char = false :=
    fun char member => isBlank_of_isAlpha (word.letters char member)
  have blank : IsBlank " " := by decide
  have start : (Text.trim (assignmentLine key value)).toList.head? =
      some (key.toList.head word.nonempty) := by
    obtain ⟨char, rest, shape⟩ := List.exists_cons_of_ne_nil word.nonempty
    rw [Text.trim, Text.head?_dropAround]
    simp [assignmentLine, shape, letters char (shape ▸ List.mem_cons_self)]
  refine Line.read_eq_assignment_iff.mpr ⟨⟨key ++ " ", " " ++ value, ?_, ?_, ?_, ?_⟩, ?_, ?_⟩
  · simp [assignmentLine]
  · intro mark
    rcases List.mem_append.mp (String.toList_append ▸ mark) with member | member
    · cases word.letters _ member
    · cases List.mem_singleton.mp member
  · rw [Text.core_iff, Text.dropAround_append_right blank]
    exact Text.dropAround_eq_self word.nonempty (letters _ (List.head_mem _)) (letters _ (List.getLast_mem _))
  · rw [Text.core_iff, Text.dropAround_append_left blank]
    exact trimmed
  · rw [← head?_trim_iff, start]
    intro hash
    rw [Option.some.inj hash] at letter
    cases letter
  · intro name heading
    obtain ⟨inner, brackets, -⟩ := isHeading_iff.mp heading
    rw [bracketed?_eq_some_iff.mp brackets, List.head?_cons] at start
    rw [← Option.some.inj start] at letter
    cases letter

end Parts

section Tables

variable {file pad : String} {files : List String}

/-- A name is left of its place in a list. -/
theorem unquote_trim_quoted (name : IsTableName file) (blank : IsBlank pad) :
    Text.unquote (Text.trim (pad ++ quoted file)) = file := by
  have trimmed : Text.trim (pad ++ quoted file) = quoted file :=
    (Text.dropAround_append_left blank).trans (trim_quoted file)
  rw [trimmed, unquote_quoted name.nonempty name.noQuote]

/-- A quoted name without commas is one item of a list. -/
theorem pieces_quoted (name : IsTableName file) (noComma : ',' ∉ pad.toList) :
    Text.pieces ',' (pad ++ quoted file) = [pad ++ quoted file] := by
  apply Text.pieces_eq_singleton
  rw [String.toList_append, toList_quoted]
  simp [noComma, name.noComma]

/-- The names in a list of quoted names, with blanks before the first. -/
theorem names_join (names : ∀ file ∈ files, IsTableName file) (blank : IsBlank pad)
    (noComma : ',' ∉ pad.toList) :
    ((Text.pieces ',' (pad ++ Text.join ", " (files.map quoted))).map
      fun item => Text.unquote (Text.trim item)).filter (!·.isEmpty) = files := by
  induction files generalizing pad with
  | nil =>
    have empty : Text.trim pad = "" := String.isEmpty_iff.mp (trim_isEmpty_iff.mpr blank)
    rw [List.map_nil, Text.join, String.append_empty, Text.pieces_eq_singleton noComma,
      List.map_singleton, empty]
    rfl
  | cons file files ih =>
    obtain ⟨name, names⟩ := List.forall_mem_cons.mp names
    have kept : [file].filter (!·.isEmpty) = [file] := by simp [name.nonempty]
    cases files with
    | nil =>
      rw [List.map_singleton, Text.join, pieces_quoted name noComma, List.map_singleton,
        unquote_trim_quoted name blank, kept]
    | cons second files =>
      have shape : (pad ++ Text.join ", " ((file :: second :: files).map quoted)).toList =
          (pad ++ quoted file).toList ++
            ',' :: (" " ++ Text.join ", " ((second :: files).map quoted)).toList := by
        simp [Text.join]
      rw [Text.pieces_of_mark shape, pieces_quoted name noComma, List.map_append, List.map_singleton,
        unquote_trim_quoted name blank, List.filter_append, ih names (by decide) (by decide), kept,
        List.singleton_append]

/-- The names of a list of tables are read back. -/
theorem tableNames_list (names : ∀ file ∈ files, IsTableName file) :
    Setting.tableNames ("[" ++ Text.join ", " (files.map quoted) ++ "]") = files := by
  have brackets : bracketed? ("[" ++ Text.join ", " (files.map quoted) ++ "]") =
      some (Text.join ", " (files.map quoted)) := bracketed?_eq_some_iff.mpr (by simp)
  have noBlanks : IsBlank "" := by decide
  have read := names_join names noBlanks (by decide)
  rw [String.empty_append] at read
  rw [Setting.tableNames, brackets]
  exact read

end Tables

section Sections

variable {base : Path} {settings : Settings} {heading : String} {more : List String}

/-- A heading opens a section. -/
theorem readLines_heading {line name : String} (opens : Line.read line = .heading name) :
    readLines base settings heading (line :: more) = readLines base settings name more := by
  rw [readLines_cons, opens]
  rfl

/-- An assignment to a place changes its setting. -/
theorem readLines_assignment {key value : String} {setting : Setting} (word : IsWord key)
    (trimmed : Text.trim value = value) (given : Setting.Given value (heading, key) setting) :
    readLines base settings heading (assignmentLine key value :: more) =
      readLines base (settings.assign base setting) heading more := by
  rw [readLines_cons, read_assignmentLine word trimmed, Line.apply, Setting.read_of_given given]
  rfl

/-- The section of the target sets the language and the architecture. -/
theorem readLines_target (language : Language) (architecture : Architecture) (indent : Nat)
    (files : List String) :
    readLines base settings heading (Part.target.lines language architecture indent files ++ more) =
      readLines base { settings with language, architecture } "target" more := by
  have opens : Line.read "[target]" = .heading "target" := by decide +kernel
  have first : Language.ofName? (Text.unquote (quoted language.name)) = some language := by
    cases language <;> decide +kernel
  have second : Architecture.ofName? (Text.unquote (quoted architecture.name)) = some architecture := by
    cases architecture <;> decide +kernel
  rw [Part.lines, List.cons_append, List.cons_append, List.cons_append, List.nil_append,
    readLines_heading opens, readLines_assignment (by decide) (trim_quoted _) (.language (named_iff.mpr first)),
    readLines_assignment (by decide) (trim_quoted _) (.architecture (named_iff.mpr second))]
  rfl

/-- The section of the output sets the indentation. -/
theorem readLines_output (language : Language) (architecture : Architecture) {indent : Nat}
    (files : List String) (bounded : indent ≤ Text.limit64) :
    readLines base settings heading (Part.output.lines language architecture indent files ++ more) =
      readLines base { settings with indent } "output" more := by
  have opens : Line.read "[output]" = .heading "output" := by decide +kernel
  have numeral : Text.Numeral indent (toString indent).toList := by
    have plain : Text.Numeral indent (List.replicate 0 '0' ++ Nat.toDigits 10 indent) := .plain 0
    simpa using plain
  have nonempty : (toString indent).toList ≠ [] := by simp
  have trimmed : Text.trim (toString indent) = toString indent :=
    Text.dropAround_eq_self nonempty (numeral.isBlank_eq_false (List.head_mem _))
      (numeral.isBlank_eq_false (List.getLast_mem _))
  rw [Part.lines, List.cons_append, List.cons_append, List.nil_append, readLines_heading opens,
    readLines_assignment (by decide) trimmed (.indent numeral bounded)]
  rfl

/-- The section of the catalog sets the tables, found from the base. -/
theorem readLines_catalog (language : Language) (architecture : Architecture) (indent : Nat)
    {files : List String} (names : ∀ file ∈ files, IsTableName file) :
    readLines base settings heading (Part.catalog.lines language architecture indent files ++ more) =
      readLines base { settings with tables := files.map (Path.join base) } "catalog" more := by
  have opens : Line.read "[catalog]" = .heading "catalog" := by decide +kernel
  have trimmed : Text.trim ("[" ++ Text.join ", " (files.map quoted) ++ "]") =
      "[" ++ Text.join ", " (files.map quoted) ++ "]" :=
    Text.dropAround_eq_self (by simp) (by simp [Text.isBlank]) (by simp [Text.isBlank])
  rw [Part.lines, List.cons_append, List.cons_append, List.nil_append, readLines_heading opens,
    readLines_assignment (by decide) trimmed (.tables (lists_iff.mpr (tableNames_list names)))]
  rfl

/-- Settings with those of a section taken from others. -/
def Part.take (chosen settings : Settings) : Part → Settings
  | .target => { settings with language := chosen.language, architecture := chosen.architecture }
  | .output => { settings with indent := chosen.indent }
  | .catalog => { settings with tables := chosen.tables }

/-- Sections have no settings in common, so their order makes no difference. -/
theorem Part.take_comm (chosen settings : Settings) (part other : Part) :
    other.take chosen (part.take chosen settings) = part.take chosen (other.take chosen settings) := by
  cases part <;> cases other <;> rfl

/-- Each section takes its own settings over, whatever the section before it was. -/
theorem readLines_parts {language : Language} {architecture : Architecture} {indent : Nat}
    {files : List String} (bounded : indent ≤ Text.limit64) (names : ∀ file ∈ files, IsTableName file)
    (parts : List Part) :
    readLines base settings heading (parts.flatMap (Part.lines language architecture indent files)) =
      .ok (parts.foldl (Part.take
        { language, architecture, indent, tables := files.map (Path.join base) }) settings) := by
  induction parts generalizing settings heading with
  | nil => rfl
  | cons part parts ih =>
    rw [List.flatMap_cons, List.foldl_cons]
    cases part with
    | target => rw [readLines_target, ih, Part.take]
    | output => rw [readLines_output _ _ _ bounded, ih, Part.take]
    | catalog => rw [readLines_catalog _ _ _ names, ih, Part.take]

end Sections

/-- None of the lines of a section is broken by what it says. -/
theorem Part.lines_single (language : Language) (architecture : Architecture) (indent : Nat)
    {files : List String} (names : ∀ file ∈ files, IsTableName file) (part : Part) :
    ∀ line ∈ part.lines language architecture indent files, '\n' ∉ line.toList := by
  cases part with
  | target =>
    have first : '\n' ∉ language.name.toList := by cases language <;> decide
    have second : '\n' ∉ architecture.name.toList := by cases architecture <;> decide
    simp [Part.lines, assignmentLine, quoted, first, second]
  | output =>
    have digits : '\n' ∉ Nat.toDigits 10 indent := by
      intro member
      cases Nat.isDigit_of_mem_toDigits (by decide) (by decide) member
    simp [Part.lines, assignmentLine, digits]
  | catalog =>
    have list : '\n' ∉ (Text.join ", " (files.map quoted)).toList := by
      intro member
      rcases Text.mem_join member with separator | ⟨text, among, inText⟩
      · revert separator
        decide
      · obtain ⟨file, known, rfl⟩ := List.mem_map.mp among
        simp [toList_quoted, (names file known).noBreak] at inText
    simp [Part.lines, assignmentLine, list]

/-- Take any target, an indentation that fits 64 bits, and any names of tables without
quotes, commas and line feeds. From the three sections that say so, in any order and with
any white space around their lines, exactly these settings are read, with the tables in
their order and found from the directory of the file. -/
theorem ofText_canonical (path : Path) (language : Language) (architecture : Architecture) (indent : Nat)
    (files : List String) (bounded : indent ≤ Text.limit64) (names : ∀ file ∈ files, IsTableName file)
    (parts : List Part) (order : parts.Perm [.target, .output, .catalog]) (text : String)
    (spread : Spread (parts.flatMap (Part.lines language architecture indent files)) text) :
    ofText path text = .ok {
      language, architecture, indent, tables := files.map (Path.join ((Path.parent? path).getD "")) } := by
  have single : ∀ line ∈ parts.flatMap (Part.lines language architecture indent files),
      '\n' ∉ line.toList := by
    intro line member
    obtain ⟨part, -, inPart⟩ := List.mem_flatMap.mp member
    exact part.lines_single language architecture indent names line inPart
  rw [ofText, readLines_eq, spread.spoken_eq single, ← readLines_eq, readLines_parts bounded names,
    order.foldl_eq' (fun part _ other _ settings => Part.take_comm _ settings part other)]
  rfl

/-- A text stands between the blanks that were trimmed from it. -/
theorem around_of_trim {line text : String} (trimmed : Text.trim text = line) :
    Text.Around Text.isBlank line.toList text.toList :=
  trimmed ▸ Text.around_dropAround

/-- Three sections with tabs, blank lines and a carriage return between them, and a table
whose name has equals signs, hashes and brackets in it. -/
def scattered : String :=
  " [catalog]" ++ "\n" ++ ("\tfiles = [\"=#]\", \"/b [\"]\n" ++ "\n" ++ ("[output]\r" ++ "\n" ++
    ("indent = 10" ++ "\n" ++ ("[target]" ++ "\n" ++ ("language = \"cuda\"" ++ "\n" ++
      "\narchitecture = \"arm\" ")))))

/-- The sections are read in the order in which they stand, and white space does not count. -/
theorem scattered_canonical :
    ofText "d/s" scattered =
      .ok { language := .cuda, architecture := .arm, indent := 10, tables := ["d/=#]", "/b ["] } := by
  have names : ∀ file ∈ ["=#]", "/b ["], IsTableName file := by
    simp only [List.forall_mem_cons, List.not_mem_nil, false_implies, implies_true, and_true]
    exact ⟨⟨by decide, by decide, by decide, by decide⟩, ⟨by decide, by decide, by decide, by decide⟩⟩
  have lines : [Part.catalog, .output, .target].flatMap (Part.lines .cuda .arm 10 ["=#]", "/b ["]) =
      ["[catalog]", "files = [\"=#]\", \"/b [\"]", "[output]", "indent = 10", "[target]",
        "language = \"cuda\"", "architecture = \"arm\""] := by decide +kernel
  have spread : Spread ([Part.catalog, .output, .target].flatMap
      (Part.lines .cuda .arm 10 ["=#]", "/b ["])) scattered := by
    rw [lines]
    refine .line (around_of_trim ?_) <| .line (around_of_trim ?_) <| .line (around_of_trim ?_) <|
      .line (around_of_trim ?_) <| .line (around_of_trim ?_) <| .line (around_of_trim ?_) <|
      .last (around_of_trim ?_)
    all_goals decide +kernel
  have tables : ["=#]", "/b ["].map (Path.join ((Path.parent? "d/s").getD "")) = ["d/=#]", "/b ["] := by
    decide +kernel
  have order : [Part.catalog, .output, .target].Perm [.target, .output, .catalog] := by decide
  rw [ofText_canonical "d/s" .cuda .arm 10 ["=#]", "/b ["] (by decide) names _ order scattered spread, tables]

end VectorKernel.Settings
