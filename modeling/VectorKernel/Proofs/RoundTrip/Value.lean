import VectorKernel.Json.Pretty
import VectorKernel.Json.Reader
import VectorKernel.Proofs.RoundTrip.Quoted

/-!
# Values read back

The indented form of a value made of texts is read back as that value,
`read_pretty`. The reader looks at a text only from its first character that is
no blank on, so indentation never matters to it; and every step of the reader is
paid for by a character of the text, so twice its length is enough fuel.
-/

namespace VectorKernel.Json

/-- Values made of texts, in arrays and objects of any depth. -/
inductive Textual : Value → Prop where
  | string (text : String) : Textual (.string text)
  | array (items : List Value) (each : ∀ item ∈ items, Textual item) : Textual (.array items)
  | object (members : List (String × Value)) (each : ∀ member ∈ members, Textual member.2) :
      Textual (.object members)

section Blanks

variable {text other : List Char} {fuel : Nat}

@[simp] theorem skipBlanks_newline (level : Nat) (text : List Char) :
    skipBlanks (newline level ++ text) = skipBlanks text := by
  have spaces : ∀ count, skipBlanks (List.replicate count ' ' ++ text) = skipBlanks text := by
    intro count
    induction count with
    | zero => rfl
    | succ count ih => exact ih
  exact spaces (2 * level)

/-- A value is read from the first character on that is no blank. -/
theorem readValue_congr (same : skipBlanks text = skipBlanks other) :
    readValue fuel text = readValue fuel other := by
  cases fuel with
  | zero => rfl
  | succ fuel => simp only [readValue, same]

/-- Blanks in front of the items of a list do not count. -/
theorem readItems_congr (same : skipBlanks text = skipBlanks other) :
    readItems fuel text = readItems fuel other := by
  cases fuel with
  | zero => rfl
  | succ fuel => simp only [readItems, readValue_congr same]

/-- Blanks in front of the members of an object do not count. -/
theorem readMembers_congr (same : skipBlanks text = skipBlanks other) :
    readMembers fuel text = readMembers fuel other := by
  cases fuel with
  | zero => rfl
  | succ fuel => simp only [readMembers, same]

end Blanks

/-- The characters that the form of a value made of texts can start with. -/
def Opens (char : Char) : Prop :=
  char = '"' ∨ char = '[' ∨ char = '\x7b'

/-- No value starts with a blank. -/
theorem skipBlanks_opens {char : Char} (opens : Opens char) (rest : List Char) :
    skipBlanks (char :: rest) = char :: rest := by
  rcases opens with rfl | rfl | rfl <;> rfl

/-- What is written for a value starts with a quote, a bracket or a brace. -/
theorem Textual.opens {value : Value} (textual : Textual value) (level : Nat) :
    ∃ first rest, Opens first ∧ prettyChars level value = first :: rest := by
  cases textual with
  | string text => exact ⟨_, _, .inl rfl, by rw [prettyChars, quote]⟩
  | array items each =>
    cases items with
    | nil => exact ⟨_, _, .inr (.inl rfl), by rw [prettyChars]⟩
    | cons item items => exact ⟨_, _, .inr (.inl rfl), by rw [prettyChars]⟩
  | object members each =>
    cases members with
    | nil => exact ⟨_, _, .inr (.inr rfl), by rw [prettyChars]⟩
    | cons member members => exact ⟨_, _, .inr (.inr rfl), by rw [prettyChars]⟩

/-- A value that is read back from any text that starts with its form at some
level, whenever there is fuel for that form. -/
def ReadsBack (value : Value) : Prop :=
  ∀ level fuel rest, 2 * (prettyChars level value).length ≤ fuel →
    readValue fuel (prettyChars level value ++ rest) = some (value, rest)

/-- A text is read back, whatever characters it has. -/
theorem readsBack_string (text : String) : ReadsBack (.string text) := by
  intro level fuel rest enough
  rw [prettyChars, quote] at enough ⊢
  obtain ⟨units, read, denoted⟩ := readUnits_escapes text.toList rest
  obtain ⟨fuel, rfl⟩ : ∃ more, fuel = more + 1 := ⟨fuel - 1, by simp at enough; omega⟩
  have literal : '"' :: (text.toList.flatMap escape ++ ['"']) ++ rest =
      '"' :: (text.toList.flatMap escape ++ '"' :: rest) := by simp
  rw [literal, readValue, skipBlanks_opens (.inl rfl)]
  simp only [read, Option.map_some, ofUnits, denoted, String.ofList_toList]

section Arrays

variable {fuel : Nat} {text rest after : List Char} {item : Value}

/-- An array that does not end at once has items. -/
theorem readValue_array {char : Char} (opens : Opens char) (starts : skipBlanks text = '[' :: after)
    (more : skipBlanks after = char :: rest) :
    readValue (fuel + 1) text =
      (readItems fuel (char :: rest)).map fun (items, rest) => (.array items, rest) := by
  rw [readValue, starts]
  rcases opens with rfl | rfl | rfl <;>
    · simp only [more]
      rfl

/-- An item with a closing bracket behind it is the last one. -/
theorem readItems_last (read : readValue fuel text = some (item, rest))
    (ends : skipBlanks rest = ']' :: after) : readItems (fuel + 1) text = some ([item], after) := by
  rw [readItems, read]
  simp only [Option.bind_eq_bind, Option.bind_some, ends]
  rfl

/-- An item with a comma behind it is followed by others. -/
theorem readItems_comma (read : readValue fuel text = some (item, rest))
    (comma : skipBlanks rest = ',' :: after) {items : List Value} {last : List Char}
    (onward : readItems fuel after = some (items, last)) :
    readItems (fuel + 1) text = some (item :: items, last) := by
  rw [readItems, read]
  simp only [Option.bind_eq_bind, Option.bind_some, comma, onward]
  rfl

/-- The items of an array are read up to its end. -/
theorem readItems_pretty {level : Nat} {items : List Value} (first : ReadsBack item)
    (others : ∀ other ∈ items, ReadsBack other) (rest : List Char)
    (enough : 2 * ((prettyChars (level + 1) item).length + (prettyItems level items).length) < fuel) :
    readItems fuel (prettyChars (level + 1) item ++ (prettyItems level items ++
      (newline level ++ ']' :: rest))) = some (item :: items, rest) := by
  induction items generalizing item fuel with
  | nil =>
    obtain ⟨fuel, rfl⟩ : ∃ less, fuel = less + 1 := ⟨fuel - 1, by omega⟩
    refine readItems_last (first _ _ _ (by omega)) ?_
    rw [prettyItems, List.nil_append, skipBlanks_newline]
    rfl
  | cons next items ih =>
    obtain ⟨fuel, rfl⟩ : ∃ less, fuel = less + 1 := ⟨fuel - 1, by omega⟩
    obtain ⟨nextReads, othersRead⟩ := List.forall_mem_cons.mp others
    rw [prettyItems, List.length_cons, List.length_append, List.length_append] at enough
    have onward : readItems fuel (newline (level + 1) ++ (prettyChars (level + 1) next ++
        (prettyItems level items ++ (newline level ++ ']' :: rest)))) = some (next :: items, rest) := by
      rw [readItems_congr (skipBlanks_newline _ _)]
      exact ih nextReads othersRead (by omega)
    refine readItems_comma (first _ _ _ (by omega)) ?_ onward
    simp only [prettyItems, List.cons_append, List.append_assoc]
    rfl

/-- A list is read back if its items are, by induction on the items. -/
theorem readsBack_array {items : List Value} (textual : ∀ item ∈ items, Textual item)
    (each : ∀ item ∈ items, ReadsBack item) : ReadsBack (.array items) := by
  intro level fuel rest enough
  cases items with
  | nil =>
    rw [prettyChars] at enough ⊢
    obtain ⟨fuel, rfl⟩ : ∃ less, fuel = less + 1 := ⟨fuel - 1, by simp at enough; omega⟩
    rw [readValue]
    rfl
  | cons item items =>
    rw [prettyChars] at enough ⊢
    simp only [List.length_cons, List.length_append] at enough
    obtain ⟨fuel, rfl⟩ : ∃ less, fuel = less + 1 := ⟨fuel - 1, by omega⟩
    obtain ⟨first, others⟩ := List.forall_mem_cons.mp each
    obtain ⟨char, behind, opens, form⟩ := (textual item List.mem_cons_self).opens (level + 1)
    have enoughBehind :
        2 * ((prettyChars (level + 1) item).length + (prettyItems level items).length) < fuel := by
      omega
    have read := readItems_pretty first others rest enoughBehind
    simp only [form, List.cons_append, List.append_assoc, List.nil_append] at read ⊢
    rw [readValue_array opens (skipBlanks_opens (.inr (.inl rfl)) _)
      ((skipBlanks_newline _ _).trans (skipBlanks_opens opens _)), read]
    rfl

end Arrays

section Objects

variable {fuel : Nat} {text rest after behind : List Char} {units : List CodeUnit} {value : Value}

/-- Members as they are read stand for the members of an object. -/
def Keyed (read : List (List CodeUnit × Value)) (members : List (String × Value)) : Prop :=
  (read.mapM fun (key, value) => (CodeUnit.text? key).map fun text => (String.ofList text, value)) =
    some members

theorem Keyed.nil : Keyed [] [] := rfl

/-- Members are read one by one, each with the key that its units stand for. -/
theorem Keyed.cons {read : List (List CodeUnit × Value)} {members : List (String × Value)}
    (keyed : Keyed read members) {key : String} (denoted : CodeUnit.text? units = some key.toList)
    (value : Value) : Keyed ((units, value) :: read) ((key, value) :: members) := by
  simp only [Keyed, List.mapM_cons, denoted] at keyed ⊢
  rw [keyed]
  simp

/-- Members whose keys were read make the object. -/
theorem Keyed.ofMembers_eq {read : List (List CodeUnit × Value)} {members : List (String × Value)}
    (keyed : Keyed read members) : ofMembers read = .object members := by
  rw [Keyed] at keyed
  simp only [ofMembers, keyed]

/-- An object that does not end at once has members. -/
theorem readValue_object (starts : skipBlanks text = '\x7b' :: after)
    (more : skipBlanks after = '"' :: rest) :
    readValue (fuel + 1) text =
      (readMembers fuel ('"' :: rest)).map fun (members, rest) => (ofMembers members, rest) := by
  rw [readValue, starts]
  simp only [more]
  rfl

/-- A member of an object as it is written: key, colon and value. -/
def memberChars (level : Nat) (member : String × Value) : List Char :=
  quote member.1 ++ ':' :: ' ' :: prettyChars (level + 1) member.2

/-- A member is read whole; what follows it decides how to go on. -/
theorem readMembers_member {level : Nat} {member : String × Value} (reads : ReadsBack member.2)
    (enough : 2 * (memberChars level member).length ≤ fuel + 1) (rest : List Char) :
    ∃ units, CodeUnit.text? units = some member.1.toList ∧
      readMembers (fuel + 1) (memberChars level member ++ rest) =
        match skipBlanks rest with
        | ',' :: rest =>
          (readMembers fuel rest).bind fun (members, rest) => some ((units, member.2) :: members, rest)
        | '\x7d' :: rest => some ([(units, member.2)], rest)
        | _ => none := by
  obtain ⟨units, key, denoted⟩ :=
    readUnits_escapes member.1.toList (':' :: ' ' :: (prettyChars (level + 1) member.2 ++ rest))
  have written : memberChars level member ++ rest = '"' :: (member.1.toList.flatMap escape ++
      '"' :: (':' :: ' ' :: (prettyChars (level + 1) member.2 ++ rest))) := by
    simp [memberChars, quote]
  have colon : skipBlanks (':' :: ' ' :: (prettyChars (level + 1) member.2 ++ rest)) =
      ':' :: ' ' :: (prettyChars (level + 1) member.2 ++ rest) := rfl
  have value : readValue fuel (' ' :: (prettyChars (level + 1) member.2 ++ rest)) =
      some (member.2, rest) := by
    have short : (prettyChars (level + 1) member.2).length < (memberChars level member).length := by
      simp only [memberChars, List.length_append, List.length_cons]
      omega
    rw [← reads (level + 1) fuel rest (by omega)]
    exact readValue_congr rfl
  refine ⟨units, denoted, ?_⟩
  rw [written, readMembers, skipBlanks_opens (.inl rfl)]
  simp only [key, Option.bind_eq_bind, Option.bind_some, colon, value]
  rfl

/-- A further member stands behind a comma, on a line of its own. -/
theorem prettyMembers_cons (level : Nat) (member : String × Value) (members : List (String × Value)) :
    prettyMembers level (member :: members) =
      ',' :: (newline (level + 1) ++ (memberChars level member ++ prettyMembers level members)) := by
  simp [prettyMembers, memberChars]

/-- An object is its first member and the further ones, between braces. -/
theorem prettyChars_object (level : Nat) (member : String × Value) (members : List (String × Value)) :
    prettyChars level (.object (member :: members)) =
      '\x7b' :: (newline (level + 1) ++ (memberChars level member ++ (prettyMembers level members ++
        (newline level ++ ['\x7d'])))) := by
  simp [prettyChars, memberChars]

/-- The members of an object are read up to its end. -/
theorem readMembers_pretty {level : Nat} {member : String × Value} {members : List (String × Value)}
    (first : ReadsBack member.2) (others : ∀ other ∈ members, ReadsBack other.2) (rest : List Char)
    (enough : 2 * ((memberChars level member).length + (prettyMembers level members).length) < fuel) :
    ∃ read, readMembers fuel (memberChars level member ++ (prettyMembers level members ++
      (newline level ++ '\x7d' :: rest))) = some (read, rest) ∧ Keyed read (member :: members) := by
  induction members generalizing member fuel with
  | nil =>
    obtain ⟨fuel, rfl⟩ : ∃ less, fuel = less + 1 := ⟨fuel - 1, by omega⟩
    have enoughHere : 2 * (memberChars level member).length ≤ fuel + 1 := by omega
    obtain ⟨units, denoted, read⟩ := readMembers_member first enoughHere
      (prettyMembers level [] ++ (newline level ++ '\x7d' :: rest))
    refine ⟨[(units, member.2)], ?_, Keyed.nil.cons denoted member.2⟩
    rw [read, prettyMembers, List.nil_append, skipBlanks_newline]
    rfl
  | cons next members ih =>
    obtain ⟨fuel, rfl⟩ : ∃ less, fuel = less + 1 := ⟨fuel - 1, by omega⟩
    obtain ⟨nextReads, othersRead⟩ := List.forall_mem_cons.mp others
    rw [prettyMembers_cons, List.length_cons, List.length_append, List.length_append] at enough
    have enoughHere : 2 * (memberChars level member).length ≤ fuel + 1 := by omega
    have enoughNext :
        2 * ((memberChars level next).length + (prettyMembers level members).length) < fuel := by
      omega
    obtain ⟨units, denoted, read⟩ := readMembers_member first enoughHere
      (prettyMembers level (next :: members) ++ (newline level ++ '\x7d' :: rest))
    obtain ⟨behind, onward, keyed⟩ := ih nextReads othersRead enoughNext
    refine ⟨(units, member.2) :: behind, ?_, keyed.cons denoted member.2⟩
    have comma : skipBlanks (prettyMembers level (next :: members) ++
        (newline level ++ '\x7d' :: rest)) = ',' :: (newline (level + 1) ++ (memberChars level next ++
          (prettyMembers level members ++ (newline level ++ '\x7d' :: rest)))) := by
      simp only [prettyMembers_cons, List.cons_append, List.append_assoc]
      rfl
    rw [read, comma]
    simp only [readMembers_congr (skipBlanks_newline _ _), onward, Option.bind_some]

/-- An object is read back if the values of its members are, by induction on the members. -/
theorem readsBack_object {members : List (String × Value)}
    (each : ∀ member ∈ members, ReadsBack member.2) : ReadsBack (.object members) := by
  intro level fuel rest enough
  cases members with
  | nil =>
    rw [prettyChars] at enough ⊢
    obtain ⟨fuel, rfl⟩ : ∃ less, fuel = less + 1 := ⟨fuel - 1, by simp at enough; omega⟩
    rw [readValue]
    rfl
  | cons member members =>
    rw [prettyChars_object] at enough ⊢
    simp only [List.length_cons, List.length_append] at enough
    obtain ⟨fuel, rfl⟩ : ∃ less, fuel = less + 1 := ⟨fuel - 1, by omega⟩
    obtain ⟨first, others⟩ := List.forall_mem_cons.mp each
    have enoughBehind :
        2 * ((memberChars level member).length + (prettyMembers level members).length) < fuel := by
      omega
    obtain ⟨read, found, keyed⟩ := readMembers_pretty first others rest enoughBehind
    -- The first member starts with the quote of its key.
    obtain ⟨behind, starts⟩ : ∃ behind, memberChars level member ++ (prettyMembers level members ++
        (newline level ++ '\x7d' :: rest)) = '"' :: behind := ⟨_, rfl⟩
    simp only [List.cons_append, List.append_assoc, List.nil_append]
    rw [starts] at found ⊢
    rw [readValue_object (skipBlanks_opens (.inr (.inr rfl)) _)
      ((skipBlanks_newline _ _).trans (skipBlanks_opens (.inl rfl) _)), found]
    simp only [Option.map_some, keyed.ofMembers_eq]

end Objects

/-- Every value made of texts is read back. -/
theorem Textual.readsBack {value : Value} (textual : Textual value) : ReadsBack value := by
  induction textual with
  | string text => exact readsBack_string text
  | array items textual each => exact readsBack_array textual each
  | object members _ each => exact readsBack_object each

/-- A value made of texts is what its indented form is read as. -/
theorem read_pretty {value : Value} (textual : Textual value) : read (pretty value) = some value := by
  have found := textual.readsBack 0 (2 * (prettyChars 0 value).length + 1) [] (Nat.le_succ _)
  rw [List.append_nil] at found
  simp only [read, pretty, String.toList_ofList, found]
  rfl

end VectorKernel.Json
