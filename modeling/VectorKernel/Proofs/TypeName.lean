import VectorKernel.Proofs.Success
import VectorKernel.Proofs.Text

/-!
# Names of types

The grammar of type names, and what reading a name has to do with it. A name is a
letter for the kind, a numeral for the width and, behind an `x`, a numeral for the
lanes. `Signature.Written` is this grammar, in which a signature has many texts, and
`Signature.WellFormed` says which signatures may be named at all.

`ofName_exact` states that reading accepts the grammar with blanks around it, and
nothing else, and that the short name of a type is read as that type.
-/

namespace VectorKernel

namespace Kind

/-- The widths that elements of a kind may have. -/
def widths : Kind → List Nat
  | .float => [16, 32, 64]
  | .signed | .unsigned => [8, 16, 32, 64]

/-- No kind has elements wider than 64 bits. -/
theorem le_of_mem_widths {kind : Kind} {width : Nat} (allowed : width ∈ kind.widths) : width ≤ 64 := by
  cases kind <;> simp only [widths, List.mem_cons, List.not_mem_nil, or_false] at allowed <;> omega

/-- A letter and a width stand for the kind that has both. -/
theorem ofLetter?_eq_some_iff {letter : Char} {width : Nat} {kind : Kind} :
    ofLetter? letter width = some kind ↔ letter = kind.letter ∧ width ∈ kind.widths := by
  unfold ofLetter?
  split
  case h_4 => cases kind <;> simp_all [Kind.letter]
  all_goals
    rw [Option.ite_none_right_eq_some]
    cases kind <;> simp [Kind.letter, widths]

end Kind

namespace Signature

/-- Integers of 8 to 64 bits and floating numbers of 16 to 64 bits, in up to 64
lanes. -/
structure WellFormed (signature : Signature) : Prop where
  width : signature.width ∈ signature.kind.widths
  positive : 1 ≤ signature.lanes
  bounded : signature.lanes ≤ 64

instance (signature : Signature) : Decidable signature.WellFormed :=
  decidable_of_iff (signature.width ∈ signature.kind.widths ∧ 1 ≤ signature.lanes ∧ signature.lanes ≤ 64)
    ⟨fun ⟨width, positive, bounded⟩ => ⟨width, positive, bounded⟩,
      fun ⟨width, positive, bounded⟩ => ⟨width, positive, bounded⟩⟩

/-- The texts of a signature. A single lane need not be written. -/
inductive Written : Signature → List Char → Prop where
  | scalar {kind : Kind} {width : Nat} {digits : List Char} (numeral : Text.Numeral width digits) :
      Written ⟨kind, width, 1⟩ (kind.letter :: digits)
  | vector {kind : Kind} {width lanes : Nat} {digits count : List Char}
      (numeral : Text.Numeral width digits) (countNumeral : Text.Numeral lanes count) :
      Written ⟨kind, width, lanes⟩ (kind.letter :: digits ++ 'x' :: count)

end Signature

/-- A name of a type: a text of its signature with blanks around it. Types with a
name are well formed and naturally aligned. -/
structure NumericType.NamedBy (type : NumericType) (name : String) : Prop where
  written : ∃ text, type.toSignature.Written text ∧ Text.Around Text.isBlank text name.toList
  wellFormed : type.toSignature.WellFormed
  natural : type.alignment = type.totalSize

namespace Signature

variable {signature : Signature} {text : List Char}

/-- No kind has a blank for its letter. -/
theorem letter_isBlank (kind : Kind) : Text.isBlank kind.letter = false := by
  cases kind <;> rfl

/-- No blank occurs in the text of a signature. -/
theorem Written.isBlank_eq_false (written : signature.Written text) {char : Char}
    (member : char ∈ text) : Text.isBlank char = false := by
  cases written with
  | @scalar kind _ _ numeral =>
    rcases List.mem_cons.mp member with rfl | member
    · exact letter_isBlank kind
    · exact numeral.isBlank_eq_false member
  | @vector kind _ _ _ _ numeral countNumeral =>
    simp only [List.mem_append, List.mem_cons, or_assoc] at member
    rcases member with rfl | member | rfl | member
    · exact letter_isBlank kind
    · exact numeral.isBlank_eq_false member
    · rfl
    · exact countNumeral.isBlank_eq_false member

/-- No type is written as nothing. -/
theorem Written.ne_nil (written : signature.Written text) : text ≠ [] := by
  cases written <;> simp

/-- Trimming leaves the text of a signature that has blanks around it. -/
theorem Written.toList_trim (written : signature.Written text) {name : String}
    (around : Text.Around Text.isBlank text name.toList) : (Text.trim name).toList = text :=
  Text.toList_dropAround_of_around around written.ne_nil
    (written.isBlank_eq_false (List.head_mem _)) (written.isBlank_eq_false (List.getLast_mem _))

/-- The mark of the lanes occurs in no numeral, so it is the first of its kind. -/
theorem mark_not_mem {kind : Kind} {width : Nat} {digits : List Char}
    (numeral : Text.Numeral width digits) : 'x' ∉ kind.letter :: digits := by
  intro member
  rcases List.mem_cons.mp member with isLetter | member
  · cases kind <;> cases isLetter
  · rcases numeral.eq_plus_or_isDigit member with isPlus | isDigit
    · cases isPlus
    · cases isDigit

/-- The name of an element type, character by character. -/
theorem toList_elementName (kind : Kind) (width : Nat) :
    s!"{kind.letter}{width}".toList = kind.letter :: Nat.toDigits 10 width := by
  change (String.singleton kind.letter ++ toString width).toList = _
  simp

/-- The name of a vector type, character by character. -/
theorem toList_vectorName (element : String) (lanes : Nat) :
    s!"{element}x{lanes}".toList = element.toList ++ 'x' :: Nat.toDigits 10 lanes := by
  change (element ++ "x" ++ toString lanes).toList = _
  simp

/-- The short name is one of the texts of a signature with at least one lane. -/
theorem written_name (positive : 1 ≤ signature.lanes) : signature.Written signature.name.toList := by
  obtain ⟨kind, width, lanes⟩ := signature
  have digits : Text.Numeral width (Nat.toDigits 10 width) := .plain 0
  unfold name
  split
  · rw [toList_vectorName, toList_elementName]
    exact .vector digits (.plain 0)
  · next scalar =>
    obtain rfl : lanes = 1 := by
      simp only [isVector, gt_iff_lt, decide_eq_true_eq] at scalar
      exact Nat.le_antisymm (Nat.le_of_not_lt scalar) positive
    rw [toList_elementName]
    exact .scalar digits

end Signature

namespace NumericType

variable {type : NumericType} {name : String}

/-- A type with its natural alignment is that of its signature. -/
theorem natural_toSignature (natural : type.alignment = type.totalSize) :
    type.toSignature.natural = type := by
  obtain ⟨signature, alignment⟩ := type
  exact congrArg (NumericType.mk signature) natural.symm

/-- An element with its lanes behind it makes the text of a signature. -/
theorem written_of_splitLanes {text : String} {kind : Kind} {digits : List Char} {width lanes : Nat}
    (split : splitLanes text = .ok (kind.letter :: digits, lanes))
    (numeral : Text.Numeral width digits) : Signature.Written ⟨kind, width, lanes⟩ text.toList := by
  unfold splitLanes at split
  split at split
  · obtain ⟨shape, rfl⟩ := Prod.mk.inj (Except.ok.inj split)
    rw [shape]
    exact .scalar numeral
  · next element count cut =>
    split at split
    · cases split
    · next read =>
      obtain ⟨shape, rfl⟩ := Prod.mk.inj (Except.ok.inj split)
      rw [(Text.cutFirst_eq_some_iff.mp cut).1, shape]
      exact .vector numeral (Text.readNatural_eq_some_iff.mp read).1

/-- The text of a signature falls apart into its element and its lanes. -/
theorem splitLanes_of_written {signature : Signature} {text : String}
    (written : signature.Written text.toList) (small : signature.lanes ≤ Text.limit32) :
    ∃ digits, splitLanes text = .ok (signature.kind.letter :: digits, signature.lanes) ∧
      Text.Numeral signature.width digits := by
  generalize shape : text.toList = characters at written
  cases written with
  | @scalar kind width digits numeral =>
    have uncut : Text.cutFirst 'x' text = none := by
      rw [Text.cutFirst_eq_none_iff, shape]
      exact Signature.mark_not_mem numeral
    exact ⟨digits, by simp [splitLanes, uncut, shape], numeral⟩
  | @vector kind width lanes digits count numeral countNumeral =>
    have cut : Text.cutFirst 'x' text = some (.ofList (kind.letter :: digits), .ofList count) := by
      rw [Text.cutFirst_eq_some_iff, String.toList_ofList, String.toList_ofList]
      exact ⟨shape, Signature.mark_not_mem numeral⟩
    have read : Text.readNatural Text.limit32 count = some lanes :=
      Text.readNatural_eq_some_iff.mpr ⟨countNumeral, small⟩
    exact ⟨digits, by simp [splitLanes, cut, read], numeral⟩

/-- A name that is read passes every check of the grammar. -/
theorem namedBy_of_ofName (success : ofName name = .ok type) : type.NamedBy name := by
  obtain ⟨⟨element, lanes⟩, split, checked⟩ := bind_eq_ok.mp success
  dsimp only at checked
  split at checked
  · cases checked
  split at checked
  · cases checked
  next nonzero small =>
  split at checked
  · cases checked
  next letter digits =>
  split at checked
  · cases checked
  next width read =>
  split at checked
  · cases checked
  next kind found =>
  obtain rfl := Except.ok.inj checked
  obtain ⟨rfl, allowed⟩ := Kind.ofLetter?_eq_some_iff.mp found
  have written := written_of_splitLanes split (Text.readNatural_eq_some_iff.mp read).1
  exact ⟨⟨_, written, Text.around_dropAround⟩,
    ⟨allowed, Nat.one_le_iff_ne_zero.mpr nonzero, Nat.le_of_not_lt small⟩, rfl⟩

/-- A name of a type is read as that type. -/
theorem ofName_of_namedBy (named : type.NamedBy name) : ofName name = .ok type := by
  obtain ⟨⟨text, written, around⟩, ⟨allowed, positive, bounded⟩, natural⟩ := named
  rw [← written.toList_trim around] at written
  have small : type.lanes ≤ Text.limit32 := bounded.trans (by decide)
  obtain ⟨digits, split, numeral⟩ := splitLanes_of_written written small
  have narrow : type.width ≤ Text.limit32 := (Kind.le_of_mem_widths allowed).trans (by decide)
  have read : Text.readNatural Text.limit32 digits = some type.width :=
    Text.readNatural_eq_some_iff.mpr ⟨numeral, narrow⟩
  have found : Kind.ofLetter? type.kind.letter type.width = some type.kind :=
    Kind.ofLetter?_eq_some_iff.mpr ⟨rfl, allowed⟩
  have nonzero : type.lanes ≠ 0 := Nat.one_le_iff_ne_zero.mp positive
  have few : ¬ type.lanes > maxLanes := Nat.not_lt_of_le bounded
  rw [ofName, split]
  change (if type.lanes = 0 then _ else _) = _
  rw [if_neg nonzero, if_neg few]
  simp only [read, found]
  exact congrArg Except.ok (natural_toSignature natural)

/-- A type that may have a name is named by its short one. -/
theorem namedBy_name (wellFormed : type.toSignature.WellFormed)
    (natural : type.alignment = type.totalSize) : type.NamedBy type.toSignature.name :=
  ⟨⟨_, Signature.written_name wellFormed.positive, [], [], by simp, nofun, nofun⟩, wellFormed, natural⟩

/-- A well-formed type with its natural alignment is read back from its name. -/
theorem ofName_name (wellFormed : type.toSignature.WellFormed)
    (natural : type.alignment = type.totalSize) : ofName type.toSignature.name = .ok type :=
  ofName_of_namedBy (namedBy_name wellFormed natural)

/-- Reading accepts a text exactly if it names a type, and answers with that type.
The short name of a type that was read is read as the same type, and so is the short
name of every well-formed type with natural alignment. -/
theorem ofName_exact :
    (∀ (name : String) (type : NumericType), ofName name = .ok type ↔ type.NamedBy name) ∧
    (∀ (name : String) (type : NumericType), ofName name = .ok type →
      ofName type.toSignature.name = .ok type) ∧
    ∀ type : NumericType, type.toSignature.WellFormed → type.alignment = type.totalSize →
      ofName type.toSignature.name = .ok type := by
  refine ⟨fun name type => ⟨namedBy_of_ofName, ofName_of_namedBy⟩, fun name type success => ?_,
    fun type => ofName_name⟩
  have named := namedBy_of_ofName success
  exact ofName_name named.wellFormed named.natural

/-- Sixteen bytes by a name with a sign, zeros and blanks, one of them beyond ASCII. -/
theorem paddedBytes_ofName :
    let bytes := (NumericType.uint 8).vector 16
    bytes.NamedBy "\u00a0u+008x016\n" ∧ ofName "\u00a0u+008x016\n" = .ok bytes ∧
      bytes.toSignature.name = "u8x16" ∧ ofName bytes.toSignature.name = .ok bytes := by
  intro bytes
  have width : Text.Numeral 8 ['+', '0', '0', '8'] := .plus 2
  have lanes : Text.Numeral 16 ['0', '1', '6'] := .plain 1
  have written : bytes.toSignature.Written ['u', '+', '0', '0', '8', 'x', '0', '1', '6'] :=
    .vector width lanes
  have around : Text.Around Text.isBlank ['u', '+', '0', '0', '8', 'x', '0', '1', '6']
      "\u00a0u+008x016\n".toList :=
    ⟨['\u00a0'], ['\n'], by decide, List.forall_mem_singleton.mpr rfl,
      List.forall_mem_singleton.mpr rfl⟩
  have named : bytes.NamedBy "\u00a0u+008x016\n" := ⟨⟨_, written, around⟩, by decide, rfl⟩
  obtain ⟨accepted, again, -⟩ := ofName_exact
  have read := (accepted _ _).mpr named
  exact ⟨named, read, by decide, again _ _ read⟩

end NumericType

end VectorKernel
