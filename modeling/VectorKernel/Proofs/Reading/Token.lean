import Mathlib.Data.List.TakeWhile
import VectorKernel.Proofs.Arithmetic

/-!
# Tokens of C expressions

A text is cut into tokens by longest match: blanks separate, a run of letters,
digits and underscores is one word, and two characters that form a punctuator
are never read as two. The main fact is that the text on either side of a blank
or a parenthesis can be read on its own.
-/

namespace VectorKernel

/-- The comparisons of two numbers. -/
inductive Comparison where
  | eq
  | ne
  | lt
  | le
  | gt
  | ge
  deriving DecidableEq, Repr

/-- The operators that combine two conditions. -/
inductive Connective where
  | and
  | or
  deriving DecidableEq, Repr

/-- The operator of expressions for a comparison. -/
def Comparison.operator : Comparison → Operator
  | .eq => .eq
  | .ne => .ne
  | .lt => .lt
  | .le => .le
  | .gt => .gt
  | .ge => .ge

/-- The operator of expressions for a connective. -/
def Connective.operator : Connective → Operator
  | .and => .and
  | .or => .or

/-- What a connective says of two conditions. -/
def Connective.apply : Connective → Prop → Prop → Prop
  | .and => And
  | .or => Or

namespace Reading

/-- An operator that stands between two sides. -/
inductive Link where
  | arithmetic (operation : Arithmetic)
  | comparison (relation : Comparison)
  | connective (junction : Connective)
  deriving DecidableEq, Repr

/-- The operator of expressions for a link. -/
def Link.operator : Link → Operator
  | .arithmetic operation => operation.operator
  | .comparison relation => relation.operator
  | .connective junction => junction.operator

/-- No operator that is read is an assignment. -/
theorem Link.operator_ne_assign (link : Link) : link.operator ≠ .assign := by
  rcases link with (_ | _) | (_ | _) | (_ | _) <;> decide

/-- No operator that is read is a subscript. -/
theorem Link.operator_ne_index (link : Link) : link.operator ≠ .index := by
  rcases link with (_ | _) | (_ | _) | (_ | _) <;> decide

/-- The characters of a link in C. -/
def Link.symbol : Link → List Char
  | .arithmetic .add => ['+']
  | .arithmetic .sub => ['-']
  | .arithmetic .mul => ['*']
  | .arithmetic .div => ['/']
  | .comparison .eq => ['=', '=']
  | .comparison .ne => ['!', '=']
  | .comparison .lt => ['<']
  | .comparison .le => ['<', '=']
  | .comparison .gt => ['>']
  | .comparison .ge => ['>', '=']
  | .connective .and => ['&', '&']
  | .connective .or => ['|', '|']

/-- A token of a C expression. The minus sign is one token, whether it stands
between two sides or before one. -/
inductive Token where
  | name (text : String)
  | numeral (value : Nat)
  | link (link : Link)
  | bang
  | opening
  | closing
  deriving DecidableEq, Repr

/-- The token of the minus sign. -/
abbrev Token.minus : Token := .link (.arithmetic .sub)

/-- The punctuators of two characters. Those without a token are punctuators of
C too, so they are never read as two shorter ones, but no expression of this
grammar has them. -/
def doubles : List ((Char × Char) × Option Token) :=
  [(('=', '='), some (.link (.comparison .eq))), (('!', '='), some (.link (.comparison .ne))),
    (('<', '='), some (.link (.comparison .le))), (('>', '='), some (.link (.comparison .ge))),
    (('&', '&'), some (.link (.connective .and))), (('|', '|'), some (.link (.connective .or))),
    (('+', '+'), none), (('-', '-'), none), (('-', '>'), none), (('<', '<'), none),
    (('>', '>'), none), (('+', '='), none), (('-', '='), none), (('*', '='), none),
    (('/', '='), none), (('/', '/'), none), (('/', '*'), none)]

/-- The punctuators of one character. -/
def singles : List (Char × Token) :=
  [('+', .link (.arithmetic .add)), ('-', .minus), ('*', .link (.arithmetic .mul)),
    ('/', .link (.arithmetic .div)), ('<', .link (.comparison .lt)), ('>', .link (.comparison .gt)),
    ('!', .bang), ('(', .opening), (')', .closing)]

/-- Whether a character can be part of a word. -/
def isWordChar (character : Char) : Bool :=
  character.isAlphanum || character == '_'

/-- The token of a word: a decimal numeral without superfluous zeros, or a name
that does not start with a digit. -/
def word? (word : List Char) : Option Token :=
  match word with
  | [] => none
  | first :: rest =>
    if first.isDigit then
      if word.all Char.isDigit && (first != '0' || rest.isEmpty) then
        some (.numeral (Nat.ofDigitChars 10 word 0))
      else none
    else some (.name (.ofList word))

/-- The punctuator that starts with a character, and the number of characters
that it takes from the text behind. -/
def punctuator? (first : Char) (rest : List Char) : Option (Token × Nat) :=
  match rest.head?.bind fun second => doubles.lookup (first, second) with
  | some token? => token?.map (·, 1)
  | none => (singles.lookup first).map (·, 0)

/-- The tokens of a text, or nothing if some part of it is no token. -/
def scan : List Char → Option (List Token)
  | [] => some []
  | first :: rest =>
    if first.isWhitespace then scan rest
    else if isWordChar first then
      (word? (first :: rest.takeWhile isWordChar)).bind fun token =>
        (scan (rest.dropWhile isWordChar)).map (token :: ·)
    else
      (punctuator? first rest).bind fun (token, taken) => (scan (rest.drop taken)).map (token :: ·)
  termination_by text => text.length
  decreasing_by
    · simp
    · have shorter := (List.dropWhile_suffix isWordChar (l := rest)).length_le
      simp only [List.length_cons]
      omega
    · simp only [List.length_cons, List.length_drop]
      omega

/-- Two characters are no punctuator if none starts with the first of them and
ends in the second. -/
theorem lookup_doubles {first second : Char}
    (apart : ∀ entry ∈ doubles, entry.1.1 ≠ first ∨ entry.1.2 ≠ second) :
    doubles.lookup (first, second) = none := by
  rw [List.lookup_eq_none_iff]
  intro entry member
  have differs : (first, second) ≠ entry.1 := by
    intro same
    rcases apart entry member with starts | ends
    · exact starts (congrArg Prod.fst same).symm
    · exact ends (congrArg Prod.snd same).symm
  simp [differs]

/-- The characters that end any token before them. -/
def IsDelimiter (character : Char) : Prop :=
  character = ' ' ∨ character = '(' ∨ character = ')'

namespace IsDelimiter

variable {delimiter : Char}

/-- A delimiter ends a word. -/
theorem not_wordChar (ends : IsDelimiter delimiter) : isWordChar delimiter = false := by
  rcases ends with rfl | rfl | rfl <;> decide

/-- No punctuator of two characters ends in a delimiter. -/
theorem lookup_doubles (ends : IsDelimiter delimiter) (first : Char) :
    doubles.lookup (first, delimiter) = none := by
  have apart : ∀ entry ∈ doubles, entry.1.2 ≠ delimiter := by
    rcases ends with rfl | rfl | rfl <;> decide
  exact Reading.lookup_doubles fun entry member => .inr (apart entry member)

/-- A punctuator ends before a delimiter that does not start it. -/
theorem punctuator? (ends : IsDelimiter delimiter) (first : Char) (rest behind : List Char) :
    punctuator? first (rest ++ delimiter :: behind) = Reading.punctuator? first rest := by
  cases rest with
  | nil => simp [Reading.punctuator?, ends.lookup_doubles]
  | cons second others => rfl

/-- A word goes on no further than to a delimiter. -/
theorem takeWhile_wordChar (ends : IsDelimiter delimiter) (rest behind : List Char) :
    (rest ++ delimiter :: behind).takeWhile isWordChar = rest.takeWhile isWordChar := by
  rw [List.takeWhile_append, List.takeWhile_cons_of_neg (by simp [ends.not_wordChar])]
  split
  · next whole => rw [List.append_nil, (List.takeWhile_prefix isWordChar).eq_of_length whole]
  · rfl

/-- What is behind a delimiter is left when a word has been read. -/
theorem dropWhile_wordChar (ends : IsDelimiter delimiter) (rest behind : List Char) :
    (rest ++ delimiter :: behind).dropWhile isWordChar =
      rest.dropWhile isWordChar ++ delimiter :: behind := by
  rw [List.dropWhile_append, List.dropWhile_cons_of_neg (by simp [ends.not_wordChar])]
  split
  · next whole => rw [List.isEmpty_iff.mp whole, List.nil_append]
  · rfl

end IsDelimiter

/-- A punctuator takes no more characters than there are. -/
theorem taken_le {first : Char} {rest : List Char} {token : Token} {taken : Nat}
    (found : punctuator? first rest = some (token, taken)) : taken ≤ rest.length := by
  unfold punctuator? at found
  split at found
  · next token? double =>
    obtain ⟨second, head, -⟩ := Option.bind_eq_some_iff.mp double
    obtain ⟨others, rfl⟩ := List.head?_eq_some_iff.mp head
    obtain ⟨_, -, equal⟩ := Option.map_eq_some_iff.mp found
    cases equal
    simp
  · obtain ⟨_, -, equal⟩ := Option.map_eq_some_iff.mp found
    cases equal
    exact Nat.zero_le _

/-- A text that ends before a delimiter is read on its own. -/
theorem scan_append {delimiter : Char} (ends : IsDelimiter delimiter) {text : List Char}
    {tokens : List Token} (read : scan text = some tokens) (behind : List Char) :
    scan (text ++ delimiter :: behind) = (scan (delimiter :: behind)).map (tokens ++ ·) := by
  -- Neither the word nor the punctuator at the front of the text reaches the delimiter.
  fun_induction scan text generalizing tokens with
  | case1 =>
    cases read
    simp
  | case2 first rest blank ih =>
    rw [List.cons_append, scan, if_pos blank]
    exact ih read
  | case3 first rest notBlank isWord ih =>
    obtain ⟨token, isToken, readBehind⟩ := Option.bind_eq_some_iff.mp read
    obtain ⟨others, othersRead, rfl⟩ := Option.map_eq_some_iff.mp readBehind
    rw [List.cons_append, scan, if_neg notBlank, if_pos isWord, ends.takeWhile_wordChar,
      ends.dropWhile_wordChar, isToken, Option.bind_some, ih othersRead, Option.map_map]
    rfl
  | case4 first rest notBlank notWord ih =>
    obtain ⟨⟨token, taken⟩, found, readBehind⟩ := Option.bind_eq_some_iff.mp read
    obtain ⟨others, othersRead, rfl⟩ := Option.map_eq_some_iff.mp readBehind
    rw [List.cons_append, scan, if_neg notBlank, if_neg notWord, ends.punctuator?, found,
      Option.bind_some]
    dsimp only
    rw [List.drop_append_of_le_length (taken_le found), ih taken othersRead, Option.map_map]
    rfl

/-- The tokens of a text with a blank before it. -/
theorem scan_blank (text : List Char) : scan (' ' :: text) = scan text := by
  rw [scan, if_pos (by decide)]

/-- A punctuator of one character is read by itself if the text behind it
cannot lengthen it. -/
theorem scan_single {first : Char} {token : Token} {rest : List Char}
    (notBlank : first.isWhitespace = false) (notWord : isWordChar first = false)
    (single : singles.lookup first = some token)
    (alone : (rest.head?.bind fun second => doubles.lookup (first, second)) = none) :
    scan (first :: rest) = (scan rest).map (token :: ·) := by
  rw [scan, if_neg (by simp [notBlank]), if_neg (by simp [notWord]), punctuator?, alone, single]
  rfl

/-- A character that starts no longer punctuator is read by itself, whatever
follows. -/
theorem scan_alone {first : Char} {token : Token} (notBlank : first.isWhitespace = false)
    (notWord : isWordChar first = false) (single : singles.lookup first = some token)
    (alone : ∀ entry ∈ doubles, entry.1.1 ≠ first) (text : List Char) :
    scan (first :: text) = (scan text).map (token :: ·) := by
  refine scan_single notBlank notWord single ?_
  cases text with
  | nil => rfl
  | cons second others => exact lookup_doubles fun entry member => .inl (alone entry member)

/-- An opening parenthesis is a token of its own, whatever follows. -/
theorem scan_opening (text : List Char) : scan ('(' :: text) = (scan text).map (.opening :: ·) :=
  scan_alone (by decide) (by decide) rfl (by decide) text

/-- A closing parenthesis is a token of its own, whatever follows. -/
theorem scan_closing (text : List Char) : scan (')' :: text) = (scan text).map (.closing :: ·) :=
  scan_alone (by decide) (by decide) rfl (by decide) text

/-- A minus is a token of its own if the next character makes no longer token of it. -/
theorem scan_minus {second : Char} (apart : ∀ entry ∈ doubles, entry.1.2 ≠ second)
    (text : List Char) :
    scan ('-' :: second :: text) = (scan (second :: text)).map (.minus :: ·) := by
  have alone : doubles.lookup ('-', second) = none :=
    lookup_doubles fun entry member => .inr (apart entry member)
  exact scan_single (by decide) (by decide) rfl alone

/-- An exclamation mark in front of a parenthesis is a token of its own. -/
theorem scan_bang (text : List Char) :
    scan ('!' :: '(' :: text) = (scan ('(' :: text)).map (.bang :: ·) :=
  scan_single (by decide) (by decide) rfl rfl

/-- A punctuator of one character before a blank. -/
theorem scan_single_blank {first : Char} {token : Token} (notBlank : first.isWhitespace = false)
    (notWord : isWordChar first = false) (single : singles.lookup first = some token)
    (text : List Char) :
    scan (first :: ' ' :: text) = (scan text).map (token :: ·) := by
  have alone : doubles.lookup (first, ' ') = none := IsDelimiter.lookup_doubles (.inl rfl) first
  rw [scan_single notBlank notWord single (by simpa using alone), scan_blank]

/-- A punctuator of two characters before a blank. -/
theorem scan_double_blank {first second : Char} {token : Token}
    (notBlank : first.isWhitespace = false) (notWord : isWordChar first = false)
    (double : doubles.lookup (first, second) = some (some token)) (text : List Char) :
    scan (first :: second :: ' ' :: text) = (scan text).map (token :: ·) := by
  rw [scan, if_neg (by simp [notBlank]), if_neg (by simp [notWord]), punctuator?, List.head?_cons,
    Option.bind_some, double]
  exact congrArg (Option.map (token :: ·)) (scan_blank text)

/-- No character of a word is a blank. -/
theorem not_whitespace_of_wordChar {character : Char} (isWord : isWordChar character = true) :
    character.isWhitespace = false := by
  rw [Bool.eq_false_iff]
  intro blank
  have cases : character = ' ' ∨ character = '\t' ∨ character = '\r' ∨ character = '\n' := by
    simpa [Char.isWhitespace, or_assoc] using blank
  rcases cases with rfl | rfl | rfl | rfl <;> exact absurd isWord (by decide)

/-- A text of word characters is read as one word. -/
theorem scan_word {text : List Char} {token : Token}
    (isWord : ∀ character ∈ text, isWordChar character = true)
    (isToken : word? text = some token) : scan text = some [token] := by
  cases text with
  | nil => cases isToken
  | cons first rest =>
    have firstWord := isWord first List.mem_cons_self
    have restWord : ∀ character ∈ rest, isWordChar character = true := fun character member =>
      isWord character (List.mem_cons_of_mem first member)
    rw [scan, if_neg (by simp [not_whitespace_of_wordChar firstWord]), if_pos firstWord,
      List.takeWhile_eq_self_iff.mpr restWord, List.dropWhile_eq_nil_iff.mpr restWord, isToken,
      scan]
    rfl

/-- Whether a text is an identifier: word characters, the first one no digit. -/
def isIdentifier (text : String) : Bool :=
  text.toList.all isWordChar && text.toList.head?.any (!·.isDigit)

/-- An identifier is one token. -/
theorem scan_identifier {text : String} (identifier : isIdentifier text = true) :
    scan text.toList = some [.name text] := by
  obtain ⟨isWord, starts⟩ := Bool.and_eq_true_iff.mp identifier
  refine scan_word (List.all_eq_true.mp isWord) ?_
  cases characters : text.toList with
  | nil => simp [characters] at starts
  | cons first rest =>
    have notDigit : first.isDigit = false := by simpa [characters] using starts
    rw [word?, if_neg (by simp [notDigit]), ← characters, String.ofList_toList]

/-- The decimal digits of a positive number do not start with a zero. -/
theorem head?_toDigits {number : Nat} (positive : 0 < number) :
    (Nat.toDigits 10 number).head? ≠ some '0' := by
  induction number using Nat.strong_induction_on with
  | _ number ih =>
    rw [Nat.toDigits_eq_if (by decide)]
    split
    · next small =>
      -- A single digit is one of nine, and none of them is a zero.
      have digit : number = 1 ∨ number = 2 ∨ number = 3 ∨ number = 4 ∨ number = 5 ∨ number = 6 ∨
          number = 7 ∨ number = 8 ∨ number = 9 := by omega
      rcases digit with rfl | rfl | rfl | rfl | rfl | rfl | rfl | rfl | rfl <;> decide
    · next large =>
      have leading := ih (number / 10) (by omega) (by omega)
      cases digits : Nat.toDigits 10 (number / 10) with
      | nil => exact absurd digits Nat.toDigits_ne_nil
      | cons first rest => simpa [digits] using leading

/-- The decimal digits of a number are read as its numeral. -/
theorem scan_numeral (number : Nat) : scan (Nat.toDigits 10 number) = some [.numeral number] := by
  have digits : ∀ digit ∈ Nat.toDigits 10 number, digit.isDigit = true := fun digit =>
    Nat.isDigit_of_mem_toDigits (by decide) (by decide)
  have words : ∀ digit ∈ Nat.toDigits 10 number, isWordChar digit = true := by
    intro digit member
    simp [isWordChar, Char.isAlphanum, digits digit member]
  refine scan_word words ?_
  have value := Nat.ofDigitChars_ten_toDigits (n := number)
  rcases Nat.eq_zero_or_pos number with rfl | positive
  · decide
  · have leading := head?_toDigits positive
    cases characters : Nat.toDigits 10 number with
    | nil => exact absurd characters Nat.toDigits_ne_nil
    | cons first rest =>
      rw [characters] at digits leading value
      have notZero : first ≠ '0' := by simpa using leading
      rw [word?, if_pos (digits first List.mem_cons_self), if_pos, value]
      simp [List.all_eq_true.mpr digits, notZero]

/-- A link before a blank is read as one token. -/
theorem scan_link (link : Link) (text : List Char) :
    scan (link.symbol ++ ' ' :: text) = (scan text).map (.link link :: ·) := by
  cases link with
  | arithmetic operation =>
    cases operation <;> exact scan_single_blank (by decide) (by decide) rfl text
  | comparison relation =>
    cases relation with
    | lt | gt => exact scan_single_blank (by decide) (by decide) rfl text
    | eq | ne | le | ge => exact scan_double_blank (by decide) (by decide) rfl text
  | connective junction =>
    cases junction <;> exact scan_double_blank (by decide) (by decide) rfl text

/-- The tokens of two texts with a link between blanks. -/
theorem scan_linked (link : Link) {left right : List Char} {lefts rights : List Token}
    (leftScanned : scan left = some lefts) (rightScanned : scan right = some rights) :
    scan (left ++ ' ' :: (link.symbol ++ ' ' :: right)) = some (lefts ++ .link link :: rights) := by
  rw [scan_append (.inl rfl) leftScanned, scan_blank, scan_link, rightScanned]
  rfl

end Reading

end VectorKernel
