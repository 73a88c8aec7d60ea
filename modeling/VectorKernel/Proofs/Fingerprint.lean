import VectorKernel.Proofs.Artifacts

/-!
# Shared fingerprints

What two kernels have in common when they have one fingerprint. A fingerprint is made in
three steps, of which the first and the last lose nothing. The message can be cut in one way
only: a name is ended by a zero byte and holds none, so a source is never taken for part of
a name, whatever bytes it has and whatever it starts with. The digits of a hash can be cut
into its words. Only the hash between the two can confuse kernels, and `Digest.Blake3.Collide`
says on which messages it does.
-/

namespace VectorKernel

/-- A way of writing that shows where it ends: what was written and what stands behind it
can be told from the whole. -/
structure SelfDelimiting {α β : Type} (write : α → List β) : Prop where
  cut : ∀ {value other : α} {rest behind : List β},
    write value ++ rest = write other ++ behind → value = other ∧ rest = behind

namespace SelfDelimiting

variable {α β γ : Type} {write : α → List β}

/-- What always takes up the same room shows where it ends. -/
theorem of_length {width : Nat} (injective : Function.Injective write)
    (length : ∀ value, (write value).length = width) : SelfDelimiting write := by
  constructor
  intro value other rest behind same
  have parts := List.append_inj same ((length value).trans (length other).symm)
  exact ⟨injective parts.1, parts.2⟩

/-- What never holds a mark is ended by it. -/
theorem of_mark {mark : β} (injective : Function.Injective write)
    (absent : ∀ value, mark ∉ write value) : SelfDelimiting fun value => write value ++ [mark] := by
  constructor
  intro value other rest behind same
  simp only [List.append_assoc, List.singleton_append] at same
  obtain ⟨written, -, left⟩ := Text.eq_of_append_mark (mark ∉ ·) (· = mark)
    (fun _ ends passed => passed (by simp [ends])) (absent value) (absent other) rfl rfl same
  exact ⟨injective written, left⟩

/-- Two such ways may follow each other. -/
theorem append {writeNext : γ → List β} (first : SelfDelimiting write) (next : SelfDelimiting writeNext) :
    SelfDelimiting fun pair : α × γ => write pair.1 ++ writeNext pair.2 := by
  constructor
  intro pair other rest behind same
  simp only [List.append_assoc] at same
  obtain ⟨sameFirst, same⟩ := first.cut same
  obtain ⟨sameNext, same⟩ := next.cut same
  exact ⟨Prod.ext sameFirst sameNext, same⟩

/-- Equally many values, written one behind the other, are told apart. -/
theorem eq_of_flatMap (delimiting : SelfDelimiting write) {values others : List α}
    (length : values.length = others.length) (same : values.flatMap write = others.flatMap write) :
    values = others := by
  induction values generalizing others with
  | nil => exact (List.length_eq_zero_iff.mp length.symm).symm
  | cons value values ih =>
    cases others with
    | nil => cases length
    | cons other others =>
      rw [List.flatMap_cons, List.flatMap_cons] at same
      obtain ⟨rfl, left⟩ := delimiting.cut same
      rw [ih (Nat.succ.inj length) left]

end SelfDelimiting

namespace Digest.Blake3

/-- Two different messages with one hash. -/
def Collide (message other : List UInt8) : Prop :=
  message ≠ other ∧ hash ⟨message.toArray⟩ = hash ⟨other.toArray⟩

/-- The sixteen digits differ. -/
theorem digitChar_inj : ∀ digit < 16, ∀ other < 16,
    Nat.digitChar digit = Nat.digitChar other → digit = other := by
  decide

/-- A byte is determined by its two digits. -/
theorem eq_of_digits {byte other : Nat} (bound : byte < 256) (otherBound : other < 256)
    (high : Nat.digitChar (byte / 16) = Nat.digitChar (other / 16))
    (low : Nat.digitChar (byte % 16) = Nat.digitChar (other % 16)) : byte = other := by
  have sixteens := digitChar_inj _ (by omega) _ (by omega) high
  have ones := digitChar_inj _ (by omega) _ (by omega) low
  omega

/-- A word is determined by its digits. -/
theorem wordHex_injective : Function.Injective wordHex := by
  intro word other same
  -- Two digits for each of the four bytes, and the bytes are the digits of the word to base 256.
  simp only [wordHex, List.range, List.range.loop, List.flatMap_cons, List.flatMap_nil,
    List.cons_append, List.nil_append, List.cons.injEq, and_true] at same
  obtain ⟨high₀, low₀, high₁, low₁, high₂, low₂, high₃, low₃⟩ := same
  have byte₀ := eq_of_digits (by omega) (by omega) high₀ low₀
  have byte₁ := eq_of_digits (by omega) (by omega) high₁ low₁
  have byte₂ := eq_of_digits (by omega) (by omega) high₂ low₂
  have byte₃ := eq_of_digits (by omega) (by omega) high₃ low₃
  simp only [Nat.pow_eq, Nat.reducePow] at byte₀ byte₁ byte₂ byte₃
  have bound := word.toNat_lt
  have otherBound := other.toNat_lt
  apply UInt32.toNat_inj.mp
  omega

theorem length_wordHex (word : UInt32) : (wordHex word).length = 8 := rfl

/-- Digits of words can be cut into the words. -/
theorem wordHex_selfDelimiting : SelfDelimiting wordHex :=
  .of_length wordHex_injective length_wordHex

/-- No digits are lost: messages have the same digits exactly if they have the same hash. -/
theorem hexDigest_eq_iff {bytes other : ByteArray} :
    hexDigest bytes = hexDigest other ↔ hash bytes = hash other := by
  constructor
  · intro same
    have digits := String.ofList_inj.mp same
    exact Vector.toList_inj.mp (wordHex_selfDelimiting.eq_of_flatMap (by simp) digits)
  · intro same
    rw [hexDigest, same, hexDigest]

end Digest.Blake3

section Message

/-- A text is determined by its bytes. -/
theorem utf8_injective : Function.Injective fun text : String => text.toUTF8.data.toList := by
  intro text other same
  exact String.toByteArray_inj.mp (ByteArray.ext (Array.toList_inj.mp same))

/-- Names that can be read back and hold no zero byte are ended by one. -/
theorem SelfDelimiting.of_names {α : Type} {name : α → String} {read : String → Option α}
    (known : ∀ value, read (name value) = some value)
    (absent : ∀ value, 0 ∉ (name value).toUTF8.data.toList) :
    SelfDelimiting fun value => (name value).toUTF8.data.toList ++ [0] := by
  have injective : Function.Injective name := by
    intro value other same
    apply Option.some.inj
    rw [← known, same, known]
  exact .of_mark (utf8_injective.comp injective) absent

/-- No name of a language holds the zero byte that ends it. -/
theorem Language.zero_notMem_name (language : Language) : 0 ∉ language.name.toUTF8.data.toList := by
  cases language <;> decide

/-- No name of an architecture holds the zero byte that ends it. -/
theorem Architecture.zero_notMem_name (architecture : Architecture) :
    0 ∉ architecture.name.toUTF8.data.toList := by
  cases architecture <;> decide

/-- The part of a message before the source. -/
def fingerprintHeader (header : Language × Architecture) : List UInt8 :=
  (header.1.name.toUTF8.data.toList ++ [0]) ++ (header.2.name.toUTF8.data.toList ++ [0])

/-- The header of a message can be told from the source behind it. -/
theorem fingerprintHeader_selfDelimiting : SelfDelimiting fingerprintHeader :=
  (SelfDelimiting.of_names Language.ofExactName?_name Language.zero_notMem_name).append
    (.of_names Architecture.ofExactName?_name Architecture.zero_notMem_name)

/-- A message is its header and then the source. -/
theorem fingerprintMessage_eq_header (target : Target) (source : String) :
    fingerprintMessage target source =
      fingerprintHeader (target.language, target.architecture) ++ source.toUTF8.data.toList := by
  simp [fingerprintMessage, fingerprintHeader]

variable {target other : Target} {source text : String}

/-- A message is that of one language, one architecture and one source. -/
theorem fingerprintMessage_eq_iff :
    fingerprintMessage target source = fingerprintMessage other text ↔
      target.language = other.language ∧ target.architecture = other.architecture ∧ source = text := by
  constructor
  · intro same
    rw [fingerprintMessage_eq_header, fingerprintMessage_eq_header] at same
    obtain ⟨header, bytes⟩ := fingerprintHeader_selfDelimiting.cut same
    obtain ⟨language, architecture⟩ := Prod.mk.inj header
    exact ⟨language, architecture, utf8_injective bytes⟩
  · rintro ⟨language, architecture, rfl⟩
    rw [fingerprintMessage, language, architecture, fingerprintMessage]

/-- Sources share a fingerprint where their messages are the same, or else by a collision. -/
theorem fingerprint_eq_iff :
    fingerprint target source = fingerprint other text ↔
      fingerprintMessage target source = fingerprintMessage other text ∨
        Digest.Blake3.Collide (fingerprintMessage target source) (fingerprintMessage other text) := by
  rw [fingerprint, fingerprint, Digest.Blake3.hexDigest_eq_iff]
  constructor
  · intro hashes
    by_cases same : fingerprintMessage target source = fingerprintMessage other text
    · exact .inl same
    · exact .inr ⟨same, hashes⟩
  · rintro (same | ⟨-, hashes⟩)
    · rw [same]
    · exact hashes

end Message

namespace Kernel

/-- The fingerprint of a kernel is that of its own source and target, however it was made. -/
theorem Made.fingerprint_eq {procedure : Procedure} {kernel : Kernel} (made : Made procedure kernel) :
    kernel.fingerprint = VectorKernel.fingerprint kernel.target kernel.source :=
  congrArg Kernel.fingerprint made.eq_ofSource

/-- The message that is hashed belongs to one language, one architecture and one source,
whatever bytes the sources have. So two kernels, made from finished sources or generated,
share a fingerprint exactly if they agree on all three or BLAKE3 collides on their messages. -/
theorem fingerprints_shared_iff :
    (∀ (language otherLanguage : Language) (architecture otherArchitecture : Architecture)
        (source otherSource : String),
      fingerprintMessage ⟨language, architecture⟩ source =
          fingerprintMessage ⟨otherLanguage, otherArchitecture⟩ otherSource ↔
        language = otherLanguage ∧ architecture = otherArchitecture ∧ source = otherSource) ∧
    ∀ (procedure otherProcedure : Procedure) (kernel other : Kernel),
      Made procedure kernel → Made otherProcedure other →
        (kernel.fingerprint = other.fingerprint ↔
          (kernel.target.language = other.target.language ∧
            kernel.target.architecture = other.target.architecture ∧ kernel.source = other.source) ∨
          Digest.Blake3.Collide (fingerprintMessage kernel.target kernel.source)
            (fingerprintMessage other.target other.source)) := by
  refine ⟨fun _ _ _ _ _ _ => fingerprintMessage_eq_iff, ?_⟩
  intro procedure otherProcedure kernel other made otherMade
  rw [made.fingerprint_eq, otherMade.fingerprint_eq, fingerprint_eq_iff, fingerprintMessage_eq_iff]

/-- A generated kernel without statements, its source for another procedure, and a source
that starts with the name of its architecture and a zero byte. The first two share a
fingerprint. The last one, for another architecture, shares it by a collision only. -/
theorem idle_fingerprints :
    let procedure : Procedure := { name := "idle", parameters := [] }
    let text := "void idle() \x7b\n\x7d\n"
    let generated : Kernel := ofSource procedure text ⟨.c, .x86⟩
    let renamed : Kernel := ofSource { procedure with name := "rest" } text ⟨.c, .x86⟩
    let disguised : Kernel := ofSource procedure ("x86\x00" ++ text) ⟨.c, .generic⟩
    generate { target := ⟨.c, .x86⟩ } procedure [] 2 = .ok generated ∧
    generated.fingerprint = renamed.fingerprint ∧
    (generated.fingerprint = disguised.fingerprint ↔
      Digest.Blake3.Collide (fingerprintMessage generated.target generated.source)
        (fingerprintMessage disguised.target disguised.source)) := by
  intro procedure text generated renamed disguised
  have success : generate { target := ⟨.c, .x86⟩ } procedure [] 2 = .ok generated := rfl
  have shared := fingerprints_shared_iff.2 procedure renamed.procedure generated renamed
    (.generate success) (.ofSource text ⟨.c, .x86⟩)
  have separate := fingerprints_shared_iff.2 procedure procedure generated disguised
    (.generate success) (.ofSource ("x86\x00" ++ text) ⟨.c, .generic⟩)
  refine ⟨success, shared.mpr (.inl ⟨rfl, rfl, rfl⟩), separate.trans (or_iff_right ?_)⟩
  rintro ⟨-, architectures, -⟩
  cases architectures

end Kernel

end VectorKernel
