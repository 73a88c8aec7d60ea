import VectorKernel.Proofs.Files.Tree
import VectorKernel.Proofs.Text
import VectorKernel.Target

/-!
# Files that share a stem

Names of files are a stem with an extension. Whatever the stem is (empty, with
slashes or dots in it, or the absolute path of something else), a path made of
it names a place whose last name ends in the extension. So files with
different extensions are at different places, `place_stem_ne`. They are
different files as well, `WroteTwice.number_ne`, unless a link leads from one of the places to the
other or both places were given the same file.
-/

namespace VectorKernel

/-- The end of a file name that makes every name before it one name of a file:
it is not empty, has no slash and does not end in a dot. -/
structure IsExtension (text : String) : Prop where
  noSlash : '/' ∉ text.toList
  ending : ∃ char ∈ text.toList.getLast?, char ≠ '.'

namespace IsExtension

variable {extension : String}

/-- Every language has a proper extension. -/
theorem language (language : Language) : IsExtension language.extension := by
  cases language <;> exact ⟨by decide, _, rfl, by decide⟩

/-- So have manifests. -/
theorem json : IsExtension ".json" := ⟨by decide, _, rfl, by decide⟩

/-- A name with an extension is neither silent nor the directory above. -/
theorem append_ne (proper : IsExtension extension) (stem dots : String)
    (all : dots.toList.all (· == '.') = true) : stem ++ extension ≠ dots := by
  rintro rfl
  obtain ⟨char, last, notDot⟩ := proper.ending
  refine notDot (eq_of_beq (List.all_eq_true.mp all char ?_))
  rw [String.toList_append]
  exact List.mem_append_right _ (List.mem_of_getLast? last)

/-- A name with an extension is not passed over. -/
theorem isSilent_append (proper : IsExtension extension) (stem : String) :
    Path.isSilent (stem ++ extension) = false := by
  have notEmpty := proper.append_ne stem "" rfl
  have notDot := proper.append_ne stem "." rfl
  simp [Path.isSilent, notEmpty, notDot]

/-- The extension does not decide where a path starts. -/
theorem isAbsolute_append (proper : IsExtension extension) (stem : String) :
    Path.isAbsolute (stem ++ extension) = Path.isAbsolute stem := by
  unfold Path.isAbsolute
  rw [String.toList_append]
  cases stem.toList with
  | cons char chars => rfl
  | nil =>
    refine decide_eq_decide.mpr ⟨fun head => ?_, nofun⟩
    exact absurd (List.mem_of_mem_head? head) proper.noSlash

/-- The extension may be put behind a path instead of behind its last part. -/
theorem join_append (proper : IsExtension extension) (base name : Path) :
    Path.join base (name ++ extension) = Path.join base name ++ extension := by
  unfold Path.join
  rw [proper.isAbsolute_append name]
  split
  · rfl
  · split
    · rw [String.append_assoc]
    · simp only [String.append_assoc]

end IsExtension

namespace FileTree

variable {before tree written after : FileTree} {place location otherLocation : List String}
  {path other : Path} {number otherNumber : Nat} {content otherContent : ByteArray}

/-- Files with one stem and different extensions are at different places. -/
theorem place_stem_ne {stem : Path} {first second : String} (properFirst : IsExtension first)
    (properSecond : IsExtension second) (different : first ≠ second)
    (placed : tree.place (stem ++ first) = .ok location)
    (otherPlaced : tree.place (stem ++ second) = .ok otherLocation) : location ≠ otherLocation := by
  obtain ⟨before, last, split⟩ := Text.pieces_stem '/' stem
  have lastName : ∀ {extension location}, IsExtension extension →
      tree.place (stem ++ extension) = .ok location → location.getLast? = some (last ++ extension) := by
    intro extension location proper placed
    obtain ⟨-, -, arrives⟩ := resolve_eq_ok_iff.mp placed
    rw [split extension proper.noSlash] at arrives
    exact arrives.getLast? (proper.isSilent_append last) (proper.append_ne last ".." rfl)
      List.getLast?_concat
  rintro rfl
  have same := (lastName properFirst placed).symm.trans (lastName properSecond otherPlaced)
  exact different (String.append_right_inj last |>.mp (Option.some.inj same))

/-- A location holds no link, and no file that is at another location as well. -/
structure Plain (tree : FileTree) (location : List String) : Prop where
  unlinked : tree.link? true location [] = none
  unshared : ∀ number other, tree.holds? location = some (.file number) →
    tree.holds? other = some (.file number) → other = location

/-- Only the entries that are listed have to be looked at. -/
theorem Plain.of_rows (unlinked : tree.link? true location [] = none)
    (alone : ∀ row ∈ tree.entries.rows, tree.holds? location = some row.2 → row.1 = location) :
    tree.Plain location where
  unlinked := unlinked
  unshared := fun _ _ found otherFound => alone _ (mem_rows_of_holds? otherFound) found

/-- A path leads to the place that it names if there was no link. -/
theorem Plain.locate_eq (plain : before.Plain place) (keeps : Keeps before after)
    (placed : after.place path = .ok place) (located : after.locate path = .ok location) :
    place = location := by
  obtain ⟨named, namedPlaced, reached⟩ := exists_place_of_locate located
  obtain rfl : named = place := Except.ok.inj (namedPlaced.symm.trans placed)
  refine reached.resolve_right ?_
  rintro ⟨target, linked⟩
  have unlinked := (keeps.link?_eq true named []).trans plain.unlinked
  rw [link?, linked] at unlinked
  cases unlinked

/-- What is there after a file and then another one were written. -/
structure WroteTwice (tree after : FileTree) (path other : Path)
    (location otherLocation : List String) (number otherNumber : Nat)
    (content otherContent : ByteArray) : Prop where
  keeps : Keeps tree after
  located : after.locate path = .ok location
  otherLocated : after.locate other = .ok otherLocation
  entry : after.holds? location = some (.file number)
  otherEntry : after.holds? otherLocation = some (.file otherNumber)
  content : number ≠ otherNumber → after.content number = content
  otherContent : after.content otherNumber = otherContent
  /-- If it is one file at two locations, it was so before. -/
  shared : number = otherNumber → location ≠ otherLocation →
    tree.holds? location = some (.file number) ∧ tree.holds? otherLocation = some (.file number)
  entries : ∀ elsewhere, after.holds? elsewhere = tree.holds? elsewhere ∨
    tree.holds? elsewhere = none ∧ (elsewhere = location ∨ elsewhere = otherLocation)
  contents : ∀ file, file ≠ number → file ≠ otherNumber → after.content file = tree.content file

/-- The second of two files that are written may be the first one again. -/
theorem wroteTwice (firstWritten : tree.write path content = .ok written)
    (secondWritten : written.write other otherContent = .ok after) :
    ∃ location otherLocation number otherNumber,
      WroteTwice tree after path other location otherLocation number otherNumber content otherContent := by
  obtain ⟨location, number, located, first⟩ := write_eq_ok firstWritten
  obtain ⟨otherLocation, otherNumber, otherLocated, second⟩ := write_eq_ok secondWritten
  refine ⟨location, otherLocation, number, otherNumber, ?_⟩
  have kept : after.holds? location = some (.file number) := by
    rcases second.holds?_eq location with same | ⟨absent, -⟩
    · rw [same, first.entry]
    · cases absent.symm.trans first.entry
  exact {
    keeps := first.keeps.trans second.keeps
    located := (first.keeps.trans second.keeps).resolve located
    otherLocated := second.keeps.resolve otherLocated
    entry := kept
    otherEntry := second.entry
    content := fun different => (second.contents number different).trans first.content
    otherContent := second.content
    shared := by
      rintro rfl apart
      -- A new file has a number of its own, so the second one was there when it was written,
      -- and so was the first one.
      have otherFound : tree.holds? otherLocation = some (.file number) := by
        rw [← first.entries otherLocation apart.symm]
        exact second.file.resolve_right fun fresh => fresh.2 location first.entry
      exact ⟨first.file.resolve_right fun fresh => fresh.2 otherLocation otherFound, otherFound⟩
    entries := by
      intro elsewhere
      rcases second.holds?_eq elsewhere with same | ⟨absent, atOther⟩
      · rw [same]
        exact (first.holds?_eq elsewhere).imp_right (And.imp_right .inl)
      · rcases first.holds?_eq elsewhere with same | ⟨absent, atFirst⟩
        · exact .inr ⟨same ▸ absent, .inr atOther⟩
        · exact .inr ⟨absent, .inl atFirst⟩
    contents := fun file notFirst notSecond =>
      (second.contents file notSecond).trans (first.contents file notFirst) }

/-- Files with one stem and different extensions are different files, if the places that their
paths name were plain before directories were added. -/
theorem WroteTwice.number_ne {stem : Path} {first second : String} (adds : AddsDirectories before tree)
    (wrote : WroteTwice tree after (stem ++ first) (stem ++ second) location otherLocation
      number otherNumber content otherContent)
    (properFirst : IsExtension first) (properSecond : IsExtension second) (different : first ≠ second)
    (plain : ∀ place, after.place (stem ++ first) = .ok place → before.Plain place)
    (otherPlain : ∀ place, after.place (stem ++ second) = .ok place → before.Plain place) :
    number ≠ otherNumber := by
  obtain ⟨place, placed, -⟩ := exists_place_of_locate wrote.located
  obtain ⟨otherPlace, otherPlaced, -⟩ := exists_place_of_locate wrote.otherLocated
  have apart := place_stem_ne properFirst properSecond different placed otherPlaced
  have keeps := adds.keeps.trans wrote.keeps
  obtain rfl := (plain place placed).locate_eq keeps placed wrote.located
  obtain rfl := (otherPlain otherPlace otherPlaced).locate_eq keeps otherPlaced wrote.otherLocated
  intro same
  obtain ⟨found, otherFound⟩ := wrote.shared same apart
  have foundBefore := (adds.holds?_eq (.file number) nofun).mp found
  have otherFoundBefore := (adds.holds?_eq (.file number) nofun).mp otherFound
  exact apart ((plain place placed).unshared number otherPlace foundBefore otherFoundBefore).symm

end FileTree

end VectorKernel
