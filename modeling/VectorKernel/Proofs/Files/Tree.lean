import VectorKernel.Files.Tree
import VectorKernel.Proofs.Merging.Rows
import VectorKernel.Proofs.Success

/-!
# Changes of file trees

What the operations on a tree leave as it is. Making directories turns nothing
into a directory but locations where nothing was, `OnlyAddsDirectories.ensureDirectories`.
Writing a file gives one file another content, which may be a new file where nothing was,
`write_eq_ok`. Both keep the directories and the links that are there, so a path
that led somewhere still leads to the same location, `Keeps.resolve`.
-/

namespace VectorKernel.FileTree

/-- A part of a path that names something in a directory. -/
structure IsName (part : String) : Prop where
  named : Path.isSilent part = false
  notUp : part ≠ ".."
  short : part.utf8ByteSize ≤ maxNameBytes

/-- Where parts of a path lead from a location, with at most so many links on the way. -/
inductive Arrives (tree : FileTree) (last : Bool) :
    (left : Nat) → (here parts location : List String) → Prop where
  | stop {left : Nat} {here : List String} : Arrives tree last left here [] here
  | silent {left : Nat} {here parts location : List String} {part : String}
      (directory : tree.holds? here = some .directory) (silent : Path.isSilent part = true)
      (onward : Arrives tree last left here parts location) :
      Arrives tree last left here (part :: parts) location
  | up {left : Nat} {here parts location : List String}
      (directory : tree.holds? here = some .directory)
      (onward : Arrives tree last left here.dropLast parts location) :
      Arrives tree last left here (".." :: parts) location
  | down {left : Nat} {here parts location : List String} {part : String}
      (directory : tree.holds? here = some .directory) (name : IsName part)
      (unlinked : tree.link? last (here ++ [part]) parts = none)
      (onward : Arrives tree last left (here ++ [part]) parts location) :
      Arrives tree last left here (part :: parts) location
  /-- The parts of a link's path take the place of its name. -/
  | link {left : Nat} {here parts location : List String} {part : String} {target : Path}
      (directory : tree.holds? here = some .directory) (name : IsName part)
      (linked : tree.link? last (here ++ [part]) parts = some target)
      (onward : Arrives tree last left (startOf here target) (Text.pieces '/' target ++ parts) location) :
      Arrives tree last (left + 1) here (part :: parts) location

variable {tree before middle after : FileTree} {location here parts : List String} {path : Path}
  {last : Bool} {left number : Nat} {content : ByteArray}

section Entries

/-- What is at a location after an entry was put somewhere below the root. -/
theorem holds?_put (below : location ≠ []) (entry : Entry) (other : List String) :
    (tree.put location entry).holds? other = if other = location then some entry else tree.holds? other := by
  by_cases same : other = location
  · have notRoot : location.isEmpty = false := by simpa using below
    simp [holds?, put, same, notRoot]
  · cases other with
    | nil => simp [holds?, Ne.symm below]
    | cons name names => simp [holds?, put, same]

/-- Contents are kept apart from entries. -/
@[simp] theorem holds?_store (other : List String) :
    (tree.store number content).holds? other = tree.holds? other := rfl

/-- Writing to a file changes the content of that file only. -/
theorem content_store (other : Nat) :
    (tree.store number content).content other = if other = number then content else tree.content other := by
  by_cases same : other = number <;> simp [FileTree.content, store, same]

/-- The root is a directory in every tree, so what is none is below the root. -/
theorem ne_nil_of_holds? (notDirectory : tree.holds? location ≠ some .directory) : location ≠ [] := by
  rintro rfl
  exact notDirectory rfl

/-- Every file is listed. -/
theorem mem_rows_of_holds? (found : tree.holds? location = some (.file number)) :
    (location, .file number) ∈ tree.entries.rows := by
  have below : location.isEmpty = false := by
    simpa using ne_nil_of_holds? (fun directory => nomatch found.symm.trans directory)
  rw [holds?, below, if_neg Bool.false_ne_true] at found
  exact Table.find?_eq_some_iff.mp found

/-- A new file is no file that is there. -/
theorem holds?_ne_unused (location : List String) : tree.holds? location ≠ some (.file tree.unused) := by
  intro found
  have bound : Entry.bound (.file tree.unused) ≤ tree.unused :=
    List.le_max?_getD_of_mem (List.mem_map_of_mem (mem_rows_of_holds? found))
  exact Nat.not_succ_le_self _ bound

end Entries

section Following

/-- A walk arrives if what it finds behind a link was arrived at. -/
theorem arrives_of_walk {jump : (here parts : List String) → Except FileFault (List String)}
    (jumped : ∀ here parts, jump here parts = .ok location →
      ∃ fewer, left = fewer + 1 ∧ tree.Arrives last fewer here parts location)
    (found : tree.walk last jump here parts = .ok location) : tree.Arrives last left here parts location := by
  fun_induction walk tree last jump here parts with
  | case1 here =>
    obtain rfl := Except.ok.inj found
    exact .stop
  | case2 => cases found
  | case3 => cases found
  | case4 => cases found
  | case5 here part parts directory silent ih => exact .silent directory silent (ih found)
  | case6 here parts directory _ ih => exact .up directory (ih found)
  | case7 => cases found
  | case8 here part parts directory named notUp short unlinked ih =>
    exact .down directory ⟨eq_false_of_ne_true named, notUp, Nat.not_lt.mp short⟩ unlinked (ih found)
  | case9 here part parts directory named notUp short target linked =>
    obtain ⟨fewer, rfl, arrives⟩ := jumped _ _ found
    exact .link directory ⟨eq_false_of_ne_true named, notUp, Nat.not_lt.mp short⟩ linked arrives

/-- A name in a directory is walked to, or jumped from if it is that of a link. -/
theorem walk_cons_name {part : String} {jump : (here parts : List String) → Except FileFault (List String)}
    (directory : tree.holds? here = some .directory) (name : IsName part) :
    tree.walk last jump here (part :: parts) =
      (tree.link? last (here ++ [part]) parts).elim (tree.walk last jump (here ++ [part]) parts)
        fun target => jump (startOf here target) (Text.pieces '/' target ++ parts) := by
  rw [walk, directory]
  dsimp only
  rw [name.named, if_neg Bool.false_ne_true, if_neg name.notUp, if_neg (Nat.not_lt.mpr name.short)]
  cases tree.link? last (here ++ [part]) parts <;> rfl

/-- However many links are left, the parts before the next link are walked. -/
theorem follow_eq_walk (left : Nat) : ∃ jump, tree.follow last left = tree.walk last jump := by
  cases left <;> exact ⟨_, rfl⟩

/-- Parts that lead somewhere are followed to there. -/
theorem Arrives.follow (arrives : tree.Arrives last left here parts location) :
    tree.follow last left here parts = .ok location := by
  induction arrives with
  | @stop left here =>
    obtain ⟨jump, follow_eq⟩ := follow_eq_walk left
    rw [follow_eq, walk]
  | @silent left here parts location part directory silent _ ih =>
    obtain ⟨jump, follow_eq⟩ := follow_eq_walk left
    rw [follow_eq] at ih ⊢
    rw [walk, directory]
    dsimp only
    rw [if_pos silent, ih]
  | @up left here parts location directory _ ih =>
    obtain ⟨jump, follow_eq⟩ := follow_eq_walk left
    rw [follow_eq] at ih ⊢
    rw [walk, directory]
    exact ih
  | @down left here parts location part directory name unlinked _ ih =>
    obtain ⟨jump, follow_eq⟩ := follow_eq_walk left
    rw [follow_eq] at ih ⊢
    rw [walk_cons_name directory name, unlinked]
    exact ih
  | link directory name linked _ ih =>
    rw [FileTree.follow, walk_cons_name directory name, linked]
    exact ih

/-- Parts are followed as `Arrives` says. -/
theorem follow_eq_ok_iff :
    tree.follow last left here parts = .ok location ↔ tree.Arrives last left here parts location := by
  refine ⟨fun found => ?_, Arrives.follow⟩
  -- From one link to the next it is a walk, so the induction is on the links that are left.
  induction left generalizing here parts with
  | zero =>
    refine arrives_of_walk ?_ found
    nofun
  | succ left ih => exact arrives_of_walk (fun _ _ jumped => ⟨left, rfl, ih jumped⟩) found

/-- Where no link would be followed at the end of a path, none is followed at all. -/
theorem link?_eq_none_of_last (unlinked : tree.link? true location parts = none) :
    tree.link? last location parts = none := by
  unfold link? at unlinked ⊢
  split
  · next linked =>
    rw [linked] at unlinked
    cases unlinked
  · rfl

/-- Before the end of a path it makes no difference whether links at the end are followed. -/
theorem link?_cons (part : String) :
    tree.link? last location (part :: parts) = tree.link? true location (part :: parts) := by
  unfold link?
  cases last <;> rfl

/-- A link that is followed is there. -/
theorem holds?_of_link? {target : Path} (linked : tree.link? last location parts = some target) :
    tree.holds? location = some (.link target) := by
  unfold link? at linked
  split at linked
  · next found =>
    split at linked
    · rw [found, Option.some.inj linked]
    · cases linked
  · cases linked

/-- The end of a path is not followed further unless links there are. -/
theorem link?_nil : tree.link? false location [] = none := by
  unfold link?
  split <;> rfl

/-- Where parts lead without a link at the end is where they lead with it, or holds a link. -/
theorem Arrives.exists_place (arrives : tree.Arrives true left here parts location) :
    ∃ place, tree.Arrives false left here parts place ∧
      (place = location ∨ ∃ target, tree.holds? place = some (.link target)) := by
  induction arrives with
  | stop => exact ⟨_, .stop, .inl rfl⟩
  | silent directory silent _ ih =>
    obtain ⟨place, arrives, reached⟩ := ih
    exact ⟨place, .silent directory silent arrives, reached⟩
  | up directory _ ih =>
    obtain ⟨place, arrives, reached⟩ := ih
    exact ⟨place, .up directory arrives, reached⟩
  | down directory name unlinked _ ih =>
    obtain ⟨place, arrives, reached⟩ := ih
    exact ⟨place, .down directory name (link?_eq_none_of_last unlinked) arrives, reached⟩
  | @link left here parts location part target directory name linked _ ih =>
    cases parts with
    | nil =>
      -- The link is the last part: the place is where it stands.
      exact ⟨here ++ [part], .down directory name link?_nil .stop, .inr ⟨target, holds?_of_link? linked⟩⟩
    | cons next parts =>
      obtain ⟨place, arrives, reached⟩ := ih
      exact ⟨place, .link directory name ((link?_cons next).trans linked) arrives, reached⟩

/-- Parts that end in a name lead to a place with that name, whatever links are on the way. -/
theorem Arrives.getLast? {part : String} (arrives : tree.Arrives false left here parts location)
    (named : Path.isSilent part = false) (notUp : part ≠ "..")
    (ends : parts.getLast? = some part) : location.getLast? = some part := by
  induction arrives with
  | stop => cases ends
  | @silent left here parts location first directory silent onward ih =>
    cases parts with
    | nil =>
      obtain rfl : first = part := Option.some.inj ends
      cases named.symm.trans silent
    | cons next parts => exact ih (List.getLast?_cons_cons ▸ ends)
  | @up left here parts location directory onward ih =>
    cases parts with
    | nil => exact absurd (Option.some.inj ends).symm notUp
    | cons next parts => exact ih (List.getLast?_cons_cons ▸ ends)
  | @down left here parts location first directory _ _ onward ih =>
    cases parts with
    | nil =>
      obtain rfl : first = part := Option.some.inj ends
      cases onward
      exact List.getLast?_concat
    | cons next parts => exact ih (List.getLast?_cons_cons ▸ ends)
  | @link left here parts location first target directory _ linked onward ih =>
    cases parts with
    | nil => cases link?_nil.symm.trans linked
    | cons next parts =>
      rw [List.getLast?_cons_cons] at ends
      exact ih (by rw [List.getLast?_append, ends, Option.some_or])

/-- A path leads where its parts do, if it is not empty and can be a name at all. -/
theorem resolve_eq_ok_iff :
    tree.resolve last path = .ok location ↔
      ¬path.toList.contains (.ofNat 0) ∧ ¬path.isEmpty ∧
        tree.Arrives last maxLinks (startOf tree.working path) (Text.pieces '/' path) location := by
  unfold resolve
  rw [← follow_eq_ok_iff]
  split
  · next zero => exact ⟨nofun, fun ⟨clean, _⟩ => absurd zero clean⟩
  · next clean =>
    split
    · next empty => exact ⟨nofun, fun ⟨_, nonempty, _⟩ => absurd empty nonempty⟩
    · next nonempty => exact ⟨fun found => ⟨clean, nonempty, found⟩, fun found => found.2.2⟩

/-- The location that a path leads to is the one it names, unless that one holds a link. -/
theorem exists_place_of_locate (located : tree.locate path = .ok location) :
    ∃ place, tree.place path = .ok place ∧
      (place = location ∨ ∃ target, tree.holds? place = some (.link target)) := by
  obtain ⟨clean, nonempty, arrives⟩ := resolve_eq_ok_iff.mp located
  obtain ⟨place, arrives, reached⟩ := arrives.exists_place
  exact ⟨place, resolve_eq_ok_iff.mpr ⟨clean, nonempty, arrives⟩, reached⟩

end Following

/-- Every directory of a tree is one in another tree, both have the same links, and relative paths
start at the same location. -/
structure Keeps (before after : FileTree) : Prop where
  working : after.working = before.working
  directories : ∀ location, before.holds? location = some .directory →
    after.holds? location = some .directory
  links : ∀ location target, after.holds? location = some (.link target) ↔
    before.holds? location = some (.link target)

namespace Keeps

/-- What two changes keep, both together keep. -/
theorem trans (first : Keeps before middle) (second : Keeps middle after) : Keeps before after where
  working := second.working.trans first.working
  directories := fun location directory => second.directories location (first.directories location directory)
  links := fun location target => (second.links location target).trans (first.links location target)

/-- The same links are followed. -/
theorem link?_eq (keeps : Keeps before after) (last : Bool) (location parts : List String) :
    after.link? last location parts = before.link? last location parts := by
  have links := keeps.links location
  unfold link?
  split
  · next target linked => rw [(links target).mp linked]
  · next unlinked =>
    split
    · next target linked => exact absurd ((links target).mpr linked) (unlinked target)
    · rfl

/-- Parts that lead somewhere still lead there. -/
theorem arrives (keeps : Keeps before after) (arrives : before.Arrives last left here parts location) :
    after.Arrives last left here parts location := by
  induction arrives with
  | stop => exact .stop
  | silent directory silent _ ih => exact .silent (keeps.directories _ directory) silent ih
  | up directory _ ih => exact .up (keeps.directories _ directory) ih
  | down directory name unlinked _ ih =>
    exact .down (keeps.directories _ directory) name ((keeps.link?_eq _ _ _).trans unlinked) ih
  | link directory name linked _ ih =>
    exact .link (keeps.directories _ directory) name ((keeps.link?_eq _ _ _).trans linked) ih

/-- A path that leads somewhere still leads there. -/
theorem resolve (keeps : Keeps before after) (found : before.resolve last path = .ok location) :
    after.resolve last path = .ok location := by
  obtain ⟨clean, nonempty, arrives⟩ := resolve_eq_ok_iff.mp found
  exact resolve_eq_ok_iff.mpr ⟨clean, nonempty, keeps.working ▸ keeps.arrives arrives⟩

end Keeps

/-- A tree differs from another one only in new directories. -/
structure AddsDirectories (before after : FileTree) : Prop where
  working : after.working = before.working
  contents : after.contents = before.contents
  entries : ∀ location, after.holds? location = before.holds? location ∨
    before.holds? location = none ∧ after.holds? location = some .directory

namespace AddsDirectories

theorem refl (tree : FileTree) : AddsDirectories tree tree where
  working := rfl
  contents := rfl
  entries := fun _ => .inl rfl

/-- Directories may be added one after the other. -/
theorem trans (first : AddsDirectories before middle) (second : AddsDirectories middle after) :
    AddsDirectories before after where
  working := second.working.trans first.working
  contents := second.contents.trans first.contents
  entries := by
    intro location
    rcases second.entries location with same | ⟨absent, added⟩
    · rw [same]
      exact first.entries location
    · rcases first.entries location with same | ⟨-, directory⟩
      · exact .inr ⟨same ▸ absent, added⟩
      · cases absent.symm.trans directory

/-- What is no directory was there before. -/
theorem holds?_eq (adds : AddsDirectories before after) (entry : Entry)
    (notDirectory : entry ≠ .directory) :
    after.holds? location = some entry ↔ before.holds? location = some entry := by
  rcases adds.entries location with same | ⟨absent, added⟩
  · rw [same]
  · simp [absent, added, notDirectory.symm]

/-- New directories are in nobody's way: they were made where nothing was. -/
theorem keeps (adds : AddsDirectories before after) : Keeps before after where
  working := adds.working
  directories := by
    intro location directory
    rcases adds.entries location with same | ⟨-, added⟩
    · rw [same, directory]
    · exact added
  links := fun _ target => adds.holds?_eq (.link target) nofun

end AddsDirectories

/-- A new directory is made where nothing was. -/
theorem addsDirectories_makeDirectory (made : tree.makeDirectory path = .ok after) :
    AddsDirectories tree after := by
  obtain ⟨location, -, put⟩ := bind_eq_ok.mp made
  cases found : tree.holds? location with
  | some entry =>
    rw [found] at put
    cases put
  | none =>
    rw [found] at put
    obtain rfl := Except.ok.inj put
    refine ⟨rfl, rfl, fun other => ?_⟩
    have below : location ≠ [] := ne_nil_of_holds? (by rw [found]; nofun)
    rw [holds?_put below]
    by_cases same : other = location
    · exact .inr ⟨same ▸ found, if_pos same⟩
    · exact .inl (if_neg same)

/-- A change of the current tree, as an action: a failed one leaves the tree. -/
theorem run_change (operation : FileTree → Except FileFault FileTree) (tree : FileTree) :
    (do change (operation (← get)) : StateM FileTree (Except FileFault Unit)).run tree =
      match operation tree with
      | .ok changed => (.ok (), changed)
      | .error fault => (.error fault, tree) := by
  have unfolded : (do change (operation (← get)) : StateM FileTree (Except FileFault Unit)).run tree =
      (change (operation tree)).run tree := rfl
  rw [unfolded]
  cases operation tree <;> rfl

/-- An action that changes a tree by new directories only, from wherever it
starts and whether it fails or not. -/
def OnlyAddsDirectories {α : Type} (action : StateM FileTree α) : Prop :=
  ∀ tree, AddsDirectories tree (action.run tree).2

namespace OnlyAddsDirectories

variable {α β : Type}

theorem pure (value : α) : OnlyAddsDirectories (Pure.pure value : StateM FileTree α) :=
  AddsDirectories.refl

/-- Actions that only add directories may follow each other. -/
theorem bind {action : StateM FileTree α} {next : α → StateM FileTree β}
    (first : OnlyAddsDirectories action) (second : ∀ value, OnlyAddsDirectories (next value)) :
    OnlyAddsDirectories (action >>= next) := by
  intro tree
  exact (first tree).trans (second _ _)

/-- A directory that cannot be made changes nothing. -/
theorem makeDirectory (path : Path) :
    OnlyAddsDirectories (Disk.makeDirectory path : StateM FileTree _) := by
  intro tree
  have ran : (Disk.makeDirectory path : StateM FileTree _).run tree = _ :=
    run_change (·.makeDirectory path) tree
  rw [ran]
  cases made : tree.makeDirectory path with
  | ok after => exact addsDirectories_makeDirectory made
  | error fault => exact .refl tree

/-- Asking whether a directory is there changes nothing either. -/
theorem ensureDirectory (path : Path) :
    OnlyAddsDirectories (Disk.ensureDirectory path : StateM FileTree _) := by
  refine (makeDirectory path).bind fun result => ?_
  cases result with
  | ok done => exact .pure _
  | error fault =>
    have asked : OnlyAddsDirectories (Disk.isDirectory path : StateM FileTree Bool) := AddsDirectories.refl
    exact asked.bind fun _ => .pure _

/-- By induction on the directories above the last one. -/
theorem ensureDirectoriesFrom (fuel : Nat) (path : Path) :
    OnlyAddsDirectories (Disk.ensureDirectoriesFrom fuel path : StateM FileTree _) := by
  induction fuel generalizing path with
  | zero => exact .pure _
  | succ fuel ih =>
    rw [Disk.ensureDirectoriesFrom]
    split
    · exact .pure _
    · refine (ensureDirectory path).bind fun result => ?_
      split
      · split
        · exact .pure _
        · next parent _ =>
          refine (ih parent).bind fun above => ?_
          cases above with
          | error fault => exact .pure _
          | ok done => exact ensureDirectory path
      · exact .pure _

/-- Making a directory and all those above it changes nothing else, even if it fails half way. -/
theorem ensureDirectories (path : Path) :
    OnlyAddsDirectories (Disk.ensureDirectories path : StateM FileTree _) :=
  ensureDirectoriesFrom _ path

end OnlyAddsDirectories

/-- What writing does to a tree: the file at a location has another content, and all else is as it
was. If nothing was at the location, the file is a new one. -/
structure Wrote (tree after : FileTree) (location : List String) (number : Nat) (content : ByteArray) :
    Prop where
  entry : after.holds? location = some (.file number)
  content : after.content number = content
  working : after.working = tree.working
  entries : ∀ other, other ≠ location → after.holds? other = tree.holds? other
  contents : ∀ other, other ≠ number → after.content other = tree.content other
  file : tree.holds? location = some (.file number) ∨
    tree.holds? location = none ∧ ∀ other, tree.holds? other ≠ some (.file number)

/-- A file that is there gets another content. -/
theorem wrote_store (found : tree.holds? location = some (.file number)) :
    Wrote tree (tree.store number content) location number content where
  entry := found
  content := by rw [content_store, if_pos rfl]
  working := rfl
  entries := fun _ _ => rfl
  contents := fun other different => by rw [content_store, if_neg different]
  file := .inl found

/-- A file is made where nothing was, with a number that no file had. -/
theorem wrote_create (absent : tree.holds? location = none) :
    Wrote tree (tree.create location content) location tree.unused content := by
  have below : location ≠ [] := ne_nil_of_holds? (by rw [absent]; nofun)
  exact {
    entry := by rw [create, holds?_store, holds?_put below, if_pos rfl]
    content := by rw [create, content_store, if_pos rfl]
    working := rfl
    entries := fun other different => by rw [create, holds?_store, holds?_put below, if_neg different]
    contents := fun other different => by
      rw [create, content_store, if_neg different]
      rfl
    file := .inr ⟨absent, holds?_ne_unused⟩ }

/-- A file is written at the location that its path leads to. -/
theorem write_eq_ok (written : tree.write path content = .ok after) :
    ∃ location number, tree.locate path = .ok location ∧ Wrote tree after location number content := by
  obtain ⟨location, located, changed⟩ := bind_eq_ok.mp written
  split at changed
  · next number found =>
    obtain rfl := Except.ok.inj changed
    exact ⟨location, number, located, wrote_store found⟩
  · cases changed
  · next absent =>
    obtain rfl := Except.ok.inj changed
    exact ⟨location, tree.unused, located, wrote_create absent⟩

/-- An action of writing that succeeds has written the file. -/
theorem run_write_eq_ok {done : Unit}
    (success : (Disk.write path content : StateM FileTree _).run tree = (.ok done, after)) :
    tree.write path content = .ok after := by
  have ran := run_change (·.write path content) tree
  have outcome := ran.symm.trans success
  cases result : tree.write path content with
  | error fault =>
    rw [result] at outcome
    cases outcome
  | ok written =>
    rw [result] at outcome
    exact congrArg Except.ok (congrArg Prod.snd outcome)

/-- A location that is written to is no directory and no link, before or after. -/
theorem Wrote.keeps (wrote : Wrote tree after location number content) : Keeps tree after where
  working := wrote.working
  directories := by
    intro other directory
    rw [wrote.entries other ?_, directory]
    rintro rfl
    rcases wrote.file with found | ⟨absent, -⟩
    · cases found.symm.trans directory
    · cases absent.symm.trans directory
  links := by
    intro other target
    by_cases same : other = location
    · subst same
      rw [wrote.entry]
      rcases wrote.file with found | ⟨absent, -⟩
      · rw [found]
      · simp [absent]
    · rw [wrote.entries other same]

/-- Entries are kept, but for one at the location where nothing may have been. -/
theorem Wrote.holds?_eq (wrote : Wrote tree after location number content) (other : List String) :
    after.holds? other = tree.holds? other ∨ tree.holds? other = none ∧ other = location := by
  by_cases same : other = location
  · subst same
    rcases wrote.file with found | ⟨absent, -⟩
    · exact .inl (wrote.entry.trans found.symm)
    · exact .inr ⟨absent, rfl⟩
  · exact .inl (wrote.entries other same)

/-- A path leads to the file with a number. -/
def FileAt (tree : FileTree) (path : Path) (number : Nat) : Prop :=
  ∃ location, tree.locate path = .ok location ∧ tree.holds? location = some (.file number)

/-- The content of a file is read by every path that leads to it. -/
theorem FileAt.read (file : tree.FileAt path number) : tree.read path = .ok (tree.content number) := by
  obtain ⟨location, located, found⟩ := file
  exact bind_eq_ok.mpr ⟨location, located, by rw [found]⟩

/-- What was written as text is read as that text. -/
theorem fromUTF8?_toUTF8 (text : String) : String.fromUTF8? text.toUTF8 = some text :=
  dif_pos text.isValidUTF8

/-- A text that was written is read back, and reading changes nothing. -/
theorem readText_eq_ok {text : String} (read : tree.read path = .ok text.toUTF8) :
    (Disk.readText path : StateM FileTree _).run tree = (.ok text, tree) := by
  have opened : (Disk.read path : StateM FileTree _).run tree = pure (.ok text.toUTF8, tree) :=
    congrArg (·, tree) read
  unfold Disk.readText
  rw [StateT.run_bind, opened, pure_bind]
  dsimp only
  rw [fromUTF8?_toUTF8]
  rfl

end VectorKernel.FileTree
