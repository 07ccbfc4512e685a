import HidRig.Proofs.Search.Beside

/-! # The order of the search

The directories of a search path are tried in order, and the first that holds the artifact of a
module is taken.

* `SearchConfig.Holds`: the artifact of a module is a file in a directory.
* `SearchConfig.locate_eq_ok_iff`, `SearchConfig.locate_eq_error_iff`: what is found, and what is
  said if nothing is.
* `SearchConfig.locate_of_same`: only the directories that hold the artifact decide what is found.
* `SearchConfig.Confined`: the artifact lies in its directory, and in none below or above it.
* `SearchConfig.first_directory`: all of this for the names of modules.
-/

namespace HidRig

theorem Disk.isFile_iff {Image : Type} (disk : Disk Image) (path : Path) :
    disk.isFile path = true ↔
      ∃ place id content, disk.resolve path = .ok (.file place id content) := by
  unfold isFile
  constructor
  · intro h
    obtain ⟨⟨id, content⟩, found⟩ := Option.isSome_iff_exists.mp h
    obtain ⟨place, resolved⟩ := resolve_of_file? found
    exact ⟨place, id, content, resolved⟩
  · rintro ⟨place, id, content, resolved⟩
    rw [file?, resolved]
    rfl

/-! ## Names in directories -/

namespace Path

theorem parts_of_plain {path : Path} (plain : slash ∉ path) : path.parts = [path] := by
  refine Bytes.splitBy_eq_singleton fun b member => ?_
  have other : b ≠ slash := fun same => plain (same ▸ member)
  simpa using other

theorem isAbsolute_of_plain {path : Path} (plain : slash ∉ path) : path.isAbsolute = false := by
  cases path with
  | nil => rfl
  | cons b rest =>
    have other : b ≠ slash := fun same => plain (same ▸ List.mem_cons_self)
    simpa [isAbsolute] using other

/-- A part of a path that names an entry of a directory. -/
structure IsName (file : Path) : Prop where
  plain : slash ∉ file
  busy : isIdle file = false
  down : file ≠ [dot, dot]

namespace IsName
variable {file : Path} (h : file.IsName)
include h

theorem steps : file.steps = [file] := by
  have split : file.parts = [] ++ [file] := parts_of_plain h.plain
  exact steps_of_parts split h.busy

theorem join_eq (dir : Path) (named : dir ≠ []) :
    dir.join file = dir ++ file ∧ (∃ start, dir = start ++ [slash]) ∨
      dir.join file = dir ++ slash :: file := by
  unfold join
  rw [if_neg (by simp [isAbsolute_of_plain h.plain])]
  split
  · rename_i ends
    exact .inl ⟨rfl, List.getLast?_eq_some_iff.mp (ends.resolve_left named)⟩
  · exact .inr rfl

end IsName

end Path

namespace Disk
variable {Image : Type} (disk : Disk Image) {dir file : Path}

theorem walk_join (name : file.IsName) (named : dir ≠ []) (links : Nat) (here : Place) :
    disk.walk links here (dir.join file).parts = disk.walk links here (dir.parts ++ [file]) := by
  rcases name.join_eq dir named with ⟨joined, start, rfl⟩ | joined
  · -- the last part of the directory is empty, and idle before the name
    have split : (start ++ [Path.slash]).parts = start.parts ++ [[]] :=
      Path.parts_append_slash start []
    have whole : (start ++ [Path.slash] ++ file).parts = start.parts ++ [file] := by
      rw [List.append_assoc, List.singleton_append, Path.parts_append_slash,
        Path.parts_of_plain name.plain]
    have idle : Path.SameWay [[], file] [file] := .idle rfl (by simp) (.refl _)
    rw [joined, whole, split, List.append_assoc]
    exact (disk.walk_sameWay links (idle.append_left start.parts) here).symm
  · rw [joined, Path.parts_append_slash, Path.parts_of_plain name.plain]

/-- What is found under a name in a directory is an entry of the directory. -/
theorem of_resolve_join (name : file.IsName) (named : dir ≠ []) {there : Target Image}
    (found : disk.resolve (dir.join file) = .ok there) :
    ∃ here, disk.resolve dir = .ok (.directory here) ∧ (disk.entry? (file :: here)).isSome := by
  have within : dir <+: dir.join file := by
    rcases name.join_eq dir named with ⟨joined, -⟩ | joined <;> rw [joined]
    · exact List.prefix_append _ _
    · exact List.prefix_append _ _
  unfold resolve at found ⊢
  split at found
  · cases found
  rename_i whole
  split at found
  · cases found
  split at found
  · cases found
  rename_i short
  have null : ¬ dir.hasNull = true := by
    intro zero
    rw [Path.hasNull, List.contains_iff_mem] at zero whole
    exact whole (within.subset zero)
  have start : startOf (dir.join file) disk.here = startOf dir disk.here := by
    rw [startOf, startOf, Path.isAbsolute_join dir (Path.isAbsolute_of_plain name.plain)]
  rw [start, disk.walk_join name named] at found
  have length := within.length_le
  rw [if_neg null, if_neg named, if_neg (by omega)]
  exact of_walk_append name.busy name.down linkLimit found

end Disk

namespace SearchConfig
variable {Image : Type} (config : SearchConfig) (disk : Disk Image) {name : String}

/-- The artifact of a module is a file in a directory. Links are followed. -/
def Holds (name : String) (dir : Path) : Prop :=
  ∃ place id content, disk.resolve (config.libraryIn dir name) = .ok (.file place id content)

def withDirs (dirs : List Path) : SearchConfig :=
  { config with searchPath := dirs }

theorem isFile_libraryIn (name : String) (dir : Path) :
    disk.isFile (config.libraryIn dir name) = true ↔ config.Holds disk name dir :=
  disk.isFile_iff _

/-! ## What is found -/

section
variable (valid : isValidName name = true)
include valid

theorem locate_eq_find? (search : config.searchPath ≠ []) :
    config.locate disk name =
      match config.searchPath.find? fun dir => disk.isFile (config.libraryIn dir name) with
      | some dir => .ok (config.locationOf name (config.libraryIn dir name))
      | none => .error (.artifactNotFound (config.artifactName name) config.searched) := by
  have found : (config.candidates name).find? disk.isFile =
      (config.searchPath.find? fun dir => disk.isFile (config.libraryIn dir name)).map
        (config.libraryIn · name) :=
    List.find?_map
  rw [config.locate_of_search disk valid search, found]
  cases config.searchPath.find? fun dir => disk.isFile (config.libraryIn dir name) <;> rfl

theorem locate_eq_ok_iff (search : config.searchPath ≠ []) (location : Location) :
    config.locate disk name = .ok location ↔
      ∃ front dir back, config.searchPath = front ++ dir :: back ∧
        (∀ other ∈ front, ¬ config.Holds disk name other) ∧ config.Holds disk name dir ∧
        location = config.locationOf name (config.libraryIn dir name) := by
  rw [config.locate_eq_find? disk valid search]
  constructor
  · intro found
    split at found
    · rename_i dir first
      obtain ⟨holds, front, back, split, others⟩ := List.find?_eq_some_iff_append.mp first
      cases found
      refine ⟨front, dir, back, split, fun other member => ?_,
        (config.isFile_libraryIn disk name dir).mp holds, rfl⟩
      rw [← config.isFile_libraryIn]
      simpa using others other member
    · cases found
  · rintro ⟨front, dir, back, split, others, holds, rfl⟩
    have first : (config.searchPath.find? fun dir => disk.isFile (config.libraryIn dir name)) =
        some dir := by
      refine List.find?_eq_some_iff_append.mpr
        ⟨(config.isFile_libraryIn disk name dir).mpr holds, front, back, split, ?_⟩
      intro other member
      have passed := others other member
      rw [← config.isFile_libraryIn] at passed
      simpa using passed
    rw [first]

theorem locate_eq_error_iff (search : config.searchPath ≠ []) (fault : LoadFault) :
    config.locate disk name = .error fault ↔
      (∀ dir ∈ config.searchPath, ¬ config.Holds disk name dir) ∧
        fault = .artifactNotFound (config.artifactName name)
          (":".intercalate (config.searchPath.map Path.display)) := by
  have none : (∀ dir ∈ config.searchPath, ¬ config.Holds disk name dir) ↔
      (config.searchPath.find? fun dir => disk.isFile (config.libraryIn dir name)) = none := by
    simp only [List.find?_eq_none, config.isFile_libraryIn]
  rw [config.locate_eq_find? disk valid search, none]
  cases config.searchPath.find? fun dir => disk.isFile (config.libraryIn dir name) with
  | none => simp [searched, eq_comm]
  | some dir => simp

/-- What is found among some directories depends on the first that holds the artifact alone. -/
theorem locate_of_same {dirs others : List Path} (some_ : dirs ≠ []) (some' : others ≠ [])
    (same : (dirs.find? fun dir => disk.isFile (config.libraryIn dir name)) =
      others.find? fun dir => disk.isFile (config.libraryIn dir name)) (location : Location) :
    (config.withDirs dirs).locate disk name = .ok location ↔
      (config.withDirs others).locate disk name = .ok location := by
  have mine := (config.withDirs dirs).locate_eq_find? disk valid some_
  have its := (config.withDirs others).locate_eq_find? disk valid some'
  have first : ((config.withDirs dirs).searchPath.find? fun dir =>
        disk.isFile ((config.withDirs dirs).libraryIn dir name)) =
      (config.withDirs others).searchPath.find? fun dir =>
        disk.isFile ((config.withDirs others).libraryIn dir name) := same
  rw [mine, its, first]
  cases (config.withDirs others).searchPath.find? fun dir =>
    disk.isFile ((config.withDirs others).libraryIn dir name) with
  | none => simp
  | some dir => rfl

theorem locate_of_append (search : config.searchPath ≠ []) {location : Location}
    (found : config.locate disk name = .ok location) (more : List Path) :
    (config.withDirs (config.searchPath ++ more)).locate disk name = .ok location := by
  obtain ⟨front, dir, back, split, others, holds, rfl⟩ :=
    (config.locate_eq_ok_iff disk valid search location).mp found
  have longer : (config.withDirs (config.searchPath ++ more)).searchPath =
      front ++ dir :: (back ++ more) := by simp [withDirs, split]
  exact (locate_eq_ok_iff _ disk valid (by simp [longer]) _).mpr
    ⟨front, dir, back ++ more, longer, others, holds, rfl⟩

theorem locate_of_not_holds {front back : List Path} {dir : Path} (search : front ++ back ≠ [])
    (without : ¬ config.Holds disk name dir) (location : Location) :
    (config.withDirs (front ++ dir :: back)).locate disk name = .ok location ↔
      (config.withDirs (front ++ back)).locate disk name = .ok location := by
  have passed : disk.isFile (config.libraryIn dir name) = false := by
    rw [← config.isFile_libraryIn] at without
    simpa using without
  refine config.locate_of_same disk valid (by simp) search ?_ location
  simp [List.find?_append, passed]

end

theorem not_holds_of_directory {dir : Path} {place : Place}
    (directory : disk.resolve (config.libraryIn dir name) = .ok (.directory place)) :
    ¬ config.Holds disk name dir := by
  rintro ⟨_, _, _, file⟩
  rw [directory] at file
  cases file

/-! ## Where it lies -/

/-- The artifact of a module lies in a directory itself: its path leads to the directory and then
to the file name, and the file, or the link to it, is an entry there. -/
structure Confined (name : String) (dir : Path) : Prop where
  start : (config.libraryIn dir name).isAbsolute = dir.isAbsolute
  steps : (config.libraryIn dir name).steps =
    dir.steps ++ [Path.ofText (config.artifactPrefix ++ name ++ artifactSuffix)]
  parent : ∃ above, (config.libraryIn dir name).parent? = some above ∧ above.SameRoute dir
  entry : config.Holds disk name dir → ∃ here, disk.resolve dir = .ok (.directory here) ∧
    (disk.entry? (Path.ofText (config.artifactPrefix ++ name ++ artifactSuffix) :: here)).isSome

section
variable (plain : '/' ∉ config.artifactPrefix.toList) (valid : isValidName name = true)
include plain valid

theorem isName_artifactName : (Path.ofText (config.artifactName name)).IsName := by
  have named := ((isValidName_iff name).mp valid).2.1
  have ending : (Path.ofText artifactSuffix).length = 3 := by decide
  have long : 3 ≤ (Path.ofText (config.artifactName name)).length := by
    rw [ofText_artifactName, List.length_append, ending]
    omega
  refine ⟨?_, Path.isIdle_of_two_le (by omega), fun up => ?_⟩
  · rw [Path.slash_mem_ofText, artifactName]
    simp only [String.toList_append, List.mem_append, not_or]
    exact ⟨⟨plain, named⟩, by decide⟩
  · rw [up] at long
    exact absurd long (by decide)

omit valid in
theorem slash_not_mem_artifactPrefix : Path.slash ∉ Path.ofText config.artifactPrefix := by
  rwa [Path.slash_mem_ofText]

omit valid in
theorem folders_of_plain : config.folders = [] := by
  rw [folders, front, Path.parts_of_plain (config.slash_not_mem_artifactPrefix plain)]
  rfl

theorem confined (dir : Path) (named : dir ≠ []) : config.Confined disk name dir := by
  have file := config.isName_artifactName plain valid
  have relative := Path.isAbsolute_of_plain (config.slash_not_mem_artifactPrefix plain)
  obtain ⟨above, parent, start, steps⟩ := config.parent_libraryIn dir valid relative
  rw [config.folders_of_plain plain, List.append_nil] at steps
  have here := Path.isAbsolute_of_plain file.plain
  refine ⟨Path.isAbsolute_join dir here, ?_, ⟨above, parent, start, steps⟩, ?_⟩
  · rw [libraryIn, Path.steps_join dir here, file.steps]
    rfl
  · rintro ⟨place, id, content, found⟩
    exact disk.of_resolve_join file named found

end

/-- The artifact of a module is that of the first directory in which it is a file, and without one
all directories are told. Directories at the end, and those without the file, change nothing that is
found, whatever else stands there under its name. Behind a plain start of the file names no name
leads out of the directory. -/
theorem first_directory (name : String) (search : config.searchPath ≠ [])
    (valid : isValidName name = true) :
    (∀ location, config.locate disk name = .ok location ↔
      ∃ front dir back, config.searchPath = front ++ dir :: back ∧
        (∀ other ∈ front, ¬ config.Holds disk name other) ∧ config.Holds disk name dir ∧
        location = config.locationOf name (dir.join (Path.ofText (config.artifactName name)))) ∧
    (∀ fault, config.locate disk name = .error fault ↔
      (∀ dir ∈ config.searchPath, ¬ config.Holds disk name dir) ∧
        fault = .artifactNotFound (config.artifactName name)
          (":".intercalate (config.searchPath.map Path.display))) ∧
    (∀ location more, config.locate disk name = .ok location →
      (config.withDirs (config.searchPath ++ more)).locate disk name = .ok location) ∧
    (∀ front dir back, front ++ back ≠ [] → ¬ config.Holds disk name dir → ∀ location,
      ((config.withDirs (front ++ dir :: back)).locate disk name = .ok location ↔
        (config.withDirs (front ++ back)).locate disk name = .ok location)) ∧
    (∀ dir place, disk.resolve (dir.join (Path.ofText (config.artifactName name))) =
      .ok (.directory place) → ¬ config.Holds disk name dir) ∧
    ('/' ∉ config.artifactPrefix.toList → ∀ dir, dir ≠ [] → config.Confined disk name dir) := by
  refine ⟨config.locate_eq_ok_iff disk valid search, config.locate_eq_error_iff disk valid search,
    fun location more found => config.locate_of_append disk valid search found more,
    fun front dir back some_ without => config.locate_of_not_holds disk valid some_ without,
    fun dir place => config.not_holds_of_directory disk, fun plain => ?_⟩
  exact config.confined disk plain valid

/-! ## Three directories -/

/-- A directory, a link and a file under the file name of one module. The link leads out of the
working directory. -/
def threefold : Disk Unit :=
  Disk.empty.makeAll
    [(Path.ofText "d/...so", .directory), (Path.ofText "/lib/g", .file (.bytes [1])),
      (Path.ofText "e/...so", .link (Path.ofText "/lib/g")),
      (Path.ofText "f/...so", .file (.bytes []))]

/-- A module with two dots for its name is found in the second directory, which is named from the
root, through a link, and with one more directory in front. -/
theorem first_directory_linked :
    let config : SearchConfig := ⟨[Path.ofText "d", Path.ofText "/work/e/", Path.ofText "f"], ""⟩
    let location : Location := ⟨Path.ofText "/work/e/...so", Path.ofText "/work/e/...json"⟩
    (config.searchPath ≠ [] ∧ isValidName ".." = true) ∧
    config.locate threefold ".." = .ok location ∧
    (config.withDirs (Path.ofText "none" :: config.searchPath)).locate threefold ".." =
      .ok location ∧
    config.Confined threefold ".." (Path.ofText "/work/e/") := by
  intro config location
  have search : config.searchPath ≠ [] := by decide
  have valid : isValidName ".." = true := by decide
  obtain ⟨found, -, -, passed, shadowed, confined⟩ :=
    config.first_directory threefold ".." search valid
  have first : config.locate threefold ".." = .ok location := by
    refine (found location).mpr ⟨[Path.ofText "d"], Path.ofText "/work/e/", [Path.ofText "f"], rfl,
      ?_, ⟨[Path.ofText "g", Path.ofText "lib"], ⟨0⟩, .bytes [1], ?_⟩, ?_⟩
    · intro other member
      obtain rfl := List.mem_singleton.mp member
      exact shadowed _ [Path.ofText "...so", Path.ofText "d", Path.ofText "work"] (by cbv)
    · cbv
    · cbv
  have absent : ¬ config.Holds threefold ".." (Path.ofText "none") := by
    have missing : threefold.resolve (config.libraryIn (Path.ofText "none") "..") =
        .error .notFound := by cbv
    rintro ⟨_, _, _, file⟩
    rw [missing] at file
    cases file
  refine ⟨⟨search, valid⟩, first, ?_, confined (by decide) _ (by decide)⟩
  exact (passed [] _ config.searchPath search absent location).mpr first

end SearchConfig

end HidRig
