import Mathlib
import HidRig.Proofs.Opening.Stages
import HidRig.Proofs.Search.Found
import HidRig.Rig.UsualLoader

/-! # The file that is opened

A path with a slash is opened as it is, and a bare name is searched for by the system loader,
whatever file was found by that name.

* `Loader.fileFor?`: the file that the system loader takes for a name.
* `Loader.OpensAsGiven`, `Loader.SearchesOnly`: what is assumed of the system loader.
* `SearchConfig.OpensFrom`: a module is opened from a file at one of some paths.
* `SearchConfig.found_opened`: the file that was found on the search path is what is opened, if its
  path has a slash.
-/

namespace HidRig

/-! ## Objects -/

@[simp] theorem OpenObject.file_alsoNamed (object : OpenObject) (file : FileId) (name : Path) :
    (object.alsoNamed file name).file = object.file := by
  unfold alsoNamed
  split <;> rfl

theorem OpenObject.mem_names_alsoNamed (object : OpenObject) (file : FileId) (name other : Path) :
    other ∈ (object.alsoNamed file name).names ↔
      other ∈ object.names ∨ object.file = file ∧ other = name := by
  unfold alsoNamed
  split
  · rename_i new
    simp [new.1]
  · rename_i old
    refine ⟨.inl, ?_⟩
    rintro (known | ⟨same, rfl⟩)
    · exact known
    · by_contra new
      exact old ⟨same, new⟩

namespace Loader
variable {loader after : Loader} {disk : Disk Image} {path : Path} {object : OpenObject}

/-- The file that the system loader takes for a name. -/
def fileFor? (loader : Loader) (disk : Disk Image) (name : Path) : Option FileId :=
  match loader.system.lead? disk loader.objects name with
  | none => none
  | some (.known file) => (loader.objectOf? file).map OpenObject.file
  | some (.path path) => (native? disk path).map Prod.fst

/-- The system loader opens a path with a slash as it is given. -/
def OpensAsGiven (loader : Loader) (disk : Disk Image) (path : Path) : Prop :=
  Path.slash ∈ path → loader.fileFor? disk path = (native? disk path).map Prod.fst

/-- The system loader searches for a name without a slash in some directories alone. -/
def SearchesOnly (loader : Loader) (dirs : List Path) (disk : Disk Image) (name : Path) : Prop :=
  Path.slash ∉ name → ∀ file, loader.fileFor? disk name = some file →
    ∃ dir ∈ dirs, ∃ image, native? disk (dir.join name) = some (file, image)

theorem openObject_of_null (null : path.hasNull = true) :
    loader.openObject disk path = .error .nullInside := by
  rw [openObject, if_pos null]

theorem hasNull_of_openObject (opened : loader.openObject disk path = .ok (object, after)) :
    path.hasNull = false := by
  cases null : path.hasNull with
  | false => rfl
  | true =>
    rw [openObject_of_null null] at opened
    cases opened

theorem file_openObject (disk : Disk Image) (noNull : path.hasNull = false) :
    (loader.openObject disk path).map (fun opened => opened.1.file) =
      match loader.fileFor? disk path with
      | none => .error .refused
      | some file => .ok file := by
  unfold openObject fileFor?
  rw [noNull]
  cases loader.system.lead? disk loader.objects path with
  | none => rfl
  | some lead =>
    cases lead with
    | known file =>
      cases open_ : loader.objectOf? file with
      | none => simp [open_, Except.map]
      | some object => simp [open_, Except.map]
    | path place =>
      cases native : native? disk place with
      | none => simp [native, Except.map]
      | some found =>
        cases open_ : loader.objectOf? found.1 with
        | none => simp [native, open_, Except.map]
        | some object =>
          have same := file_of_objectOf? open_
          simp [native, open_, Except.map, same]

theorem fileFor?_of_openObject (opened : loader.openObject disk path = .ok (object, after)) :
    loader.fileFor? disk path = some object.file := by
  have file := loader.file_openObject disk (hasNull_of_openObject opened)
  rw [opened] at file
  cases found : loader.fileFor? disk path with
  | none => rw [found] at file; cases file
  | some other => rw [found] at file; cases file; rfl

end Loader

theorem Disk.hasNull_of_isFile {Image : Type} {disk : Disk Image} {path : Path}
    (file : disk.isFile path = true) : path.hasNull = false := by
  cases null : path.hasNull with
  | false => rfl
  | true => simp [Disk.isFile, Disk.file?, Disk.resolve, null] at file

/-! ## Modules -/

namespace SearchConfig

/-- A name opens a module from the native file at one of some paths, if it opens one. -/
def OpensFrom (config : SearchConfig) (disk : Disk Image) (loader : Loader) (name : String)
    (library : Path) (paths : List Path) : Prop :=
  ∀ module events after, TestModule.open config disk loader name = .ok (module, events, after) →
    module.path = library ∧
      ∃ path ∈ paths, ∃ image, disk.file? path = some (module.file, .native image)

theorem native?_eq_some {disk : Disk Image} {path : Path} {id : FileId} {image : Image} :
    Loader.native? disk path = some (id, image) ↔ disk.file? path = some (id, .native image) := by
  unfold Loader.native?
  constructor
  · intro h
    split at h
    · cases h
      assumption
    · cases h
  · intro h
    rw [h]

section Opening
variable {config : SearchConfig} {disk : Disk Image} {loader : Loader} {name : String}
  {location : Location} (found : config.locate disk name = .ok location)
include found

theorem opensFrom_of_fileFor? {paths : List Path}
    (taken : ∀ file, loader.fileFor? disk location.library = some file →
      ∃ path ∈ paths, ∃ image, Loader.native? disk path = some (file, image)) :
    config.OpensFrom disk loader name location.library paths := by
  intro module events after made
  obtain ⟨there, object, _, _, found', opened, rfl, -⟩ := TestModule.of_open_ok made
  cases found.symm.trans found'
  obtain ⟨path, member, image, native⟩ := taken _ (Loader.fileFor?_of_openObject opened)
  exact ⟨rfl, path, member, image, native?_eq_some.mp native⟩

theorem open_refused_iff (noNull : location.library.hasNull = false) :
    TestModule.open config disk loader name =
        .error (.libraryLoadFailed location.library.display OpenFault.refused.message) ↔
      loader.fileFor? disk location.library = none := by
  have file := loader.file_openObject disk noNull
  cases taken : loader.fileFor? disk location.library with
  | none =>
    rw [taken] at file
    exact iff_of_true (TestModule.open_of_refused found (error_of_map_error file)) rfl
  | some id =>
    rw [taken] at file
    obtain ⟨⟨object, after⟩, opened, -⟩ := exists_of_map_ok file
    refine iff_of_false (fun refused => ?_) nofun
    obtain ⟨-, other⟩ | ⟨-, -, other⟩ | ⟨-, _, -, other⟩ := TestModule.open_cases found opened <;>
      cases refused.symm.trans other

end Opening

variable {name : String}

theorem slash_mem_libraryIn (config : SearchConfig) (dir : Path) (valid : isValidName name = true) :
    Path.slash ∈ config.libraryIn dir name ↔ dir ≠ [] ∨ '/' ∈ config.artifactPrefix.toList := by
  have inside : Path.slash ∈ Path.ofText (config.artifactName name) ↔
      '/' ∈ config.artifactPrefix.toList := by
    have plain : '/' ∉ name.toList := ((isValidName_iff name).mp valid).2.1
    rw [Path.slash_mem_ofText]
    simp [artifactName, artifactSuffix, plain]
  cases absolute : (Path.ofText (config.artifactName name)).isAbsolute with
  | false => rw [libraryIn, Path.slash_mem_join dir absolute, inside]
  | true =>
    have start : Path.slash ∈ Path.ofText (config.artifactName name) := by
      unfold Path.isAbsolute at absolute
      exact List.mem_of_head? (of_decide_eq_true absolute)
    rw [libraryIn, Path.join_of_absolute dir absolute]
    exact iff_of_true start (.inr (inside.mp start))

/-- The environment names no empty directory. -/
theorem nil_not_mem_ofLookup (lookup : String → Option Bytes) :
    [] ∉ (ofLookup lookup).searchPath := by
  unfold ofLookup
  cases (askVariables lookup).2 with
  | none => simp
  | some value => simp [splitPaths]

/-- The file that was found on the search path is opened, if its path has a slash, which it has
unless it was found in the empty directory. Else the system loader searches for its name again, in
its own directories. -/
theorem found_opened (config : SearchConfig) (disk : Disk Image) (name : String)
    (location : Location) (search : config.searchPath ≠ [])
    (found : config.locate disk name = .ok location) :
    (∃ dir ∈ config.searchPath, location.library = config.libraryIn dir name ∧
      disk.isFile location.library = true ∧
      (Path.slash ∈ location.library ↔ dir ≠ [] ∨ '/' ∈ config.artifactPrefix.toList)) ∧
    (∀ lookup, config.searchPath = (ofLookup lookup).searchPath → Path.slash ∈ location.library) ∧
    ∀ (loader : Loader) (dirs : List Path), loader.OpensAsGiven disk location.library →
      loader.SearchesOnly dirs disk location.library →
      (Path.slash ∈ location.library →
        config.OpensFrom disk loader name location.library [location.library] ∧
        (TestModule.open config disk loader name =
            .error (.libraryLoadFailed location.library.display OpenFault.refused.message) ↔
          Loader.native? disk location.library = none)) ∧
      (Path.slash ∉ location.library →
        config.OpensFrom disk loader name location.library
          (dirs.map fun dir => dir.join location.library)) := by
  obtain ⟨dir, hdir, here, file⟩ := config.of_locate disk search found
  have library : location.library = config.libraryIn dir name := congrArg Location.library here
  have slashed := config.slash_mem_libraryIn dir (config.valid_of_locate disk found)
  rw [← library] at slashed
  have noNull := Disk.hasNull_of_isFile file
  refine ⟨⟨dir, hdir, library, file, slashed⟩, ?_,
    fun loader dirs given own => ⟨fun slash => ⟨?_, ?_⟩, fun bare => ?_⟩⟩
  · intro lookup same
    refine slashed.mpr (.inl fun empty => ?_)
    rw [empty, same] at hdir
    exact nil_not_mem_ofLookup lookup hdir
  · refine opensFrom_of_fileFor? found fun file taken => ?_
    rw [given slash] at taken
    obtain ⟨⟨_, image⟩, native, rfl⟩ := Option.map_eq_some_iff.mp taken
    exact ⟨_, List.mem_singleton_self _, image, native⟩
  · rw [open_refused_iff found noNull, given slash, Option.map_eq_none_iff]
  · refine opensFrom_of_fileFor? found fun file taken => ?_
    obtain ⟨dir, member, image, native⟩ := own bare file taken
    exact ⟨_, List.mem_map_of_mem member, image, native⟩

/-! ## With and without a directory -/

/-- A disk with a module in the working directory, and one of the same name below it. -/
def twice : Disk Image :=
  Disk.empty.makeAll
    [(Path.ofText "libtest-a.so", .file (.native .least)),
      (Path.ofText "lib/libtest-a.so", .file (.native .least))]

/-- What is found in a directory is opened, also in one that is named from the root. -/
theorem found_opened_below :
    let config : SearchConfig := ⟨[Path.ofText "/work/lib"], defaultPrefix⟩
    let location : Location :=
      ⟨Path.ofText "/work/lib/libtest-a.so", Path.ofText "/work/lib/libtest-a.json"⟩
    let loader := Loader.initial (UsualLoader.ofVariable none).system
    config.searchPath ≠ [] ∧ config.locate twice "a" = .ok location ∧
      loader.OpensAsGiven twice location.library ∧
      loader.SearchesOnly [] twice location.library ∧
      config.OpensFrom twice loader "a" location.library [location.library] ∧
      (TestModule.open config twice loader "a").toOption.map (fun opened => opened.1.file) =
        some ⟨1⟩ := by
  intro config location loader
  have search : config.searchPath ≠ [] := by decide
  have found : config.locate twice "a" = .ok location := by cbv
  have slashed : Path.slash ∈ location.library := by decide +kernel
  have given : loader.OpensAsGiven twice location.library := by
    intro _
    have file : loader.fileFor? twice location.library = some ⟨1⟩ := by decide +kernel
    have native : (Loader.native? twice location.library).map Prod.fst = some ⟨1⟩ := by
      decide +kernel
    rw [file, native]
  have own : loader.SearchesOnly [] twice location.library := fun bare => absurd slashed bare
  obtain ⟨-, -, opens⟩ := config.found_opened twice "a" location search found
  have direct := ((opens loader [] given own).1 slashed).1
  exact ⟨search, found, given, own, direct, by decide +kernel⟩

/-- What is found in the empty directory is searched for again, and another module is opened. -/
theorem found_not_opened :
    let config : SearchConfig := ⟨[[]], defaultPrefix⟩
    let location : Location := ⟨Path.ofText "libtest-a.so", Path.ofText "libtest-a.json"⟩
    let loader := Loader.initial (UsualLoader.ofVariable (some (Path.ofText "lib"))).system
    config.locate twice "a" = .ok location ∧ Path.slash ∉ location.library ∧
      loader.OpensAsGiven twice location.library ∧
      loader.SearchesOnly [Path.ofText "lib"] twice location.library ∧
      (twice.file? location.library).map Prod.fst = some ⟨0⟩ ∧
      (TestModule.open config twice loader "a").toOption.map (fun opened => opened.1.file) =
        some ⟨1⟩ := by
  intro config location loader
  have bare : Path.slash ∉ location.library := by decide +kernel
  have searched : loader.SearchesOnly [Path.ofText "lib"] twice location.library := by
    intro _ file taken
    have first : loader.fileFor? twice location.library = some ⟨1⟩ := by decide +kernel
    have there : (Loader.native? twice ((Path.ofText "lib").join location.library)).map Prod.fst =
        some ⟨1⟩ := by decide +kernel
    obtain rfl := Option.some.inj (first.symm.trans taken)
    obtain ⟨⟨_, image⟩, native, rfl⟩ := Option.map_eq_some_iff.mp there
    exact ⟨_, List.mem_singleton_self _, image, native⟩
  exact ⟨by cbv, bare, fun slashed => absurd slashed bare, searched, by rfl, by decide +kernel⟩

end SearchConfig

end HidRig
