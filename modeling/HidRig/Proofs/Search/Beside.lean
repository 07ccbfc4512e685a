import Mathlib
import HidRig.Proofs.Disk.Walk
import HidRig.Proofs.Search.Found

/-! # The document beside the shared object

* `Path.beside`: the path of a shared object with the end of its name replaced by that of a
  document.
* `SearchConfig.beside_libraryIn`, `SearchConfig.metadata_libraryIn`: the folders of the file names
  are entered once for the shared object and twice for the document.
* `SearchConfig.document_beside_iff`: the document is looked for beside the shared object if there
  is no folder to enter twice.
-/

namespace HidRig

/-- The path of a shared object, with the end of its name replaced by that of a document. -/
def Path.beside (library : Path) : Path :=
  library.take (library.length - (Path.ofText SearchConfig.artifactSuffix).length) ++
    SearchConfig.documentSuffix

theorem Path.beside_append (path : Path) :
    Path.beside (path ++ Path.ofText SearchConfig.artifactSuffix) =
      path ++ SearchConfig.documentSuffix := by
  simp [Path.beside]

theorem Path.parts_join (dir : Path) {other : Path} {front : List Bytes} {last : Bytes}
    (h : other.parts = front ++ [last]) (relative : other.isAbsolute = false) :
    ∃ before, (dir.join other).parts = before ++ [last] := by
  unfold Path.join
  rw [if_neg (by simp [relative])]
  split
  · rename_i bare
    rcases bare with rfl | ends
    · exact ⟨front, h⟩
    · -- the last part of the directory is empty, and goes before what follows
      obtain ⟨start, rfl⟩ := List.getLast?_eq_some_iff.mp ends
      rw [List.append_assoc, List.singleton_append, Path.parts_append_slash, h]
      exact ⟨Path.parts start ++ front, by simp⟩
  · rw [Path.parts_append_slash, h]
    exact ⟨dir.parts ++ front, by simp⟩

namespace SearchConfig
variable {Image : Type} (config : SearchConfig) {name : String} (dir : Path)

theorem beside_libraryIn (valid : isValidName name = true) :
    (config.libraryIn dir name).beside = dir.join (config.stem name ++ documentSuffix) := by
  have named := config.stem_ne_nil valid
  rw [libraryIn, ofText_artifactName, Path.join_append dir named, Path.beside_append,
    ← Path.join_append dir named]

section Relative
variable (valid : isValidName name = true)
  (relative : (Path.ofText config.artifactPrefix).isAbsolute = false)
include valid relative

theorem isAbsolute_stem_append (ending : Path) :
    (config.stem name ++ ending).isAbsolute = false := by
  rw [Path.isAbsolute_append (config.stem_ne_nil valid), config.isAbsolute_stem valid, relative]

/-- The document of a module, looked for from a directory. -/
theorem steps_join_document :
    (dir.join (config.stem name ++ documentSuffix)).isAbsolute = dir.isAbsolute ∧
      (dir.join (config.stem name ++ documentSuffix)).Ends ∧
      (dir.join (config.stem name ++ documentSuffix)).steps =
        dir.steps ++ config.folders ++ [config.base name ++ documentSuffix] := by
  have start := config.isAbsolute_stem_append valid relative documentSuffix
  have parts := config.parts_stem_append valid documentSuffix (by decide)
  have steps := config.steps_stem_append valid documentSuffix (by decide) (by decide)
  refine ⟨Path.isAbsolute_join dir start, ?_, ?_⟩
  · obtain ⟨before, split⟩ := Path.parts_join dir parts start
    exact ⟨before, _, split, config.isIdle_base_append name _ (by decide)⟩
  · rw [Path.steps_join dir start, steps, List.append_assoc]

/-- The directory of a shared object is behind the folders of its file name. -/
theorem parent_libraryIn :
    ∃ above, (config.libraryIn dir name).parent? = some above ∧
      above.isAbsolute = dir.isAbsolute ∧ above.steps = dir.steps ++ config.folders := by
  have start := config.isAbsolute_stem_append valid relative (Path.ofText artifactSuffix)
  have parts := config.parts_stem_append valid (Path.ofText artifactSuffix) (by decide)
  have steps := config.steps_stem_append valid (Path.ofText artifactSuffix) (by decide)
    (by decide)
  have busy := config.isIdle_base_append name (Path.ofText artifactSuffix) (by decide)
  rw [libraryIn, ofText_artifactName]
  obtain ⟨before, split⟩ := Path.parts_join dir parts start
  obtain ⟨above, parent, above_start, above_steps⟩ := Path.steps_parent busy split
  refine ⟨above, parent, above_start.trans (Path.isAbsolute_join dir start), ?_⟩
  have whole := Path.steps_join dir start
  rw [Path.steps_of_parts split busy, ← above_steps, steps, ← List.append_assoc] at whole
  exact List.append_inj_left' whole rfl

/-- The document is looked for behind the folders of the file names, entered twice. -/
theorem metadata_libraryIn :
    ∃ above : Path, above.isAbsolute = dir.isAbsolute ∧ above.steps = dir.steps ++ config.folders ∧
      (config.locationOf name (config.libraryIn dir name)).metadata =
        above.join (config.stem name ++ documentSuffix) := by
  obtain ⟨above, parent, start, steps⟩ := config.parent_libraryIn dir valid relative
  refine ⟨above, start, steps, ?_⟩
  simp only [locationOf, parent, ofText_metadataName]
  rfl

end Relative

/-- With file names that are seen from the root there is one place for the document. -/
theorem metadata_of_absolute (valid : isValidName name = true)
    (absolute : (Path.ofText config.artifactPrefix).isAbsolute = true) :
    (config.locationOf name (config.libraryIn dir name)).metadata =
      (config.libraryIn dir name).beside := by
  have start : (config.stem name ++ documentSuffix).isAbsolute = true := by
    rw [Path.isAbsolute_append (config.stem_ne_nil valid), config.isAbsolute_stem valid, absolute]
  rw [config.beside_libraryIn dir valid, Path.join_of_absolute dir start]
  simp only [locationOf, ofText_metadataName]
  cases (config.libraryIn dir name).parent? with
  | none => rfl
  | some above => exact Path.join_of_absolute above start

/-- The document of a module that is found on the search path is looked for beside its shared
object, exactly if the file names are seen from the root or lead through no folder. If so, the two
ways to name the document lead to the same file on every disk. -/
theorem document_beside_iff (disk : Disk Image) (name : String) (location : Location)
    (search : config.searchPath ≠ []) (found : config.locate disk name = .ok location) :
    let beside := location.library.beside
    (location.metadata.SameRoute beside ↔
      (Path.ofText config.artifactPrefix).isAbsolute = true ∨ config.folders = []) ∧
    (location.metadata.SameRoute beside → ∀ tree : Disk Image,
      location.metadata.length < Disk.pathLimit → beside.length < Disk.pathLimit →
      tree.resolve location.metadata = tree.resolve beside) := by
  intro beside
  have valid := config.valid_of_locate disk found
  obtain ⟨dir, -, rfl, -⟩ := config.of_locate disk search found
  cases absolute : (Path.ofText config.artifactPrefix).isAbsolute with
  | true =>
    have same := config.metadata_of_absolute dir valid absolute
    refine ⟨⟨fun _ => .inl rfl, fun _ => ?_⟩, fun _ tree _ _ => congrArg tree.resolve same⟩
    rw [same]
    exact ⟨rfl, rfl⟩
  | false =>
    obtain ⟨above, above_start, above_steps, metadata⟩ :=
      config.metadata_libraryIn dir valid absolute
    obtain ⟨start, ends, steps⟩ := config.steps_join_document above valid absolute
    obtain ⟨start', ends', steps'⟩ := config.steps_join_document dir valid absolute
    rw [← metadata, above_start] at start
    rw [← metadata] at ends
    rw [← metadata, above_steps] at steps
    rw [← config.beside_libraryIn dir valid] at start' ends' steps'
    refine ⟨⟨fun route => .inr ?_, fun once => ?_⟩,
      fun route tree short short' => tree.resolve_of_sameRoute route ends ends' short short'⟩
    · -- the same steps with the folders once more are more steps, unless there are none
      have twice : _ = _ := steps.symm.trans (route.steps.trans steps')
      have lengths := congrArg List.length twice
      simp only [List.length_append, List.length_singleton] at lengths
      exact List.eq_nil_of_length_eq_zero (by omega)
    · have none : config.folders = [] := once.resolve_left (by simp)
      rw [none, List.append_nil, List.append_nil] at steps
      rw [none, List.append_nil] at steps'
      exact ⟨start.trans start'.symm, steps.trans steps'.symm⟩

/-! ## With and without folders -/

/-- A disk with the two files of a module below some directories. -/
def shipped (directory : String) : Disk Unit :=
  Disk.empty.makeAll
    [(Path.ofText (directory ++ "libtest-a.so"), .file (.bytes [])),
      (Path.ofText (directory ++ "libtest-a.json"), .file (.bytes (Utf8.encode "[]")))]

/-- Dots and empty parts are of no account. -/
theorem document_beside_iff_dotted :
    let config : SearchConfig := ⟨[Path.ofText "d//."], "./libtest-"⟩
    let location : Location :=
      ⟨Path.ofText "d//././libtest-a.so", Path.ofText "d/./libtest-a.json"⟩
    config.searchPath ≠ [] ∧ config.locate (shipped "d/") "a" = .ok location ∧
      location.metadata.SameRoute location.library.beside ∧
      (shipped "d/").resolve location.metadata = (shipped "d/").resolve location.library.beside := by
  intro config location
  have search : config.searchPath ≠ [] := by decide
  have found : config.locate (shipped "d/") "a" = .ok location := by cbv
  obtain ⟨same, alike⟩ := config.document_beside_iff (shipped "d/") "a" location search found
  have route : location.metadata.SameRoute location.library.beside :=
    same.mpr (.inr (by decide +kernel))
  exact ⟨search, found, route, alike route (shipped "d/") (by decide) (by decide)⟩

/-- A folder in front of the file names is entered once more for the document, which is not found
there though it lies beside the shared object. -/
theorem document_astray :
    let config : SearchConfig := ⟨[Path.ofText "d"], "sub/libtest-"⟩
    let location : Location :=
      ⟨Path.ofText "d/sub/libtest-a.so", Path.ofText "d/sub/sub/libtest-a.json"⟩
    config.locate (shipped "d/sub/") "a" = .ok location ∧
      ¬ location.metadata.SameRoute location.library.beside ∧
      (shipped "d/sub/").readText location.library.beside = .ok "[]" ∧
      (shipped "d/sub/").readText location.metadata = .error .notFound := by
  intro config location
  refine ⟨by cbv, fun route => ?_, by rfl, by rfl⟩
  have same := route.steps
  revert same
  decide +kernel

end SearchConfig

end HidRig
