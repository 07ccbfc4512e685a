import HidRig.Proofs.Disk.Differ
import HidRig.Proofs.Opening.Direct
import HidRig.Proofs.Session.Blind
import Mathlib.Data.List.Find

/-! # Loading by stages, and documents

A module is refused for the first of five reasons that there is, and otherwise loaded. What
documents there are, and what they say, has no part in that.

* `ModuleCache.Stage`, `ModuleCache.load_stage`: what loading a name comes to.
* `ModuleCache.Staged`: each fault by when it arises.
* `SystemLoader.LeadsAlike`, `SearchConfig.DocumentsOnly`: disks that differ in documents, where the
  system loader takes the same for a library.
* `UsualLoader.leadsAlike`: what that is for the usual loader.
* `TestModule.open_of_documents`: the same module is opened on such disks, but for its hooks.
* `Session.load_like`: a session after loading on either disk.
* `ModuleCache.load_by_stages`: the outcome of loading, and its independence of documents.
-/

namespace HidRig

/-! ## Stages -/

namespace ModuleCache
variable {cache : ModuleCache} {config : SearchConfig} {disk : Disk Image} {loader : Loader}
  {name : String}

/-- No directory of a search path has the shared object of a module. -/
def Absent (config : SearchConfig) (disk : Disk Image) (name : String) : Prop :=
  config.searchPath ≠ [] ∧
    ∀ dir ∈ config.searchPath, disk.isFile (config.libraryIn dir name) = false

/-- What loading a name comes to, with the reason. -/
inductive Stage (config : SearchConfig) (disk : Disk Image) (loader : Loader) (name : String) :
    Except LoadFault TestModule → Prop
  | invalid (invalid : SearchConfig.isValidName name = false) :
      Stage config disk loader name (.error (.invalidName name))
  | absent (valid : SearchConfig.isValidName name = true) (absent : Absent config disk name) :
      Stage config disk loader name
        (.error (.artifactNotFound (config.artifactName name) config.searched))
  | refused {location : Location} {fault : OpenFault}
      (found : config.locate disk name = .ok location)
      (refused : loader.openObject disk location.library = .error fault) :
      Stage config disk loader name
        (.error (.libraryLoadFailed location.library.display fault.message))
  | noProbe {location : Location} {object : OpenObject} {after : Loader}
      (found : config.locate disk name = .ok location)
      (opened : loader.openObject disk location.library = .ok (object, after))
      (probes : ¬ object.image.Exports Abi.probeSymbol) :
      Stage config disk loader name
        (.error (.missingSymbol location.library.display Abi.probeSymbol
          SymbolFault.notExported.message))
  | noCallbacks {location : Location} {object : OpenObject} {after : Loader}
      (found : config.locate disk name = .ok location)
      (opened : loader.openObject disk location.library = .ok (object, after))
      (probes : object.image.Exports Abi.probeSymbol)
      (callbacks : ¬ object.image.Exports Abi.setCallbacksSymbol) :
      Stage config disk loader name
        (.error (.missingSymbol location.library.display Abi.setCallbacksSymbol
          SymbolFault.notExported.message))
  | loaded {location : Location} {object : OpenObject} {after : Loader} {probe : EntryPoint}
      (found : config.locate disk name = .ok location)
      (opened : loader.openObject disk location.library = .ok (object, after))
      (probes : object.image.Exports Abi.probeSymbol)
      (callbacks : object.image.Exports Abi.setCallbacksSymbol) :
      Stage config disk loader name
        (.ok (.ofEntry disk name location object after.opened probe))

theorem locate_of_absent (valid : SearchConfig.isValidName name = true)
    (absent : Absent config disk name) :
    config.locate disk name =
      .error (.artifactNotFound (config.artifactName name) config.searched) := by
  have none : (config.candidates name).find? disk.isFile = none := by
    rw [List.find?_eq_none]
    intro library member
    obtain ⟨dir, hdir, rfl⟩ := List.mem_map.mp member
    exact Bool.eq_false_iff.mp (absent.2 dir hdir)
  rw [config.locate_of_search disk valid absent.1, none]

theorem located (valid : SearchConfig.isValidName name = true)
    (present : ¬ Absent config disk name) :
    ∃ location, config.locate disk name = .ok location ∧
      (config.searchPath = [] ∧ location.library = Path.ofText (config.artifactName name) ∨
        (config.candidates name).find? disk.isFile = some location.library) := by
  by_cases search : config.searchPath = []
  · exact ⟨_, config.locate_of_bare disk valid search, .inl ⟨search, rfl⟩⟩
  · have found := config.locate_of_search disk valid search
    cases first : (config.candidates name).find? disk.isFile with
    | none =>
      refine absurd ⟨search, fun dir hdir => ?_⟩ present
      have member : config.libraryIn dir name ∈ config.candidates name :=
        List.mem_map.mpr ⟨dir, hdir, rfl⟩
      simpa using List.find?_eq_none.mp first _ member
    | some library =>
      rw [first] at found
      exact ⟨_, found, .inr rfl⟩

theorem load_fst (absent : cache.find? name = none) :
    (cache.load disk loader name).1 =
      (TestModule.open cache.config disk loader name).map Prod.fst := by
  cases opened : TestModule.open cache.config disk loader name with
  | error fault =>
    rw [cache.load_of_error disk loader name absent opened]
    rfl
  | ok made =>
    rw [cache.load_of_ok disk loader name absent opened]
    rfl

theorem load_stage (disk : Disk Image) (loader : Loader) (absent : cache.find? name = none) :
    Stage cache.config disk loader name (cache.load disk loader name).1 := by
  rw [load_fst absent]
  cases valid : SearchConfig.isValidName name with
  | false =>
    rw [TestModule.open_of_astray (cache.config.locate_of_invalid disk valid)]
    exact .invalid valid
  | true =>
    by_cases nowhere : Absent cache.config disk name
    · rw [TestModule.open_of_astray (locate_of_absent valid nowhere)]
      exact .absent valid nowhere
    · obtain ⟨location, found, -⟩ := located valid nowhere
      cases opened : loader.openObject disk location.library with
      | error fault =>
        rw [TestModule.open_of_refused found opened]
        exact .refused found opened
      | ok pair =>
        obtain ⟨object, after⟩ := pair
        obtain ⟨probes, made⟩ | ⟨probes, callbacks, made⟩ | ⟨callbacks, probe, entry, made⟩ :=
          TestModule.open_cases found opened
        · rw [made]
          exact .noProbe found opened probes
        · rw [made]
          exact .noCallbacks found opened probes callbacks
        · have probes := (object.image.exports_iff Abi.probeSymbol_plain).mpr ⟨probe, entry⟩
          rw [made]
          exact .loaded found opened probes callbacks

theorem stage_of_load {outcome : Except LoadFault TestModule} (absent : cache.find? name = none)
    (loads : (cache.load disk loader name).1 = outcome) :
    Stage cache.config disk loader name outcome :=
  loads ▸ load_stage disk loader absent

/-- Each fault of loading a name, by when it arises. -/
structure Staged (config : SearchConfig) (disk : Disk Image) (loader : Loader) (name : String)
    (outcome : Except LoadFault TestModule) : Prop where
  invalid : outcome = .error (.invalidName name) ↔
    name = "" ∨ '/' ∈ name.toList ∨ '\\' ∈ name.toList
  absent : SearchConfig.isValidName name = true →
    (outcome = .error (.artifactNotFound (config.artifactName name) config.searched) ↔
      Absent config disk name)
  /-- A bare file name is left to the system loader, and else the first file that is found
  counts. -/
  located : SearchConfig.isValidName name = true → ¬ Absent config disk name →
    ∃ location, config.locate disk name = .ok location ∧
      (config.searchPath = [] ∧ location.library = Path.ofText (config.artifactName name) ∨
        (config.candidates name).find? disk.isFile = some location.library)
  refused : ∀ location fault, config.locate disk name = .ok location →
    (outcome = .error (.libraryLoadFailed location.library.display fault.message) ↔
      loader.openObject disk location.library = .error fault)
  probe : ∀ location object after, config.locate disk name = .ok location →
    loader.openObject disk location.library = .ok (object, after) →
    (outcome = .error (.missingSymbol location.library.display Abi.probeSymbol
        SymbolFault.notExported.message) ↔ ¬ object.image.Exports Abi.probeSymbol)
  callbacks : ∀ location object after, config.locate disk name = .ok location →
    loader.openObject disk location.library = .ok (object, after) →
    object.image.Exports Abi.probeSymbol →
    (outcome = .error (.missingSymbol location.library.display Abi.setCallbacksSymbol
        SymbolFault.notExported.message) ↔ ¬ object.image.Exports Abi.setCallbacksSymbol)
  loaded : ∀ location object after, config.locate disk name = .ok location →
    loader.openObject disk location.library = .ok (object, after) →
    object.image.Exports Abi.probeSymbol → object.image.Exports Abi.setCallbacksSymbol →
    ∃ module, outcome = .ok module ∧ module.path = location.library ∧ module.file = object.file

theorem OpenFault.message_inj {first second : OpenFault} (same : first.message = second.message) :
    first = second := by
  revert same
  cases first <;> cases second <;> decide

theorem Stage.refuses {artifact reason : String} {location : Location} {fault : OpenFault}
    (stage : Stage config disk loader name (.error (.libraryLoadFailed artifact reason)))
    (found : config.locate disk name = .ok location) (given : reason = fault.message) :
    loader.openObject disk location.library = .error fault := by
  cases stage with
  | refused found' refused =>
    cases found.symm.trans found'
    rw [refused, OpenFault.message_inj given]

theorem Stage.lacks {artifact symbol reason : String} {location : Location} {object : OpenObject}
    {after : Loader}
    (stage : Stage config disk loader name (.error (.missingSymbol artifact symbol reason)))
    (found : config.locate disk name = .ok location)
    (opened : loader.openObject disk location.library = .ok (object, after)) :
    ¬ object.image.Exports symbol := by
  cases stage with
  | noProbe found' opened' probes =>
    cases found.symm.trans found'
    cases opened.symm.trans opened'
    exact probes
  | noCallbacks found' opened' probes callbacks =>
    cases found.symm.trans found'
    cases opened.symm.trans opened'
    exact callbacks

theorem load_staged (absent : cache.find? name = none) :
    Staged cache.config disk loader name (cache.load disk loader name).1 where
  invalid := by
    have bad : SearchConfig.isValidName name = false ↔
        name = "" ∨ '/' ∈ name.toList ∨ '\\' ∈ name.toList := by
      rw [← Bool.not_eq_true, SearchConfig.isValidName_iff]
      grind
    rw [← bad]
    constructor
    · intro fails
      cases stage_of_load absent fails with
      | invalid invalid => exact invalid
    · intro invalid
      rw [load_fst absent,
        TestModule.open_of_astray (cache.config.locate_of_invalid disk invalid)]
      rfl
  absent valid := by
    constructor
    · intro fails
      cases stage_of_load absent fails with
      | absent valid nowhere => exact nowhere
    · intro nowhere
      rw [load_fst absent, TestModule.open_of_astray (locate_of_absent valid nowhere)]
      rfl
  located valid present := located valid present
  refused location fault found := by
    constructor
    · intro fails
      exact (stage_of_load absent fails).refuses found rfl
    · intro refused
      rw [load_fst absent, TestModule.open_of_refused found refused]
      rfl
  probe location object after found opened := by
    constructor
    · intro fails
      exact (stage_of_load absent fails).lacks found opened
    · intro lacks
      rw [load_fst absent, TestModule.open_of_no_probe found opened lacks]
      rfl
  callbacks location object after found opened probes := by
    constructor
    · intro fails
      exact (stage_of_load absent fails).lacks found opened
    · intro lacks
      obtain ⟨probe, entry⟩ := (object.image.exports_iff Abi.probeSymbol_plain).mp probes
      rw [load_fst absent, TestModule.open_of_no_callbacks found opened entry lacks]
      rfl
  loaded location object after found opened probes callbacks := by
    obtain ⟨probe, entry⟩ := (object.image.exports_iff Abi.probeSymbol_plain).mp probes
    rw [load_fst absent, TestModule.open_of_exports found opened entry callbacks]
    exact ⟨_, rfl, rfl, rfl⟩

end ModuleCache

/-! ## Disks that differ in documents -/

/-- On either of two disks the system loader takes the same for a name, and no document. -/
structure SystemLoader.LeadsAlike (system : SystemLoader) (objects : List OpenObject)
    (documents : Place → Prop) (d e : Disk Image) (name : Path) : Prop where
  lead : system.lead? e objects name = system.lead? d objects name
  apart : ∀ path, system.lead? d objects name = some (.path path) →
    d.Avoids documents path ∧ e.Avoids documents path

section Leads
variable {documents : Place → Prop} {d e : Disk Image} (same : Disk.SameBut documents d e)
  {name : Path}
include same

theorem Loader.openObject_of_documents {loader : Loader}
    (alike : loader.system.LeadsAlike loader.objects documents d e name) :
    loader.openObject e name = loader.openObject d name := by
  unfold openObject
  rw [alike.lead]
  cases lead : loader.system.lead? d loader.objects name with
  | none => rfl
  | some lead' =>
    cases lead' with
    | known file => rfl
    | path path =>
      obtain ⟨avoids, avoids'⟩ := alike.apart path lead
      have native : native? e path = native? d path := by
        unfold native?
        rw [Disk.file?_of_avoids same avoids avoids']
      simp only [native]

end Leads

/-! ## The usual loader on such disks -/

namespace UsualLoader
variable {documents : Place → Prop} {d e : Disk Image} {usual : UsualLoader} {name : Path}

/-- The paths that a name may have in a directory, and at last the plain one. -/
def inDir (dir name : Path) : List Path :=
  levels.map (fun level => dir ++ level ++ name) ++ [dir ++ name]

/-- The paths at which a name is looked for. -/
def tried (usual : UsualLoader) (name : Path) : List Path :=
  if name.contains Path.slash then [name.expand usual.value]
  else (usual.dirs ++ usual.systemDirs).flatMap fun dir => inDir dir name

theorem search_mem {disk : Disk Image} {dirs : List Path} {path : Path}
    (found : search disk name dirs = some path) : ∃ dir ∈ dirs, path ∈ inDir dir name := by
  induction dirs with
  | nil => cases found
  | cons dir rest ih =>
    unfold search at found
    split at found
    · rename_i first level
      cases found
      have member := List.mem_of_find?_eq_some level
      exact ⟨dir, List.mem_cons_self, List.mem_append_left _ member⟩
    · split at found
      · cases found
        exact ⟨dir, List.mem_cons_self, List.mem_append_right _ List.mem_cons_self⟩
      · split at found
        · obtain ⟨other, member, inside⟩ := ih found
          exact ⟨other, List.mem_cons_of_mem _ member, inside⟩
        · cases found

theorem tried_of_pathFor? {disk : Disk Image} {path : Path}
    (leads : usual.pathFor? disk name = some path) : path ∈ usual.tried name := by
  unfold pathFor? at leads
  unfold tried
  split
  · rename_i slashed
    rw [if_pos slashed] at leads
    cases leads
    exact List.mem_cons_self
  · rename_i bare
    rw [if_neg bare, Option.or_eq_some_iff] at leads
    rw [List.flatMap_append, List.mem_append]
    rcases leads with own | ⟨-, last⟩
    · obtain ⟨dir, member, inside⟩ := search_mem own
      exact .inl (List.mem_flatMap.mpr ⟨dir, member, inside⟩)
    · obtain ⟨dir, member, inside⟩ := search_mem last
      exact .inr (List.mem_flatMap.mpr ⟨dir, member, inside⟩)

/-- The directories that stop a search. -/
def Stops (disk : Disk Image) (dir name : Path) : Prop :=
  dir.isAbsolute = false ∧ disk.resolve (dir ++ name) = .error .notDirectory

section
variable (same : Disk.SameBut documents d e)
include same

theorem search_of_documents {dirs : List Path}
    (apart : ∀ dir ∈ dirs, ∀ path ∈ inDir dir name,
      d.Avoids documents path ∧ e.Avoids documents path)
    (stops : ∀ dir ∈ dirs, Stops d dir name ↔ Stops e dir name) :
    search d name dirs = search e name dirs := by
  induction dirs with
  | nil => rfl
  | cons dir rest ih =>
    have later : search d name rest = search e name rest :=
      ih (fun other member => apart other (List.mem_cons_of_mem _ member))
        fun other member => stops other (List.mem_cons_of_mem _ member)
    have here := apart dir List.mem_cons_self
    have levels : (levels.map fun level => dir ++ level ++ name).find? d.isThere =
        (levels.map fun level => dir ++ level ++ name).find? e.isThere := by
      apply List.find?_congr
      intro path member
      obtain ⟨avoids, avoids'⟩ := here path (List.mem_append_left _ member)
      exact Disk.isThere_of_avoids same avoids avoids'
    obtain ⟨avoids, avoids'⟩ := here (dir ++ name) (List.mem_append_right _ List.mem_cons_self)
    have stop := stops dir List.mem_cons_self
    unfold Stops at stop
    unfold search
    rw [levels, later]
    -- where nothing is there on one disk and a document in the way on the other, only an absolute
    -- directory lets both searches go on
    rcases Disk.resolve_of_avoids same avoids avoids' with equal | ⟨h | h, h' | h'⟩
    · rw [equal]
    · rw [h, h']
    · have absolute : dir.isAbsolute = true := by simpa [h, h'] using stop
      simp [h, h', absolute]
    · have absolute : dir.isAbsolute = true := by simpa [h, h'] using stop
      simp [h, h', absolute]
    · rw [h, h']

theorem pathFor?_of_documents
    (apart : ∀ path ∈ usual.tried name, d.Avoids documents path ∧ e.Avoids documents path)
    (stops : Path.slash ∉ name → ∀ dir ∈ usual.dirs ++ usual.systemDirs,
      Stops d dir name ↔ Stops e dir name) :
    usual.pathFor? e name = usual.pathFor? d name := by
  unfold pathFor?
  unfold tried at apart
  split
  · rfl
  · rename_i bare
    rw [if_neg bare] at apart
    have stops := stops (by simpa using bare)
    -- in some of the directories
    have some_ (dirs : List Path) (among : dirs ⊆ usual.dirs ++ usual.systemDirs) :
        search e name dirs = search d name dirs := by
      refine (search_of_documents same (fun dir member path inside => ?_) fun dir member => ?_).symm
      · exact apart path (List.mem_flatMap.mpr ⟨dir, among member, inside⟩)
      · exact stops dir (among member)
    rw [some_ usual.dirs (List.subset_append_left ..),
      some_ usual.systemDirs (List.subset_append_right ..)]

end

/-- The usual loader takes the same for a name on either disk, if no path leads to a document at which
the name is looked for, and no directory is stopped by one on one disk alone. -/
theorem leadsAlike (same : Disk.SameBut documents d e) (objects : List OpenObject)
    (apart : ∀ path ∈ usual.tried name, d.Avoids documents path ∧ e.Avoids documents path)
    (stops : Path.slash ∉ name → ∀ dir ∈ usual.dirs ++ usual.systemDirs,
      Stops d dir name ↔ Stops e dir name) :
    usual.system.LeadsAlike objects documents d e name where
  lead := by
    unfold system
    dsimp only
    rw [pathFor?_of_documents same apart stops]
  apart path lead := by
    refine apart path ?_
    unfold system at lead
    dsimp only at lead
    split at lead
    · cases lead
    · obtain ⟨_, found, same⟩ := Option.map_eq_some_iff.mp lead
      cases same
      exact tried_of_pathFor? found

end UsualLoader

/-! ## Locating on such disks -/

namespace SearchConfig
variable {config : SearchConfig} {documents : Place → Prop} {d e : Disk Image} {loader : Loader}
  {name : String}

/-- The libraries that a name may be located at. -/
def libraries (config : SearchConfig) (name : String) : List Path :=
  if config.searchPath = [] then [Path.ofText (config.artifactName name)]
  else config.candidates name

/-- Two disks that differ at most in documents: in files that no path to a shared object leads to,
and that make no difference to what the system loader takes for such a path. -/
structure DocumentsOnly (config : SearchConfig) (loader : Loader) (name : String)
    (documents : Place → Prop) (d e : Disk Image) : Prop where
  same : Disk.SameBut documents d e
  apart : ∀ library ∈ config.libraries name,
    d.Avoids documents library ∧ e.Avoids documents library
  leads : ∀ library ∈ config.libraries name,
    loader.system.LeadsAlike loader.objects documents d e library

theorem libraries_of_locate {disk : Disk Image} {location : Location}
    (found : config.locate disk name = .ok location) :
    location.library ∈ config.libraries name := by
  have valid := config.valid_of_locate disk found
  unfold libraries
  split
  · rename_i bare
    rw [config.locate_of_bare disk valid bare] at found
    cases found
    exact List.mem_cons_self
  · rename_i search
    obtain ⟨dir, member, here, -⟩ := config.of_locate disk search found
    exact List.mem_map.mpr ⟨dir, member, (congrArg Location.library here).symm⟩

namespace DocumentsOnly
variable (h : config.DocumentsOnly loader name documents d e)
include h

theorem locate : config.locate e name = config.locate d name := by
  cases valid : isValidName name with
  | false => rw [config.locate_of_invalid e valid, config.locate_of_invalid d valid]
  | true =>
    by_cases search : config.searchPath = []
    · rw [config.locate_of_bare e valid search, config.locate_of_bare d valid search]
    · have first : (config.candidates name).find? e.isFile =
          (config.candidates name).find? d.isFile := by
        apply List.find?_congr
        intro library member
        have here : library ∈ config.libraries name := by
          rw [libraries, if_neg search]
          exact member
        obtain ⟨avoids, avoids'⟩ := h.apart _ here
        exact (Disk.isFile_of_avoids h.same avoids avoids').symm
      rw [config.locate_of_search e valid search, config.locate_of_search d valid search, first]

theorem openObject {location : Location} (found : config.locate d name = .ok location) :
    loader.openObject e location.library = loader.openObject d location.library :=
  Loader.openObject_of_documents h.same (h.leads _ (libraries_of_locate found))

end DocumentsOnly

end SearchConfig

/-! ## Loading on such disks -/

section Documents
variable {config : SearchConfig} {cache : ModuleCache} {documents : Place → Prop}
  {d e : Disk Image} {loader : Loader} {name : String}

theorem TestModule.ofImage_of_documents (h : config.DocumentsOnly loader name documents d e)
    {location : Location} (found : config.locate d name = .ok location) (id : ModuleId)
    (file : FileId) (image : Image) :
    (ofImage e name location id file image).map (fun made => made.1.withoutHooks) =
      (ofImage d name location id file image).map fun made => made.1.withoutHooks := by
  obtain ⟨avoids, avoids'⟩ := h.apart _ (SearchConfig.libraries_of_locate found)
  have lock : LockKey.ofPath e location.library = LockKey.ofPath d location.library := by
    unfold LockKey.ofPath
    rw [Disk.place?_of_avoids h.same avoids avoids']
  unfold ofImage
  dsimp only
  cases image.symbol Abi.probeSymbol with
  | error fault => simp only [mapError_error, bind, Except.bind, Except.map]
  | ok probe =>
    cases image.symbol Abi.setCallbacksSymbol with
    | error fault => simp only [mapError_ok, mapError_error, bind, Except.bind, Except.map]
    | ok _ => simp only [mapError_ok, bind, Except.bind, Except.map, withoutHooks, lock]

/-- The same module is opened, but for its hooks. -/
theorem TestModule.open_of_documents (h : config.DocumentsOnly loader name documents d e) :
    (TestModule.open config e loader name).map (fun opened => (opened.1.withoutHooks, opened.2.2)) =
      (TestModule.open config d loader name).map fun opened =>
        (opened.1.withoutHooks, opened.2.2) := by
  have located := h.locate
  cases found : config.locate d name with
  | error fault =>
    rw [found] at located
    rw [open_of_astray found, open_of_astray located]
  | ok location =>
    rw [found] at located
    have same := h.openObject found
    cases opened : loader.openObject d location.library with
    | error fault =>
      rw [opened] at same
      rw [open_of_refused found opened, open_of_refused located same]
    | ok pair =>
      obtain ⟨object, after⟩ := pair
      rw [opened] at same
      have made := ofImage_of_documents h found ⟨after.opened⟩ object.file object.image
      have shape (next : Loader) (made : Except LoadFault (TestModule × List Event)) :
          (made.map fun made => (made.1, made.2, next)).map
              (fun opened => (opened.1.withoutHooks, opened.2.2)) =
            (made.map fun made => made.1.withoutHooks).map fun module => (module, next) := by
        cases made <;> rfl
      rw [open_of_opened found opened, open_of_opened located same, shape, shape, made]

theorem ModuleCache.load_of_documents (h : cache.config.DocumentsOnly loader name documents d e)
    (absent : cache.find? name = none) :
    (cache.load e loader name).1.map TestModule.withoutHooks =
        (cache.load d loader name).1.map TestModule.withoutHooks ∧
      (cache.load e loader name).2.2.2 = (cache.load d loader name).2.2.2 := by
  have same := TestModule.open_of_documents h
  cases first : TestModule.open cache.config d loader name with
  | error fault =>
    rw [first] at same
    have second := error_of_map_error same
    rw [cache.load_of_error d loader name absent first,
      cache.load_of_error e loader name absent second]
    exact ⟨rfl, rfl⟩
  | ok made =>
    rw [first] at same
    obtain ⟨made', second, equal⟩ := exists_of_map_ok same
    obtain ⟨module, after⟩ := Prod.mk.inj equal
    rw [cache.load_of_ok d loader name absent first, cache.load_of_ok e loader name absent second]
    exact ⟨congrArg Except.ok module, after⟩

/-- After loading a module its handle is that of the module, if there is one. -/
theorem Session.module?_load (session : Session) (ref : CacheRef) (cache : ModuleCache)
    (name handle other : String) :
    (session.load ref cache name handle).2.module? other =
      if other = handle then
        (cache.load session.disk session.loader name).1.toOption.or (session.module? other)
      else session.module? other := by
  unfold Session.load module?
  dsimp only
  cases (cache.load session.disk session.loader name).1 with
  | error fault => simp [Except.toOption, setCache]
  | ok module =>
    by_cases same : other = handle
    · simp [same, Except.toOption, setCache]
    · rw [if_neg same, List.lookup_cons, beq_false_of_ne same]
      rfl

theorem Session.take_load (session : Session) {ref : CacheRef}
    (there : session.caches ref = some cache) (name handle : String) :
    (session.take (.load ref name handle) none).2 =
      (session.quiet.load ref cache name handle).2 := by
  simp only [take, perform, withCache, quiet, there]
  split <;> (rename_i split; rw [split]; rfl)

/-- Loading a module changes no more than files that are open, one cache and handles. -/
theorem Session.load_keeps (session : Session) (ref : CacheRef) (cache : ModuleCache)
    (name handle : String) :
    let after := (session.load ref cache name handle).2
    after.quiet.rig = session.quiet.rig ∧ after.names = session.names ∧
      after.running = session.running ∧ after.callCount = session.callCount ∧
      ∀ other, other ≠ ref → after.caches other = session.caches other := by
  unfold Session.load
  dsimp only
  split <;> exact ⟨rfl, rfl, rfl, rfl, fun other apart => if_neg apart⟩

/-- A session goes on alike after a module was loaded on either disk, as far as it does not look at
its hooks. -/
theorem Session.load_like {session : Session} {ref : CacheRef}
    (there : session.caches ref = some cache)
    (h : cache.config.DocumentsOnly session.loader name documents d e)
    (absent : cache.find? name = none) (handle : String) :
    let first := ({ session with disk := d }.take (.load ref name handle) none).2
    let second := ({ session with disk := e }.take (.load ref name handle) none).2
    first.quiet.Like ref handle second.quiet := by
  have loaded (disk : Disk Image) :
      ({ session with disk }.take (.load ref name handle) none).2 =
        ({ session with disk }.quiet.load ref cache name handle).2 :=
    take_load { session with disk } there name handle
  have kept (disk : Disk Image) := load_keeps { session with disk }.quiet ref cache name handle
  have handles (disk : Disk Image) :=
    module?_load { session with disk }.quiet ref cache name handle
  obtain ⟨rig, names, running, callCount, caches⟩ := kept d
  obtain ⟨rig', names', running', callCount', caches'⟩ := kept e
  obtain ⟨same, -⟩ := ModuleCache.load_of_documents h absent
  have bare (outcome : Except LoadFault TestModule) :
      outcome.toOption.map TestModule.withoutHooks =
        (outcome.map TestModule.withoutHooks).toOption := by
    cases outcome <;> rfl
  intro first second
  simp only [first, second, loaded]
  exact
    { rig := rig.trans rig'.symm
      caches := fun other apart => (caches other apart).trans (caches' other apart).symm
      others := fun other apart => by
        have mine := (handles d other).trans (if_neg apart)
        have its := (handles e other).trans (if_neg apart)
        exact mine.trans its.symm
      module := by
        have mine := (handles d handle).trans (if_pos rfl)
        have its := (handles e handle).trans (if_pos rfl)
        refine (congrArg (Option.map _) mine).trans
          (Eq.trans ?_ (congrArg (Option.map _) its).symm)
        rw [Option.map_or, Option.map_or, bare, bare]
        exact congrArg (fun outcome => Option.or outcome.toOption _) same.symm
      names := names.trans names'.symm
      running := running.trans running'.symm
      callCount := callCount.trans callCount'.symm }

end Documents

namespace ModuleCache

/-- A disk with a module in a directory. -/
def plain : Disk Image :=
  Disk.empty.makeAll [(Path.ofText "d/libtest-a.so", .file (.native .least))]

/-- The disk with a document at a place, which is malformed if it lists no programs. -/
def documented (place : Place) (programs : List ProgramRecord) : Disk Image :=
  let text := if programs = [] then "none" else Document.json programs
  plain.set place (.file ⟨1⟩ (.bytes (Utf8.encode text)))

theorem sameBut_documented {place : Place} (free : plain.entry? place = none)
    (programs : List ProgramRecord) :
    Disk.SameBut (· = place) (documented place programs) plain :=
  Disk.sameBut_set (.inl free) _ _

theorem avoids_documented {place : Place} {programs : List ProgramRecord} {paths : List Path}
    (apart : ∀ path ∈ paths,
      (documented place programs).place? path ≠ some place ∧ plain.place? path ≠ some place) :
    ∀ path ∈ paths,
      (documented place programs).Avoids (· = place) path ∧ plain.Avoids (· = place) path :=
  fun path member => (apart path member).imp Disk.avoids_of_place? Disk.avoids_of_place?

/-- The place of the document of a module in a directory. -/
def besideModule : Place :=
  [Path.ofText "libtest-a.json", Path.ofText "d", Path.ofText "work"]

def inDirectory : SearchConfig := ⟨[Path.ofText "d"], SearchConfig.defaultPrefix⟩

theorem documentsOnly_inDirectory (programs : List ProgramRecord) (usual : UsualLoader)
    (apart : ∀ path ∈ [Path.ofText "d/libtest-a.so"],
      (documented besideModule programs).place? path ≠ some besideModule ∧
        plain.place? path ≠ some besideModule)
    (tried : usual.tried (Path.ofText "d/libtest-a.so") = [Path.ofText "d/libtest-a.so"]) :
    inDirectory.DocumentsOnly (.initial usual.system) "a" (· = besideModule)
      (documented besideModule programs) plain := by
  have free : plain.entry? besideModule = none := by rfl
  have same := sameBut_documented free programs
  have libraries : inDirectory.libraries "a" = [Path.ofText "d/libtest-a.so"] := by decide +kernel
  have avoids := avoids_documented apart
  refine ⟨same, by rw [libraries]; exact avoids, fun library member => ?_⟩
  rw [libraries] at member
  obtain rfl := List.mem_singleton.mp member
  refine UsualLoader.leadsAlike same _ (by rw [tried]; exact avoids) fun bare => ?_
  exact absurd (by decide +kernel) bare

/-- The answer shows a module that has a role, in a cache or by itself. -/
def showsRole (role : Role) : Answer → Bool
  | .loaded module | .described module => module.hasRole role
  | .cache cache _ => cache.modules.any (·.hasRole role)
  | _ => false

/-- Code that takes a step, and returns another code if the answer shows a role. -/
def asking (look : Step) : Script :=
  .step look fun outcome => .exit (if showsRole .deviceEvent outcome.answer then 1 else 0)

/-- Whether the module with a handle can be probed by code that takes a step. -/
def passes (session : Session) (handle : String) (look : Step) : Bool :=
  (session.module? handle).any fun module =>
    (session.probe module .empty (some (asking look).run)).1.isOk

end ModuleCache

end HidRig
