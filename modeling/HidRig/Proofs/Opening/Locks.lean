import HidRig.Proofs.Disk.Walk
import HidRig.Proofs.Opening.Direct
import HidRig.Proofs.Session.Steps
import Mathlib.Data.List.Find
import Mathlib.Data.List.Pairwise

/-! # Locks and files

Modules on one file have one table, and should wait for each other. Their locks are told apart by
what their paths lead to, those that are not absolute from the working directory.

* `Loader.fileOf?`: the file that a name stands for once it was opened.
* `SystemLoader.KeepsNames`, `SystemLoader.OpensAsGiven`: what a system loader may do with a name that
  is known and with a path that has a slash.
* `TestModule.Rooted`, `TestModule.Placed`: the path of a module leads to its file, and what is known
  of every module that was opened.
* `Stock.Sound`, `Stock.Leads.sound`: so it is after any steps that leave the files alone.
* `Session.locks_of_files`: modules whose paths lead to their files have one lock if they have one
  file, as far as a file has one name.
-/

namespace HidRig

/-! ## Names of open objects -/

namespace Loader
variable {loader after : Loader} {disk : Disk Image} {path : Path} {object : OpenObject}

theorem system_openObject (opened : loader.openObject disk path = .ok (object, after)) :
    after.system = loader.system := by
  cases of_openObject opened <;> rfl

/-- The file of the object that a name stands for. -/
def fileOf? (loader : Loader) (name : Path) : Option FileId :=
  (loader.objects.find? (·.names.contains name)).map OpenObject.file

theorem fileOf?_alsoNamed_other (file : FileId) {name : Path} (apart : name ≠ path) :
    (loader.alsoNamed file path).fileOf? name = loader.fileOf? name := by
  have names : ((·.names.contains name) ∘ (·.alsoNamed file path) : OpenObject → Bool) =
      (·.names.contains name) := by
    funext o
    have same : name ∈ (o.alsoNamed file path).names ↔ name ∈ o.names := by
      rw [OpenObject.mem_names_alsoNamed]
      simp [apart]
    simp [Function.comp_apply, same]
  simp only [fileOf?, alsoNamed, List.find?_map, Option.map_map, names]
  congr 1
  funext o
  exact o.file_alsoNamed file path

/-- A name that stands for nothing, or for the file already, stands for the file of an object that it
is given to. -/
theorem fileOf?_alsoNamed (open_ : loader.objectOf? object.file = some object)
    (free : ∀ other, loader.fileOf? path = some other → other = object.file) :
    (loader.alsoNamed object.file path).fileOf? path = some object.file := by
  let known (o : OpenObject) : Bool := o.names.contains path || decide (o.file = object.file)
  have names : ((·.names.contains path) ∘ (·.alsoNamed object.file path) : OpenObject → Bool) =
      known := by
    funext o
    have same : path ∈ (o.alsoNamed object.file path).names ↔
        path ∈ o.names ∨ o.file = object.file := by
      rw [OpenObject.mem_names_alsoNamed]
      simp
    simp [known, Function.comp_apply, same]
  have reached : (loader.objects.find? known).isSome :=
    List.find?_isSome.mpr ⟨object, List.mem_of_find?_eq_some open_, by simp [known]⟩
  obtain ⟨first, found⟩ := Option.isSome_iff_exists.mp reached
  obtain ⟨is, front, back, split, others⟩ := List.find?_eq_some_iff_append.mp found
  -- the first object with the name or the file has the file: no object before it has the name
  have mine : first.file = object.file := by
    by_cases named : first.names.contains path = true
    · refine free first.file ?_
      have none : front.find? (·.names.contains path) = none := by
        refine List.find?_eq_none.mpr fun o ho its => ?_
        have passed := others o ho
        simp only [known, its, Bool.true_or, Bool.not_true] at passed
        cases passed
      rw [fileOf?, split, List.find?_append, none,
        show (first :: back).find? (·.names.contains path) = some first from
          List.find?_cons_of_pos named]
      rfl
    · exact of_decide_eq_true ((Bool.or_eq_true_iff.mp is).resolve_left named)
  rw [fileOf?, alsoNamed, List.find?_map, names, found]
  exact congrArg some ((OpenObject.file_alsoNamed ..).trans mine)

end Loader

/-- A name that an open object is known by stands for that object. -/
def SystemLoader.KeepsNames (system : SystemLoader) : Prop :=
  ∀ disk objects name object, objects.find? (·.names.contains name) = some object →
    system.lead? disk objects name = some (.known object.file)

namespace Loader
variable {loader after : Loader} {disk : Disk Image} {path : Path} {object : OpenObject}

/-- A name that is opened stands for the file of what was opened, and other names stand for what
they did. -/
theorem fileOf?_openObject (keeps : loader.system.KeepsNames)
    (opened : loader.openObject disk path = .ok (object, after)) :
    after.fileOf? path = some object.file ∧
      ∀ name file, loader.fileOf? name = some file → after.fileOf? name = some file := by
  have led (other : FileId) (before : loader.fileOf? path = some other) :
      loader.system.lead? disk loader.objects path = some (.known other) := by
    obtain ⟨o, first, rfl⟩ := Option.map_eq_some_iff.mp before
    exact keeps disk loader.objects path o first
  -- the name is given to an object that it may stand for already
  have given (open_ : loader.objectOf? object.file = some object)
      (free : ∀ other, loader.fileOf? path = some other → other = object.file) :
      (loader.alsoNamed object.file path).fileOf? path = some object.file ∧
        ∀ name file, loader.fileOf? name = some file →
          (loader.alsoNamed object.file path).fileOf? name = some file := by
    have own := fileOf?_alsoNamed open_ free
    refine ⟨own, fun name file before => ?_⟩
    by_cases same : name = path
    · subst same
      rw [own, free file before]
    · rw [fileOf?_alsoNamed_other _ same, before]
  cases of_openObject opened with
  | known leads open_ =>
    refine given open_ fun other before => ?_
    cases (led other before).symm.trans leads
    rfl
  | again leads native open_ =>
    refine given open_ fun other before => ?_
    cases (led other before).symm.trans leads
  | new leads native first =>
    have unknown : loader.objects.find? (·.names.contains path) = none := by
      cases known : loader.objects.find? (·.names.contains path) with
      | none => rfl
      | some o => cases (led o.file (congrArg (Option.map OpenObject.file) known)).symm.trans leads
    simp only [fileOf?, List.find?_append, unknown]
    refine ⟨by simp, fun name file before => ?_⟩
    obtain ⟨o, first, rfl⟩ := Option.map_eq_some_iff.mp before
    rw [first]
    rfl

/-! ### Paths that are opened as given -/

/-- The open objects that are known by a path are those of the file that it leads to. -/
def Honest (loader : Loader) (disk : Disk Image) (path : Path) : Prop :=
  ∀ object ∈ loader.objects, path ∈ object.names →
    ∃ image, native? disk path = some (object.file, image)

end Loader

/-- A path is opened as it is given, unless an open object is known by it whose file is elsewhere. -/
def SystemLoader.OpensAsGiven (system : SystemLoader) (disk : Disk Image) (path : Path) : Prop :=
  ∀ loader : Loader, loader.system = system → loader.Honest disk path →
    loader.OpensAsGiven disk path

namespace UsualLoader
variable (usual : UsualLoader)

theorem keepsNames : usual.system.KeepsNames := by
  intro disk objects name object known
  simp only [system, known]

/-- The usual loader opens a path with a slash as it is given, if that has no tokens. -/
theorem opensAsGiven (disk : Disk Image) {path : Path} (plain : path.expand usual.value = path) :
    usual.system.OpensAsGiven disk path := by
  intro loader same honest slashed
  unfold Loader.fileFor?
  rw [same]
  cases known : loader.objects.find? (·.names.contains path) with
  | some object =>
    have member := List.mem_of_find?_eq_some known
    obtain ⟨image, native⟩ := honest object member (by simpa using List.find?_some known)
    obtain ⟨other, open_⟩ : ∃ other, loader.objectOf? object.file = some other :=
      Option.isSome_iff_exists.mp (List.find?_isSome.mpr ⟨object, member, by simp⟩)
    have file := Loader.file_of_objectOf? open_
    rw [usual.keepsNames disk loader.objects path object known, native]
    simp [open_, file]
  | none =>
    have leads : usual.system.lead? disk loader.objects path = some (.path path) := by
      simp only [system, known]
      simp [pathFor?, slashed, plain]
    rw [leads]

end UsualLoader

namespace Loader.Honest
variable {loader after : Loader} {disk : Disk Image} {path asked : Path} {object : OpenObject}

/-- An object that is opened is known by a path that is opened as given only if that leads to its
file. -/
theorem openObject (given : loader.system.OpensAsGiven disk path) (slashed : Path.slash ∈ path)
    (h : loader.Honest disk path) (opened : loader.openObject disk asked = .ok (object, after)) :
    after.Honest disk path := by
  have mine (same : path = asked) : ∃ image, native? disk path = some (object.file, image) := by
    subst same
    have taken := fileFor?_of_openObject opened
    rw [given loader rfl h slashed] at taken
    obtain ⟨⟨_, image⟩, native, rfl⟩ := Option.map_eq_some_iff.mp taken
    exact ⟨image, native⟩
  have kept : (loader.alsoNamed object.file asked).Honest disk path := by
    intro other member name
    obtain ⟨old, hold, rfl⟩ := List.mem_map.mp member
    rw [OpenObject.mem_names_alsoNamed] at name
    rw [OpenObject.file_alsoNamed]
    rcases name with before | ⟨same, new⟩
    · exact h old hold before
    · rw [same]
      exact mine new
  cases of_openObject opened with
  | known leads open_ | again leads native open_ => exact kept
  | @new place file image leads native =>
    intro other member name
    rcases List.mem_append.mp member with old | new
    · exact h other old name
    · obtain rfl := List.mem_singleton.mp new
      obtain rfl | same : path = place ∨ path = asked := by simpa using name
      · exact ⟨image, native⟩
      · exact mine same

end Loader.Honest

/-! ## Files with one name -/

namespace Disk
variable {Image : Type} (disk : Disk Image)

/-- No file has two places. -/
def SingleNamed : Prop :=
  ∀ place other id content content', disk.entry? place = some (.file id content) →
    disk.entry? other = some (.file id content') → place = other

def idOf? : Entry Image → Option FileId
  | .file id _ => some id
  | _ => none

theorem mem_entries {disk : Disk Image} {place : Place} {id : FileId} {content : Content Image}
    (there : disk.entry? place = some (.file id content)) :
    (place, Entry.file id content) ∈ disk.entries := by
  unfold entry? at there
  split at there
  · cases there
  · obtain ⟨before, after, split, -⟩ := List.lookup_eq_some_iff.mp there
    simp [split]

theorem singleNamed_of_nodup (ids : (disk.entries.filterMap fun e => idOf? e.2).Nodup) :
    disk.SingleNamed := by
  intro place other id content content' here there
  by_cases same : place = other
  · exact same
  · have symmetric : Std.Symm fun a a' : Place × Entry Image =>
        ∀ b, idOf? a.2 = some b → ∀ b', idOf? a'.2 = some b' → b ≠ b' :=
      ⟨fun _ _ h b hb b' hb' => (h b' hb' b hb).symm⟩
    have apart : (place, Entry.file id content) ≠ (other, Entry.file id content') :=
      fun entries => same (Prod.mk.inj entries).1
    have differ := (List.pairwise_filterMap.mp ids).forall (mem_entries here) (mem_entries there)
      apart
    exact absurd rfl (differ id rfl id rfl)

end Disk

/-! ## Modules -/

namespace Loader

/-- Objects are known by paths that are opened as given only if these lead to their files. -/
def HonestOn (loader : Loader) (disk : Disk Image) : Prop :=
  ∀ path, loader.system.OpensAsGiven disk path → Path.slash ∈ path → loader.Honest disk path

/-- A loader after more objects were opened. -/
structure GoesOn (after loader : Loader) : Prop where
  system : after.system = loader.system
  names : loader.system.KeepsNames → ∀ name file, loader.fileOf? name = some file →
    after.fileOf? name = some file

end Loader

namespace TestModule
variable {m n : TestModule} {disk : Disk Image} {loader after : Loader}

/-- The path of a module leads to its file. -/
def Rooted (module : TestModule) (disk : Disk Image) : Prop :=
  ∃ image, disk.file? module.path = some (module.file, .native image)

/-- What is known of a module that was opened. -/
structure Placed (module : TestModule) (disk : Disk Image) (loader : Loader) : Prop where
  lock : module.lock = .ofPath disk module.path
  /-- The loader knows the file of a module by its path. -/
  known : loader.system.KeepsNames → loader.fileOf? module.path = some module.file
  rooted : loader.system.OpensAsGiven disk module.path → Path.slash ∈ module.path →
    module.Rooted disk

theorem Placed.later (h : m.Placed disk loader) (goes : after.GoesOn loader) :
    m.Placed disk after where
  lock := h.lock
  known keeps := by
    rw [goes.system] at keeps
    exact goes.names keeps _ _ (h.known keeps)
  rooted given := h.rooted (goes.system ▸ given)

theorem Placed.of_open {config : SearchConfig} {name : String} {events : List Event}
    (honest : loader.HonestOn disk)
    (made : TestModule.open config disk loader name = .ok (m, events, after)) :
    m.Placed disk after ∧ after.HonestOn disk ∧ after.GoesOn loader := by
  obtain ⟨location, object, mid, probe, -, opened, rfl, rfl⟩ := of_open_ok made
  have system := Loader.system_openObject opened
  refine ⟨⟨rfl, fun keeps => ?_, fun given slashed => ?_⟩, fun path given slashed => ?_,
    ⟨system, fun keeps => (Loader.fileOf?_openObject keeps opened).2⟩⟩
  · exact (Loader.fileOf?_openObject (system ▸ keeps) opened).1
  · have kept : loader.system.OpensAsGiven disk location.library := system ▸ given
    have taken := Loader.fileFor?_of_openObject opened
    rw [kept loader rfl (honest location.library kept slashed) slashed] at taken
    obtain ⟨⟨_, image⟩, native, rfl⟩ := Option.map_eq_some_iff.mp taken
    exact ⟨image, SearchConfig.native?_eq_some.mp native⟩
  · have kept : loader.system.OpensAsGiven disk path := system ▸ given
    have next : mid.Honest disk path := (honest path kept slashed).openObject kept slashed opened
    exact next

/-- The lock of a module whose path leads to its file is that of the place of the file. -/
theorem Placed.place (h : m.Placed disk loader) (rooted : m.Rooted disk) :
    ∃ place content, m.lock = .place place ∧
      disk.resolve m.path = .ok (.file place m.file content) ∧
      disk.entry? place = some (.file m.file content) := by
  obtain ⟨image, file⟩ := rooted
  obtain ⟨place, leads⟩ := Disk.resolve_of_file? file
  refine ⟨place, .native image, ?_, leads, (Disk.standing_resolve leads).1⟩
  rw [h.lock, LockKey.ofPath, Disk.place?, leads]
  rfl

/-- A lock of a place is taken by paths that lead there. -/
theorem Placed.leads (h : m.Placed disk loader) {place : Place} (lock : m.lock = .place place) :
    disk.place? m.path = some place := by
  rw [h.lock, LockKey.ofPath] at lock
  cases leads : disk.place? m.path with
  | none => rw [leads] at lock; cases lock
  | some other => rw [leads] at lock; cases lock; rfl

/-- A module whose path leads to its file shares its lock with no module on the file whose path does
not lead there. -/
theorem Placed.rooted_of_lock (hm : m.Placed disk loader) (hn : n.Placed disk loader)
    (rooted : m.Rooted disk) (lock : m.lock = n.lock) (file : m.file = n.file) : n.Rooted disk := by
  obtain ⟨place, content, mine, leads, entry⟩ := hm.place rooted
  have there := hn.leads (lock.symm.trans mine)
  obtain ⟨image, found⟩ := rooted
  unfold Disk.file? at found
  rw [leads] at found
  cases found
  unfold Disk.place? at there
  split at there
  · -- a directory is not in the place of a file
    rename_i other directory
    cases there
    have open_ := Disk.standing_resolve directory
    cases place with
    | nil => cases (Disk.standing_resolve leads).2 rfl
    | cons part up => cases entry.symm.trans open_.1
  · rename_i other id content leads'
    cases there
    cases entry.symm.trans (Disk.standing_resolve leads').1
    refine ⟨image, ?_⟩
    rw [Disk.file?, leads', file]
  · cases there

end TestModule

/-! ## Runs -/

def Step.changesFiles : Step → Bool
  | .make _ | .remove _ => true
  | _ => false

namespace Stock
variable {stock first last : Stock} {system : SystemLoader} {disk : Disk Image}

/-- What is known of a stock while the files stay as they are. -/
structure Sound (stock : Stock) (system : SystemLoader) (disk : Disk Image) : Prop where
  files : stock.disk = disk
  system : stock.loader.system = system
  honest : stock.loader.HonestOn disk
  modules : ∀ ref cache, stock.caches ref = some cache →
    ∀ module ∈ cache.modules, module.Placed disk stock.loader

/-- A cache whose modules are known is put in its place. -/
theorem Sound.put (h : stock.Sound system disk) (ref : CacheRef) {cache : ModuleCache}
    {loader : Loader} (honest : loader.HonestOn disk) (goes : loader.GoesOn stock.loader)
    (placed : ∀ module ∈ cache.modules, module.Placed disk loader) :
    Sound ⟨disk, loader, fun r => if r = ref then some cache else stock.caches r⟩ system disk := by
  refine ⟨rfl, goes.system.trans h.system, honest, fun r other held module member => ?_⟩
  by_cases own : r = ref
  · subst own
    cases (if_pos rfl).symm.trans held
    exact placed module member
  · exact (h.modules r other ((if_neg own).symm.trans held) module member).later goes

theorem Sound.load (h : stock.Sound system disk) (ref : CacheRef) (name : String) :
    (stock.load ref name).Sound system disk := by
  cases there : stock.caches ref with
  | none =>
    have same : stock.load ref name = stock := by simp only [Stock.load, there]
    rw [same]
    exact h
  | some cache =>
    have mine := h.modules ref cache there
    have kept := h.put ref h.honest ⟨rfl, fun _ _ _ before => before⟩ mine
    simp only [Stock.load, there, h.files]
    cases found : cache.find? name with
    | some module =>
      rw [cache.load_of_find? disk stock.loader name found]
      exact kept
    | none =>
      cases made : TestModule.open cache.config disk stock.loader name with
      | error fault =>
        rw [cache.load_of_error disk stock.loader name found made]
        exact kept
      | ok opened =>
        obtain ⟨module, events, after⟩ := opened
        rw [cache.load_of_ok disk stock.loader name found made]
        obtain ⟨placed, honest, goes⟩ := TestModule.Placed.of_open h.honest made
        refine h.put ref honest goes fun m hm => ?_
        rcases List.mem_append.mp hm with old | new
        · exact (mine m old).later goes
        · obtain rfl := List.mem_singleton.mp new
          exact placed

theorem Sound.after (h : stock.Sound system disk) {step : Step} (still : step.changesFiles = false) :
    (stock.after step).Sound system disk := by
  cases step with
  | load ref name handle | require ref name handle => exact h.load ref name
  | make items | remove path => cases still
  | _ => exact h

theorem Leads.sound {steps : List Taken} (leads : first.Leads steps last)
    (still : ∀ taken ∈ steps, taken.step.changesFiles = false) (h : first.Sound system disk) :
    last.Sound system disk := by
  induction leads with
  | done stock => exact h
  | step session step script here next ih =>
    have now : step.changesFiles = false := still _ List.mem_cons_self
    exact ih (fun taken later => still taken (List.mem_cons_of_mem _ later)) (h.after now)

end Stock

namespace Session

def Holds (session : Session) (module : TestModule) : Prop :=
  ∃ ref cache, session.caches ref = some cache ∧ module ∈ cache.modules

theorem sound_start (system : SystemLoader) (allocator : Allocator) (disk : Disk Image)
    (configs : List SearchConfig) (env : String → Option Bytes) :
    (startWith system allocator disk configs env).stock.Sound system disk where
  files := rfl
  system := rfl
  honest _ _ _ := nofun
  modules ref cache there module hm := by
    have empty : cache.modules = [] := by
      cases ref with
      | indexed i =>
        obtain ⟨config, -, rfl⟩ := Option.map_eq_some_iff.mp there
        rfl
      | global => cases there; rfl
    rw [empty] at hm
    cases hm

/-- While the files stay as they are, modules whose paths lead to their files have one lock if they
have one file, as far as no file has two places. A module that the system loader searched for has no
lock in common with them. -/
theorem locks_of_files (system : SystemLoader) (allocator : Allocator) (disk : Disk Image)
    (configs : List SearchConfig) (env : String → Option Bytes) (steps : List (Step × Option Script))
    (still : ∀ taken ∈ (startWith system allocator disk configs env).stepsAll steps,
      taken.step.changesFiles = false)
    (m n : TestModule) (hm : ((startWith system allocator disk configs env).afterAll steps).Holds m)
    (hn : ((startWith system allocator disk configs env).afterAll steps).Holds n) :
    (system.OpensAsGiven disk m.path → Path.slash ∈ m.path → m.Rooted disk) ∧
    (m.path = n.path → m.lock = n.lock ∧ (system.KeepsNames → m.file = n.file)) ∧
    (m.Rooted disk → n.Rooted disk →
      (m.lock = n.lock → m.file = n.file) ∧
        (disk.SingleNamed → m.file = n.file → m.lock = n.lock)) ∧
    (m.Rooted disk → ¬ n.Rooted disk → m.file = n.file → m.lock ≠ n.lock) ∧
    (disk.place? m.path = none → (m.lock = n.lock ↔ m.path = n.path)) := by
  have sound := (leads_afterAll steps (startWith system allocator disk configs env)).sound still
    (sound_start system allocator disk configs env)
  have same : ((startWith system allocator disk configs env).afterAll steps).loader.system = system :=
    sound.system
  obtain ⟨ref, cache, there, mem⟩ := hm
  obtain ⟨ref', cache', there', mem'⟩ := hn
  have first := sound.modules ref cache there m mem
  have second := sound.modules ref' cache' there' n mem'
  refine ⟨fun given => first.rooted (same.symm ▸ given), fun path => ⟨?_, fun keeps => ?_⟩,
    fun rooted rooted' => ⟨fun lock => ?_, ?_⟩,
    fun rooted stray file lock => stray (first.rooted_of_lock second rooted lock file),
    fun nowhere => ?_⟩
  · rw [first.lock, second.lock, path]
  · have known := second.known (same.symm ▸ keeps)
    rw [← path, first.known (same.symm ▸ keeps)] at known
    exact Option.some.inj known
  · obtain ⟨place, content, mine, -, entry⟩ := first.place rooted
    obtain ⟨place', content', mine', -, entry'⟩ := second.place rooted'
    rw [mine, mine'] at lock
    cases lock
    have file := entry.symm.trans entry'
    exact (Entry.file.inj (Option.some.inj file)).1
  · intro single file
    obtain ⟨place, content, mine, -, entry⟩ := first.place rooted
    obtain ⟨place', content', mine', -, entry'⟩ := second.place rooted'
    rw [← file] at entry'
    rw [mine, mine', single place place' m.file content content' entry entry']
  · rw [first.lock, second.lock, LockKey.ofPath, LockKey.ofPath, nowhere]
    constructor
    · intro lock
      cases there : disk.place? n.path with
      | none => rw [there] at lock; exact LockKey.path.inj lock
      | some place => rw [there] at lock; cases lock
    · intro path
      rw [← path, nowhere, path]

/-! ## Two ways to one file -/

/-- A disk with a module in a directory, and a link to the directory. -/
def linked : Disk Image :=
  Disk.empty.makeAll
    [(Path.ofText "d/libtest-a.so", .file (.native .least)),
      (Path.ofText "/l", .link (Path.ofText "/work/d"))]

/-- Loads a module by two configurations. -/
def loadTwice : List (Step × Option Script) :=
  [(.load (.indexed 0) "a" "a", none), (.load (.indexed 1) "a" "b", none)]

/-- Modules that are found in a directory, and from the root through a link to it, have one lock. -/
theorem locks_of_files_linked :
    let configs : List SearchConfig :=
      [⟨[Path.ofText "d"], SearchConfig.defaultPrefix⟩,
        ⟨[Path.ofText "//l"], SearchConfig.defaultPrefix⟩]
    let last := (start linked configs fun _ => none).afterAll loadTwice
    ∃ m n, last.Holds m ∧ last.Holds n ∧ m.path ≠ n.path ∧ m.Rooted linked ∧ n.Rooted linked ∧
      m.lock = n.lock := by
  intro configs last
  have still : ∀ taken ∈ (start linked configs fun _ => none).stepsAll loadTwice,
      taken.step.changesFiles = false := by decide +kernel
  have held (i : Nat) (path : Path)
      (shown : (last.caches (.indexed i)).map (·.modules.map fun m => (m.path, m.file)) =
        some [(path, ⟨0⟩)]) : ∃ m, last.Holds m ∧ m.path = path ∧ m.file = ⟨0⟩ := by
    obtain ⟨cache, there, modules⟩ := Option.map_eq_some_iff.mp shown
    obtain ⟨m, rest, cons, same, -⟩ := List.map_eq_cons_iff.mp modules
    exact ⟨m, ⟨_, cache, there, by simp [cons]⟩, (Prod.mk.inj same).1, (Prod.mk.inj same).2⟩
  obtain ⟨m, hm, path, file⟩ := held 0 (Path.ofText "d/libtest-a.so") (by decide +kernel)
  obtain ⟨n, hn, path', file'⟩ := held 1 (Path.ofText "//l/libtest-a.so") (by decide +kernel)
  have single : linked.SingleNamed := linked.singleNamed_of_nodup (by decide +kernel)
  let usual := UsualLoader.ofVariable none
  have given (path : Path) (plain : path.expand usual.value = path) :
      usual.system.OpensAsGiven linked path := usual.opensAsGiven linked plain
  obtain ⟨rootedM, -, locks, -, -⟩ :=
    locks_of_files usual.system .counting linked configs (fun _ => none) loadTwice still m n hm hn
  obtain ⟨rootedN, -⟩ :=
    locks_of_files usual.system .counting linked configs (fun _ => none) loadTwice still n m hn hm
  have rooted : m.Rooted linked :=
    rootedM (given _ (by rw [path]; decide +kernel)) (by rw [path]; decide +kernel)
  have rooted' : n.Rooted linked :=
    rootedN (given _ (by rw [path']; decide +kernel)) (by rw [path']; decide +kernel)
  refine ⟨m, n, hm, hn, ?_, rooted, rooted', (locks rooted rooted').2 single ?_⟩
  · rw [path, path']
    decide +kernel
  · rw [file, file']

/-- A module that is found in a directory has another lock than the same file, searched for by the
system loader. -/
theorem locks_apart :
    let configs : List SearchConfig := [⟨[Path.ofText "d"], SearchConfig.defaultPrefix⟩, .default]
    let env (name : String) : Option Bytes :=
      if name = SearchConfig.fallbackVariable then some (Path.ofText "d") else none
    let last := (start linked configs env).afterAll loadTwice
    (last.module? "a").map (fun m => (m.file, m.lock)) =
        some (⟨0⟩, .place [Path.ofText "libtest-a.so", Path.ofText "d", Path.ofText "work"]) ∧
      (last.module? "b").map (fun m => (m.file, m.lock)) =
        some (⟨0⟩, .path (Path.ofText "libtest-a.so")) := by
  intro configs env last
  exact ⟨by decide +kernel, by decide +kernel⟩

end Session

end HidRig
