import HidRig.Rig.Cache

/-! # Opening and loading modules

What becomes of a loader and a cache when a module is asked for by its name.

* `Loader.Opens`, `Loader.of_openObject`: the three ways to open an object.
* `Loader.OpensLike`: two loaders open the same file for a path.
* `TestModule.open_eq`: a module is found, its file opened, and its entry points looked up.
* `TestModule.of_open`, `TestModule.open_alike`: the name and number of a module that was opened,
  and all else of it by the file.
* `ModuleCache.load_of_find?`, `ModuleCache.load_of_error`, `ModuleCache.load_of_ok`: the three
  outcomes of loading.
* `ModuleCache.load_alike`: loading by another cache and another loader.
-/

namespace HidRig

theorem mapError_ok {α ε δ : Type} (f : ε → δ) (a : α) :
    (Except.ok a : Except ε α).mapError f = .ok a :=
  rfl

theorem mapError_error {α ε δ : Type} (f : ε → δ) (e : ε) :
    (Except.error e : Except ε α).mapError f = .error (f e) :=
  rfl

/-! ## Opening objects -/

namespace Loader

/-- What is opened by a name, and the loader afterwards. -/
inductive Opens (loader : Loader) (disk : Disk Image) (name : Path) : OpenObject → Loader → Prop
  | known {object : OpenObject}
      (leads : loader.system.lead? disk loader.objects name = some (.known object.file))
      (open_ : loader.objectOf? object.file = some object) :
      Opens loader disk name object (loader.alsoNamed object.file name)
  /-- The file is open under other names. -/
  | again {place : Path} {object : OpenObject} {image : Image}
      (leads : loader.system.lead? disk loader.objects name = some (.path place))
      (native : native? disk place = some (object.file, image))
      (open_ : loader.objectOf? object.file = some object) :
      Opens loader disk name object (loader.alsoNamed object.file name)
  | new {place : Path} {file : FileId} {image : Image}
      (leads : loader.system.lead? disk loader.objects name = some (.path place))
      (native : native? disk place = some (file, image))
      (first : loader.objectOf? file = none) :
      Opens loader disk name ⟨[place, name], file, image⟩
        { loader with objects := loader.objects ++ [⟨[place, name], file, image⟩] }

variable {loader after : Loader} {disk : Disk Image} {path : Path} {object : OpenObject}

theorem file_of_objectOf? {file : FileId} (found : loader.objectOf? file = some object) :
    object.file = file := by
  simpa using List.find?_some found

theorem of_openObject (opened : loader.openObject disk path = .ok (object, after)) :
    loader.Opens disk path object after := by
  unfold openObject at opened
  split at opened
  · cases opened
  · split at opened
    · cases opened
    · rename_i file leads
      split at opened
      · cases opened
      · rename_i open_
        cases opened
        obtain rfl := file_of_objectOf? open_
        exact .known leads open_
    · rename_i place leads
      split at opened
      · cases opened
      · rename_i file image native
        dsimp only at opened
        split at opened
        · rename_i open_
          cases opened
          obtain rfl := file_of_objectOf? open_
          exact .again leads native open_
        · rename_i first
          cases opened
          exact .new leads native first

/-- Two loaders open the same file for a path, or fail alike. -/
def OpensLike (first second : Loader) (disk : Disk Image) (path : Path) : Prop :=
  (first.openObject disk path).map (fun opened => (opened.1.file, opened.1.image)) =
    (second.openObject disk path).map fun opened => (opened.1.file, opened.1.image)

theorem opened_openObject (opened : loader.openObject disk path = .ok (object, after)) :
    after.opened = loader.opened := by
  cases of_openObject opened <;> rfl

end Loader

/-! ## Opening modules -/

namespace TestModule
variable (config : SearchConfig) (disk : Disk Image) (name : String)

/-- The module at a location, by the file and image that were opened, with what is reported. -/
def ofImage (location : Location) (id : ModuleId) (file : FileId) (image : Image) :
    Except LoadFault (TestModule × List Event) := do
  let required (symbol : String) : Except LoadFault EntryPoint :=
    (image.symbol symbol).mapError fun fault =>
      .missingSymbol location.library.display symbol fault.message
  let probe ← required Abi.probeSymbol
  let _ ← required Abi.setCallbacksSymbol
  let (_, events) := Hook.resolve disk image location.metadata
  .ok ({ id, name, path := location.library, file, lock := .ofPath disk location.library, probe,
         slots := Hook.table disk image location.metadata }, events)

theorem open_eq (loader : Loader) :
    TestModule.open config disk loader name = (do
      let location ← config.locate disk name
      let (object, after) ← (loader.openObject disk location.library).mapError fun fault =>
        .libraryLoadFailed location.library.display fault.message
      let (module, events) ← ofImage disk name location ⟨after.opened⟩ object.file object.image
      .ok (module, events, { after with opened := after.opened + 1 })) := by
  unfold TestModule.open ofImage
  cases config.locate disk name with
  | error fault => rfl
  | ok location =>
    cases h : loader.openObject disk location.library with
    | error fault => simp [mapError_error, bind, Except.bind, h]
    | ok opened =>
      simp only [mapError_ok, bind, Except.bind, h]
      cases opened.1.image.symbol Abi.probeSymbol with
      | error fault => rfl
      | ok probe =>
        cases opened.1.image.symbol Abi.setCallbacksSymbol with
        | error fault => rfl
        | ok _ => rfl

theorem ofImage_id (location : Location) (id other : ModuleId) (file : FileId) (image : Image) :
    ofImage disk name location other file image =
      (ofImage disk name location id file image).map fun made =>
        ({ made.1 with id := other }, made.2) := by
  unfold ofImage
  dsimp only
  cases image.symbol Abi.probeSymbol with
  | error fault => rfl
  | ok probe =>
    cases image.symbol Abi.setCallbacksSymbol with
    | error fault => rfl
    | ok _ => rfl

theorem of_ofImage {location : Location} {id : ModuleId} {file : FileId} {image : Image}
    {module : TestModule} {events : List Event}
    (h : ofImage disk name location id file image = .ok (module, events)) :
    module.name = name ∧ module.id = id := by
  unfold ofImage at h
  dsimp only at h
  cases hp : image.symbol Abi.probeSymbol with
  | error fault => rw [hp] at h; cases h
  | ok probe =>
    cases hs : image.symbol Abi.setCallbacksSymbol with
    | error fault => rw [hp, hs] at h; cases h
    | ok _ => rw [hp, hs] at h; cases h; exact ⟨rfl, rfl⟩

/-- A module has the name that it was opened by, and a number of its own. -/
theorem of_open {loader after : Loader} {module : TestModule} {events : List Event}
    (h : TestModule.open config disk loader name = .ok (module, events, after)) :
    module.name = name ∧ module.id = ⟨loader.opened⟩ ∧ after.opened = loader.opened + 1 := by
  rw [open_eq] at h
  cases hl : config.locate disk name with
  | error fault => rw [hl] at h; cases h
  | ok location =>
    cases ho : loader.openObject disk location.library with
    | error fault => simp [hl, ho, mapError_error, bind, Except.bind] at h
    | ok opened =>
      have same := Loader.opened_openObject ho
      simp only [hl, ho, mapError_ok, bind, Except.bind] at h
      cases hm : ofImage disk name location ⟨opened.2.opened⟩ opened.1.file opened.1.image with
      | error fault => rw [hm] at h; cases h
      | ok made =>
        rw [hm] at h
        cases h
        obtain ⟨hname, hid⟩ := of_ofImage disk name hm
        exact ⟨hname, by rw [hid, same], by rw [same]⟩

/-- Only its number tells a module apart that was opened by another loader. -/
theorem open_alike {first second : Loader}
    (alike : ∀ location, config.locate disk name = .ok location →
      first.OpensLike second disk location.library) :
    (TestModule.open config disk second name).map (fun opened => (opened.1, opened.2.1)) =
      (TestModule.open config disk first name).map fun opened =>
        ({ opened.1 with id := ⟨second.opened⟩ }, opened.2.1) := by
  rw [open_eq, open_eq]
  cases hl : config.locate disk name with
  | error fault => rfl
  | ok location =>
    have same := alike location hl
    unfold Loader.OpensLike at same
    cases h₁ : first.openObject disk location.library with
    | error fault =>
      cases h₂ : second.openObject disk location.library with
      | error other =>
        rw [h₁, h₂] at same
        cases same
        simp [h₁, h₂, mapError_error, bind, Except.bind, Except.map]
      | ok opened => simp [h₁, h₂, Except.map] at same
    | ok opened =>
      cases h₂ : second.openObject disk location.library with
      | error fault => simp [h₁, h₂, Except.map] at same
      | ok other =>
        have number := Loader.opened_openObject h₂
        simp only [h₁, h₂, Except.map, Except.ok.injEq, Prod.mk.injEq] at same
        simp only [h₁, h₂, mapError_ok, bind, Except.bind]
        rw [ofImage_id disk name location ⟨opened.2.opened⟩ ⟨other.2.opened⟩, ← same.1, ← same.2,
          number]
        cases ofImage disk name location ⟨opened.2.opened⟩ opened.1.file opened.1.image with
        | error fault => rfl
        | ok made => rfl

end TestModule

/-! ## Loading -/

namespace ModuleCache
variable (cache : ModuleCache) (disk : Disk Image) (loader : Loader) (name : String)

theorem load_of_find? {module : TestModule} (h : cache.find? name = some module) :
    cache.load disk loader name = (.ok module, [.cacheHit name], cache, loader) := by
  unfold load
  rw [h]

theorem load_of_error {fault : LoadFault} (h : cache.find? name = none)
    (ho : TestModule.open cache.config disk loader name = .error fault) :
    cache.load disk loader name = (.error fault, [], cache, loader) := by
  unfold load
  rw [h, ho]

theorem load_of_ok {module : TestModule} {events : List Event} {after : Loader}
    (h : cache.find? name = none)
    (ho : TestModule.open cache.config disk loader name = .ok (module, events, after)) :
    cache.load disk loader name =
      (.ok module, events ++ [.loaded name module.path module.debug], cache.insert module,
        after) := by
  unfold load
  rw [h, ho]

theorem opened_le_load : loader.opened ≤ (cache.load disk loader name).2.2.2.opened := by
  cases h : cache.find? name with
  | some module => exact Nat.le_of_eq (by rw [cache.load_of_find? disk loader name h])
  | none =>
    cases ho : TestModule.open cache.config disk loader name with
    | error fault => exact Nat.le_of_eq (by rw [cache.load_of_error disk loader name h ho])
    | ok opened =>
      rw [cache.load_of_ok disk loader name h ho]
      have next := (TestModule.of_open _ _ _ ho).2.2
      exact Nat.le_trans (Nat.le_succ _) (Nat.le_of_eq next.symm)

/-- Loading that fails leaves the cache as it is. -/
theorem load_of_fails {fault : LoadFault} (h : (cache.load disk loader name).1 = .error fault) :
    (cache.load disk loader name).2.2 = (cache, loader) := by
  cases hf : cache.find? name with
  | some module => rw [cache.load_of_find? disk loader name hf] at h; cases h
  | none =>
    cases ho : TestModule.open cache.config disk loader name with
    | error other => rw [cache.load_of_error disk loader name hf ho]
    | ok opened =>
      rw [cache.load_of_ok disk loader name hf ho] at h
      cases h

/-- A name is loaded alike by all caches of a configuration that do not have it. -/
theorem load_alike {cache other : ModuleCache} {disk : Disk Image} {first second : Loader}
    {name : String} (config : other.config = cache.config) (absent : cache.find? name = none)
    (absent' : other.find? name = none)
    (alike : ∀ location, cache.config.locate disk name = .ok location →
      first.OpensLike second disk location.library) :
    (other.load disk second name).1 =
      (cache.load disk first name).1.map fun module => { module with id := ⟨second.opened⟩ } := by
  have same := TestModule.open_alike cache.config disk name alike
  cases h₁ : TestModule.open cache.config disk first name with
  | error fault =>
    cases h₂ : TestModule.open cache.config disk second name with
    | error fault' =>
      rw [h₁, h₂] at same
      cases same
      rw [cache.load_of_error disk first name absent h₁,
        other.load_of_error disk second name absent' (config ▸ h₂)]
      rfl
    | ok opened => simp [h₁, h₂, Except.map] at same
  | ok opened =>
    cases h₂ : TestModule.open cache.config disk second name with
    | error fault => simp [h₁, h₂, Except.map] at same
    | ok opened' =>
      simp only [h₁, h₂, Except.map, Except.ok.injEq, Prod.mk.injEq] at same
      rw [cache.load_of_ok disk first name absent h₁,
        other.load_of_ok disk second name absent' (config ▸ h₂)]
      exact congrArg Except.ok same.1

end ModuleCache

end HidRig
