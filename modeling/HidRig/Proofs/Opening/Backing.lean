import HidRig.Proofs.Cache.Lasting
import HidRig.Proofs.Opening.Direct
import HidRig.Proofs.Roles.Resolution
import HidRig.Proofs.Session.Handles
import HidRig.Proofs.Session.Reachable

/-! # Modules and images

The system loader keeps one image for a file as long as the process runs. All modules of a file are
made from that image, by whatever names and caches they were opened.

* `TestModule.MadeFrom`: the entry points of a module are those of an image.
* `Loader.Single`, `Loader.Backs`: no file is open with two images, and the file of a module is open
  with that of the module.
* `Session.Backed`: so it is for all modules in caches and with handles.
* `Session.Reachable.backed`: every reachable session is so.
-/

namespace HidRig

/-- The entry points of a module are those of an image. -/
structure TestModule.MadeFrom (module : TestModule) (image : Image) : Prop where
  probe : image.symbol Abi.probeSymbol = .ok module.probe
  hooks : ∀ role symbol entry, module.hooks role = .resolved symbol entry →
    image.symbol symbol = .ok entry

/-! ## Open objects -/

namespace Loader
variable {loader after : Loader} {disk : Disk Image} {path : Path} {object : OpenObject}

/-- The image that a file is open with. -/
def imageOf? (loader : Loader) (file : FileId) : Option Image :=
  (loader.objectOf? file).map OpenObject.image

/-- No file is open with two images. -/
def Single (loader : Loader) : Prop :=
  ∀ object ∈ loader.objects, loader.imageOf? object.file = some object.image

/-- The file of a module is open with the image that the module is made from. -/
def Backs (loader : Loader) (module : TestModule) : Prop :=
  ∃ image, loader.imageOf? module.file = some image ∧ module.MadeFrom image

/-- What is open stays so. -/
def Extends (after loader : Loader) : Prop :=
  ∀ file image, loader.imageOf? file = some image → after.imageOf? file = some image

theorem Backs.later {module : TestModule} (h : loader.Backs module) (later : after.Extends loader) :
    after.Backs module := by
  obtain ⟨image, open_, made⟩ := h
  exact ⟨image, later _ _ open_, made⟩

theorem objectOf?_alsoNamed (loader : Loader) (named : FileId) (name : Path) (file : FileId) :
    (loader.alsoNamed named name).objectOf? file =
      (loader.objectOf? file).map (·.alsoNamed named name) := by
  have files : ((fun object : OpenObject => decide (object.file = file)) ∘
      fun object : OpenObject => object.alsoNamed named name) =
        fun object : OpenObject => decide (object.file = file) := by
    funext object
    simp
  rw [objectOf?, alsoNamed, List.find?_map, files]
  rfl

theorem imageOf?_alsoNamed (loader : Loader) (named : FileId) (name : Path) (file : FileId) :
    (loader.alsoNamed named name).imageOf? file = loader.imageOf? file := by
  have image (object : OpenObject) : (object.alsoNamed named name).image = object.image := by
    unfold OpenObject.alsoNamed
    split <;> rfl
  rw [imageOf?, objectOf?_alsoNamed, Option.map_map, imageOf?]
  congr 1
  funext object
  exact image object

theorem imageOf?_concat (loader : Loader) (object : OpenObject) (file : FileId) :
    imageOf? { loader with objects := loader.objects ++ [object] } file =
      (loader.imageOf? file).or (if object.file = file then some object.image else none) := by
  simp only [imageOf?, objectOf?, List.find?_append, Option.map_or]
  congr 1
  by_cases same : object.file = file <;> simp [same]

/-- An object that gets a name at most keeps its image. -/
theorem Single.alsoNamed (h : loader.Single) (named : FileId) (name : Path) :
    (loader.alsoNamed named name).Single ∧ (loader.alsoNamed named name).Extends loader := by
  refine ⟨fun other member => ?_, fun file held there => ?_⟩
  · obtain ⟨old, before, rfl⟩ := List.mem_map.mp member
    rw [loader.imageOf?_alsoNamed, OpenObject.file_alsoNamed, h old before]
    unfold OpenObject.alsoNamed
    split <;> rfl
  · rw [loader.imageOf?_alsoNamed, there]

/-- An object that is opened is the one that its file is open with. -/
theorem Single.openObject (h : loader.Single)
    (opened : loader.openObject disk path = .ok (object, after)) :
    after.Single ∧ after.imageOf? object.file = some object.image ∧ after.Extends loader := by
  cases of_openObject opened with
  | known leads open_ | again leads native open_ =>
    obtain ⟨kept, later⟩ := h.alsoNamed object.file path
    have own := h object (List.mem_of_find?_eq_some open_)
    exact ⟨kept, later _ _ own, later⟩
  | @new place file held leads native first =>
    have image := loader.imageOf?_concat ⟨[place, path], file, held⟩
    have nothing : loader.imageOf? file = none := by rw [imageOf?, first, Option.map_none]
    refine ⟨?_, ?_, fun other there open_ => ?_⟩
    · intro other member
      rcases List.mem_append.mp member with old | new
      · rw [image, h other old, Option.some_or]
      · obtain rfl := List.mem_singleton.mp new
        rw [image, nothing, Option.none_or, if_pos rfl]
    · rw [image, nothing, Option.none_or, if_pos rfl]
    · rw [image, open_, Option.some_or]

end Loader

/-! ## Loading -/

section Loading
variable {config : SearchConfig} {disk : Disk Image} {loader : Loader} {name : String}

theorem TestModule.madeFrom_ofEntry {location : Location} {object : OpenObject} {number : Nat}
    {probe : EntryPoint} (probes : object.image.symbol Abi.probeSymbol = .ok probe) :
    (ofEntry disk name location object number probe).MadeFrom object.image where
  probe := probes
  hooks role symbol entry resolved := by
    obtain ⟨-, -, -, -, -, -, -, -, -, stands⟩ :=
      (Hook.resolve_eq_resolved_iff symbol entry).mp
        ((hooks_ofEntry disk name location object number probe role).symm.trans resolved)
    exact (object.image.symbol_eq_ok_iff symbol entry).mpr stands

/-- A module that is opened is made from the image of its file. -/
theorem TestModule.backed_of_open {module : TestModule} {events : List Event} {last : Loader}
    (single : loader.Single)
    (made : TestModule.open config disk loader name = .ok (module, events, last)) :
    last.Single ∧ last.Backs module ∧ last.Extends loader := by
  obtain ⟨location, object, after, -, located, opened, -, -⟩ := of_open_ok made
  obtain ⟨kept, own, later⟩ := single.openObject opened
  obtain ⟨-, fails⟩ | ⟨-, -, fails⟩ | ⟨-, probe, probes, makes⟩ := open_cases located opened
  · rw [fails] at made
    cases made
  · rw [fails] at made
    cases made
  · rw [makes] at made
    cases made
    exact ⟨kept, ⟨object.image, own, madeFrom_ofEntry probes⟩, later⟩

/-- A cache that loads a name goes on with modules made from the images of their files. -/
theorem ModuleCache.backed_load (cache : ModuleCache) (disk : Disk Image) (name : String)
    (single : loader.Single)
    (held : ∀ module ∈ cache.modules, loader.Backs module) :
    let loaded := cache.load disk loader name
    loaded.2.2.2.Single ∧ loaded.2.2.2.Extends loader ∧
      (∀ module ∈ loaded.2.2.1.modules, loaded.2.2.2.Backs module) ∧
      ∀ module, loaded.1 = .ok module → loaded.2.2.2.Backs module := by
  intro loaded
  cases found : cache.find? name with
  | some module =>
    have outcome : loaded = _ := cache.load_of_find? disk loader name found
    rw [outcome]
    refine ⟨single, fun _ _ open_ => open_, held, ?_⟩
    rintro _ ⟨⟩
    exact held module (List.mem_of_find?_eq_some found)
  | none =>
    cases made : TestModule.open cache.config disk loader name with
    | error fault =>
      have outcome : loaded = _ := cache.load_of_error disk loader name found made
      rw [outcome]
      exact ⟨single, fun _ _ open_ => open_, held, nofun⟩
    | ok opened =>
      obtain ⟨module, events, last⟩ := opened
      have outcome : loaded = _ := cache.load_of_ok disk loader name found made
      obtain ⟨kept, own, later⟩ := TestModule.backed_of_open single made
      rw [outcome]
      refine ⟨kept, later, fun other member => ?_, ?_⟩
      · rcases List.mem_append.mp member with old | new
        · exact (held other old).later later
        · obtain rfl := List.mem_singleton.mp new
          exact own
      · rintro _ ⟨⟩
        exact own

end Loading

/-! ## Sessions -/

/-- All modules of a session are made from the images that their files are open with. -/
structure Session.Backed (session : Session) : Prop where
  single : session.loader.Single
  cached : ∀ ref cache, session.caches ref = some cache →
    ∀ module ∈ cache.modules, session.loader.Backs module
  held : ∀ handle module, (handle, module) ∈ session.handles → session.loader.Backs module

namespace Session
variable {session : Session}

theorem Backed.of_same {other : Session} (h : session.Backed)
    (loader : other.loader = session.loader) (caches : other.caches = session.caches)
    (handles : other.handles = session.handles) : other.Backed := by
  refine ⟨?_, ?_, ?_⟩
  · rw [loader]
    exact h.single
  · rw [loader, caches]
    exact h.cached
  · rw [loader, handles]
    exact h.held

theorem Backed.module? (h : session.Backed) {handle : String} {module : TestModule}
    (found : session.module? handle = some module) : session.loader.Backs module := by
  obtain ⟨before, after, split, -⟩ := List.lookup_eq_some_iff.mp found
  exact h.held handle module (by simp [split])

theorem backed_start (system : SystemLoader) (allocator : Allocator) (disk : Disk Image)
    (configs : List SearchConfig) (env : String → Option Bytes) :
    (startWith system allocator disk configs env).Backed where
  single := nofun
  cached ref cache there module member := by
    obtain ⟨config, fresh⟩ := startCaches_eq there
    obtain rfl := Option.some.inj (there.symm.trans fresh)
    cases member
  held := nofun

/-- A step that runs no code makes of the stock what the step itself does. -/
theorem stock_perform_plain (session : Session) {step : Step} (script : Option Runner)
    (plain : step.runsCode = false) :
    (session.perform step script).2.stock = session.stock.after step := by
  have inner : session.innerSteps step none = [] := by cases step <;> first | rfl | cases plain
  have same : session.perform step script = session.perform step none := by
    cases step <;> first | rfl | cases plain
  have silent : Leading none := nofun
  have leads := session.leads_innerSteps silent step
  rw [Option.map_none, Option.map_none, inner, ← same] at leads
  exact leads.eq_of_nil

/-- What a step loads is made from the images that are open afterwards. -/
theorem Backed.loading (h : session.Backed) {step : Step} {ref : CacheRef} {name : String}
    (loads : step.loading? = some (ref, name)) (script : Option Runner) :
    (session.perform step script).2.Backed := by
  cases there : session.caches ref with
  | none =>
    rw [session.perform_loading_of_none loads there]
    exact h
  | some cache =>
    obtain ⟨-, stock⟩ := session.perform_loading loads there script
    obtain ⟨single, later, cached, made⟩ :=
      cache.backed_load session.disk name h.single (h.cached ref cache there)
    rw [session.stock.load_of_cache name there] at stock
    have loader : (session.perform step script).2.loader =
        (cache.load session.disk session.loader name).2.2.2 := congrArg Stock.loader stock
    have caches := congrFun (congrArg Stock.caches stock)
    have plain : step.runsCode = false := by cases step <;> first | rfl | cases loads
    refine ⟨?_, ?_, ?_⟩ <;> rw [loader]
    · exact single
    · intro place kept found module member
      have held := (caches place).symm.trans found
      dsimp only at held
      split at held
      · cases held
        exact cached module member
      · exact (h.cached place kept held module member).later later
    · intro handle module member
      rw [session.handles_perform script plain] at member
      rcases List.mem_append.mp member with bound | old
      · have answer := (Taken.bound?_eq_some (Option.mem_toList.mp bound)).2
        exact made module (session.ok_of_loaded loads there script answer)
      · exact (h.held handle module old).later later

/-- No step makes modules but from the images of their files. -/
theorem backed_course : Course fun s _ t => s.Backed → t.Backed where
  aside stock handles h := 
    h.of_same (congrArg Stock.loader stock) (congrArg Stock.caches stock) handles
  append first second h := second (first h)
  plain s step script plain h := by
    cases loads : step.loading? with
    | some place => exact h.loading loads script
    | none =>
      obtain ⟨caches, loader⟩ := s.stock.after_of_other loads
      rw [← s.stock_perform_plain script plain] at caches loader
      have bound : (s.taken step script).bound? = none := by
        refine Option.eq_none_iff_forall_ne_some.mpr fun bound is => ?_
        have loading := (Taken.bound?_eq_some is).1
        rw [show (s.taken step script).step = step from rfl, loads] at loading
        cases loading
      have handles := s.handles_perform script plain
      rw [bound] at handles
      exact h.of_same loader caches handles
  around _ _ _ _ _ rest h := rest h

theorem Backed.run (h : session.Backed) (script : Script) (frame : Frame) :
    (script.run frame session).session.Backed :=
  backed_course.script script frame session h

theorem Backed.perform (h : session.Backed) (step : Step) (script : Option Script) :
    (session.perform step (script.map Script.run)).2.Backed :=
  backed_course.perform (fun body _ => backed_course.script body) session step h

theorem Backed.take (h : session.Backed) (step : Step) (script : Option Script) :
    (session.take step script).2.Backed :=
  backed_course.take session step script h

/-- In every session that can be reached, the modules are made from the images that their files are
open with. -/
theorem Reachable.backed (h : session.Reachable) : session.Backed := by
  induction h with
  | start system allocator disk configs env => exact backed_start system allocator disk configs env
  | take _ step script ih => exact ih.take step script
  | begun _ module call ih => exact ih.of_same rfl rfl rfl
  | ran _ script frame ih => exact ih.run script frame
  | onThread _ ih => exact ih.of_same rfl rfl rfl

end Session

end HidRig
