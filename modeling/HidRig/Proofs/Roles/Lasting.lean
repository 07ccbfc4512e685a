import HidRig.Proofs.Cache.Lasting
import HidRig.Proofs.Roles.Resolution
import HidRig.Proofs.Session.Handles

/-! # The roles of a module stay

A handle stands for one module until a step binds it again, and a module is what the files made of
it when it was opened. Whatever becomes of the files and of the session, its roles are the same.

* `Taken.Opens`: the step that opened a module, with the files as they were.
* `Session.roles_lasting`: at every step the modules of a session are as they were opened.
-/

namespace HidRig

/-! ## Openings -/

/-- A step opens a module and puts it into a cache, with the files as they are before it. -/
structure Taken.Opens (opening : Taken) (ref : CacheRef) (name : String) (module : TestModule)
    (location : Location) (object : OpenObject) : Prop where
  loads : opening.step.loading? = some (ref, name)
  answer : opening.answer = .loaded module
  located : ∃ cache, opening.before.caches ref = some cache ∧
    cache.config.locate opening.before.disk name = .ok location
  opened : ∃ after,
    opening.before.loader.openObject opening.before.disk location.library = .ok (object, after)
  settled : module.Settled opening.before.disk object.image location.metadata

theorem mem_loadedBy {ref : CacheRef} {steps : List Taken} {taken : Taken} {name : String}
    {module : TestModule} (member : taken ∈ steps) (loads : taken.step.loading? = some (ref, name))
    (answer : taken.answer = .loaded module) : (name, module) ∈ loadedBy ref steps := by
  refine List.mem_filterMap.mpr ⟨taken, member, ?_⟩
  simp [Taken.loaded?, loads, answer]

theorem of_mem_loadedBy {ref : CacheRef} {steps : List Taken} {name : String} {module : TestModule}
    (member : (name, module) ∈ loadedBy ref steps) :
    ∃ taken ∈ steps, taken.step.loading? = some (ref, name) ∧ taken.answer = .loaded module := by
  obtain ⟨taken, there, loaded⟩ := List.mem_filterMap.mp member
  refine ⟨taken, there, ?_⟩
  unfold Taken.loaded? at loaded
  split at loaded
  · rename_i place other found loads answer
    split at loaded
    · rename_i same
      cases loaded
      subst same
      exact ⟨loads, answer⟩
    · cases loaded
  · cases loaded

namespace Session
variable {session : Session} {step : Step} {ref : CacheRef} {name : String} {cache : ModuleCache}
  {module : TestModule}

/-- A cache that does not have a name opens the module that it answers. -/
theorem opens_of_absent (loads : step.loading? = some (ref, name))
    (there : session.caches ref = some cache) (absent : cache.find? name = none)
    (script : Option Runner) (answer : (session.taken step script).answer = .loaded module) :
    ∃ location object, (session.taken step script).Opens ref name module location object := by
  have outcome := session.ok_of_loaded loads there script answer
  cases made : TestModule.open cache.config session.disk session.loader name with
  | error fault =>
    rw [cache.load_of_error session.disk session.loader name absent made] at outcome
    cases outcome
  | ok opened =>
    obtain ⟨other, events, last⟩ := opened
    rw [cache.load_of_ok session.disk session.loader name absent made] at outcome
    cases outcome
    obtain ⟨location, object, after, probe, located, opened, rfl, -⟩ := TestModule.of_open_ok made
    exact ⟨location, object, loads, answer, ⟨cache, there, located⟩, ⟨after, opened⟩,
      TestModule.settled_ofEntry ..⟩

end Session

/-! ## Runs -/

/-- There is no cache in a place that had none at the start. -/
theorem Stock.Leads.caches_none {first last : Stock} {steps : List Taken}
    (h : first.Leads steps last) {ref : CacheRef} :
    first.caches ref = none → last.caches ref = none := by
  induction h with
  | done => exact id
  | step session step script here _ ih =>
    subst here
    intro none
    apply ih
    cases loads : step.loading? with
    | none => rw [(session.stock.after_of_other loads).1, none]
    | some place =>
      obtain ⟨other, name⟩ := place
      rw [session.stock.after_of_loading loads]
      cases found : session.stock.caches other with
      | none =>
        simp only [Stock.load, found]
        exact none
      | some cache =>
        rw [session.stock.load_of_cache name found]
        refine (if_neg ?_).trans none
        rintro rfl
        rw [found] at none
        cases none

/-- The first of some steps to load a name into a cache. -/
theorem exists_first_load {ref : CacheRef} {name : String} {module : TestModule}
    {steps : List Taken} (member : (name, module) ∈ loadedBy ref steps) :
    ∃ pre opening post other, steps = pre ++ opening :: post ∧
      opening.step.loading? = some (ref, name) ∧ opening.answer = .loaded other ∧
      ∀ earlier, (name, earlier) ∉ loadedBy ref pre := by
  induction steps with
  | nil => cases member
  | cons first rest ih =>
    by_cases own : ∃ other, (name, other) ∈ loadedBy ref [first]
    · obtain ⟨other, its⟩ := own
      obtain ⟨opening, there, loads, answer⟩ := of_mem_loadedBy its
      obtain rfl := List.mem_singleton.mp there
      exact ⟨[], opening, rest, other, rfl, loads, answer, fun _ => List.not_mem_nil⟩
    · have split (steps : List Taken) :
          loadedBy ref (first :: steps) = loadedBy ref [first] ++ loadedBy ref steps :=
        List.filterMap_append (l := [first])
      rw [split, List.mem_append] at member
      have later := member.resolve_left fun its => own ⟨module, its⟩
      obtain ⟨pre, opening, post, other, rfl, loads, answer, new⟩ := ih later
      refine ⟨first :: pre, opening, post, other, rfl, loads, answer, fun earlier before => ?_⟩
      rw [split, List.mem_append] at before
      exact new earlier (before.resolve_left fun its => own ⟨earlier, its⟩)

/-- A module that was loaded was opened by one of the steps, and is the one that its name stands
for. -/
theorem Stock.Leads.exists_opens {first last : Stock} {steps : List Taken}
    (h : first.Leads steps last) {ref : CacheRef} {config : SearchConfig} {name : String}
    {module : TestModule} (fresh : first.caches ref = some (.ofConfig config))
    (mine : (name, module) ∈ loadedBy ref steps) :
    (∃ opening ∈ steps, ∃ location object, opening.Opens ref name module location object) ∧
      ∀ other, (name, other) ∈ loadedBy ref steps → other = module := by
  have begun := ModuleCache.Keeps.ofConfig config first.loader.opened
  obtain ⟨cache, -, keeps⟩ := h.keeps fresh begun
  have same : ∀ other, (name, other) ∈ loadedBy ref steps → other = module :=
    fun other its => keeps.shows.same name other module its mine
  refine ⟨?_, same⟩
  obtain ⟨pre, opening, post, other, split, loads, answer, new⟩ := exists_first_load mine
  have member : opening ∈ steps := by simp [split]
  obtain rfl := same other (mem_loadedBy member loads answer)
  rw [split] at h
  obtain ⟨front, script, how⟩ := h.split
  obtain ⟨cache', there, keeps'⟩ := front.keeps fresh begun
  have absent := (keeps'.find?_eq_none_iff name).mpr new
  rw [how] at answer
  obtain ⟨location, object, opens⟩ := Session.opens_of_absent loads there absent script answer
  exact ⟨opening, member, location, object, how ▸ opens⟩

/-- A place that a step loads a module into has had a cache from the start. -/
theorem Session.fresh_of_loaded {system : SystemLoader} {allocator : Allocator}
    {disk : Disk Image} {configs : List SearchConfig} {env : String → Option Bytes}
    {pre : List Taken} {session : Session} {step : Step} {script : Option Runner} {ref : CacheRef}
    {name : String} {module : TestModule}
    (front : (startWith system allocator disk configs env).stock.Leads pre session.stock)
    (loads : step.loading? = some (ref, name))
    (answer : (session.taken step script).answer = .loaded module) :
    ∃ config, (startWith system allocator disk configs env).stock.caches ref =
      some (.ofConfig config) := by
  cases there : (startWith system allocator disk configs env).stock.caches ref with
  | some cache =>
    obtain ⟨config, fresh⟩ := startCaches_eq there
    exact ⟨config, there.symm.trans fresh⟩
  | none =>
    have absent : session.caches ref = none := front.caches_none there
    have refused := session.perform_loading_of_none loads absent script
    simp only [Session.taken, refused, reply] at answer
    cases answer

/-- A handle stands for the module that was given to it last. Every module was opened by a step of
the session, is what the files were at that step, and is what its name stands for ever after. -/
theorem Session.roles_lasting (system : SystemLoader) (allocator : Allocator) (disk : Disk Image)
    (configs : List SearchConfig) (env : String → Option Bytes)
    (steps : List (Step × Option Script)) :
    let taken := (startWith system allocator disk configs env).stepsAll steps
    (∀ pre here post, taken = pre ++ here :: post →
      (∀ handle, here.before.module? handle = boundTo handle pre) ∧
      ∀ ref name module, here.step.loading? = some (ref, name) → here.answer = .loaded module →
        (∃ opening ∈ pre ++ [here], ∃ location object,
          opening.Opens ref name module location object) ∧
        ∀ earlier ∈ pre, ∀ other, earlier.step.loading? = some (ref, name) →
          earlier.answer = .loaded other → other = module) ∧
    ∀ handle, ((startWith system allocator disk configs env).afterAll steps).module? handle =
      boundTo handle taken := by
  intro taken
  have leads : (startWith system allocator disk configs env).stock.Leads taken _ :=
    leads_afterAll steps (startWith system allocator disk configs env)
  have handles : Handles.Leads [] taken
      ((startWith system allocator disk configs env).afterAll steps).handles :=
    Handles.course.afterAll steps (startWith system allocator disk configs env)
  refine ⟨fun pre here post split => ⟨fun handle => ?_, fun ref name module loads answer => ?_⟩,
    fun handle => ?_⟩
  · rw [split] at handles
    rw [module?, handles.before_eq, List.append_nil, boundTo]
  · rw [split] at leads
    obtain ⟨front, script, how⟩ := leads.split
    have mine : (name, module) ∈ loadedBy ref (pre ++ [here]) :=
      mem_loadedBy (by simp) loads answer
    have all : Stock.Leads (startWith system allocator disk configs env).stock (pre ++ [here])
        (here.before.stock.after here.step) := by
      rw [how]
      exact front.append (.step here.before here.step script rfl (.done _))
    obtain ⟨config, fresh⟩ := fresh_of_loaded front loads (how ▸ answer)
    obtain ⟨opened, same⟩ := all.exists_opens fresh mine
    refine ⟨opened, fun earlier before other loads' answer' => ?_⟩
    exact same other (mem_loadedBy (List.mem_append_left _ before) loads' answer')
  · rw [module?, handles.eq_bindings, List.append_nil, boundTo]

end HidRig
