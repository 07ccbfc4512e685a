import HidRig.Proofs.Cache.Opening
import HidRig.Proofs.Session.Steps
import Mathlib.Data.List.Nodup
import Mathlib.Data.List.Dedup

/-! # A loaded module stays

Whatever happens in a session, a module that was loaded by a name is what the cache has by that name
from then on.

* `Taken.loaded?`, `loadedBy`: the modules that steps loaded into a cache, with the names that were
  asked for.
* `ModuleCache.Keeps`: a cache holds what was loaded into it.
* `ModuleCache.Shows`, `Taken.Loads`: what that means for questions about the cache, and for a step
  that loads a module.
* `Session.cache_lasting`: so it is at every step of a session and after the last.
-/

namespace HidRig

/-! ## What a cache keeps -/

/-- The name and the module, if a step loaded one into a cache. -/
def Taken.loaded? (ref : CacheRef) (taken : Taken) : Option (String × TestModule) :=
  match taken.step.loading?, taken.answer with
  | some (place, name), .loaded module => if place = ref then some (name, module) else none
  | _, _ => none

/-- The modules that steps loaded into a cache, in order, each with the name that was asked for. -/
def loadedBy (ref : CacheRef) (steps : List Taken) : List (String × TestModule) :=
  steps.filterMap (Taken.loaded? ref)

/-- A cache holds what was loaded into it, and nothing else. -/
structure ModuleCache.Keeps (cache : ModuleCache) (config : SearchConfig) (opened : Nat)
    (loaded : List (String × TestModule)) : Prop where
  config : cache.config = config
  mem : ∀ name module, (name, module) ∈ loaded ↔ module ∈ cache.modules ∧ module.name = name
  names : (cache.modules.map TestModule.name).Nodup
  ids : (cache.modules.map TestModule.id).Nodup
  opened : ∀ module ∈ cache.modules, module.id.number < opened

namespace ModuleCache.Keeps
variable {cache : ModuleCache} {config : SearchConfig} {opened : Nat}
  {loaded : List (String × TestModule)}

theorem ofConfig (config : SearchConfig) (opened : Nat) :
    (ModuleCache.ofConfig config).Keeps config opened [] where
  config := rfl
  mem name module := by simp [ModuleCache.ofConfig]
  names := .nil
  ids := .nil
  opened := nofun

theorem later (h : cache.Keeps config opened loaded) {opened' : Nat} (hle : opened ≤ opened') :
    cache.Keeps config opened' loaded :=
  { h with opened := fun module hm => Nat.lt_of_lt_of_le (h.opened module hm) hle }

theorem eq_of_mem (h : cache.Keeps config opened loaded) {m n : TestModule} (hm : m ∈ cache.modules)
    (hn : n ∈ cache.modules) (same : m.name = n.name) : m = n :=
  List.inj_on_of_nodup_map h.names hm hn same

theorem find?_eq_some_iff (h : cache.Keeps config opened loaded) (name : String)
    (module : TestModule) : cache.find? name = some module ↔ (name, module) ∈ loaded := by
  rw [h.mem]
  constructor
  · intro found
    exact ⟨List.mem_of_find?_eq_some found, by simpa using List.find?_some found⟩
  · rintro ⟨hm, rfl⟩
    cases found : cache.find? module.name with
    | none => exact (List.find?_eq_none.mp found module hm (by simp)).elim
    | some other =>
      have same : other.name = module.name := by simpa using List.find?_some found
      rw [h.eq_of_mem (List.mem_of_find?_eq_some found) hm same]

theorem find?_eq_none_iff (h : cache.Keeps config opened loaded) (name : String) :
    cache.find? name = none ↔ ∀ module, (name, module) ∉ loaded := by
  rw [Option.eq_none_iff_forall_ne_some]
  exact forall_congr' fun module => not_congr (h.find?_eq_some_iff name module)

theorem again (h : cache.Keeps config opened loaded) {name : String} {module : TestModule}
    (hm : (name, module) ∈ loaded) : cache.Keeps config opened (loaded ++ [(name, module)]) where
  config := h.config
  mem other n := by
    rw [List.mem_append, List.mem_singleton, ← h.mem]
    constructor
    · rintro (old | same)
      · exact old
      · cases same
        exact hm
    · exact .inl
  names := h.names
  ids := h.ids
  opened := h.opened

theorem insert (h : cache.Keeps config opened loaded) {name : String} {module : TestModule}
    (absent : cache.find? name = none) (hname : module.name = name) (hid : module.id = ⟨opened⟩) :
    (cache.insert module).Keeps config (opened + 1) (loaded ++ [(name, module)]) where
  config := h.config
  mem other n := by
    subst hname
    simp only [ModuleCache.insert, List.mem_append, List.mem_singleton, Prod.mk.injEq, h.mem]
    constructor
    · rintro (⟨hn, rfl⟩ | ⟨rfl, rfl⟩)
      · exact ⟨.inl hn, rfl⟩
      · exact ⟨.inr rfl, rfl⟩
    · rintro ⟨hn | rfl, rfl⟩
      · exact .inl ⟨hn, rfl⟩
      · exact .inr ⟨rfl, rfl⟩
  names := by
    have new : module.name ∉ cache.modules.map TestModule.name := by
      intro hmem
      obtain ⟨other, hother, same⟩ := List.mem_map.mp hmem
      exact absurd (same.trans hname) (by simpa using List.find?_eq_none.mp absent other hother)
    simpa [ModuleCache.insert] using List.Nodup.concat new h.names
  ids := by
    -- the number is the next one, and those of the modules there are below it
    have new : module.id ∉ cache.modules.map TestModule.id := by
      intro hmem
      obtain ⟨other, hother, same⟩ := List.mem_map.mp hmem
      have older := h.opened other hother
      rw [same, hid] at older
      exact Nat.lt_irrefl _ older
    simpa [ModuleCache.insert] using List.Nodup.concat new h.ids
  opened n hn := by
    rcases List.mem_append.mp hn with old | same
    · exact Nat.lt_succ_of_lt (h.opened n old)
    · rw [List.mem_singleton.mp same, hid]
      exact Nat.lt_succ_self opened

theorem load (disk : Disk Image) (loader : Loader) (name : String)
    (h : cache.Keeps config loader.opened loaded) :
    (cache.load disk loader name).2.2.1.Keeps config (cache.load disk loader name).2.2.2.opened
      (loaded ++ ((cache.load disk loader name).1.toOption.map fun m => (name, m)).toList) := by
  cases hf : cache.find? name with
  | some module =>
    rw [cache.load_of_find? disk loader name hf]
    exact h.again ((h.find?_eq_some_iff name module).mp hf)
  | none =>
    cases ho : TestModule.open cache.config disk loader name with
    | error fault =>
      rw [cache.load_of_error disk loader name hf ho]
      simpa [Except.toOption] using h
    | ok opened =>
      rw [cache.load_of_ok disk loader name hf ho]
      obtain ⟨hname, hid, next⟩ := TestModule.of_open _ _ _ ho
      rw [next]
      exact h.insert hf hname hid

theorem size_eq (h : cache.Keeps config opened loaded) :
    cache.size = (loaded.map Prod.fst).dedup.length := by
  have names : (cache.modules.map TestModule.name).Perm (loaded.map Prod.fst).dedup := by
    refine (List.perm_ext_iff_of_nodup h.names (List.nodup_dedup _)).mpr fun name => ?_
    rw [List.mem_dedup, List.mem_map, List.mem_map]
    constructor
    · rintro ⟨module, hm, rfl⟩
      exact ⟨(module.name, module), (h.mem _ _).mpr ⟨hm, rfl⟩, rfl⟩
    · rintro ⟨⟨_, module⟩, hm, rfl⟩
      exact ⟨module, (h.mem _ _).mp hm⟩
  rw [← names.length_eq, List.length_map, ModuleCache.size]

end ModuleCache.Keeps

/-! ## Runs -/

namespace Stock

theorem after_of_loading (stock : Stock) {step : Step} {ref : CacheRef} {name : String}
    (loads : step.loading? = some (ref, name)) : stock.after step = stock.load ref name := by
  cases step <;> cases loads <;> rfl

theorem after_of_other (stock : Stock) {step : Step} (other : step.loading? = none) :
    (stock.after step).caches = stock.caches ∧ (stock.after step).loader = stock.loader := by
  cases step <;> first | exact ⟨rfl, rfl⟩ | cases other

/-- The state before a step, and how the step came about. -/
theorem Leads.split {first last : Stock} {xs ys : List Taken} {taken : Taken} :
    Leads first (xs ++ taken :: ys) last →
      Leads first xs taken.before.stock ∧
        ∃ script, taken = taken.before.taken taken.step script := by
  induction xs generalizing first with
  | nil =>
    rintro (_ | ⟨session, step, script, here, _⟩)
    exact ⟨here ▸ .done _, script, rfl⟩
  | cons x xs ih =>
    rintro (_ | ⟨session, step, script, here, next⟩)
    obtain ⟨front, how⟩ := ih next
    exact ⟨.step session step script here front, how⟩

theorem disk_load (stock : Stock) (ref : CacheRef) (name : String) :
    (stock.load ref name).disk = stock.disk := by
  unfold load
  split <;> rfl

theorem load_of_cache (stock : Stock) {ref : CacheRef} {cache : ModuleCache} (name : String)
    (there : stock.caches ref = some cache) :
    let loaded := cache.load stock.disk stock.loader name
    stock.load ref name =
      { stock with
        loader := loaded.2.2.2
        caches := fun r => if r = ref then some loaded.2.2.1 else stock.caches r } := by
  simp only [load, there]

end Stock

namespace Session
variable {session : Session} {step : Step} {ref place : CacheRef} {name : String}
  {cache : ModuleCache} {config : SearchConfig} {loaded : List (String × TestModule)}

/-- What a step loads is what it answers, and counts for the cache that it names. -/
theorem loaded?_taken (loads : step.loading? = some (place, name))
    (there : session.caches place = some cache) (script : Option Runner) :
    (session.taken step script).loaded? ref =
      if place = ref then
        (cache.load session.disk session.loader name).1.toOption.map fun m => (name, m)
      else none := by
  have answer := (session.perform_loading loads there script).1
  simp only [Taken.loaded?, Session.taken, loads, answer]
  cases (cache.load session.disk session.loader name).1 with
  | ok module => rfl
  | error fault => cases step <;> simp [Step.answerTo, Except.toOption]

/-- A step adds to a cache what it loads into it. -/
theorem keeps_after (there : session.caches ref = some cache)
    (h : cache.Keeps config session.loader.opened loaded) (step : Step) (script : Option Runner) :
    ∃ cache', (session.stock.after step).caches ref = some cache' ∧
      cache'.Keeps config (session.stock.after step).loader.opened
        (loaded ++ ((session.taken step script).loaded? ref).toList) := by
  cases loads : step.loading? with
  | none =>
    obtain ⟨caches, loader⟩ := session.stock.after_of_other loads
    have nothing : (session.taken step script).loaded? ref = none := by
      simp [Taken.loaded?, Session.taken, loads]
    rw [nothing, caches, loader, Option.toList_none, List.append_nil]
    exact ⟨cache, there, h⟩
  | some place =>
    obtain ⟨other, name⟩ := place
    rw [session.stock.after_of_loading loads]
    cases found : session.caches other with
    | none =>
      have same : session.stock.load other name = session.stock := by
        simp only [Stock.load, stock, found]
      have nothing : (session.taken step script).loaded? ref = none := by
        simp [Taken.loaded?, Session.taken, loads, session.perform_loading_of_none loads found,
          reply]
      rw [same, nothing, Option.toList_none, List.append_nil]
      exact ⟨cache, there, h⟩
    | some mine =>
      rw [session.stock.load_of_cache name found, session.loaded?_taken loads found]
      by_cases own : other = ref
      · subst own
        cases found.symm.trans there
        rw [if_pos rfl]
        exact ⟨_, if_pos rfl, h.load session.disk session.loader name⟩
      · -- another cache is loaded into, so that only the count of opened modules may grow
        rw [if_neg own, Option.toList_none, List.append_nil]
        have opened := mine.opened_le_load session.disk session.loader name
        exact ⟨cache, (if_neg (Ne.symm own)).trans there, h.later opened⟩

end Session

theorem Stock.Leads.keeps {first last : Stock} {steps : List Taken} (h : first.Leads steps last)
    {ref : CacheRef} {config : SearchConfig} :
    ∀ {cache loaded}, first.caches ref = some cache →
      cache.Keeps config first.loader.opened loaded →
      ∃ cache', last.caches ref = some cache' ∧
        cache'.Keeps config last.loader.opened (loaded ++ loadedBy ref steps) := by
  induction h with
  | done stock =>
    intro cache loaded there keeps
    exact ⟨cache, there, by simpa [loadedBy] using keeps⟩
  | @step first last rest session step script here _ ih =>
    subst here
    intro cache loaded there keeps
    obtain ⟨next, there', keeps'⟩ := session.keeps_after there keeps step script
    obtain ⟨final, found, held⟩ := ih there' keeps'
    refine ⟨final, found, ?_⟩
    have split : loadedBy ref (session.taken step script :: rest) =
        ((session.taken step script).loaded? ref).toList ++ loadedBy ref rest := by
      cases hl : (session.taken step script).loaded? ref <;> simp [loadedBy, hl]
    rw [split, ← List.append_assoc]
    exact held

/-! ## Caches -/

/-- What a cache shows after some modules were loaded into it. -/
structure ModuleCache.Shows (cache : ModuleCache) (config : SearchConfig)
    (loaded : List (String × TestModule)) : Prop where
  config : cache.config = config
  contains : ∀ name, cache.contains name ↔ ∃ module, (name, module) ∈ loaded
  /-- A name stands for one module. -/
  same : ∀ name m n, (name, m) ∈ loaded → (name, n) ∈ loaded → m = n
  /-- Two names never stand for the same module. -/
  apart : ∀ name other m n, (name, m) ∈ loaded → (other, n) ∈ loaded → name ≠ other → m.id ≠ n.id
  size : cache.size = (loaded.map Prod.fst).dedup.length
  isEmpty : cache.isEmpty ↔ cache.size = 0

/-- How a step does that loads a name into a cache, after some modules were loaded into it. -/
structure Taken.Loads (taken : Taken) (ref : CacheRef) (config : SearchConfig) (name : String)
    (loaded : List (String × TestModule)) : Prop where
  /-- A name that was loaded is there for good, whatever the files are now. -/
  again : ∀ module, (name, module) ∈ loaded →
    taken.answer = .loaded module ∧ taken.after.caches = taken.before.caches
  /-- Failing leaves all caches as they were. -/
  fails : (∀ module, taken.answer ≠ .loaded module) → taken.after.caches = taken.before.caches
  /-- A name that was not loaded is loaded as it is by any other cache of the configuration that
  does not have it, whatever else that has, and by any loader that opens the same file. -/
  first : (∀ module, (name, module) ∉ loaded) →
    ∀ (other : ModuleCache) (loader : Loader), other.config = config → ¬ other.contains name →
      (∀ location, config.locate taken.before.disk name = .ok location →
        loader.OpensLike taken.before.loader taken.before.disk location.library) →
      taken.answer = taken.step.answerTo
        ((other.load taken.before.disk loader name).1.map fun module =>
          { module with id := ⟨taken.before.loader.opened⟩ })

theorem ModuleCache.Keeps.shows {cache : ModuleCache} {config : SearchConfig} {opened : Nat}
    {loaded : List (String × TestModule)} (h : cache.Keeps config opened loaded) :
    cache.Shows config loaded where
  config := h.config
  contains name := by
    rw [ModuleCache.contains, Option.isSome_iff_exists]
    exact exists_congr fun module => h.find?_eq_some_iff name module
  same name m n hm hn := by
    have same := (h.find?_eq_some_iff name m).mpr hm
    rw [(h.find?_eq_some_iff name n).mpr hn] at same
    exact (Option.some.inj same).symm
  apart name other m n hm hn hne hid := by
    obtain ⟨memM, rfl⟩ := (h.mem name m).mp hm
    obtain ⟨memN, rfl⟩ := (h.mem other n).mp hn
    exact hne (congrArg TestModule.name (List.inj_on_of_nodup_map h.ids memM memN hid))
  size := h.size_eq
  isEmpty := by
    rw [ModuleCache.isEmpty, ModuleCache.size, List.isEmpty_iff, List.length_eq_zero_iff]

theorem ModuleCache.Keeps.loads {session : Session} {ref : CacheRef} {cache : ModuleCache}
    {config : SearchConfig} {loaded : List (String × TestModule)} {step : Step} {name : String}
    (h : cache.Keeps config session.loader.opened loaded) (there : session.caches ref = some cache)
    (loads : step.loading? = some (ref, name)) (script : Option Runner) :
    (session.taken step script).Loads ref config name loaded := by
  obtain ⟨answer, stock⟩ := session.perform_loading loads there script
  have unchanged : (cache.load session.disk session.loader name).2.2.1 = cache →
      (session.taken step script).after.caches = session.caches := by
    intro same
    refine (congrArg Stock.caches stock).trans ?_
    rw [session.stock.load_of_cache name there]
    funext r
    by_cases hr : r = ref
    · rw [hr, there]
      exact (if_pos rfl).trans (congrArg some same)
    · exact if_neg hr
  refine ⟨fun module hm => ?_, fun fails => ?_, fun new other loader same absent alike => ?_⟩
  · have found := (h.find?_eq_some_iff name module).mpr hm
    rw [cache.load_of_find? session.disk session.loader name found] at answer unchanged
    exact ⟨answer, unchanged rfl⟩
  · cases outcome : (cache.load session.disk session.loader name).1 with
    | ok module =>
      rw [outcome] at answer
      exact absurd answer (fails module)
    | error fault =>
      have kept := cache.load_of_fails session.disk session.loader name outcome
      exact unchanged (congrArg Prod.fst kept)
  · have lacks := (h.find?_eq_none_iff name).mpr new
    have absent' : other.find? name = none := by
      simpa [ModuleCache.contains] using absent
    refine answer.trans (congrArg step.answerTo ?_)
    rw [← h.config] at same alike
    exact ModuleCache.load_alike same.symm absent' lacks (same ▸ alike)

/-- Once a name was loaded into a cache, it stays there, and is the same module whenever it is
loaded again. That holds at every step of a session, at any depth, and after the last. -/
theorem Session.cache_lasting (session : Session) (ref : CacheRef) (config : SearchConfig)
    (fresh : session.caches ref = some (.ofConfig config)) (steps : List (Step × Option Script)) :
    let taken := session.stepsAll steps
    (∀ pre step post, taken = pre ++ step :: post →
      (∃ cache, step.before.caches ref = some cache ∧
        cache.Shows config (loadedBy ref pre)) ∧
      ∀ name, step.step.loading? = some (ref, name) →
        step.Loads ref config name (loadedBy ref pre)) ∧
    ∃ cache, (session.afterAll steps).caches ref = some cache ∧
      cache.Shows config (loadedBy ref taken) := by
  intro taken
  have leads : session.stock.Leads taken (session.afterAll steps).stock :=
    Session.leads_afterAll steps session
  have start := ModuleCache.Keeps.ofConfig config session.loader.opened
  refine ⟨fun pre step post split => ?_, ?_⟩
  · rw [split] at leads
    obtain ⟨front, script, how⟩ := leads.split
    obtain ⟨cache, there, keeps⟩ := front.keeps fresh start
    refine ⟨⟨cache, there, keeps.shows⟩, fun name loads => ?_⟩
    rw [how]
    exact keeps.loads there loads script
  · obtain ⟨cache, there, keeps⟩ := leads.keeps fresh start
    exact ⟨cache, there, keeps.shows⟩

/-! ## A file that comes and goes -/

/-- Asks for a module before its file is made, and after; a probe of it then removes the file, and asks
for the module again. -/
def Script.comeAndGo : List (Step × Option Script) :=
  let image : Image := ⟨[(Abi.probeSymbol, .scripted), (Abi.setCallbacksSymbol, .helper)]⟩
  let file := Path.ofText "libtest-a.so"
  [(.load (.indexed 0) "a" "a", none),
    (.make [(file, .file (.native image))], none),
    (.require (.indexed 0) "a" "a", none),
    (.probe "a" (some .empty),
      some (.step (.remove file) fun _ => .step (.load (.indexed 0) "a" "b") fun _ => .idle))]

/-- The file fails to load before it is made, and is the same module with it and without it. -/
theorem Session.cache_lasting_removed :
    let config : SearchConfig := ⟨[.ofText "."], SearchConfig.defaultPrefix⟩
    let session := Session.start Disk.empty [config] fun _ => none
    let taken := session.stepsAll Script.comeAndGo
    session.caches (.indexed 0) = some (.ofConfig config) ∧ taken.length = 6 ∧
      (∃ module, loadedBy (.indexed 0) taken = [("a", module), ("a", module)]) ∧
      ∃ cache, (session.afterAll Script.comeAndGo).caches (.indexed 0) = some cache ∧
        cache.contains "a" ∧ cache.size = 1 := by
  intro config session taken
  have fresh : session.caches (.indexed 0) = some (.ofConfig config) := rfl
  have names : (loadedBy (.indexed 0) taken).map Prod.fst = ["a", "a"] := by decide +kernel
  obtain ⟨⟨_, m⟩, rest, loaded, rfl, once⟩ := List.map_eq_cons_iff.mp names
  obtain ⟨⟨_, n⟩, _, rfl, rfl, nothing⟩ := List.map_eq_cons_iff.mp once
  obtain rfl := List.map_eq_nil_iff.mp nothing
  obtain ⟨-, cache, there, shows⟩ :=
    session.cache_lasting (.indexed 0) config fresh Script.comeAndGo
  have hm : ("a", m) ∈ loadedBy (.indexed 0) taken := by simp [loaded]
  have hn : ("a", n) ∈ loadedBy (.indexed 0) taken := by simp [loaded]
  obtain rfl := shows.same "a" m n hm hn
  refine ⟨fresh, by decide +kernel, ⟨m, loaded⟩, cache, there,
    (shows.contains "a").mpr ⟨m, hm⟩, ?_⟩
  rw [shows.size, loaded]
  rfl

/-! ## An object that is known already -/

/-- A disk with a module at the path that another one leads to when its token is filled in. -/
def Disk.tokened : Disk Image :=
  Disk.empty.makeAll
    [(Path.ofText "d/$LIB.so", .file (.bytes [])),
      (Path.ofText "d/lib/x86_64-linux-gnu.so", .file (.native ⟨[(Abi.probeSymbol, .scripted),
        (Abi.setCallbacksSymbol, .helper)]⟩))]

/-- Puts another file in the place of one. -/
def Script.replacing (file : Path) : List (Step × Option Script) :=
  [(.remove file, none), (.make [(file, .file (.bytes []))], none)]

/-- Loading a module before changes no files. -/
theorem Session.disk_load_replacing (session : Session) (ref : CacheRef) (name handle : String)
    (file : Path) :
    (session.afterAll ((.load ref name handle, none) :: Script.replacing file)).disk =
      (session.afterAll (Script.replacing file)).disk := by
  have after (session : Session) : (session.afterAll (Script.replacing file)).disk =
      (session.disk.remove file).makeAll [(file, .file (.bytes []))] := rfl
  have loads : (Step.load ref name handle).loading? = some (ref, name) := rfl
  have stock := session.quiet.stock_perform_loading loads none
  have kept : (session.take (.load ref name handle) none).2.disk = session.disk :=
    (congrArg Stock.disk stock).trans (session.quiet.stock.disk_load ref name)
  rw [afterAll, after, after, kept]

/-- A name that was never loaded is loaded from a file that is no module, where the system loader has
an object by the same path. Nothing is loaded where it has none. -/
theorem Session.loaded_by_known_path :
    let config : SearchConfig := ⟨[Path.ofText "d", Path.ofText "d/lib"], ""⟩
    let session := Session.start Disk.tokened [config] fun _ => none
    let load (name : String) : Step := .load (.indexed 0) name name
    let file := Path.ofText "d/lib/x86_64-linux-gnu.so"
    let known := session.afterAll ((load "$LIB", none) :: Script.replacing file)
    let fresh := session.afterAll (Script.replacing file)
    let loads (session : Session) : Option FileId :=
      match (session.take (load "x86_64-linux-gnu") none).1.outcome.answer with
      | .loaded module => some module.file
      | _ => none
    known.disk = fresh.disk ∧
      (known.caches (.indexed 0)).map (·.modules.map TestModule.name) = some ["$LIB"] ∧
      (fresh.caches (.indexed 0)).map (·.modules.map TestModule.name) = some [] ∧
      loads known = some ⟨1⟩ ∧ loads fresh = none := by
  intro config session load file known fresh loads
  exact ⟨session.disk_load_replacing _ _ _ file, by decide +kernel, by decide +kernel,
    by decide +kernel, by decide +kernel⟩

end HidRig
