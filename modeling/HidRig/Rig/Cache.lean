import HidRig.Rig.Loader

/-! # Caches of modules

* `ModuleCache`: the modules loaded with a configuration, by name.
* `ModuleCache.find?`, `ModuleCache.insert`: a module is kept for good once it is loaded.
* `ModuleCache.load`: the module with a name, opened if it is not there yet.
-/

namespace HidRig

structure ModuleCache where
  config : SearchConfig
  /-- The modules in the order of loading, each name once. -/
  modules : List TestModule

namespace ModuleCache

def ofConfig (config : SearchConfig) : ModuleCache := ⟨config, []⟩

def find? (cache : ModuleCache) (name : String) : Option TestModule :=
  cache.modules.find? fun m => m.name = name

def contains (cache : ModuleCache) (name : String) : Bool :=
  (cache.find? name).isSome

def insert (cache : ModuleCache) (module : TestModule) : ModuleCache :=
  { cache with modules := cache.modules ++ [module] }

/-- The module with a name, with what is reported and the cache and loader afterwards. A module that
cannot be opened leaves no trace. -/
def load (cache : ModuleCache) (disk : Disk Image) (loader : Loader) (name : String) :
    Except LoadFault TestModule × List Event × ModuleCache × Loader :=
  match cache.find? name with
  | some module => (.ok module, [.cacheHit name], cache, loader)
  | none =>
    match TestModule.open cache.config disk loader name with
    | .error fault => (.error fault, [], cache, loader)
    | .ok (module, events, loader) =>
      (.ok module, events ++ [.loaded name module.path module.debug], cache.insert module, loader)

def size (cache : ModuleCache) : Nat :=
  cache.modules.length

def isEmpty (cache : ModuleCache) : Bool :=
  cache.modules.isEmpty

def sortedNames (cache : ModuleCache) : List String :=
  (cache.modules.map TestModule.name).mergeSort fun a b => !decide (b < a)

def debug (cache : ModuleCache) : String :=
  Text.record "ModuleCache"
    [("config", cache.config.debug),
      ("modules", Text.list (cache.sortedNames.map Text.quote))]

end ModuleCache

end HidRig
