import HidRig.Rig.UsualLoader
import HidRig.Session.Step

/-! # The state of a session

* `Session`: the rig with the files, caches and handles of a test.
* `Session.lookUp`: the context that a script means by a name.
* `Session.enter`, `Session.leave`: the calls that are running.
-/

namespace HidRig

structure CallId where
  number : Nat
deriving DecidableEq, Repr

structure RunningCall where
  id : CallId
  lock : LockKey
deriving DecidableEq, Repr

/-- A context that a script has a name for. -/
structure NamedContext where
  id : ContextId
  /-- The innermost call when the context was asked for. -/
  owner : Option CallId
  released : Bool
deriving DecidableEq, Repr

inductive ContextName where
  | self
  | null
  /-- A context that the rig knows nothing of, another one each time. -/
  | foreign
  | named (name : String)
deriving DecidableEq, Repr

def ContextName.text : ContextName → String
  | self => "self"
  | null => "null"
  | foreign => "foreign"
  | named name => name

def foreignIndex : UInt32 := 48879

structure FoundContext where
  ref : ContextRef
  live : Bool
deriving DecidableEq, Repr

structure Session where
  /-- The tables, memory and record of native code. -/
  rig : Rig
  disk : Disk Image
  loader : Loader
  caches : CacheRef → Option ModuleCache
  /-- The loaded modules by handle, the last loaded first. -/
  handles : List (String × TestModule)
  /-- The contexts that scripts have names for, the last named first. -/
  names : List (String × NamedContext)
  running : List RunningCall
  callCount : Nat

namespace Session

/-- The caches at the start: those of the given configurations, and one configured by the
environment. -/
def startCaches (configs : List SearchConfig) (env : String → Option Bytes) :
    CacheRef → Option ModuleCache
  | .indexed i => configs[i]?.map ModuleCache.ofConfig
  | .global => some (.ofConfig (.ofLookup env))

/-- A session at its start, on a system with the given loader and allocator. -/
def startWith (system : SystemLoader) (allocator : Allocator) (disk : Disk Image)
    (configs : List SearchConfig) (env : String → Option Bytes) : Session where
  rig := .initial allocator
  disk := disk
  loader := .initial system
  caches := startCaches configs env
  handles := []
  names := []
  running := []
  callCount := 0

/-- A session at its start, with the usual loader as the environment sets it up. -/
def start (disk : Disk Image) (configs : List SearchConfig) (env : String → Option Bytes) :
    Session :=
  startWith (UsualLoader.ofVariable (env SearchConfig.fallbackVariable)).system .counting disk
    configs env

def module? (session : Session) (handle : String) : Option TestModule :=
  session.handles.lookup handle

def setCache (session : Session) (ref : CacheRef) (cache : ModuleCache) : Session :=
  { session with caches := fun r => if r = ref then some cache else session.caches r }

/-! ## Running calls -/

def isRunning (session : Session) (module : TestModule) : Bool :=
  session.running.any fun call => call.lock = module.lock

def enter (session : Session) (module : TestModule) : Session :=
  { session with
    running := ⟨⟨session.callCount⟩, module.lock⟩ :: session.running
    callCount := session.callCount + 1 }

def leave (session : Session) : Session :=
  { session with running := session.running.tail }

/-! ## Names of contexts -/

/-- Names a context, as of the innermost call. -/
def bindName (session : Session) (name : String) (id : ContextId) : Session :=
  let owner := session.running.head?.map RunningCall.id
  { session with names := (name, ⟨id, owner, false⟩) :: session.names }

/-- Notes that a script gave a context back. -/
def markReleased (session : Session) (id : ContextId) : Session :=
  { session with
    names := session.names.map fun n =>
      if n.2.id = id then (n.1, { n.2 with released := true }) else n }

/-- Whether the memory of a named context may be used: until it is given back, or its call ends. -/
def isLive (session : Session) (context : NamedContext) : Bool :=
  !context.released && session.running.any fun call => some call.id = context.owner

/-- The context that a script means by a name. -/
def lookUp (session : Session) (given : ContextRef) : ContextName → Option FoundContext × Session
  | .self => (some ⟨given, given.isSome⟩, session)
  | .null => (some ⟨none, false⟩, session)
  | .foreign =>
    let (id, rig) := session.rig.newContext (.forIndex foreignIndex)
    (some ⟨some id, true⟩, { session with rig })
  | .named name =>
    ((session.names.lookup name).map fun context => ⟨some context.id, session.isLive context⟩,
      session)

end Session

end HidRig
