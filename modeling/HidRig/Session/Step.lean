import HidRig.Rig.Cache
import HidRig.Rig.Invoke

/-! # The steps of a session

* `Step`: what a test can do: load modules, call them, look at caches, and change files.
* `Answer`: what a step yields, with `StepFault` for a step that cannot be taken.
* `Note`: one line of the trace that a script leaves.
-/

namespace HidRig

inductive CacheRef where
  | indexed (index : Nat)
  | global
deriving DecidableEq, Repr

/-- A step of a session. Loaded modules are known by handles. -/
inductive Step where
  | load (cache : CacheRef) (name handle : String)
  /-- Loads a module that has to be there. -/
  | require (cache : CacheRef) (name handle : String)
  /-- Looks at a cache, and whether it has modules of some names. -/
  | inspect (cache : CacheRef) (names : List String)
  | describe (handle : String)
  | make (items : List (Path × Disk.Item Image))
  | remove (path : Path)
  /-- Probes a module. No argument is there if a descriptor does not fit. -/
  | probe (handle : String) (args : Option ProbeArgs)
  | hook (handle : String) (role : Role) (data : Option Bytes) (options : Option InvokeOptions)
  /-- Installs a table without functions, over a buffer if data are given. -/
  | install (handle : String) (data : Option Bytes)
  /-- Runs code of a module outside of any call. -/
  | direct (handle : String)

inductive StepFault where
  | noHandle (handle : String)
  /-- The module is in a call, and would wait for itself. -/
  | busy
  | load (fault : LoadFault)
  /-- The test was given up because a module could not be loaded. -/
  | aborted (fault : LoadFault)
  | noCache
deriving DecidableEq, Repr

inductive Answer where
  | nothing
  | loaded (module : TestModule)
  | described (module : TestModule)
  /-- A cache, and whether it has the names asked for. -/
  | cache (cache : ModuleCache) (has : List Bool)
  | probed (outcome : Except InvocationFault ProbeArgs)
  /-- The outcome of a hook of which only the data are wanted. -/
  | patched (outcome : Except InvocationFault (Option Bytes))
  | hooked (outcome : Except InvocationFault Invocation)
  | installed (hasData : Bool)
  | ran
  | failed (fault : StepFault)

inductive Note where
  | null
  | done
  /-- A range was granted that is too large to be one. -/
  | wrapped
  | bytes (bytes : Bytes)
  | context (ctx : HookContext)
  | request (code : Int32) (data : Option Bytes)
  | args (args : ProbeArgs)
  | noContext (name : String)
  | stale (name : String)
  /-- The answer to a nested step that ran no script. -/
  | step (answer : Answer)
  /-- The answer to a nested step, with the trace of its script. -/
  | scripted (answer : Answer) (trace : List Note)
  | thread (trace : List Note)

/-- The answer to a step, with the trace if it ran a script. -/
structure Outcome where
  answer : Answer
  trace : Option (List Note)

def Outcome.note (outcome : Outcome) : Note :=
  match outcome.trace with
  | none => .step outcome.answer
  | some trace => .scripted outcome.answer trace

end HidRig
