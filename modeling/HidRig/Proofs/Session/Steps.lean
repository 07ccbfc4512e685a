import HidRig.Proofs.Session.Acts

/-! # Steps at any depth

Scripts take steps of their session, and those that call modules may run scripts again. What is in
stock for loading modules changes with the steps alone, whatever depth they are taken at.

* `Taken`: a step that was taken, with its answer and the sessions before and after it.
* `Script.steps`, `Session.steps`, `Session.stepsAll`: the steps of a script, of a step with its
  script, and of a whole session.
* `Stock`: the files, open objects and caches of a session, and `Stock.after`: what a step makes of
  them.
* `Stock.Leads`: some steps lead from one stock to another, and `Session.leads_afterAll`: those of a
  session lead to the stock after it.
-/

namespace HidRig

/-- A step that was taken, with its answer and the sessions before and after it. -/
structure Taken where
  before : Session
  step : Step
  answer : Answer
  after : Session

/-- A way to list the steps that a script takes. -/
abbrev Lister := Frame → Session → List Taken

namespace Session

def taken (session : Session) (step : Step) (script : Option Runner) : Taken :=
  let (outcome, after) := session.perform step script
  ⟨session, step, outcome.answer, after⟩

/-- The steps that the code behind an entry point takes. A program of native code takes none. -/
def entrySteps (session : Session) (entry : EntryPoint) (script : Option Lister) (frame : Frame) :
    List Taken :=
  match entry, script with
  | .scripted, some script => script frame session
  | _, _ => []

def callSteps (session : Session) (module : TestModule) (call : Call) (script : Option Lister) :
    List Taken :=
  (session.begun module call).entrySteps (call.entry module) script
    (call.start module session.rig).1

/-- The steps that the code takes that a step runs. -/
def innerSteps (session : Session) (step : Step) (script : Option Lister) : List Taken :=
  match step with
  | .probe handle args =>
    (session.idle? handle).toList.flatMap fun module =>
      args.toList.flatMap fun args => session.callSteps module (.probe args) script
  | .hook handle role data options =>
    (session.idle? handle).toList.flatMap fun module =>
      match module.prepare role data with
      | .error _ => []
      | .ok (payload, entry) =>
        session.callSteps module (.hook role payload entry (options.getD {})) script
  | .direct handle =>
    (session.module? handle).toList.flatMap fun module =>
      script.toList.flatMap fun script => script ⟨module.file, none, none⟩ session
  | _ => []

end Session

/-- The steps that a script takes, each before those that are taken inside of it. -/
def Script.steps : Script → Frame → Session → List Taken
  | .exit _, _, _ => []
  | .call service next, frame, session =>
    let (reply, frame, rig) := session.rig.serve frame service
    (next reply).steps frame { session with rig }
  | .note _ next, frame, session => next.steps frame session
  | .step taken next, frame, session =>
    let (outcome, session') := session.perform taken none
    session.taken taken none ::
      (session.innerSteps taken none ++ (next outcome).steps frame session')
  | .stepWith taken body next, frame, session =>
    let (outcome, session') := session.perform taken (some body.run)
    session.taken taken (some body.run) ::
      (session.innerSteps taken (some body.steps) ++ (next outcome).steps frame session')
  | .thread body next, frame, session =>
    let finish := body.run frame session.onThread
    body.steps frame session.onThread ++
      (next finish.trace).steps finish.frame (session.backFrom finish.session)
  | .lookUp name next, frame, session =>
    let (found, session') := session.lookUp frame.given name
    (next found).steps frame session'
  | .bindName name id next, frame, session => next.steps frame (session.bindName name id)
  | .markReleased id next, frame, session => next.steps frame (session.markReleased id)

namespace Session

def steps (session : Session) (step : Step) (script : Option Script) : List Taken :=
  session.taken step (script.map Script.run) ::
    session.innerSteps step (script.map Script.steps)

/-- The steps of a session at any depth. -/
def stepsAll (session : Session) : List (Step × Option Script) → List Taken
  | [] => []
  | (step, script) :: rest =>
    session.quiet.steps step script ++ (session.take step script).2.stepsAll rest

end Session

/-! ## Stock -/

/-- The cache that a step loads a module into, and the name of the module. -/
def Step.loading? : Step → Option (CacheRef × String)
  | .load ref name _ => some (ref, name)
  | .require ref name _ => some (ref, name)
  | _ => none

/-- What a step that loads a module answers, by the outcome of loading it. -/
def Step.answerTo (step : Step) : Except LoadFault TestModule → Answer
  | .ok module => .loaded module
  | .error fault =>
    match step with
    | .require .. => .failed (.aborted fault)
    | _ => .failed (.load fault)

/-- What modules are loaded from, and where they are kept. -/
structure Stock where
  disk : Disk Image
  loader : Loader
  caches : CacheRef → Option ModuleCache

def Session.stock (session : Session) : Stock :=
  ⟨session.disk, session.loader, session.caches⟩

namespace Stock

def load (stock : Stock) (ref : CacheRef) (name : String) : Stock :=
  match stock.caches ref with
  | none => stock
  | some cache =>
    let (_, _, cache, loader) := cache.load stock.disk stock.loader name
    { stock with loader, caches := fun r => if r = ref then some cache else stock.caches r }

/-- The stock after a step, but for what the code does that the step runs. -/
def after (stock : Stock) : Step → Stock
  | .load ref name _ => stock.load ref name
  | .require ref name _ => stock.load ref name
  | .make items => { stock with disk := stock.disk.makeAll items }
  | .remove path => { stock with disk := stock.disk.remove path }
  | _ => stock

inductive Leads : Stock → List Taken → Stock → Prop
  | done (stock : Stock) : Leads stock [] stock
  | step {first last : Stock} {rest : List Taken} (session : Session) (step : Step)
      (script : Option Runner) (here : session.stock = first)
      (next : Leads (first.after step) rest last) :
      Leads first (session.taken step script :: rest) last

theorem Leads.append {first mid last : Stock} {xs ys : List Taken} (h : Leads first xs mid)
    (k : Leads mid ys last) : Leads first (xs ++ ys) last := by
  induction h with
  | done => exact k
  | step session step script here _ ih => exact .step session step script here (ih k)

theorem Leads.eq_of_nil {first last : Stock} (h : Leads first [] last) : last = first := by
  cases h
  rfl

end Stock

/-- The caches at the start of a session are empty. -/
theorem Session.startCaches_eq {configs : List SearchConfig} {env : String → Option Bytes}
    {ref : CacheRef} {cache : ModuleCache} (there : startCaches configs env ref = some cache) :
    ∃ config, startCaches configs env ref = some (.ofConfig config) := by
  cases ref with
  | indexed i =>
    obtain ⟨config, found, -⟩ := Option.map_eq_some_iff.mp there
    exact ⟨config, congrArg (Option.map ModuleCache.ofConfig) found⟩
  | global => exact ⟨_, rfl⟩

/-! ## Runs -/

/-- The runs of a script, if there is one, lead to their stock by the steps that it takes. -/
def Leading (script : Option Script) : Prop :=
  ∀ body, script = some body → ∀ frame session,
    Stock.Leads session.stock (body.steps frame session) (body.run frame session).session.stock

namespace Session
variable {script : Option Script} (session : Session)

theorem stock_load (ref : CacheRef) (cache : ModuleCache) (name handle : String)
    (found : session.caches ref = some cache) :
    (session.load ref cache name handle).2.stock = session.stock.load ref name := by
  have there : session.stock.caches ref = some cache := found
  unfold Session.load Stock.load
  rw [there]
  dsimp only
  split <;> rfl

theorem leads_runEntry (hs : Leading script) (entry : EntryPoint) (frame : Frame) :
    Stock.Leads session.stock (session.entrySteps entry (script.map Script.steps) frame)
      (session.runEntry entry (script.map Script.run) frame).session.stock := by
  cases entry with
  | code body => exact .done session.stock
  | helper => exact .done session.stock
  | scripted =>
    cases script with
    | none => exact .done session.stock
    | some body => exact hs body rfl frame session

theorem leads_called (hs : Leading script) (module : TestModule) (call : Call) :
    Stock.Leads session.stock (session.callSteps module call (script.map Script.steps))
      (session.called module call script).stock :=
  (session.begun module call).leads_runEntry hs (call.entry module) _

theorem leads_direct (hs : Leading script) (module : TestModule) :
    Stock.Leads session.stock
      ((script.map Script.steps).toList.flatMap fun lister =>
        lister ⟨module.file, none, none⟩ session)
      (session.direct module (script.map Script.run)).2.stock := by
  cases script with
  | none => exact .done session.stock
  | some body =>
    rw [Option.map_some, Option.toList_some, List.flatMap_singleton]
    exact hs body rfl _ session

/-- A step that loads a module answers by the outcome, and goes on with the stock of it. -/
theorem perform_loading {step : Step} {ref : CacheRef} {name : String} {cache : ModuleCache}
    (loads : step.loading? = some (ref, name)) (found : session.caches ref = some cache)
    (script : Option Runner) :
    let taken := session.perform step script
    taken.1.answer = step.answerTo (cache.load session.disk session.loader name).1 ∧
      taken.2.stock = session.stock.load ref name := by
  cases step with
  | load ref name handle | require ref name handle =>
    cases loads
    have kept := session.stock_load ref cache name handle found
    simp only [perform, withCache, found]
    unfold Session.load at kept ⊢
    cases outcome : (cache.load session.disk session.loader name).1 <;>
      simp only [outcome] at kept ⊢ <;> exact ⟨rfl, kept⟩
  | _ => cases loads

/-- A module that is answered was loaded. -/
theorem ok_of_loaded {step : Step} {ref : CacheRef} {name : String} {cache : ModuleCache}
    {module : TestModule} (loads : step.loading? = some (ref, name))
    (found : session.caches ref = some cache) (script : Option Runner)
    (answer : (session.taken step script).answer = .loaded module) :
    (cache.load session.disk session.loader name).1 = .ok module := by
  have outcome := (session.perform_loading loads found script).1.symm.trans answer
  cases result : (cache.load session.disk session.loader name).1 with
  | ok other =>
    rw [result] at outcome
    cases outcome
    rfl
  | error fault =>
    rw [result] at outcome
    cases step <;> cases outcome

theorem perform_loading_of_none {step : Step} {ref : CacheRef} {name : String}
    (loads : step.loading? = some (ref, name)) (absent : session.caches ref = none)
    (script : Option Runner) : session.perform step script = session.reply (.failed .noCache) := by
  cases step with
  | load ref name handle | require ref name handle =>
    cases loads
    simp only [perform, withCache, absent]
  | _ => cases loads

theorem stock_perform_loading {step : Step} {ref : CacheRef} {name : String}
    (loads : step.loading? = some (ref, name)) (script : Option Runner) :
    (session.perform step script).2.stock = session.stock.load ref name := by
  cases hc : session.caches ref with
  | none =>
    have absent : session.stock.caches ref = none := hc
    rw [session.perform_loading_of_none loads hc, Stock.load, absent]
    rfl
  | some cache => exact (session.perform_loading loads hc script).2

/-- The steps inside of a step lead from what the step itself makes of the stock to what is there
after it. -/
theorem leads_innerSteps (hs : Leading script) (step : Step) :
    Stock.Leads (session.stock.after step) (session.innerSteps step (script.map Script.steps))
      (session.perform step (script.map Script.run)).2.stock := by
  let related (steps : List Taken) (after : Session) : Prop :=
    Stock.Leads session.stock steps after.stock
  have refused : related [] session := .done session.stock
  cases step with
  | load ref name handle | require ref name handle =>
    rw [session.stock_perform_loading rfl]
    exact .done _
  | inspect ref names =>
    unfold perform withCache
    dsimp only
    split <;> exact .done session.stock
  | describe handle =>
    unfold perform withModule
    dsimp only
    split <;> exact .done session.stock
  | make items => exact .done _
  | remove path => exact .done _
  | probe handle args =>
    refine session.of_withIdle related refused (fun module => ?_) fun module free => ?_
    · cases args with
      | none => exact refused
      | some args =>
        rw [Option.toList_some, List.flatMap_singleton]
        exact session.leads_called hs module (.probe args)
    · cases args with
      | none => rfl
      | some args => cases free
  | hook handle role data options =>
    exact session.of_hook related refused handle role data options script fun module call =>
      session.leads_called hs module call
  | install handle data =>
    unfold perform withIdle withModule
    dsimp only
    split
    · exact .done session.stock
    · split <;> exact .done session.stock
  | direct handle =>
    exact session.of_withModule related refused fun module => session.leads_direct hs module

theorem leads_perform (hs : Leading script) (step : Step) :
    Stock.Leads session.stock (session.steps step script)
      (session.perform step (script.map Script.run)).2.stock :=
  .step session step _ rfl (session.leads_innerSteps hs step)

end Session

theorem Script.leads : ∀ (script : Script) (frame : Frame) (session : Session),
    Stock.Leads session.stock (script.steps frame session) (script.run frame session).session.stock
  | .exit _, _, session => .done session.stock
  | .call service next, frame, session =>
    (next (session.rig.serve frame service).1).leads (session.rig.serve frame service).2.1
      { session with rig := (session.rig.serve frame service).2.2 }
  | .note _ next, frame, session => next.leads frame session
  | .step taken next, frame, session => by
    have hs : Leading none := nofun
    exact (session.leads_perform hs taken).append ((next _).leads frame _)
  | .stepWith taken body next, frame, session => by
    have hs : Leading (some body) := by
      intro _ h
      cases h
      exact body.leads
    exact (session.leads_perform hs taken).append ((next _).leads frame _)
  | .thread body next, frame, session => by
    have inner := body.leads frame session.onThread
    have rest := (next (body.run frame session.onThread).trace).leads
      (body.run frame session.onThread).frame
      (session.backFrom (body.run frame session.onThread).session)
    exact inner.append rest
  | .lookUp name next, frame, session => by
    have same : (session.lookUp frame.given name).2.stock = session.stock := by
      cases name <;> rfl
    rw [← same]
    exact (next _).leads frame _
  | .bindName name id next, frame, session => next.leads frame (session.bindName name id)
  | .markReleased id next, frame, session => next.leads frame (session.markReleased id)

theorem Session.leads_afterAll : ∀ (steps : List (Step × Option Script)) (session : Session),
    Stock.Leads session.stock (session.stepsAll steps) (session.afterAll steps).stock
  | [], session => .done session.stock
  | (step, script) :: steps, session => by
    have hs : Leading script := fun body _ => body.leads
    exact (session.quiet.leads_perform hs step).append
      (leads_afterAll steps (session.take step script).2)

end HidRig
