import HidRig.Proofs.Session.Course

/-! # Handles

A handle stands for the module that a step gave it last, at whatever depth the step was taken.

* `Taken.bound?`, `boundTo`: the modules that steps gave to handles.
* `Handles.Leads`: some steps lead from some handles to others.
* `Session.handles_perform`, `Handles.course`: so do the steps of a session.
-/

namespace HidRig

/-- The handle that a step bound, with the module. -/
def Taken.bound? (taken : Taken) : Option (String × TestModule) :=
  match taken.step, taken.answer with
  | .load _ _ handle, .loaded module => some (handle, module)
  | .require _ _ handle, .loaded module => some (handle, module)
  | _, _ => none

/-- A step binds a handle only to the module that it answers. -/
theorem Taken.bound?_eq_some {taken : Taken} {handle : String} {module : TestModule}
    (bound : taken.bound? = some (handle, module)) :
    taken.step.loading?.isSome ∧ taken.answer = .loaded module := by
  unfold Taken.bound? at bound
  split at bound
  · rename_i steps answer
    cases bound
    exact ⟨by rw [steps]; rfl, answer⟩
  · rename_i steps answer
    cases bound
    exact ⟨by rw [steps]; rfl, answer⟩
  · cases bound

/-- The handles that steps bound, the last first. -/
def bindings (steps : List Taken) : List (String × TestModule) :=
  (steps.filterMap Taken.bound?).reverse

/-- The module that steps gave to a handle last. -/
def boundTo (handle : String) (steps : List Taken) : Option TestModule :=
  (bindings steps).lookup handle

theorem bindings_cons (taken : Taken) (steps : List Taken) :
    bindings (taken :: steps) = bindings steps ++ taken.bound?.toList := by
  cases bound : taken.bound? <;> simp [bindings, bound]

/-- Some steps lead from some handles to others. -/
inductive Handles.Leads : List (String × TestModule) → List Taken →
    List (String × TestModule) → Prop
  | done (handles : List (String × TestModule)) : Leads handles [] handles
  | step {first last : List (String × TestModule)} {rest : List Taken} (taken : Taken)
      (here : taken.before.handles = first)
      (next : Leads (taken.bound?.toList ++ first) rest last) : Leads first (taken :: rest) last

namespace Handles.Leads
variable {first mid last : List (String × TestModule)} {xs ys : List Taken}

theorem append (h : Leads first xs mid) (k : Leads mid ys last) : Leads first (xs ++ ys) last := by
  induction h with
  | done => exact k
  | step taken here _ ih => exact .step taken here (ih k)

theorem eq_bindings (h : Leads first xs last) : last = bindings xs ++ first := by
  induction h with
  | done => rfl
  | step taken here _ ih => rw [ih, bindings_cons, List.append_assoc]

theorem before_eq {taken : Taken} (h : Leads first (xs ++ taken :: ys) last) :
    taken.before.handles = bindings xs ++ first := by
  induction xs generalizing first with
  | nil =>
    cases h with
    | step _ here _ => exact here
  | cons x xs ih =>
    cases h with
    | step _ _ next => rw [ih next, bindings_cons, List.append_assoc]

end Handles.Leads

/-- A step that runs no code adds the handle that it binds. -/
theorem Session.handles_perform (session : Session) {step : Step} (script : Option Runner)
    (plain : step.runsCode = false) :
    (session.perform step script).2.handles =
      (session.taken step script).bound?.toList ++ session.handles := by
  cases step with
  | load ref name handle | require ref name handle =>
    simp only [taken, Taken.bound?, perform, withCache]
    cases session.caches ref with
    | none => rfl
    | some cache =>
      cases outcome : (cache.load session.disk session.loader name).1 <;>
        simp [Session.load, outcome, reply, setCache]
  | inspect ref names =>
    simp only [taken, Taken.bound?, perform, withCache]
    split <;> rfl
  | describe handle =>
    simp only [taken, Taken.bound?, perform, withModule]
    split <;> rfl
  | install handle data =>
    simp only [taken, Taken.bound?, perform, withIdle, withModule]
    split
    · rfl
    · split <;> rfl
  | make items => rfl
  | remove path => rfl
  | _ => cases plain

theorem Handles.course :
    Session.Course fun s steps t => Handles.Leads s.handles steps t.handles where
  aside _ same := by
    rw [same]
    exact .done _
  append := .append
  plain s step script plain := by
    refine .step _ rfl ?_
    rw [s.handles_perform script plain]
    exact .done _
  around s step script inner code rest := by
    have nothing : (s.taken step script).bound? = none := by
      cases step <;> first | rfl | cases code
    refine .step _ rfl ?_
    rw [nothing]
    exact rest

end HidRig
