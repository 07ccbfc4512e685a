import HidRig.Proofs.Buffers.Turns

/-! # Tables elsewhere

A step works on the table of one file, and the code that it runs on those of the files that it calls
in its turn. All other tables are as before.

* `Act.files`, `filesOf`: the files that a record calls or installs a table in.
* `Step.handle?`: the handle of the module that a step works on.
* `Session.tables_elsewhere`: a step leaves the tables of other files alone.
-/

namespace HidRig

mutual

/-- The files that are called or given a table, at any depth. -/
def Act.files : Act → List FileId
  | .served .. => []
  | .installed _ file _ => [file]
  | .called _ module _ acts => module.file :: filesOf acts
  | .ran _ acts => filesOf acts
  | .threaded _ acts => filesOf acts

def filesOf : List Act → List FileId
  | [] => []
  | act :: acts => act.files ++ filesOf acts

end

/-- What the code did that was run. -/
def Act.inside : Act → List Act
  | .called _ _ _ acts => acts
  | .ran _ acts => acts
  | .threaded _ acts => acts
  | _ => []

/-- The handle of the module that a step works on. -/
def Step.handle? : Step → Option String
  | .probe handle _ | .hook handle .. | .install handle _ | .direct handle => some handle
  | _ => none

mutual

theorem Act.touches_of_files (file : FileId) : ∀ act : Act, file ∉ act.files → act.touches file = []
  | .served .., _ => rfl
  | .installed _ place _, away => by
    have other : place ≠ file := fun same => away (by simp [Act.files, same])
    exact if_neg other
  | .called _ module _ acts, away => by
    have other : module.file ≠ file := fun same => away (by simp [Act.files, same])
    have inner : file ∉ filesOf acts := fun there => away (List.mem_cons_of_mem _ there)
    rw [Act.touches, if_neg other]
    exact touches_of_filesOf file acts inner
  | .ran _ acts, away => touches_of_filesOf file acts away
  | .threaded _ acts, away => touches_of_filesOf file acts away

theorem touches_of_filesOf (file : FileId) : ∀ acts : List Act, file ∉ filesOf acts →
    touches file acts = []
  | [], _ => rfl
  | act :: acts, away => by
    have first : file ∉ act.files := fun there => away (List.mem_append_left _ there)
    have rest : file ∉ filesOf acts := fun there => away (List.mem_append_right _ there)
    rw [touches, act.touches_of_files file first, touches_of_filesOf file acts rest,
      List.append_nil]

end

theorem mem_filesOf {file : FileId} {acts : List Act} :
    file ∈ filesOf acts ↔ ∃ act ∈ acts, file ∈ act.files := by
  induction acts with
  | nil => simp [filesOf]
  | cons act acts ih => simp [filesOf, ih]

namespace Session
variable (session : Session) (step : Step) (script : Option Script)

/-- The files that the code of a step calls or gives a table. -/
def filesInside : List FileId :=
  filesOf ((session.acts step script).flatMap Act.inside)

/-- The module that a step works on, if it is there. -/
def worksOn? : Option TestModule :=
  step.handle?.bind session.module?

theorem module?_of_idle? {handle : String} {module : TestModule}
    (idle : session.idle? handle = some module) : session.module? handle = some module :=
  (Option.filter_eq_some_iff.mp idle).1

/-- What is recorded of a step is about the module that it works on, and what is inside. -/
theorem files_of_mem_acts {act : Act} (member : act ∈ session.acts step script) :
    ∃ module, session.worksOn? step = some module ∧
      act.files ⊆ module.file :: filesOf act.inside := by
  cases step with
  | load | require | inspect | describe | make | remove => cases member
  | probe handle args =>
    obtain ⟨module, idle, called⟩ := List.mem_flatMap.mp member
    obtain ⟨_, -, rfl⟩ := List.mem_map.mp called
    exact ⟨module, session.module?_of_idle? (Option.mem_toList.mp idle), List.Subset.refl _⟩
  | hook handle role data options =>
    obtain ⟨module, idle, called⟩ := List.mem_flatMap.mp member
    split at called
    · cases called
    · obtain rfl := List.mem_singleton.mp called
      exact ⟨module, session.module?_of_idle? (Option.mem_toList.mp idle), List.Subset.refl _⟩
  | install handle data =>
    obtain ⟨module, idle, installed⟩ := List.mem_flatMap.mp member
    obtain rfl := List.mem_singleton.mp installed
    exact ⟨module, session.module?_of_idle? (Option.mem_toList.mp idle), List.Subset.refl _⟩
  | direct handle =>
    obtain ⟨module, here, ran⟩ := List.mem_flatMap.mp member
    obtain ⟨_, -, rfl⟩ := List.mem_map.mp ran
    exact ⟨module, Option.mem_toList.mp here, List.subset_cons_self _ _⟩

/-- A step leaves the tables of files alone that it does not work on, if its code does not either. -/
theorem tables_elsewhere (file : FileId)
    (other : ∀ module, session.worksOn? step = some module → module.file ≠ file)
    (away : file ∉ session.filesInside step script) :
    (session.perform step (script.map Script.run)).2.rig.tables file = session.rig.tables file := by
  have untouched : file ∉ filesOf (session.acts step script) := by
    intro member
    obtain ⟨act, there, its⟩ := mem_filesOf.mp member
    obtain ⟨module, works, within⟩ := session.files_of_mem_acts step script there
    rcases List.mem_cons.mp (within its) with same | inside
    · exact other module works same.symm
    · obtain ⟨nested, its, later⟩ := mem_filesOf.mp inside
      exact away (mem_filesOf.mpr ⟨nested, List.mem_flatMap.mpr ⟨act, there, its⟩, later⟩)
  have runs : Chronicled script := fun body _ => body.chronicle
  have chronicle := session.chronicle_perform runs ⟨0⟩ step
  exact chronicle.tables_of_touches_nil (touches_of_filesOf file _ untouched)

end Session

end HidRig
