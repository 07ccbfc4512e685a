import HidRig.Proofs.Rig.Change
import HidRig.Proofs.Session.Chronicle

/-! # Tables between calls

No table points at a buffer of a call that is over. Between the steps of a session no call is
recorded as running, and the table of a file is told by what was done to it last.

* `Touch`: what is done to the table of a file, and `touches`: all that a record does to it.
* `Settles`: the table of a file after all that was done to it.
* `Session.tables_settled`: the state between the steps of a session.
-/

namespace HidRig

/-! ## What is done to a table -/

/-- What is done to the table of a file. -/
inductive Touch where
  /-- A table is installed outside of calls. -/
  | installed (table : ServiceTable)
  | entered
  | left
deriving DecidableEq, Repr

mutual

/-- What an act does to the table of a file, in order. -/
def Act.touches (file : FileId) : Act → List Touch
  | .served .. => []
  | .installed _ place table => if place = file then [.installed table] else []
  | .called _ module _ acts =>
    if module.file = file then .entered :: (touches file acts ++ [.left]) else touches file acts
  | .ran _ acts => touches file acts
  | .threaded _ acts => touches file acts

/-- What the acts of a record do to the table of a file, in order. -/
def touches (file : FileId) : List Act → List Touch
  | [] => []
  | act :: acts => act.touches file ++ touches file acts

end

/-- The table of a file after all that was done to it. It is the table from before, or that
installed last with no call since, or the disarmed table if a call was last. -/
inductive Settles (table : ServiceTable) : List Touch → ServiceTable → Prop
  | untouched : Settles table [] table
  | installed (touches : List Touch) (last : ServiceTable) :
      Settles table (touches ++ [.installed last]) last
  | left (touches : List Touch) : Settles table (touches ++ [.left]) .disarmed

namespace Settles
variable {a b c : ServiceTable} {xs ys : List Touch}

theorem append (h : Settles a xs b) (k : Settles b ys c) : Settles a (xs ++ ys) c := by
  cases k with
  | untouched => rw [List.append_nil]; exact h
  | installed ys => rw [← List.append_assoc]; exact .installed (xs ++ ys) c
  | left ys => rw [← List.append_assoc]; exact .left (xs ++ ys)

theorem call (a : ServiceTable) (xs : List Touch) :
    Settles a (.entered :: (xs ++ [.left])) .disarmed :=
  .left (.entered :: xs)

theorem of_left (h : Settles a xs b) (hl : xs.getLast? = some .left) : b = .disarmed := by
  cases h with
  | untouched => simp at hl
  | installed xs => simp at hl
  | left => rfl

end Settles

/-! ## Records -/

namespace Chronicle
variable {file : FileId} {r t : Rig} {acts : List Act}

/-- Calls that are over leave a thread as if they had never been. -/
theorem idle (h : Chronicle file r acts t) (hr : r.armed = none) : t.armed = none := by
  induction h with
  | done aside => exact aside.armed.trans hr
  | served aside frame service _ _ ih =>
    exact ih (Rig.serve_idle (aside.armed.trans hr) frame service)
  | installed aside _ _ installs _ ih => exact ih (installs.armed.trans (aside.armed.trans hr))
  | called _ module call code frame _ _ _ ih => exact ih (call.finish_armed ..)
  | ran aside _ _ inner ih => exact ih (inner (aside.armed.trans hr))
  | threaded aside _ _ _ ih => exact ih (aside.armed.trans hr)

theorem settles (h : Chronicle file r acts t) (f : FileId) :
    Settles (r.tables f) (touches f acts) (t.tables f) := by
  induction h with
  | done aside => rw [aside.tables]; exact .untouched
  | served aside frame service _ _ ih =>
    rw [Rig.serve_tables, aside.tables] at ih
    exact ih
  | @installed _ r s u _ _ aside place table installs _ ih =>
    rw [touches, Act.touches]
    refine Settles.append ?_ ih
    rw [installs.tables, ← aside.tables]
    by_cases hf : place = f
    · simpa [hf] using Settles.installed [] table
    · simpa [hf, Ne.symm hf] using Settles.untouched
  | @called _ r s e _ inner _ aside module call code frame _ _ ihBody ih =>
    rw [touches, Act.touches]
    refine Settles.append ?_ ih
    rw [Call.finish_tables, ← aside.tables]
    rw [Call.start_tables] at ihBody
    by_cases hf : module.file = f
    · simpa [hf] using Settles.call (s.tables f) (touches f inner)
    · simpa [hf, Ne.symm hf] using ihBody
  | ran aside _ _ ihBody ih =>
    rw [touches, Act.touches, ← aside.tables]
    exact ihBody.append ih
  | threaded aside _ _ ihBody ih =>
    rw [touches, Act.touches, ← aside.tables]
    exact ihBody.append ih

end Chronicle

/-! ## Sessions -/

/-- Between the steps of a session no call runs, and every file has the table that it started with,
or that installed last with no call since, or the disarmed table. A file whose last touch was a call
hands out nothing. -/
theorem Session.tables_settled (system : SystemLoader) (allocator : Allocator) (disk : Disk Image)
    (configs : List SearchConfig) (env : String → Option Bytes)
    (steps : List (Step × Option Script)) :
    let start := Session.startWith system allocator disk configs env
    let rig := (start.afterAll steps).rig
    let touched := fun file => touches file (start.actsAll steps)
    rig.armed = none ∧
      (∀ file, Settles .initial (touched file) (rig.tables file)) ∧
      ∀ file, (touched file).getLast? = some .left →
        rig.tables file = .disarmed ∧
        (∀ offset size, rig.getData file offset size = none) ∧
        (∀ hid, rig.allocate file hid = (none, rig.report (.strayAllocation hid))) ∧
        (∀ id, rig.release file (some id) = rig.report .strayRelease) ∧
        ∀ ctx data length reportType requestKind,
          rig.request file ctx data length reportType requestKind =
            ((-Abi.eio, data), rig.report (.strayRequest reportType requestKind)) := by
  intro start rig touched
  have h : Chronicle ⟨0⟩ start.rig (start.actsAll steps) rig :=
    Session.chronicle_afterAll ⟨0⟩ steps start
  have idle : rig.armed = none := h.idle rfl
  refine ⟨idle, fun file => h.settles file, ?_⟩
  intro file hleft
  have table : rig.tables file = .disarmed := (h.settles file).of_left hleft
  have filled : (rig.tables file).Filled := table ▸ ServiceTable.filled_disarmed
  refine ⟨table, ?_, Rig.allocate_of_idle filled idle, Rig.release_of_idle filled idle, ?_⟩
  · intro offset size
    rw [Rig.getData, table, ServiceTable.grants_of_data_none rfl]
    rfl
  · intro ctx data length reportType requestKind
    exact Rig.request_of_idle ctx data length reportType requestKind filled idle

end HidRig
