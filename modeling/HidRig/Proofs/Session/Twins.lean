import HidRig.Fixture.Basic
import HidRig.Proofs.Session.Exchange
import HidRig.Proofs.Session.Running

/-! # Twins and their locks

The lock of a module goes by the path that the module was opened by, and not by its file, so that
calls of twins need not wait for each other.

* `Session.exchanges_between`: between steps no call is running, and no lock matters.
* `Session.twins_interchangeable`: twins are interchangeable as far as they wait for the same calls.
* `Session.twins_told_apart`: other twins are not.
-/

namespace HidRig

/-! ## Locks -/

namespace Session
variable (session : Session) {handle other : String} {m n : TestModule}

/-- A module whose call is running is not probed. -/
theorem probe_of_begun (here : session.module? handle = some m) (call : Call) (args : ProbeArgs)
    (script : Option Runner) :
    ((session.begun m call).perform (.probe handle (some args)) script).1.answer =
      .failed .busy := by
  have there : (session.begun m call).module? handle = some m := here
  have running : (session.begun m call).isRunning m = true := by
    simp [isRunning, begun, enter]
  simp only [perform, withIdle, withModule, there, running]
  rfl

/-- A module with another lock is. -/
theorem probe_of_begun_other (there : session.module? other = some n)
    (idle : session.isRunning n = false) (apart : m.lock ≠ n.lock) (call : Call)
    (args : ProbeArgs) (script : Option Runner) :
    ∃ outcome, ((session.begun m call).perform (.probe other (some args)) script).1.answer =
      .probed outcome := by
  have found : (session.begun m call).module? other = some n := there
  have running : (session.begun m call).isRunning n = false := by
    unfold isRunning at idle
    simp [isRunning, begun, enter, apart, idle]
  simp only [perform, withIdle, withModule, found, running]
  exact ⟨_, rfl⟩

/-- Between the steps of a session all twins may take the place of each other, where no script comes
along. -/
theorem exchanges_between {session : Session} (start : session.running = [])
    (before : List (Step × Option Script)) {step : Step} (uses : step.handle? = some handle)
    (here : (session.afterAll before).module? handle = some m)
    (there : (session.afterAll before).module? other = some n) (twins : m.Twins n) :
    (session.afterAll before).quiet.Exchanges false step (step.withHandle other) := by
  have idle : (session.afterAll before).quiet.running = [] :=
    (session.running_afterAll before).trans start
  exact .twin uses here there twins (.of_idle idle step m n)

/-- A step leaves the tables of other files alone, but for those that its code calls. Twins may take
the place of each other in any steps for which they wait alike, and only the names in the reports
change. While a call is running, just the modules with its lock are kept from being called, so that
twins with other locks are told apart. -/
theorem twins_interchangeable (reachable : session.Reachable) :
    (∀ step script file,
      (∀ module, session.worksOn? step = some module → module.file ≠ file) →
      file ∉ session.filesInside step script →
      (session.perform step (script.map Script.run)).2.rig.tables file =
        session.rig.tables file) ∧
    (∀ steps steps', session.Exchanged steps steps' →
      (session.takeAll steps').map StepReport.anonymous =
        (session.takeAll steps).map StepReport.anonymous) ∧
    ∀ handle other m n, session.module? handle = some m → session.module? other = some n →
      session.isRunning n = false → m.lock ≠ n.lock → ∀ call args script,
      ((session.begun m call).perform (.probe handle (some args)) script).1.answer =
          .failed .busy ∧
        ∃ outcome, ((session.begun m call).perform (.probe other (some args)) script).1.answer =
          .probed outcome := by
  refine ⟨session.tables_elsewhere, fun steps steps' exchanged => ?_, ?_⟩
  · exact exchanged.takeAll reachable.backed (.refl session)
  · intro handle other m n here there idle apart call args script
    exact ⟨session.probe_of_begun here call args script,
      session.probe_of_begun_other there idle apart call args script⟩

/-! ## Three ways to one file -/

/-- A disk with a module and its document in a directory, a link to the directory, and the document
once more in the working directory. -/
def twofold : Disk Image :=
  let document := Utf8.encode "[[\"x/rdesc_fixup\",\"entry\"],[\"x/device_event\",\"entry\"]]"
  let image := Fixture.imageOf [(Abi.probeSymbol, .scripted), ("entry", .scripted)]
  Disk.empty.makeAll
    [(Path.ofText "d/libtest-a.so", .file (.native image)),
      (Path.ofText "d/libtest-a.json", .file (.bytes document)),
      (Path.ofText "libtest-a.json", .file (.bytes document)),
      (Path.ofText "l", .link (Path.ofText "d"))]

/-- The module loaded from the directory, by the link, and by the system loader. -/
@[irreducible] def threefold : Session :=
  let configs : List SearchConfig :=
    [⟨[Path.ofText "d"], SearchConfig.defaultPrefix⟩,
      ⟨[Path.ofText "l"], SearchConfig.defaultPrefix⟩, .default]
  let env (name : String) : Option Bytes :=
    if name = SearchConfig.fallbackVariable then some (Path.ofText "d") else none
  (start twofold configs env).afterAll
    [(.load (.indexed 0) "a" "a", none), (.load (.indexed 1) "a" "b", none),
      (.load (.indexed 2) "a" "c", none)]

theorem threefold_reachable : threefold.Reachable := by
  unfold threefold
  exact (Reachable.start _ _ _ _ _).afterAll _

theorem threefold_idle : threefold.running = [] := by
  unfold threefold
  exact running_afterAll _ _

/-- Three handles stand for twins, of which the first two have one lock. -/
structure Trio (session : Session) (a b c : TestModule) : Prop where
  first : session.module? "a" = some a
  second : session.module? "b" = some b
  third : session.module? "c" = some c
  near : a.Twins b
  lock : a.lock = b.lock
  far : a.Twins c
  apart : a.lock ≠ c.lock
  file : a.file = ⟨0⟩

theorem Trio.quiet {session : Session} {a b c : TestModule} (h : session.Trio a b c) :
    session.quiet.Trio a b c :=
  { h with }

def isTrio (session : Session) : Bool :=
  (session.module? "a").any fun a =>
    (session.module? "b").any fun b =>
      (session.module? "c").any fun c =>
        decide (a.Twins b ∧ a.lock = b.lock ∧ a.Twins c ∧ a.lock ≠ c.lock ∧ a.file = ⟨0⟩)

theorem exists_trio (session : Session) (found : session.isTrio = true) :
    ∃ a b c, session.Trio a b c := by
  obtain ⟨a, first, found⟩ := (Option.any_eq_true _ _).mp found
  obtain ⟨b, second, found⟩ := (Option.any_eq_true _ _).mp found
  obtain ⟨c, third, found⟩ := (Option.any_eq_true _ _).mp found
  obtain ⟨near, lock, far, apart, file⟩ := of_decide_eq_true found
  exact ⟨a, b, c, first, second, third, near, lock, far, apart, file⟩

theorem threefold_trio : ∃ a b c, threefold.Trio a b c :=
  exists_trio threefold (by decide +kernel)

/-- A script that looks at its data before and after it probes a module. -/
def prying (handle : String) : Script :=
  .getData 0 2 (.nested (.probe handle (some .empty)) none (.getData 0 2 .idle))

theorem Trio.exchanged {session s : Session} {a b c : TestModule} (h : session.Trio a b c)
    {step : Step} {frame : Frame} (starts : session.Starts step frame s) :
    Script.Exchanged frame s (prying "a") (prying "b") := by
  have here : s.module? "a" = some a := (starts.module? "a").trans h.first
  have there : s.module? "b" = some b := (starts.module? "b").trans h.second
  refine .getData fun frame rig => .nested ?_ (.getData fun _ _ => .exit 0)
  exact .twin rfl here there h.near (.of_lock h.lock _ _ _)

/-- Twins with one lock may pry into each other, and all twins may stand in for each other where no
call is running. -/
theorem twins_interchangeable_threefold :
    let event (handle : String) : Step := .hook handle .deviceEvent (some [1, 2]) none
    let steps : List (Step × Option Script) :=
      [(event "a", some (prying "a")), (.install "a" (some [7]), none),
        (.direct "a", some (prying "a"))]
    let steps' : List (Step × Option Script) :=
      [(event "b", some (prying "b")), (.install "c" (some [7]), none),
        (.direct "c", some (prying "b"))]
    (threefold.Reachable ∧ threefold.Exchanged steps steps' ∧
      threefold.filesInside (event "a") (some (prying "c")) = [⟨0⟩]) ∧
    (threefold.perform (event "a") (some (prying "c").run)).2.rig.tables ⟨1⟩ =
      threefold.rig.tables ⟨1⟩ ∧
    (threefold.takeAll steps').map StepReport.anonymous =
      (threefold.takeAll steps).map StepReport.anonymous ∧
    ∃ a b c, threefold.Trio a b c ∧
      ∃ outcome, ((threefold.begun a (.probe .empty)).perform (.probe "c" (some .empty))
        none).1.answer = .probed outcome := by
  intro event steps steps'
  let first := (threefold.take (event "a") (some (prying "a"))).2
  let second := (first.take (.install "a" (some [7])) none).2
  obtain ⟨elsewhere, reports, pried⟩ := threefold.twins_interchangeable threefold_reachable
  obtain ⟨a, b, c, trio⟩ := threefold_trio
  have exchanged : threefold.Exchanged steps steps' := by
    obtain ⟨_, _, _, trio₁⟩ := exists_trio first (by decide +kernel)
    obtain ⟨_, _, _, trio₂⟩ := exists_trio second (by decide +kernel)
    refine .cons ?_ (.some fun _ _ => trio.quiet.exchanged) (.cons ?_ .none
      (.cons ?_ (.some fun _ _ => trio₂.quiet.exchanged) (.nil _)))
    · exact .twin rfl trio.quiet.first trio.quiet.second trio.near (.of_lock trio.lock _ _ _)
    · exact exchanges_between threefold_idle [(event "a", some (prying "a"))] rfl trio₁.first
        trio₁.third trio₁.far
    · exact .twin rfl trio₂.quiet.first trio₂.quiet.third trio₂.far (.of_direct _ _ _ _ _)
  have inside : threefold.filesInside (event "a") (some (prying "c")) = [⟨0⟩] := by decide +kernel
  have other : ∀ module, threefold.worksOn? (event "a") = some module → module.file ≠ ⟨1⟩ := by
    intro module works
    have found : threefold.module? "a" = some module := works
    obtain rfl := Option.some.inj (trio.first.symm.trans found)
    rw [trio.file]
    decide
  have idle : threefold.isRunning c = false := by
    rw [isRunning, threefold_idle]
    rfl
  refine ⟨⟨threefold_reachable, exchanged, inside⟩, ?_, reports steps steps' exchanged, a, b, c,
    trio, ?_⟩
  · exact elsewhere (event "a") (some (prying "c")) ⟨1⟩ other (by rw [inside]; decide)
  · exact (pried "a" "c" a c trio.first trio.third idle trio.apart (.probe .empty) .empty none).2

/-- The bytes that a line of a trace shows. -/
def shownBytes? : Note → Option Bytes
  | .bytes bytes => some bytes
  | _ => none

/-- Twins with other locks are told apart by a script that pries into them: only the module that is
running is kept from being called, and the script loses its table to the call of the other. -/
theorem twins_told_apart :
    let event (handle : String) :=
      (threefold.take (.hook "a" .deviceEvent (some [1, 2]) none) (some (prying handle))).1
    (∃ m n, threefold.module? "a" = some m ∧ threefold.module? "c" = some n ∧ m.Twins n) ∧
      (event "c").anonymous ≠ (event "a").anonymous := by
  intro event
  obtain ⟨a, b, c, trio⟩ := threefold_trio
  have own : (event "a").anonymous.outcome.trace.map (·.map shownBytes?) =
      some [some [1, 2], none, some [1, 2]] := by decide +kernel
  have others : (event "c").anonymous.outcome.trace.map (·.map shownBytes?) =
      some [some [1, 2], none, none] := by decide +kernel
  refine ⟨⟨a, c, trio.first, trio.third, trio.far⟩, fun same => ?_⟩
  rw [same, own] at others
  cases others

end Session

end HidRig
