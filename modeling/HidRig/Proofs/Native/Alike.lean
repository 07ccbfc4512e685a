import HidRig.Native.Service
import Mathlib.Logic.Relator

/-! # Programs alike but for addresses

Two programs of native code are alike if they take the same steps, each on contexts and buffers that
stand for each other, as long as they get the same answers in this sense. A program that is like
itself takes addresses only from its answers, and does nothing with them but pass them on and compare
them.

Which contexts stand for each other changes over a run. A context that was given back may be in the
way of the next one, which can get its address in one run and not in the other.

* `Renaming`: addresses that stand for each other, one for one.
* `Pairing`: the contexts that stand for each other at some point of two runs.
* `Recall`: how long a context is known after it was given back.
* `Service.Alike`, `Service.Leads`: steps alike, their answers and the contexts known after them.
* `Native.Alike`: programs alike.
* `Native.SelfContained`: a program that depends on no address.
-/

namespace HidRig

/-- Which addresses of one run stand for which of another, one for one. -/
structure Renaming (α : Type) where
  rel : α → α → Prop
  unique : Relator.BiUnique rel

namespace Renaming
variable {α : Type}

instance : CoeFun (Renaming α) fun _ => α → α → Prop := ⟨rel⟩

theorem iff (ren : Renaming α) {i i' j j' : α} (h : ren i j) (h' : ren i' j') :
    i = i' ↔ j = j' := by
  constructor
  · rintro rfl
    exact ren.unique.2 h h'
  · rintro rfl
    exact ren.unique.1 h h'

/-- Nothing stands for anything. -/
def empty : Renaming α :=
  ⟨fun _ _ => False, nofun, nofun⟩

/-- A part of a renaming, and a pair that it leaves room for. -/
def extend (ren : Renaming α) (part : α → α → Prop) (le : ∀ x y, part x y → ren x y) (i j : α)
    (room : ∀ x y, part x y → (x = i ↔ y = j)) : Renaming α where
  rel x y := part x y ∨ x = i ∧ y = j
  unique := by
    constructor
    · rintro x y z (h | ⟨rfl, rfl⟩) (k | ⟨rfl, same⟩)
      · exact ren.unique.1 (le _ _ h) (le _ _ k)
      · exact (room _ _ h).mpr same
      · exact ((room _ _ k).mpr rfl).symm
      · rfl
    · rintro x y z (h | ⟨rfl, rfl⟩) (k | ⟨same, rfl⟩)
      · exact ren.unique.2 (le _ _ h) (le _ _ k)
      · exact (room _ _ h).mp same
      · exact ((room _ _ k).mp rfl).symm
      · rfl

end Renaming

/-- The same place in buffers that stand for each other. -/
structure Window.Alike (buffers : Renaming BufferId) (w w' : Window) : Prop where
  buffer : buffers w.buffer w'.buffer
  start : w.start = w'.start

/-- Windows that start as much further on. -/
theorem Window.Alike.advance {buffers : Renaming BufferId} {w w' : Window} (h : w.Alike buffers w')
    (n : Nat) :
    Window.Alike buffers { w with start := w.start + n } { w' with start := w'.start + n } :=
  ⟨h.buffer, congrArg (· + n) h.start⟩

/-! ## Contexts that stand for each other -/

/-- The contexts of two runs that stand for each other. -/
structure Pairing where
  known : Renaming ContextId
  /-- Those that native code cannot give back. -/
  lent : ContextId → ContextId → Prop
  /-- Those that were asked for and not given back. -/
  held : ContextId → ContextId → Prop
  known_of_lent : ∀ {i j}, lent i j → known i j
  known_of_held : ∀ {i j}, held i j → known i j

/-- How long a program may use a context that it gave back. -/
inductive Recall where
  /-- Until the next context is made, which may have the address. -/
  | brief
  /-- As long as the program runs. -/
  | lasting

namespace Pairing

/-- No contexts are known. -/
def empty : Pairing where
  known := .empty
  lent _ _ := False
  held _ _ := False
  known_of_lent := nofun
  known_of_held := nofun

/-- Pointers that are both null, or to contexts that stand for each other. -/
def Refs (pairs : Pairing) : ContextRef → ContextRef → Prop :=
  Option.Rel pairs.known.rel

/-- The pairs that are still known when another is made. -/
def Outlasts (pairs : Pairing) : Recall → ContextId → ContextId → Prop
  | .brief, i, j => pairs.lent i j ∨ pairs.held i j
  | .lasting, i, j => pairs.known i j

theorem known_of_outlasts (pairs : Pairing) {span : Recall} {i j : ContextId}
    (h : pairs.Outlasts span i j) : pairs.known i j := by
  cases span with
  | brief => exact h.elim pairs.known_of_lent pairs.known_of_held
  | lasting => exact h

/-- The pairs after a pair was made. -/
structure Makes (pairs : Pairing) (span : Recall) (i j : ContextId) (next : Pairing) : Prop where
  made : next.known i j
  known : ∀ x y, pairs.Outlasts span x y → next.known x y
  lent : ∀ x y, pairs.lent x y → next.lent x y
  held : ∀ x y, pairs.held x y → next.held x y

/-- The pairs after a pointer was given back. -/
def release (pairs : Pairing) : ContextRef → Pairing
  | none => pairs
  | some id =>
    { pairs with
      held := fun i j => i ≠ id ∧ pairs.held i j
      known_of_held := fun h => pairs.known_of_held h.2 }

end Pairing

/-! ## Steps -/

section Steps
variable (buffers : Renaming BufferId) (span : Recall) (pairs : Pairing)

/-- Steps alike. -/
inductive Service.Alike : Service → Service → Prop
  | getData (offset : UInt32) (size : UInt64) : Alike (.getData offset size) (.getData offset size)
  | read {w w' : Window} (windows : w.Alike buffers w') (size : Nat) :
      Alike (.read w size) (.read w' size)
  | write {w w' : Window} (windows : w.Alike buffers w') (bytes : Bytes) :
      Alike (.write w bytes) (.write w' bytes)
  | allocate (hid : UInt32) : Alike (.allocate hid) (.allocate hid)
  | release {ctx ctx' : ContextRef} (refs : pairs.Refs ctx ctx') :
      Alike (.release ctx) (.release ctx')
  | request {ctx ctx' : ContextRef} (refs : pairs.Refs ctx ctx') (data : Option Bytes)
      (length : Nat) (reportType requestKind : Int32) :
      Alike (.request ctx data length reportType requestKind)
        (.request ctx' data length reportType requestKind)
  | ownContext (ctx : HookContext) : Alike (.ownContext ctx) (.ownContext ctx)
  | given : Alike .given .given
  | readContext {i j : ContextId} (known : pairs.known i j) :
      Alike (.readContext i) (.readContext j)
  | writeContext {i j : ContextId} (known : pairs.known i j) (ctx : HookContext) :
      Alike (.writeContext i ctx) (.writeContext j ctx)
  | readArgs : Alike .readArgs .readArgs
  | writeArgs (args : ProbeArgs) : Alike (.writeArgs args) (.writeArgs args)
  | print (text : String) : Alike (.print text) (.print text)

/-- Answers to steps alike, and the contexts known after them. The answers are the same, but for
addresses that stand for each other. -/
def Service.Leads : (a b : Service) → a.Reply → b.Reply → Pairing → Prop
  | .getData .., .getData .., x, y, next => Option.Rel (Window.Alike buffers) x y ∧ next = pairs
  | .read .., .read .., x, y, next => x = y ∧ next = pairs
  | .allocate _, .allocate _, x, y, next =>
    ∃ i j, x = some i ∧ y = some j ∧ pairs.Makes span i j next ∧ next.held i j
  | .release ctx, .release _, _, _, next => next = pairs.release ctx
  | .request .., .request .., x, y, next => x = y ∧ next = pairs
  | .ownContext _, .ownContext _, i, j, next => pairs.Makes span i j next ∧ next.lent i j
  | .given, .given, x, y, next => pairs.Refs x y ∧ next = pairs
  | .readContext _, .readContext _, x, y, next => x = y ∧ next = pairs
  | .readArgs, .readArgs, x, y, next => x = y ∧ next = pairs
  | _, _, _, _, next => next = pairs

end Steps

/-! ## Programs -/

/-- Programs alike, where some contexts are known. They end with values that are related by `rel`
and the contexts known then. -/
inductive Native.Alike (buffers : Renaming BufferId) (span : Recall) {α β : Type}
    (rel : Pairing → α → β → Prop) : Pairing → Native α → Native β → Prop
  | done {pairs : Pairing} {a : α} {b : β} (values : rel pairs a b) :
      Alike buffers span rel pairs (.done a) (.done b)
  | call {pairs : Pairing} {a b : Service} (steps : a.Alike buffers pairs b)
      {p : a.Reply → Native α} {q : b.Reply → Native β}
      (rest : ∀ x y next, Service.Leads buffers span pairs a b x y next →
        Alike buffers span rel next (p x) (q y)) :
      Alike buffers span rel pairs (.call a p) (.call b q)

/-- The program is like itself, whatever is known. -/
def Native.SelfContained {α : Type} (span : Recall) (body : Native α) : Prop :=
  ∀ buffers pairs, body.Alike buffers span (fun _ => Eq) pairs body

namespace Native.Alike
variable {buffers : Renaming BufferId} {span : Recall} {pairs : Pairing} {α α' β β' : Type}
  {rel : Pairing → α → α' → Prop} {rel' : Pairing → β → β' → Prop}

theorem bind {p : Native α} {q : Native α'} (h : p.Alike buffers span rel pairs q)
    {k : α → Native β} {l : α' → Native β'}
    (hk : ∀ next a b, rel next a b → (k a).Alike buffers span rel' next (l b)) :
    (p >>= k).Alike buffers span rel' pairs (q >>= l) := by
  induction h with
  | done values => exact hk _ _ _ values
  | call steps _ ih => exact call steps ih

theorem ask {a b : Service} (steps : a.Alike buffers pairs b) :
    (Native.ask a).Alike buffers span
      (fun next x y => Service.Leads buffers span pairs a b x y next) pairs (Native.ask b) :=
  call steps fun _ _ _ leads => done leads

/-! ### The operations of native code -/

theorem getData (offset : UInt32) (size : UInt64) :
    (Native.getData offset size).Alike buffers span
      (fun next x y => Option.Rel (Window.Alike buffers) x y ∧ next = pairs) pairs
      (Native.getData offset size) :=
  ask (.getData offset size)

theorem read {w w' : Window} (windows : w.Alike buffers w') (index size : Nat) :
    (Native.read w index size).Alike buffers span (fun next x y => x = y ∧ next = pairs) pairs
      (Native.read w' index size) :=
  ask (.read (windows.advance index) size)

theorem write {w w' : Window} (windows : w.Alike buffers w') (index : Nat) (bytes : Bytes) :
    (Native.write w index bytes).Alike buffers span (fun next _ _ => next = pairs) pairs
      (Native.write w' index bytes) :=
  ask (.write (windows.advance index) bytes)

theorem allocate (hid : UInt32) :
    (Native.allocate hid).Alike buffers span
      (fun next x y => ∃ i j, x = some i ∧ y = some j ∧ pairs.Makes span i j next ∧ next.held i j)
      pairs (Native.allocate hid) :=
  ask (.allocate hid)

theorem release {ctx ctx' : ContextRef} (refs : pairs.Refs ctx ctx') :
    (Native.release ctx).Alike buffers span (fun next _ _ => next = pairs.release ctx) pairs
      (Native.release ctx') :=
  ask (.release refs)

theorem request {ctx ctx' : ContextRef} (refs : pairs.Refs ctx ctx') (data : Bytes)
    (reportType : ReportType) (kind : RequestKind) :
    (Native.request ctx data reportType kind).Alike buffers span
      (fun next x y => x = y ∧ next = pairs) pairs (Native.request ctx' data reportType kind) := by
  refine (ask (.request refs _ _ _ _)).bind fun next x y leads => ?_
  obtain ⟨same, rfl⟩ : x = y ∧ next = pairs := leads
  cases same
  exact done ⟨rfl, rfl⟩

theorem context :
    Native.context.Alike buffers span (fun next x y => x = y ∧ next = pairs) pairs
      Native.context := by
  refine (ask .given).bind fun next x y leads => ?_
  obtain ⟨refs, rfl⟩ : pairs.Refs x y ∧ next = pairs := leads
  cases refs with
  | none => exact done ⟨rfl, rfl⟩
  | some known =>
    refine (ask (.readContext known)).bind fun last x y leads => ?_
    obtain ⟨same, rfl⟩ : x = y ∧ last = next := leads
    cases same
    exact done ⟨rfl, rfl⟩

theorem setContext (ctx : HookContext) :
    (Native.setContext ctx).Alike buffers span (fun next _ _ => next = pairs) pairs
      (Native.setContext ctx) := by
  refine (ask .given).bind fun next x y leads => ?_
  obtain ⟨refs, rfl⟩ : pairs.Refs x y ∧ next = pairs := leads
  cases refs with
  | none => exact done rfl
  | some known => exact ask (.writeContext known ctx)

end Native.Alike

end HidRig
