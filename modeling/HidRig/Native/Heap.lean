import HidRig.Abi.HookContext

/-! # The memory of contexts

* `ContextId`: the address of a context.
* `Heap`: the contexts that are in memory.
* `Allocator`: how an address is chosen for a new context.
-/

namespace HidRig

/-- The address of a context. No two contexts in memory have the same, but that of a context that was
freed may be given to another. -/
structure ContextId where
  number : Nat
deriving DecidableEq, Repr, Hashable

/-- A pointer to a context, `none` for the null pointer. -/
abbrev ContextRef := Option ContextId

/-- The contexts that are in memory. -/
structure Heap where
  get? : ContextId → Option HookContext
  /-- A number that no address in use has reached. -/
  bound : Nat
  outside : ∀ id : ContextId, bound ≤ id.number → get? id = none

namespace Heap

instance : CoeFun Heap fun _ => ContextId → Option HookContext := ⟨get?⟩

def empty : Heap := ⟨fun _ => none, 0, fun _ _ => rfl⟩

def set (heap : Heap) (id : ContextId) (ctx? : Option HookContext) : Heap where
  get? i := if i = id then ctx? else heap i
  bound := max heap.bound (id.number + 1)
  outside i hi := by
    have other : i ≠ id := fun same => by
      subst same
      omega
    rw [if_neg other]
    exact heap.outside i (by omega)

def free (heap : Heap) (ids : List ContextId) : Heap where
  get? i := if i ∈ ids then none else heap i
  bound := heap.bound
  outside i hi := by
    split
    · rfl
    · exact heap.outside i hi

@[simp] theorem set_apply (heap : Heap) (id : ContextId) (ctx? : Option HookContext)
    (i : ContextId) : heap.set id ctx? i = if i = id then ctx? else heap i :=
  rfl

@[simp] theorem free_apply (heap : Heap) (ids : List ContextId) (i : ContextId) :
    heap.free ids i = if i ∈ ids then none else heap i :=
  rfl

end Heap

/-- The allocator of a system: the address of a new context, where no context is. The count of the
contexts that were made before stands for all else that the choice may depend on. -/
structure Allocator where
  pick : Nat → Heap → ContextId
  fresh : ∀ (count : Nat) (heap : Heap), heap (pick count heap) = none

namespace Allocator

/-- The allocator that sessions run with never gives an address twice. -/
def counting : Allocator where
  pick _ heap := ⟨heap.bound⟩
  fresh _ heap := heap.outside _ (Nat.le_refl _)

/-- The allocator that gives the first address that is free. -/
def firstFit : Allocator where
  pick _ heap := ⟨((List.range heap.bound).find? fun n => (heap ⟨n⟩).isNone).getD heap.bound⟩
  fresh _ heap := by
    cases found : (List.range heap.bound).find? fun n => (heap ⟨n⟩).isNone with
    | none => exact heap.outside _ (Nat.le_refl _)
    | some n => simpa using List.find?_some found

end Allocator

end HidRig
