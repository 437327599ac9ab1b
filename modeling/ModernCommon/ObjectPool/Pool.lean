import ModernCommon.Library.Slots
import ModernCommon.Library.System

/-!
# Object pools

A pool hands out its objects as shared handles whose deleter resets the object
and returns it, unless the pool is gone by then. Handles, references to the pool
and running deleters are steps of one system; a deleter is interrupted after
locking the pool, resetting the object and pushing it onto the free list.
Objects are numbered in the order they are constructed.
-/

namespace ModernCommon

open Library

/-- What a pooled type offers: a default constructor and `reset()`. -/
class Poolable (T : Type) where
  construct : T
  reset : T → T

/-- An object, by the last operation on it. -/
inductive PooledObject (T : Type)
  | constructed
  | reset (before : T)
  | mutated (value : T)

namespace PooledObject

variable {T : Type}

/-- The object's value. -/
def value [Poolable T] : PooledObject T → T
  | constructed => Poolable.construct
  | reset before => Poolable.reset before
  | mutated value => value

/-- Nobody has touched the object since it was constructed or reset. -/
def isClean : PooledObject T → Bool
  | constructed => true
  | reset _ => true
  | mutated _ => false

end PooledObject

namespace ObjectPool

/-- The copies of one `Handle`, which share an object. -/
structure Handle where
  object : Nat
  /-- Copies beside the first one. -/
  otherCopies : Nat := 0
  deriving DecidableEq

/-- What a running deleter does next. -/
inductive DeleterStep
  | lock
  | reset
  | push
  /-- Its local reference to the pool goes out of scope. -/
  | drop
  | delete
  deriving DecidableEq

/-- A running deleter and the object it was called with. -/
structure Deleter where
  object : Nat
  next : DeleterStep := .lock
  deriving DecidableEq

namespace Deleter

/-- The object is neither in the free list yet nor deleted. -/
def owns (object : Nat) (deleter : Deleter) : Bool :=
  deleter.object == object && deleter.next != .drop

/-- The deleter has a strong reference to the pool. -/
def locked (deleter : Deleter) : Bool :=
  match deleter.next with
  | .reset | .push | .drop => true
  | .lock | .delete => false

end Deleter

/-- What must not happen to a pool. -/
inductive Misuse
  /-- `_free.back()` of an empty list. -/
  | popEmpty
  | useAfterDestroy (object : Nat)
  deriving DecidableEq

end ObjectPool

/-- A pool, the handles and deleters that refer to it, and every object it has
constructed. -/
structure ObjectPool (T : Type) where
  incrementStep : Nat
  free : List Nat := []
  /-- The strong count of the pool; the pool is destroyed when it reaches zero. -/
  strong : Nat := 1
  /-- The strong references clients have. -/
  references : Nat := 1
  objects : Slots (PooledObject T) := []
  handles : Slots ObjectPool.Handle := []
  deleters : Slots ObjectPool.Deleter := []
  /-- Ghost: the objects destroyed, in order. -/
  destroyed : List Nat := []
  /-- Ghost: what should not have happened. -/
  misuses : List ObjectPool.Misuse := []

namespace ObjectPool

variable {T : Type}

/-- Note a use of the pool that its code must never come to. -/
def misuse (what : Misuse) (pool : ObjectPool T) : ObjectPool T :=
  { pool with misuses := pool.misuses ++ [what] }

/-! ## The pool -/

/-- `_free.push_back(std::make_unique<T>())`. -/
def pushBackNew (pool : ObjectPool T) : ObjectPool T :=
  { pool with
    free := pool.free ++ [pool.objects.length]
    objects := pool.objects ++ [some .constructed] }

/-- The loops of `create` and `growLocked`. -/
def populate : Nat → ObjectPool T → ObjectPool T
  | 0, pool => pool
  | count + 1, pool => populate count pool.pushBackNew

/-- Populating appends fresh objects to the free list. -/
theorem populate_eq
    (count : Nat)
    (pool : ObjectPool T) :
    populate count pool =
      { pool with
        free := pool.free ++ List.range' pool.objects.length count
        objects := pool.objects ++ List.replicate count (some .constructed) } := by
  induction count generalizing pool with
  | zero => simp [populate]
  | succ count inductionHypothesis =>
      rw [populate, inductionHypothesis]
      simp [pushBackNew, List.range'_succ, List.replicate_succ]

/-- `ObjectPool::create`. -/
def create (initialSize incrementStep : Nat) : ObjectPool T :=
  populate initialSize { incrementStep }

/-- `ObjectPool::growLocked`. -/
def growLocked (pool : ObjectPool T) : ObjectPool T :=
  populate pool.incrementStep pool

/-- `_free.back()` and `pop_back()`, into a new handle. -/
def takeBack (pool : ObjectPool T) : ObjectPool T :=
  match pool.free.getLast? with
  | none => pool.misuse .popEmpty
  | some object =>
      { pool with
        free := pool.free.dropLast
        handles := pool.handles ++ [some { object }] }

/-- `ObjectPool::acquire`. -/
def acquire (pool : ObjectPool T) : ObjectPool T :=
  (if pool.free.isEmpty then pool.growLocked else pool).takeBack

/-- `ObjectPool::getPoolSize`. -/
def getPoolSize (pool : ObjectPool T) : Nat :=
  pool.free.length

/-- Destroy objects. -/
def destroyObjects
    (objects : List Nat)
    (pool : ObjectPool T) : ObjectPool T :=
  { pool with
    objects := pool.objects.clear objects
    destroyed := pool.destroyed ++ objects }

/-- A strong reference goes; the last one destroys the pool and its free list. -/
def dropStrong (pool : ObjectPool T) : ObjectPool T :=
  let pool := { pool with strong := pool.strong - 1 }
  if pool.strong = 0 then { pool with free := [] }.destroyObjects pool.free
  else pool

/-! ## Objects and handles -/

/-- Run an operation on an object. -/
def operate
    [Poolable T]
    (object : Nat)
    (operation : T → PooledObject T)
    (pool : ObjectPool T) : ObjectPool T :=
  match pool.objects.live object with
  | none => pool.misuse (.useAfterDestroy object)
  | some before =>
      { pool with
        objects := pool.objects.set object (some (operation before.value)) }

/-- A copy of a handle goes; the last one calls the deleter. -/
def dropHandle
    (this : Nat)
    (handle : Handle)
    (pool : ObjectPool T) : ObjectPool T :=
  match handle.otherCopies with
  | others + 1 =>
      { pool with
        handles :=
          pool.handles.set this (some { handle with otherCopies := others }) }
  | 0 =>
      { pool with
        handles := pool.handles.set this none
        deleters := pool.deleters ++ [some { object := handle.object }] }

/-- A deleter has come to its next step. -/
def proceed
    (this : Nat)
    (deleter : Deleter)
    (next : DeleterStep)
    (pool : ObjectPool T) : ObjectPool T :=
  { pool with
    deleters := pool.deleters.set this (some { deleter with next }) }

/-- A deleter returns. -/
def finish (this : Nat) (pool : ObjectPool T) : ObjectPool T :=
  { pool with deleters := pool.deleters.set this none }

/-- One step of a running deleter. -/
def runDeleter
    [Poolable T]
    (this : Nat)
    (deleter : Deleter)
    (pool : ObjectPool T) : ObjectPool T :=
  match deleter.next with
  | .lock =>
      if pool.strong = 0 then pool.proceed this deleter .delete
      else { pool with strong := pool.strong + 1 }.proceed this deleter .reset
  | .reset =>
      (pool.operate deleter.object .reset).proceed this deleter .push
  | .push =>
      { pool with free := pool.free ++ [deleter.object] }.proceed this deleter .drop
  | .drop => (pool.finish this).dropStrong
  | .delete => (pool.finish this).destroyObjects [deleter.object]

/-- What a running deleter does to the pool next. -/
inductive DeleterEffect
    [Poolable T]
    (this : Nat)
    (deleter : Deleter)
    (pool : ObjectPool T) : ObjectPool T → Prop
  | gone (next : deleter.next = .lock) (dead : pool.strong = 0) :
      DeleterEffect this deleter pool (pool.proceed this deleter .delete)
  | lock (next : deleter.next = .lock) (alive : pool.strong ≠ 0) :
      DeleterEffect this deleter pool
        ({ pool with strong := pool.strong + 1 }.proceed this deleter .reset)
  | reset (next : deleter.next = .reset) :
      DeleterEffect this deleter pool
        ((pool.operate deleter.object .reset).proceed this deleter .push)
  | push (next : deleter.next = .push) :
      DeleterEffect this deleter pool
        ({ pool with
          free := pool.free ++ [deleter.object] }.proceed this deleter .drop)
  | drop (next : deleter.next = .drop) :
      DeleterEffect this deleter pool (pool.finish this).dropStrong
  | delete (next : deleter.next = .delete) :
      DeleterEffect this deleter pool
        ((pool.finish this).destroyObjects [deleter.object])

theorem runDeleter_effect
    [Poolable T]
    (this : Nat)
    (deleter : Deleter)
    (pool : ObjectPool T) :
    DeleterEffect this deleter pool (pool.runDeleter this deleter) := by
  unfold runDeleter
  cases next : deleter.next with
  | lock =>
      by_cases dead : pool.strong = 0
      · simp only [dead, if_true]
        exact .gone next dead
      · simp only [dead, if_false]
        exact .lock next dead
  | reset => exact .reset next
  | push => exact .push next
  | drop => exact .drop next
  | delete => exact .delete next

/-! ## What does not change -/

/-- Operating on an object leaves the deleters as they are. -/
theorem deleters_operate
    [Poolable T]
    (object : Nat)
    (operation : T → PooledObject T)
    (pool : ObjectPool T) :
    (pool.operate object operation).deleters = pool.deleters := by
  unfold operate
  split <;> rfl

theorem incrementStep_operate
    [Poolable T]
    (object : Nat)
    (operation : T → PooledObject T)
    (pool : ObjectPool T) :
    (pool.operate object operation).incrementStep = pool.incrementStep := by
  unfold operate
  split <;> rfl

theorem incrementStep_dropStrong (pool : ObjectPool T) :
    pool.dropStrong.incrementStep = pool.incrementStep := by
  unfold dropStrong
  dsimp only
  split <;> rfl

theorem incrementStep_takeBack (pool : ObjectPool T) :
    pool.takeBack.incrementStep = pool.incrementStep := by
  unfold takeBack
  split <;> rfl

theorem incrementStep_acquire (pool : ObjectPool T) :
    pool.acquire.incrementStep = pool.incrementStep := by
  refine (incrementStep_takeBack _).trans ?_
  split
  · rw [growLocked, populate_eq]
  · rfl

theorem incrementStep_dropHandle
    (this : Nat)
    (handle : Handle)
    (pool : ObjectPool T) :
    (pool.dropHandle this handle).incrementStep = pool.incrementStep := by
  unfold dropHandle
  split <;> rfl

theorem DeleterEffect.incrementStep
    [Poolable T]
    {this : Nat}
    {deleter : Deleter}
    {pool after : ObjectPool T}
    (effect : DeleterEffect this deleter pool after) :
    after.incrementStep = pool.incrementStep := by
  cases effect with
  | gone | lock | push | delete => rfl
  | reset next => exact incrementStep_operate deleter.object .reset pool
  | drop next => exact incrementStep_dropStrong (pool.finish this)

/-! ## Runs -/

/-- What clients and running deleters do. -/
inductive Event (T : Type)
  | copyReference
  | dropReference
  | acquire
  /-- A client changes the object of a handle it has. -/
  | mutate (handle : Nat) (change : T → T)
  | copyHandle (handle : Nat)
  | dropHandle (handle : Nat)
  | runDeleter (deleter : Nat)

/-- One event; clients only use what they have. -/
def step [Poolable T] (pool : ObjectPool T) : Event T → Option (ObjectPool T)
  | .copyReference =>
      if pool.references = 0 then none
      else some { pool with
        references := pool.references + 1, strong := pool.strong + 1 }
  | .dropReference =>
      if pool.references = 0 then none
      else some { pool with references := pool.references - 1 }.dropStrong
  | .acquire =>
      if pool.references = 0 then none else some pool.acquire
  | .mutate this change => do
      let handle ← pool.handles.live this
      return pool.operate handle.object fun value => .mutated (change value)
  | .copyHandle this => do
      let handle ← pool.handles.live this
      let copied := { handle with otherCopies := handle.otherCopies + 1 }
      return { pool with handles := pool.handles.set this (some copied) }
  | .dropHandle this => do
      let handle ← pool.handles.live this
      return pool.dropHandle this handle
  | .runDeleter this => do
      let deleter ← pool.deleters.live this
      return pool.runDeleter this deleter

/-- What an event that makes sense does. -/
inductive Effect [Poolable T] (pool : ObjectPool T) :
    Event T → ObjectPool T → Prop
  | copyReference (referenced : pool.references ≠ 0) :
      Effect pool .copyReference { pool with
        references := pool.references + 1, strong := pool.strong + 1 }
  | dropReference (referenced : pool.references ≠ 0) :
      Effect pool .dropReference
        { pool with references := pool.references - 1 }.dropStrong
  | acquire (referenced : pool.references ≠ 0) :
      Effect pool .acquire pool.acquire
  | mutate {this : Nat} {handle : Handle} (change : T → T)
      (isLive : pool.handles.live this = some handle) :
      Effect pool (.mutate this change)
        (pool.operate handle.object fun value => .mutated (change value))
  | copyHandle {this : Nat} {handle : Handle}
      (isLive : pool.handles.live this = some handle) :
      Effect pool (.copyHandle this) { pool with
        handles := pool.handles.set this
          (some { handle with otherCopies := handle.otherCopies + 1 }) }
  | dropHandle {this : Nat} {handle : Handle}
      (isLive : pool.handles.live this = some handle) :
      Effect pool (.dropHandle this) (pool.dropHandle this handle)
  | runDeleter {this : Nat} {deleter : Deleter}
      (isLive : pool.deleters.live this = some deleter) :
      Effect pool (.runDeleter this) (pool.runDeleter this deleter)

theorem effect_of_step
    [Poolable T]
    {pool after : ObjectPool T}
    {event : Event T}
    (stepped : pool.step event = some after) :
    Effect pool event after := by
  cases event with
  | copyReference =>
      obtain ⟨referenced, same⟩ := Option.ite_none_left_eq_some.mp stepped
      cases same
      exact .copyReference referenced
  | dropReference =>
      obtain ⟨referenced, same⟩ := Option.ite_none_left_eq_some.mp stepped
      cases same
      exact .dropReference referenced
  | acquire =>
      obtain ⟨referenced, same⟩ := Option.ite_none_left_eq_some.mp stepped
      cases same
      exact .acquire referenced
  | mutate this change =>
      obtain ⟨handle, isLive, same⟩ := Option.bind_eq_some_iff.mp stepped
      cases same
      exact .mutate change isLive
  | copyHandle this =>
      obtain ⟨handle, isLive, same⟩ := Option.bind_eq_some_iff.mp stepped
      cases same
      exact .copyHandle isLive
  | dropHandle this =>
      obtain ⟨handle, isLive, same⟩ := Option.bind_eq_some_iff.mp stepped
      cases same
      exact .dropHandle isLive
  | runDeleter this =>
      obtain ⟨deleter, isLive, same⟩ := Option.bind_eq_some_iff.mp stepped
      cases same
      exact .runDeleter isLive

/-- The runs of a pool made by `create`. -/
def system
    (T : Type)
    [Poolable T]
    (initialSize incrementStep : Nat) :
    System (ObjectPool T) (Event T) where
  initial := create initialSize incrementStep
  step := step

end ObjectPool
end ModernCommon
