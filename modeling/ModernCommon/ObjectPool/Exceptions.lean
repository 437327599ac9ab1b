import ModernCommon.ObjectPool.Accounts

/-!
# Pools whose objects may fail to be made

The constructor of a pooled object may throw, and so may pushing it onto the free
list and the making of a handle. A throwing `create` takes its objects with it. A
throwing `acquire` leaves in the free list what it has constructed, and an object
for which it could not make a handle is returned by the deleter, as `shared_ptr`
calls it then.
-/

namespace ModernCommon
namespace ObjectPool

open Library

variable {T : Type}

namespace Throwing

/-- The loops of `create` and `growLocked`, and whether they come to their end.
An object that is not pushed is gone. -/
def populate
    (throws : Nat → Bool) :
    Nat → ObjectPool T → Bool × ObjectPool T
  | 0, pool => (true, pool)
  | count + 1, pool =>
      if throws pool.objects.length then (false, pool)
      else populate throws count pool.pushBackNew

/-- `ObjectPool::create`. The exception takes the only reference with it. -/
def create
    (throws : Nat → Bool)
    (initialSize incrementStep : Nat) : Bool × ObjectPool T :=
  match populate throws initialSize { incrementStep } with
  | (true, pool) => (true, pool)
  | (false, pool) =>
      (false, { pool with references := pool.references - 1 }.dropStrong)

/-- `ObjectPool::growLocked`. -/
def growLocked
    (throws : Nat → Bool)
    (pool : ObjectPool T) : Bool × ObjectPool T :=
  populate throws pool.incrementStep pool

/-- `_free.back()` and `pop_back()`, for a handle that cannot be made: its deleter
is called as if the last copy of it had gone. -/
def takeBackUnhandled (pool : ObjectPool T) : ObjectPool T :=
  match pool.free.getLast? with
  | none => pool.misuse .popEmpty
  | some object => pool.takeBack.dropHandle pool.handles.length { object }

/-- `ObjectPool::acquire`, and the handle it returns. -/
def acquire
    (throws : Nat → Bool)
    (handleThrows : Bool)
    (pool : ObjectPool T) : Option Nat × ObjectPool T :=
  match if pool.free.isEmpty then growLocked throws pool else (true, pool) with
  | (false, grown) => (none, grown)
  | (true, grown) =>
      if handleThrows then (none, takeBackUnhandled grown)
      else (some grown.handles.length, grown.takeBack)

/-- What clients and running deleters do, when an acquire may throw. -/
inductive Event (T : Type)
  | event (event : ObjectPool.Event T)
  | acquire (throws : Nat → Bool) (handleThrows : Bool)

/-- What an event does to the pool; without a reference it cannot be asked. -/
def step
    [Poolable T]
    (pool : ObjectPool T) : Event T → Option (ObjectPool T)
  | .event event => pool.step event
  | .acquire throws handleThrows =>
      if pool.references = 0 then none
      else some (acquire throws handleThrows pool).2

/-- The runs of a pool made, or not, by `create`. -/
def system
    (T : Type)
    [Poolable T]
    (throws : Nat → Bool)
    (initialSize incrementStep : Nat) :
    System (ObjectPool T) (Event T) where
  initial := (create throws initialSize incrementStep).2
  step := step

/-! ## What throwing leaves -/

/-- A loop that does not come to its end has constructed fewer objects. -/
theorem populate_effect
    (throws : Nat → Bool)
    (count : Nat)
    (pool : ObjectPool T) :
    populate throws count pool = (true, ObjectPool.populate count pool) ∨
      ∃ constructed < count, populate throws count pool =
        (false, ObjectPool.populate constructed pool) := by
  induction count generalizing pool with
  | zero => exact .inl rfl
  | succ count inductionHypothesis =>
      by_cases thrown : throws pool.objects.length = true
      · right
        refine ⟨0, Nat.succ_pos count, ?_⟩
        rw [populate, if_pos thrown]
        rfl
      · rw [populate, if_neg thrown]
        rcases inductionHypothesis pool.pushBackNew with all | ⟨some, fewer, same⟩
        · exact .inl all
        · exact .inr ⟨some + 1, Nat.succ_lt_succ fewer, same⟩

/-- What an acquire may come to. -/
inductive AcquireEffect [Poolable T] (pool : ObjectPool T) :
    Option Nat × ObjectPool T → Prop
  | constructorThrows {constructed : Nat}
      (empty : pool.free = [])
      (fewer : constructed < pool.incrementStep) :
      AcquireEffect pool (none, ObjectPool.populate constructed pool)
  | handleThrows {after : ObjectPool T}
      (dropped :
        pool.acquire.step (.dropHandle pool.handles.length) = some after) :
      AcquireEffect pool (none, after)
  | returns : AcquireEffect pool (some pool.handles.length, pool.acquire)

/-- A handle that cannot be made is one that is dropped at once. -/
theorem step_takeBackUnhandled
    [Poolable T]
    {pool : ObjectPool T}
    (available : pool.free ≠ []) :
    pool.takeBack.step (.dropHandle pool.handles.length) =
      some (takeBackUnhandled pool) := by
  unfold takeBackUnhandled
  rw [List.getLast?_eq_some_getLast available]
  have made : pool.takeBack.handles.live pool.handles.length =
      some { object := pool.free.getLast available } := by
    rw [takeBack, List.getLast?_eq_some_getLast available]
    exact Slots.live_append_self _ _
  simp only [ObjectPool.step, made]
  rfl

theorem acquire_effect
    [Poolable T]
    {pool : ObjectPool T}
    (grows : 0 < pool.incrementStep)
    (throws : Nat → Bool)
    (handleThrows : Bool) :
    AcquireEffect pool (acquire throws handleThrows pool) := by
  have available := free_ne_nil_of_grows grows
  have handles : pool.grown.handles = pool.handles := by
    unfold grown
    split
    · rw [ObjectPool.growLocked, populate_eq]
    · rfl
  -- without an exception the pool has grown as it would have anyway
  have whole : (if pool.free.isEmpty then growLocked throws pool
        else (true, pool)) = (true, pool.grown) →
      AcquireEffect pool (acquire throws handleThrows pool) := by
    intro same
    rw [acquire, same]
    cases handleThrows with
    | true =>
        refine .handleThrows ?_
        rw [← handles, acquire_eq]
        exact step_takeBackUnhandled available
    | false =>
        simp only [Bool.false_eq_true, if_false]
        rw [handles, ← acquire_eq]
        exact .returns
  by_cases empty : pool.free.isEmpty = true
  · rcases populate_effect throws pool.incrementStep pool with
      all | ⟨constructed, fewer, same⟩
    · apply whole
      rw [if_pos empty, grown, if_pos empty]
      exact all
    · rw [acquire, if_pos empty, growLocked, same]
      exact .constructorThrows (List.isEmpty_iff.mp empty) fewer
  · apply whole
    rw [if_neg empty, grown, if_neg empty]

/-! ## The books -/

/-- What every event keeps when `demand` objects were checked out at most. -/
structure Frugal
    (initialSize incrementStep demand : Nat)
    (pool : ObjectPool T) : Prop where
  books : pool.Books
  intact : pool.Intact
  increment : pool.incrementStep = incrementStep
  constructed : pool.objects.length ≤ max initialSize (demand + incrementStep - 1)

namespace Frugal

variable {initialSize incrementStep demand : Nat}
variable {pool after : ObjectPool T}

theorem mono
    (frugal : Frugal initialSize incrementStep demand pool)
    {raised : Nat}
    (more : demand ≤ raised) :
    Frugal initialSize incrementStep raised pool := by
  refine ⟨frugal.books, frugal.intact, frugal.increment, ?_⟩
  have bounded := frugal.constructed
  omega

/-- A pool is created whole. -/
theorem create
    (initialSize : Nat)
    {constructed : Nat}
    (within : constructed ≤ initialSize)
    (grows : 0 < incrementStep)
    (demand : Nat) :
    Frugal initialSize incrementStep demand
      (ObjectPool.create constructed incrementStep : ObjectPool T) := by
  refine ⟨books_create constructed grows,
    intact_create constructed incrementStep, ?_, ?_⟩
  · rw [ObjectPool.create, populate_eq]
  · simp only [ObjectPool.create, populate_eq, List.nil_append,
      List.length_replicate]
    exact Nat.le_trans within (Nat.le_max_left _ _)

/-- Objects constructed before one could not be are fewer than one increment. -/
theorem populate
    (frugal : Frugal initialSize incrementStep demand pool)
    (referenced : pool.references ≠ 0)
    (withinDemand : pool.checkedOut ≤ demand)
    (empty : pool.free = [])
    {constructed : Nat}
    (fewer : constructed < pool.incrementStep) :
    Frugal initialSize incrementStep demand
      (ObjectPool.populate constructed pool) := by
  have alive := frugal.books.counted.strong_ne_zero referenced
  have accounted := frugal.intact.accounted frugal.books.placed alive
  have same := frugal.increment
  rw [getPoolSize, empty, List.length_nil] at accounted
  refine ⟨⟨placed_populate frugal.books.placed constructed,
    frugal.books.counted.populate alive constructed,
    frugal.books.tidy.populate frugal.books.placed constructed, ?_⟩, ?_, ?_, ?_⟩
  · rw [populate_eq]
    exact frugal.books.grows
  · rw [populate_eq]
    exact ⟨frugal.intact.destroyed, frugal.intact.deleting⟩
  · rw [populate_eq]
    exact same
  · simp only [populate_eq, List.length_append, List.length_replicate]
    omega

variable [Poolable T]

/-- Events that construct nothing keep the demand. -/
theorem step_of_length
    (frugal : Frugal initialSize incrementStep demand pool)
    {event : ObjectPool.Event T}
    (stepped : pool.step event = some after)
    (same : after.objects.length = pool.objects.length) :
    Frugal initialSize incrementStep demand after := by
  refine ⟨frugal.books.step stepped,
    frugal.intact.step frugal.books.counted stepped, ?_, ?_⟩
  · rw [incrementStep_of_step stepped]
    exact frugal.increment
  · rw [same]
    exact frugal.constructed

/-- An acquire constructs objects only when all are checked out. -/
theorem acquire
    (frugal : Frugal initialSize incrementStep demand pool)
    (referenced : pool.references ≠ 0) :
    Frugal initialSize incrementStep (max demand pool.acquire.checkedOut)
      pool.acquire := by
  have stepped : pool.step .acquire = some pool.acquire := if_neg referenced
  have accounted := frugal.intact.accounted frugal.books.placed
    (frugal.books.counted.strong_ne_zero referenced)
  have bounded := frugal.constructed
  refine ⟨frugal.books.step stepped,
    frugal.intact.step frugal.books.counted stepped, ?_, ?_⟩
  · rw [incrementStep_of_step stepped]
    exact frugal.increment
  · rw [length_acquire,
      checkedOut_acquire (free_ne_nil_of_grows frugal.books.grows),
      frugal.increment]
    unfold getPoolSize at accounted
    by_cases empty : pool.free.isEmpty = true
    · rw [List.isEmpty_iff.mp empty, List.length_nil] at accounted
      rw [if_pos empty]
      omega
    · rw [if_neg empty]
      omega

/-- An object on its way back is checked out still. -/
theorem checkedOut_dropHandle
    {handle : Nat}
    (books : pool.Books)
    (dropped : pool.step (.dropHandle handle) = some after) :
    after.checkedOut = pool.checkedOut := by
  have before := books.placed.accounted
  have now := (books.placed.step dropped).accounted
  obtain ⟨live, isLive, same⟩ := Option.bind_eq_some_iff.mp dropped
  cases same
  have sameHome : (pool.dropHandle handle live).home = pool.home := by
    unfold dropHandle
    split <;> rfl
  have constructed := (samePlaces_dropHandle isLive).constructed
  unfold home at sameHome
  omega

/-- Every event keeps the books, and constructs no more than is needed. -/
theorem step
    (frugal : Frugal initialSize incrementStep demand pool)
    (withinDemand : pool.checkedOut ≤ demand)
    {event : Event T}
    (stepped : Throwing.step pool event = some after) :
    Frugal initialSize incrementStep (max demand after.checkedOut) after := by
  cases event with
  | event event =>
      by_cases acquired : event = .acquire
      · subst acquired
        obtain ⟨referenced, same⟩ := Option.ite_none_left_eq_some.mp stepped
        cases same
        exact frugal.acquire referenced
      · have same := (length_of_step stepped).resolve_right fun both =>
          acquired both.1
        exact (frugal.step_of_length stepped same).mono (Nat.le_max_left _ _)
  | acquire throws handleThrows =>
      obtain ⟨referenced, same⟩ := Option.ite_none_left_eq_some.mp stepped
      have effect := acquire_effect frugal.books.grows throws handleThrows
      generalize Throwing.acquire throws handleThrows pool = outcome
        at same effect
      cases effect with
      | constructorThrows empty fewer =>
          cases same
          exact (frugal.populate referenced withinDemand empty fewer).mono
            (Nat.le_max_left _ _)
      | handleThrows dropped =>
          cases same
          have acquired := frugal.acquire referenced
          rw [checkedOut_dropHandle acquired.books dropped]
          refine acquired.step_of_length dropped ?_
          exact (length_of_step dropped).resolve_right fun both => by
            cases both.1
      | returns =>
          cases same
          exact frugal.acquire referenced

end Frugal

/-! ## Runs -/

end Throwing
end ObjectPool
end ModernCommon
