import ModernCommon.ObjectPool.Cleanliness
import ModernCommon.ObjectPool.References

/-!
# Every object has one owner

The books of a pool: every object constructed is in one place, the strong count
is exact, and what is free is clean. Every event keeps them, so whatever order
handles, references and deleters go in, objects are neither lost nor duplicated.
-/

namespace ModernCommon
namespace ObjectPool

open Library

variable {T : Type}

/-- What every event keeps. -/
structure Books (pool : ObjectPool T) : Prop where
  placed : pool.Placed
  counted : pool.Counted
  tidy : pool.Tidy
  grows : 0 < pool.incrementStep

/-- No event changes how far the pool grows. -/
theorem incrementStep_of_step
    [Poolable T]
    {pool after : ObjectPool T}
    {event : Event T}
    (stepped : pool.step event = some after) :
    after.incrementStep = pool.incrementStep := by
  cases effect_of_step stepped with
  | copyReference => rfl
  | dropReference => exact incrementStep_dropStrong _
  | acquire => exact incrementStep_acquire pool
  | mutate change isLive => exact incrementStep_operate _ _ pool
  | copyHandle isLive => rfl
  | dropHandle isLive => exact incrementStep_dropHandle _ _ pool
  | runDeleter isLive => exact (runDeleter_effect _ _ pool).incrementStep

/-- A pool starts with its books in order. -/
theorem books_create
    (initialSize : Nat)
    {incrementStep : Nat}
    (grows : 0 < incrementStep) :
    (create initialSize incrementStep : ObjectPool T).Books := by
  have placed : Placed ({ incrementStep } : ObjectPool T) := by
    intro object
    simp [places]
  have tidy : Tidy ({ incrementStep } : ObjectPool T) := by
    constructor <;> simp
  refine ⟨placed_create initialSize incrementStep,
    counted_create initialSize incrementStep,
    tidy.populate placed initialSize, ?_⟩
  rw [create, populate_eq]
  exact grows

/-- An object is available once the pool has grown if it had to. -/
theorem free_ne_nil_of_grows
    {pool : ObjectPool T}
    (grows : 0 < pool.incrementStep) :
    (if pool.free.isEmpty then pool.growLocked else pool).free ≠ [] := by
  split
  · rw [growLocked, populate_eq]
    have fresh : List.range' pool.objects.length pool.incrementStep ≠ [] := by
      simpa using Nat.ne_of_gt grows
    exact List.append_ne_nil_of_right_ne_nil _ fresh
  · rename_i available
    simpa using available

namespace Books

variable {pool : ObjectPool T}

/-- An object handed out is live and clean. -/
theorem acquire
    (books : pool.Books) :
    pool.acquire.Tidy ∧ ∃ object pooled,
      pool.acquire.handles = pool.handles ++ [some { object := object }] ∧
        pool.acquire.objects.live object = some pooled ∧
          pooled.isClean = true := by
  have available := free_ne_nil_of_grows books.grows
  unfold ObjectPool.acquire
  by_cases empty : pool.free.isEmpty = true
  · rw [if_pos empty] at available ⊢
    have grown := books.tidy.populate books.placed pool.incrementStep
    have taken := grown.takeBack (placed_populate books.placed _) available
    rw [populate_eq] at taken
    rw [growLocked, populate_eq]
    exact taken
  · rw [if_neg empty] at available ⊢
    exact books.tidy.takeBack books.placed available

/-- Every event keeps the free list clean. -/
theorem tidy_step
    [Poolable T]
    (books : pool.Books)
    {event : Event T}
    {after : ObjectPool T}
    (stepped : pool.step event = some after) :
    after.Tidy := by
  have tidy := books.tidy
  cases effect_of_step stepped with
  | copyReference =>
      exact ⟨tidy.live_iff, tidy.free, tidy.returned, tidy.faultless⟩
  | dropReference =>
      apply Tidy.dropStrong
      exact ⟨tidy.live_iff, tidy.free, tidy.returned, tidy.faultless⟩
  | acquire => exact (Books.acquire books).1
  | mutate change isLive =>
      obtain ⟨constructed, kept, elsewhere⟩ := books.placed.of_handle isLive
      exact tidy.operate ⟨constructed, kept⟩ (.inr elsewhere)
  | copyHandle isLive =>
      exact ⟨tidy.live_iff, tidy.free, tidy.returned, tidy.faultless⟩
  | dropHandle isLive => exact tidy.dropHandle _ _
  | runDeleter isLive => exact tidy.runDeleter books.placed isLive (runDeleter_effect _ _ pool)

/-- Every event keeps the books. -/
theorem step
    [Poolable T]
    (books : pool.Books)
    {event : Event T}
    {after : ObjectPool T}
    (stepped : pool.step event = some after) :
    after.Books := by
  refine ⟨books.placed.step stepped, books.counted.step stepped,
    books.tidy_step stepped, ?_⟩
  rw [incrementStep_of_step stepped]
  exact books.grows

/-- Once nobody refers to the pool or to its objects, all are destroyed. -/
theorem mem_destroyed
    (books : pool.Books)
    (unreferenced : pool.references = 0)
    (unheld : ∀ this, pool.handles.live this = none)
    (idle : ∀ this, pool.deleters.live this = none)
    {object : Nat}
    (constructed : object < pool.objects.length) :
    object ∈ pool.destroyed := by
  have noHandle : pool.handles.count (fun handle => handle.object == object) = 0 :=
    Slots.count_eq_zero fun this handle isLive => by simp [unheld this] at isLive
  have noOwner : pool.deleters.count (Deleter.owns object) = 0 :=
    Slots.count_eq_zero fun this deleter isLive => by simp [idle this] at isLive
  have noLock : pool.deleters.count Deleter.locked = 0 :=
    Slots.count_eq_zero fun this deleter isLive => by simp [idle this] at isLive
  have gone : pool.strong = 0 := by
    rw [books.counted.strong, unreferenced, noLock]
  have once := books.placed object
  rw [places, noHandle, noOwner, books.counted.emptied gone, if_pos constructed]
    at once
  apply List.count_pos_iff.mp
  simp only [List.count_nil] at once
  omega

end Books

/-! ## Runs -/

/-- Every run of a pool that grows keeps its books. -/
theorem books_of_run
    [Poolable T]
    {initialSize incrementStep : Nat}
    (grows : 1 ≤ incrementStep)
    {events : List (Event T)}
    {pool : ObjectPool T}
    (ran : (system T initialSize incrementStep).run
      (create initialSize incrementStep) events = some pool) :
    pool.Books :=
  System.invariant_of_run (system T initialSize incrementStep) Books
    (fun _ _ _ books stepped => books.step stepped)
    (books_create initialSize grows) ran

/-- What clients rely on in a pool. -/
structure ObjectsOwned [Poolable T] (pool : ObjectPool T) : Prop where
  inOnePlace : ∀ object, pool.places object =
    if object < pool.objects.length then 1 else 0
  freeWhileAlive : pool.strong = 0 → pool.free = []
  destroyedOnce : ∀ object, pool.destroyed.count object ≤ 1
  gone_iff : ∀ object, object < pool.objects.length →
    (pool.objects.live object = none ↔ object ∈ pool.destroyed)
  cleanlyAcquired : ∀ after, pool.step .acquire = some after →
    ∃ object pooled,
      after.handles = pool.handles ++ [some { object := object }] ∧
        after.objects.live object = some pooled ∧ pooled.isClean = true
  allDestroyed : pool.references = 0 →
    (∀ this, pool.handles.live this = none) →
      (∀ this, pool.deleters.live this = none) →
        ∀ object, object < pool.objects.length → object ∈ pool.destroyed
  neverMisused : pool.misuses = []

/-- A pool that grows neither loses, duplicates nor hands out dirty objects,
whatever its clients and the deleters of its handles do. -/
theorem objectsOwned_of_run
    [Poolable T]
    (initialSize incrementStep : Nat)
    (grows : 1 ≤ incrementStep)
    (events : List (Event T))
    (pool : ObjectPool T)
    (ran : (system T initialSize incrementStep).run
      (create initialSize incrementStep) events = some pool) :
    pool.ObjectsOwned := by
  have books := books_of_run grows ran
  constructor
  · exact books.placed
  · exact books.counted.emptied
  · intro object
    have once := books.placed object
    unfold places at once
    split at once <;> omega
  · intro object constructed
    have liveIff := books.tidy.live_iff object
    cases isLive : pool.objects.live object with
    | none => simpa [isLive, constructed] using liveIff
    | some pooled => simpa [isLive, constructed] using liveIff
  · intro after stepped
    obtain ⟨_, same⟩ := Option.ite_none_left_eq_some.mp stepped
    cases same
    exact books.acquire.2
  · intro unreferenced unheld idle object constructed
    exact books.mem_destroyed unreferenced unheld idle constructed
  · exact books.tidy.faultless

/-- The pooled type of the pool's tests. -/
structure TestedWidget where
  value : Int := -1
  resetCount : Nat := 0
  deriving DecidableEq

instance : Poolable TestedWidget where
  construct := {}
  reset widget := { value := -1, resetCount := widget.resetCount + 1 }

/-- A deleter that has locked the pool becomes its last owner, and another
handle outlives the pool. -/
def teardown : List (Event TestedWidget) :=
  [.acquire, .mutate 0 fun widget => { widget with value := 42 }, .copyHandle 0,
    .acquire, .dropHandle 0, .dropHandle 0, .runDeleter 0, .dropReference,
    .runDeleter 0, .runDeleter 0, .runDeleter 0, .dropHandle 1, .runDeleter 1,
    .runDeleter 1]

theorem objectsOwned_teardown :
    ∃ pool, (system TestedWidget 1 1).run (create 1 1) teardown = some pool ∧
      pool.destroyed = [0, 1] ∧ pool.ObjectsOwned :=
  ⟨_, rfl, rfl, objectsOwned_of_run 1 1 (by decide) teardown _ rfl⟩

end ObjectPool
end ModernCommon
