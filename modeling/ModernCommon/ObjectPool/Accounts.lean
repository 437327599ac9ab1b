import ModernCommon.ObjectPool.Ownership

/-!
# What a pool has

Every object constructed is free, checked out or destroyed, and none is destroyed
while the pool lives. Only an acquire constructs objects or checks one out.
-/

namespace ModernCommon
namespace ObjectPool

open Library

variable {T : Type}

/-- The deleter has not given its object away yet. -/
def Deleter.holds (deleter : Deleter) : Bool :=
  deleter.next != .drop

/-- The objects that have been acquired and are not back in the free list. -/
def checkedOut (pool : ObjectPool T) : Nat :=
  pool.handles.count (fun _ => true) + pool.deleters.count Deleter.holds

/-! ## Objects by where they are -/

/-- Counted one by one, the objects of a list are all of them. -/
theorem sum_count_of_lt
    {objects : List Nat}
    {bound : Nat}
    (below : ∀ object ∈ objects, object < bound) :
    ∑ object ∈ Finset.range bound, objects.count object = objects.length := by
  have inRange : ∀ object ∈ (objects : Multiset Nat),
      object ∈ Finset.range bound := by
    simpa using below
  simpa using Multiset.sum_count_eq_card inRange

/-- Objects are free, checked out or destroyed. -/
theorem Placed.accounted
    {pool : ObjectPool T}
    (placed : pool.Placed) :
    pool.free.length + pool.checkedOut + pool.destroyed.length =
      pool.objects.length := by
  have freeOnes := sum_count_of_lt fun object (isFree : object ∈ pool.free) =>
    (placed.of_free isFree).1
  have destroyedOnes := sum_count_of_lt
    fun object (gone : object ∈ pool.destroyed) => placed.of_destroyed gone
  have handedOut := Slots.sum_count pool.handles (fun _ => true) Handle.object
    fun handle stored => by
      obtain ⟨this, isLive⟩ := Slots.exists_live_of_mem stored
      exact fun _ => (placed.of_handle isLive).1
  have returning := Slots.sum_count pool.deleters Deleter.holds Deleter.object
    fun deleter stored => by
      obtain ⟨this, isLive⟩ := Slots.exists_live_of_mem stored
      intro holding
      exact (placed.of_deleter isLive (by simpa [Deleter.holds] using holding)).1
  have once : ∑ object ∈ Finset.range pool.objects.length,
      pool.places object = pool.objects.length := by
    rw [Finset.sum_congr rfl fun object inRange => (placed object).trans
      (if_pos (Finset.mem_range.mp inRange))]
    simp
  have owners : ∀ object, pool.deleters.count (Deleter.owns object) =
      pool.deleters.count fun deleter =>
        deleter.object == object && deleter.holds := fun _ => rfl
  simp only [places, Finset.sum_add_distrib, freeOnes, destroyedOnes, owners,
    returning] at once
  simp only [Bool.and_true] at handedOut
  rw [handedOut] at once
  rw [checkedOut]
  omega

/-- A living pool has destroyed nothing, and no deleter deletes its object. -/
structure Intact (pool : ObjectPool T) : Prop where
  destroyed : pool.strong ≠ 0 → pool.destroyed = []
  deleting : ∀ this deleter, pool.deleters.live this = some deleter →
    deleter.next = .delete → pool.strong = 0

/-- What is free or checked out of a living pool is all it has. -/
theorem Intact.accounted
    {pool : ObjectPool T}
    (intact : pool.Intact)
    (placed : pool.Placed)
    (alive : pool.strong ≠ 0) :
    pool.getPoolSize + pool.checkedOut = pool.objects.length := by
  have accounted := placed.accounted
  rw [intact.destroyed alive] at accounted
  exact accounted

theorem intact_create (initialSize incrementStep : Nat) :
    (create initialSize incrementStep : ObjectPool T).Intact := by
  rw [create, populate_eq]
  exact ⟨fun _ => rfl, by simp⟩

theorem intact_acquire
    {pool : ObjectPool T}
    (intact : pool.Intact) :
    pool.acquire.Intact := by
  have taken : ∀ {grown : ObjectPool T}, grown.Intact → grown.takeBack.Intact := by
    intro grown intact
    unfold takeBack
    split <;> exact ⟨intact.destroyed, intact.deleting⟩
  apply taken
  split
  · rw [growLocked, populate_eq]
    exact ⟨intact.destroyed, intact.deleting⟩
  · exact intact

theorem intact_operate
    [Poolable T]
    {pool : ObjectPool T}
    (intact : pool.Intact)
    (object : Nat)
    (operation : T → PooledObject T) :
    (pool.operate object operation).Intact := by
  unfold operate
  split <;> exact ⟨intact.destroyed, intact.deleting⟩

/-- Dropping a reference that was counted destroys objects with the last one. -/
theorem intact_dropStrong
    {pool : ObjectPool T}
    (intact : pool.Intact)
    (alive : pool.strong ≠ 0) :
    pool.dropStrong.Intact := by
  have stillRunning : ∀ this deleter, pool.deleters.live this = some deleter →
      deleter.next ≠ .delete := fun this deleter isLive deletes =>
    alive (intact.deleting this deleter isLive deletes)
  unfold dropStrong
  dsimp only
  split
  · rename_i last
    exact ⟨fun survives => absurd last survives,
      fun this deleter isLive deletes =>
        absurd deletes (stillRunning this deleter isLive)⟩
  · exact ⟨fun _ => intact.destroyed alive,
      fun this deleter isLive deletes =>
        absurd deletes (stillRunning this deleter isLive)⟩

/-- A deleter deletes its object only if it finds the pool gone. -/
theorem intact_proceed
    {pool : ObjectPool T}
    (intact : pool.Intact)
    (this : Nat)
    (deleter : Deleter)
    {next : DeleterStep}
    (gone : next = .delete → pool.strong = 0) :
    (pool.proceed this deleter next).Intact := by
  refine ⟨intact.destroyed, ?_⟩
  intro address other running deletes
  rcases Slots.stored_or_live_of_live_set running with new | old
  · cases new
    exact gone deletes
  · exact intact.deleting address other old deletes

theorem intact_finish
    {pool : ObjectPool T}
    (intact : pool.Intact)
    (this : Nat) :
    (pool.finish this).Intact := by
  refine ⟨intact.destroyed, ?_⟩
  intro address other running deletes
  rcases Slots.stored_or_live_of_live_set running with emptied | old
  · cases emptied
  · exact intact.deleting address other old deletes

theorem intact_dropHandle
    {pool : ObjectPool T}
    (intact : pool.Intact)
    (this : Nat)
    (handle : Handle) :
    (pool.dropHandle this handle).Intact := by
  unfold dropHandle
  split
  · exact ⟨intact.destroyed, intact.deleting⟩
  · refine ⟨intact.destroyed, ?_⟩
    intro address other running deletes
    rcases Slots.stored_or_live_of_live_append running with new | old
    · cases new
      cases deletes
    · exact intact.deleting address other old deletes

theorem intact_runDeleter
    [Poolable T]
    {pool after : ObjectPool T}
    (intact : pool.Intact)
    (counted : pool.Counted)
    {this : Nat}
    {deleter : Deleter}
    (isLive : pool.deleters.live this = some deleter)
    (effect : DeleterEffect this deleter pool after) :
    after.Intact := by
  cases effect with
  | gone next dead => exact intact_proceed intact this deleter fun _ => dead
  | lock next alive =>
      have locked : Intact { pool with strong := pool.strong + 1 } :=
        ⟨fun _ => intact.destroyed alive, fun this other running deletes =>
          absurd (intact.deleting this other running deletes) alive⟩
      exact intact_proceed locked this deleter (by simp)
  | reset next =>
      exact intact_proceed (intact_operate intact deleter.object .reset) this
        deleter (by simp)
  | push next =>
      have pushed : Intact { pool with free := pool.free ++ [deleter.object] } :=
        ⟨intact.destroyed, intact.deleting⟩
      exact intact_proceed pushed this deleter (by simp)
  | drop next =>
      have alive := counted.strong_ne_zero_of_locked isLive
        (by simp [Deleter.locked, next])
      exact intact_dropStrong (intact_finish intact this) alive
  | delete next =>
      have gone := intact.deleting this deleter isLive next
      exact ⟨fun survives => absurd gone survives,
        (intact_finish intact this).deleting⟩

/-- Every event leaves a living pool intact. -/
theorem Intact.step
    [Poolable T]
    {pool after : ObjectPool T}
    (intact : pool.Intact)
    (counted : pool.Counted)
    {event : Event T}
    (stepped : pool.step event = some after) :
    after.Intact := by
  cases effect_of_step stepped with
  | copyReference referenced =>
      have alive := counted.strong_ne_zero referenced
      exact ⟨fun _ => intact.destroyed alive, fun this deleter isLive deletes =>
        absurd (intact.deleting this deleter isLive deletes) alive⟩
  | dropReference referenced =>
      exact intact_dropStrong ⟨intact.destroyed, intact.deleting⟩
        (counted.strong_ne_zero referenced)
  | acquire => exact intact_acquire intact
  | mutate change isLive => exact intact_operate intact _ _
  | copyHandle isLive => exact ⟨intact.destroyed, intact.deleting⟩
  | dropHandle isLive => exact intact_dropHandle intact _ _
  | runDeleter isLive => exact intact_runDeleter intact counted isLive (runDeleter_effect _ _ pool)

/-! ## What is constructed and checked out -/

/-- The pool as `acquire` takes an object from it. -/
def grown (pool : ObjectPool T) : ObjectPool T :=
  if pool.free.isEmpty then pool.growLocked else pool

theorem acquire_eq (pool : ObjectPool T) :
    pool.acquire = pool.grown.takeBack := rfl

/-- A pool grows only when it has nothing free, and then by one increment. -/
theorem length_grown (pool : ObjectPool T) :
    pool.grown.objects.length =
      pool.objects.length +
        if pool.free.isEmpty then pool.incrementStep else 0 := by
  unfold grown
  split
  · rw [growLocked, populate_eq]
    simp
  · rfl

/-- Growing checks nothing out. -/
theorem checkedOut_grown (pool : ObjectPool T) :
    pool.grown.checkedOut = pool.checkedOut := by
  unfold grown
  split
  · rw [growLocked, populate_eq]
    rfl
  · rfl

theorem length_acquire (pool : ObjectPool T) :
    pool.acquire.objects.length =
      pool.objects.length +
        if pool.free.isEmpty then pool.incrementStep else 0 := by
  rw [acquire_eq, (samePlaces_takeBack pool.grown).constructed, length_grown]

/-- An acquire adds its objects behind those there are. -/
theorem objects_acquire (pool : ObjectPool T) :
    pool.objects <+: pool.acquire.objects := by
  have grown : pool.objects <+: pool.grown.objects := by
    unfold ObjectPool.grown
    split
    · rw [growLocked, populate_eq]
      exact List.prefix_append _ _
    · exact List.prefix_rfl
  rw [acquire_eq, takeBack]
  split <;> exact grown

/-- An object that is available is checked out. -/
theorem checkedOut_acquire
    {pool : ObjectPool T}
    (available : pool.grown.free ≠ []) :
    pool.acquire.checkedOut = pool.checkedOut + 1 := by
  rw [acquire_eq, takeBack, List.getLast?_eq_some_getLast available]
  simp only [checkedOut, Slots.count_append, Option.any_some, if_true]
  have same := checkedOut_grown pool
  unfold checkedOut at same
  omega

/-- Only an acquire constructs objects. -/
theorem length_of_step
    [Poolable T]
    {pool after : ObjectPool T}
    {event : Event T}
    (stepped : pool.step event = some after) :
    after.objects.length = pool.objects.length ∨
      event = .acquire ∧ after = pool.acquire := by
  cases effect_of_step stepped with
  | copyReference => exact .inl rfl
  | dropReference => exact .inl (samePlaces_dropStrong _).constructed
  | acquire => exact .inr ⟨rfl, rfl⟩
  | mutate change isLive => exact .inl (samePlaces_operate _ _ _).constructed
  | copyHandle isLive => exact .inl (samePlaces_copyHandle isLive _).constructed
  | dropHandle isLive => exact .inl (samePlaces_dropHandle isLive).constructed
  | runDeleter isLive => exact .inl ((runDeleter_effect _ _ pool).samePlaces isLive).constructed

/-- The objects that are not checked out. -/
def home (pool : ObjectPool T) : Nat :=
  pool.free.length + pool.destroyed.length

theorem home_operate
    [Poolable T]
    (object : Nat)
    (operation : T → PooledObject T)
    (pool : ObjectPool T) :
    (pool.operate object operation).home = pool.home := by
  unfold operate
  split <;> rfl

theorem home_dropStrong (pool : ObjectPool T) :
    pool.dropStrong.home = pool.home := by
  unfold dropStrong
  dsimp only
  split
  · simp only [home, destroyObjects, List.length_append, List.length_nil]
    omega
  · rfl

theorem DeleterEffect.home_le
    [Poolable T]
    {this : Nat}
    {deleter : Deleter}
    {pool after : ObjectPool T}
    (effect : DeleterEffect this deleter pool after) :
    pool.home ≤ after.home := by
  cases effect with
  | gone | lock => exact Nat.le_refl pool.home
  | reset next => exact Nat.le_of_eq (home_operate deleter.object .reset pool).symm
  | push next =>
      simp only [home, proceed, List.length_append, List.length_singleton]
      omega
  | drop next => exact Nat.le_of_eq (home_dropStrong (pool.finish this)).symm
  | delete next =>
      simp only [home, finish, destroyObjects, List.length_append,
        List.length_singleton]
      omega

/-- Only an acquire takes an object that was free. -/
theorem home_of_step
    [Poolable T]
    {pool after : ObjectPool T}
    {event : Event T}
    (stepped : pool.step event = some after) :
    pool.home ≤ after.home ∨ event = .acquire ∧ after = pool.acquire := by
  cases effect_of_step stepped with
  | copyReference => exact .inl (Nat.le_refl pool.home)
  | dropReference =>
      have same := home_dropStrong { pool with references := pool.references - 1 }
      exact .inl (Nat.le_of_eq same.symm)
  | acquire => exact .inr ⟨rfl, rfl⟩
  | mutate change isLive =>
      exact .inl (Nat.le_of_eq (home_operate _ _ pool).symm)
  | copyHandle isLive => exact .inl (Nat.le_refl pool.home)
  | dropHandle isLive =>
      left
      unfold dropHandle
      split <;> exact Nat.le_refl pool.home
  | runDeleter isLive => exact .inl (runDeleter_effect _ _ pool).home_le

/-- Only an acquire checks an object out. -/
theorem checkedOut_of_step
    [Poolable T]
    {pool after : ObjectPool T}
    (placed : pool.Placed)
    {event : Event T}
    (stepped : pool.step event = some after) :
    after.checkedOut ≤ pool.checkedOut ∨
      event = .acquire ∧ after = pool.acquire := by
  have before := placed.accounted
  have now := (placed.step stepped).accounted
  rcases length_of_step stepped with constructed | acquired
  · rcases home_of_step stepped with kept | acquired
    · unfold home at kept
      left
      omega
    · exact .inr acquired
  · exact .inr acquired

end ObjectPool
end ModernCommon
