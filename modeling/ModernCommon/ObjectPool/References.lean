import ModernCommon.ObjectPool.Places

/-!
# Who holds the pool

The strong count of a pool is the number of references clients have and of
deleters that have locked it. The pool's free list goes with the last of them.
-/

namespace ModernCommon
namespace ObjectPool

open Library

variable {T : Type}

/-- The strong count counts clients and deleters, and a destroyed pool has no
free list. -/
structure Counted (pool : ObjectPool T) : Prop where
  strong : pool.strong = pool.references + pool.deleters.count Deleter.locked
  emptied : pool.strong = 0 → pool.free = []

/-- A strong reference that nobody counts any more is dropped. -/
theorem counted_dropStrong
    {pool : ObjectPool T}
    (strong : pool.strong =
      pool.references + pool.deleters.count Deleter.locked + 1) :
    pool.dropStrong.Counted := by
  unfold dropStrong
  dsimp only
  split
  · rename_i last
    refine ⟨?_, fun _ => rfl⟩
    simp only [destroyObjects]
    omega
  · rename_i others
    refine ⟨?_, fun none_left => absurd none_left others⟩
    simp only
    omega

/-- A deleter that goes on keeps or takes a strong reference. -/
theorem count_locked_proceed
    {pool : ObjectPool T}
    {this : Nat}
    {deleter : Deleter}
    (isLive : pool.deleters.live this = some deleter)
    (next : DeleterStep) :
    (pool.proceed this deleter next).deleters.count Deleter.locked +
        (if deleter.locked then 1 else 0) =
      pool.deleters.count Deleter.locked +
        if { deleter with next : Deleter }.locked then 1 else 0 := by
  simpa only [proceed, Option.any_some] using
    Slots.count_set isLive (some { deleter with next }) Deleter.locked

/-- A deleter that returns has its strong reference dropped. -/
theorem count_locked_finish
    {pool : ObjectPool T}
    {this : Nat}
    {deleter : Deleter}
    (isLive : pool.deleters.live this = some deleter) :
    (pool.finish this).deleters.count Deleter.locked +
        (if deleter.locked then 1 else 0) =
      pool.deleters.count Deleter.locked := by
  simpa only [finish, Option.any_none, Bool.false_eq_true, if_false,
    Nat.add_zero] using Slots.count_set isLive none Deleter.locked

namespace Counted

variable {pool : ObjectPool T}

/-- Whoever has a reference keeps the pool alive. -/
theorem strong_ne_zero
    (counted : pool.Counted)
    (referenced : pool.references ≠ 0) :
    pool.strong ≠ 0 := by
  have := counted.strong
  omega

theorem populate
    (counted : pool.Counted)
    (alive : pool.strong ≠ 0)
    (count : Nat) :
    (populate count pool).Counted := by
  rw [populate_eq]
  exact ⟨counted.strong, fun gone => absurd gone alive⟩

theorem takeBack (counted : pool.Counted) : pool.takeBack.Counted := by
  unfold ObjectPool.takeBack
  split
  · exact ⟨counted.strong, counted.emptied⟩
  · refine ⟨counted.strong, fun gone => ?_⟩
    rw [counted.emptied gone]
    rfl

theorem acquire
    (counted : pool.Counted)
    (referenced : pool.references ≠ 0) :
    pool.acquire.Counted := by
  apply takeBack
  split
  · exact counted.populate (counted.strong_ne_zero referenced) _
  · exact counted

theorem operate
    [Poolable T]
    (counted : pool.Counted)
    (object : Nat)
    (operation : T → PooledObject T) :
    (pool.operate object operation).Counted := by
  unfold ObjectPool.operate
  split <;> exact ⟨counted.strong, counted.emptied⟩

theorem dropHandle
    (counted : pool.Counted)
    (this : Nat)
    (handle : Handle) :
    (pool.dropHandle this handle).Counted := by
  unfold ObjectPool.dropHandle
  split
  · exact ⟨counted.strong, counted.emptied⟩
  · refine ⟨?_, counted.emptied⟩
    rw [Slots.count_append]
    exact counted.strong

/-- A deleter that goes on keeps the reference it has. -/
theorem proceed
    (counted : pool.Counted)
    {this : Nat}
    {deleter : Deleter}
    (isLive : pool.deleters.live this = some deleter)
    {next : DeleterStep}
    (sameLock : { deleter with next : Deleter }.locked = deleter.locked) :
    (pool.proceed this deleter next).Counted := by
  have moved := count_locked_proceed isLive next
  rw [sameLock] at moved
  refine ⟨?_, counted.emptied⟩
  rw [Nat.add_right_cancel moved]
  exact counted.strong

/-- A deleter that has locked the pool keeps it alive. -/
theorem strong_ne_zero_of_locked
    (counted : pool.Counted)
    {this : Nat}
    {deleter : Deleter}
    (isLive : pool.deleters.live this = some deleter)
    (locked : deleter.locked) :
    pool.strong ≠ 0 := by
  have holding : 0 < pool.deleters.count Deleter.locked :=
    Slots.count_pos_of_live isLive locked
  have strong := counted.strong
  omega

/-- A deleter locks the pool, and gives the reference back when it returns. -/
theorem runDeleter
    [Poolable T]
    (counted : pool.Counted)
    {this : Nat}
    {deleter : Deleter}
    (isLive : pool.deleters.live this = some deleter)
    {after : ObjectPool T}
    (effect : DeleterEffect this deleter pool after) :
    after.Counted := by
  have strong := counted.strong
  cases effect with
  | gone next dead =>
      exact counted.proceed isLive (by simp [Deleter.locked, next])
  | lock next alive =>
      have locked : { pool with strong := pool.strong + 1 }.deleters.live this =
          some deleter := isLive
      have moved := count_locked_proceed locked .reset
      refine ⟨?_, fun gone => absurd gone (Nat.succ_ne_zero _)⟩
      simp only [Deleter.locked, next, ObjectPool.proceed, Bool.false_eq_true,
        if_false, if_true] at moved ⊢
      omega
  | reset next =>
      have stillLive : (pool.operate deleter.object .reset).deleters.live this =
          some deleter := by
        rw [deleters_operate]
        exact isLive
      have operated := counted.operate deleter.object .reset
      exact operated.proceed stillLive (by simp [Deleter.locked, next])
  | push next =>
      have alive := counted.strong_ne_zero_of_locked isLive
        (by simp [Deleter.locked, next])
      have pushed : Counted { pool with free := pool.free ++ [deleter.object] } :=
        ⟨strong, fun gone => absurd gone alive⟩
      exact pushed.proceed isLive (by simp [Deleter.locked, next])
  | drop next =>
      have gone := count_locked_finish isLive
      simp only [Deleter.locked, next, if_true] at gone
      apply counted_dropStrong
      simp only [finish] at gone ⊢
      omega
  | delete next =>
      have gone := count_locked_finish isLive
      simp only [Deleter.locked, next, Bool.false_eq_true, if_false,
        Nat.add_zero] at gone
      refine ⟨?_, counted.emptied⟩
      exact strong.trans (congrArg (pool.references + ·) gone.symm)

/-- Every event keeps the strong count exact. -/
theorem step
    [Poolable T]
    (counted : pool.Counted)
    {event : Event T}
    {after : ObjectPool T}
    (stepped : pool.step event = some after) :
    after.Counted := by
  have strong := counted.strong
  cases effect_of_step stepped with
  | copyReference =>
      refine ⟨?_, fun gone => absurd gone (Nat.succ_ne_zero _)⟩
      simp only
      omega
  | dropReference referenced =>
      apply counted_dropStrong
      simp only
      omega
  | acquire referenced => exact counted.acquire referenced
  | mutate change isLive => exact counted.operate _ _
  | copyHandle isLive => exact ⟨strong, counted.emptied⟩
  | dropHandle isLive => exact counted.dropHandle _ _
  | runDeleter isLive => exact counted.runDeleter isLive (runDeleter_effect _ _ pool)

end Counted

/-- A pool that has just been created has one reference. -/
theorem counted_create (initialSize incrementStep : Nat) :
    (create initialSize incrementStep : ObjectPool T).Counted := by
  have empty : Counted ({ incrementStep } : ObjectPool T) :=
    ⟨rfl, fun _ => rfl⟩
  exact empty.populate Nat.one_ne_zero initialSize

end ObjectPool
end ModernCommon
