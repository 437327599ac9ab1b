import ModernCommon.ObjectPool.Places

/-!
# What is free is clean

A client changes an object only through a handle, and a deleter resets it before
it is pushed onto the free list, so objects wait there as they were constructed
or reset. On the way no destroyed object is used.
-/

namespace ModernCommon
namespace ObjectPool

open Library

variable {T : Type}

/-- Nobody has touched the object since it was constructed or reset. -/
def CleanAt (pool : ObjectPool T) (object : Nat) : Prop :=
  ∀ pooled, pool.objects.live object = some pooled → pooled.isClean = true

/-- Exactly the objects not destroyed are live; what is free, or about to be
pushed, is clean. -/
structure Tidy (pool : ObjectPool T) : Prop where
  live_iff : ∀ object, (∃ pooled, pool.objects.live object = some pooled) ↔
    object < pool.objects.length ∧ object ∉ pool.destroyed
  free : ∀ object ∈ pool.free, pool.CleanAt object
  returned : ∀ this deleter, pool.deleters.live this = some deleter →
    deleter.next = .push → pool.CleanAt deleter.object
  faultless : pool.misuses = []

/-- An operation that always cleans leaves its object clean. -/
theorem cleanAt_operate
    [Poolable T]
    (pool : ObjectPool T)
    (object : Nat)
    {operation : T → PooledObject T}
    (cleans : ∀ value, (operation value).isClean = true) :
    (pool.operate object operation).CleanAt object := by
  intro pooled found
  unfold operate at found
  split at found
  · rename_i gone
    rw [misuse, gone] at found
    cases found
  · rename_i before isLive
    rw [Slots.live_set_self (Slots.lt_length_of_live isLive)] at found
    cases found
    exact cleans before.value

namespace Tidy

variable {pool : ObjectPool T}

/-- A constructed object is clean. -/
theorem pushBackNew
    (tidy : pool.Tidy)
    (placed : pool.Placed) :
    pool.pushBackNew.Tidy := by
  have clean : ∀ object, (pool.CleanAt object ∨ pool.objects.length ≤ object) →
      pool.pushBackNew.CleanAt object := by
    intro object before pooled found
    rcases Slots.stored_or_live_of_live_append found with new | old
    · cases new
      rfl
    · rcases before with wasClean | fresh
      · exact wasClean pooled old
      · exact absurd (Slots.lt_length_of_live old) (Nat.not_lt.mpr fresh)
  constructor
  · intro object
    simp only [ObjectPool.pushBackNew, List.length_append, List.length_singleton]
    by_cases fresh : object = pool.objects.length
    · subst fresh
      rw [Slots.live_append_self]
      have never : pool.objects.length ∉ pool.destroyed := fun gone =>
        absurd (placed.of_destroyed gone) (Nat.lt_irrefl _)
      simp [never]
    · rw [Slots.live_append_of_ne _ _ fresh, tidy.live_iff]
      have : object < pool.objects.length + 1 ↔ object < pool.objects.length := by
        omega
      rw [this]
  · intro object isFree
    rcases List.mem_append.mp isFree with before | new
    · exact clean object (.inl (tidy.free object before))
    · exact clean object (.inr (Nat.le_of_eq (List.mem_singleton.mp new).symm))
  · intro this deleter running next
    exact clean _ (.inl (tidy.returned this deleter running next))
  · exact tidy.faultless

theorem populate
    (tidy : pool.Tidy)
    (placed : pool.Placed)
    (count : Nat) :
    (populate count pool).Tidy := by
  induction count generalizing pool with
  | zero => exact tidy
  | succ count inductionHypothesis =>
      exact inductionHypothesis (tidy.pushBackNew placed)
        (placed_pushBackNew placed)

/-- What is handed out is live and clean. -/
theorem takeBack
    (tidy : pool.Tidy)
    (placed : pool.Placed)
    (available : pool.free ≠ []) :
    pool.takeBack.Tidy ∧ ∃ object pooled,
      pool.takeBack.handles = pool.handles ++ [some { object := object }] ∧
        pool.takeBack.objects.live object = some pooled ∧
          pooled.isClean = true := by
  unfold ObjectPool.takeBack
  rw [List.getLast?_eq_some_getLast available]
  have isFree := List.getLast_mem available
  obtain ⟨pooled, isLive⟩ :=
    (tidy.live_iff (pool.free.getLast available)).mpr (placed.of_free isFree)
  refine ⟨⟨tidy.live_iff, ?_, tidy.returned, tidy.faultless⟩, _, pooled, rfl,
    isLive, tidy.free _ isFree pooled isLive⟩
  intro object stillFree
  exact tidy.free object ((List.dropLast_sublist _).subset stillFree)

/-- An operation that cleans its object, or runs on one that nobody returns. -/
theorem operate
    [Poolable T]
    (tidy : pool.Tidy)
    {object : Nat}
    {operation : T → PooledObject T}
    (usable : object < pool.objects.length ∧ object ∉ pool.destroyed)
    (fine : (∀ value, (operation value).isClean = true) ∨
      (object ∉ pool.free ∧ ∀ this deleter,
        pool.deleters.live this = some deleter → deleter.next ≠ .drop →
          deleter.object ≠ object)) :
    (pool.operate object operation).Tidy := by
  obtain ⟨before, isLive⟩ := (tidy.live_iff object).mpr usable
  have cleaned : (∀ value, (operation value).isClean = true) →
      (pool.operate object operation).CleanAt object :=
    cleanAt_operate pool object
  unfold ObjectPool.operate at cleaned ⊢
  simp only [isLive] at cleaned ⊢
  have clean : ∀ other, pool.CleanAt other →
      ((∀ value, (operation value).isClean = true) ∨ other ≠ object) →
        ObjectPool.CleanAt { pool with
          objects := pool.objects.set object (some (operation before.value)) }
          other := by
    intro other wasClean allowed
    by_cases same : other = object
    · subst same
      rcases allowed with cleans | different
      · exact cleaned cleans
      · exact absurd rfl different
    · intro pooled found
      rw [Slots.live_set_ne (Ne.symm same)] at found
      exact wasClean pooled found
  constructor
  · intro other
    rw [List.length_set]
    by_cases same : other = object
    · subst same
      rw [Slots.live_set_self usable.1]
      simp [usable]
    · rw [Slots.live_set_ne (Ne.symm same)]
      exact tidy.live_iff other
  · intro other isFree
    refine clean other (tidy.free other isFree) (fine.imp_right fun elsewhere => ?_)
    rintro rfl
    exact elsewhere.1 isFree
  · intro this deleter running next
    refine clean _ (tidy.returned this deleter running next)
      (fine.imp_right fun elsewhere => ?_)
    exact elsewhere.2 this deleter running (by simp [next])
  · exact tidy.faultless

/-- Destroyed objects are gone, and nothing else is. -/
theorem destroyObjects
    (tidy : pool.Tidy)
    (objects : List Nat) :
    (pool.destroyObjects objects).Tidy := by
  have clean : ∀ object, pool.CleanAt object →
      (pool.destroyObjects objects).CleanAt object := by
    intro object wasClean pooled found
    rw [ObjectPool.destroyObjects, Slots.live_clear] at found
    split at found
    · cases found
    · exact wasClean pooled found
  constructor
  · intro object
    simp only [ObjectPool.destroyObjects, Slots.live_clear, Slots.length_clear,
      List.mem_append]
    by_cases gone : object ∈ objects
    · simp [gone]
    · simpa [gone] using tidy.live_iff object
  · intro object isFree
    exact clean object (tidy.free object isFree)
  · intro this deleter running next
    exact clean _ (tidy.returned this deleter running next)
  · exact tidy.faultless

theorem dropStrong (tidy : pool.Tidy) : pool.dropStrong.Tidy := by
  unfold ObjectPool.dropStrong
  dsimp only
  split
  · apply destroyObjects
    exact ⟨tidy.live_iff, fun object isFree => absurd isFree List.not_mem_nil,
      tidy.returned, tidy.faultless⟩
  · exact ⟨tidy.live_iff, tidy.free, tidy.returned, tidy.faultless⟩

/-- A deleter that starts has nothing to push yet. -/
theorem dropHandle
    (tidy : pool.Tidy)
    (this : Nat)
    (handle : Handle) :
    (pool.dropHandle this handle).Tidy := by
  unfold ObjectPool.dropHandle
  split
  · exact ⟨tidy.live_iff, tidy.free, tidy.returned, tidy.faultless⟩
  · refine ⟨tidy.live_iff, tidy.free, ?_, tidy.faultless⟩
    intro address deleter running next
    rcases Slots.stored_or_live_of_live_append running with new | old
    · cases new
      cases next
    · exact tidy.returned address deleter old next

/-- A deleter comes to push an object that is clean. -/
theorem proceed
    (tidy : pool.Tidy)
    (this : Nat)
    {deleter : Deleter}
    {next : DeleterStep}
    (clean : next = .push → pool.CleanAt deleter.object) :
    (pool.proceed this deleter next).Tidy := by
  refine ⟨tidy.live_iff, tidy.free, ?_, tidy.faultless⟩
  intro address other running pushes
  rcases Slots.stored_or_live_of_live_set running with new | old
  · cases new
    exact clean pushes
  · exact tidy.returned address other old pushes

theorem finish
    (tidy : pool.Tidy)
    (this : Nat) :
    (pool.finish this).Tidy := by
  refine ⟨tidy.live_iff, tidy.free, ?_, tidy.faultless⟩
  intro address other running pushes
  rcases Slots.stored_or_live_of_live_set running with emptied | old
  · cases emptied
  · exact tidy.returned address other old pushes

/-- A deleter resets its object before it pushes it. -/
theorem runDeleter
    [Poolable T]
    (tidy : pool.Tidy)
    (placed : pool.Placed)
    {this : Nat}
    {deleter : Deleter}
    (isLive : pool.deleters.live this = some deleter)
    {after : ObjectPool T}
    (effect : DeleterEffect this deleter pool after) :
    after.Tidy := by
  cases effect with
  | gone next dead => exact tidy.proceed this fun pushes => by cases pushes
  | lock next alive =>
      have locked : Tidy { pool with strong := pool.strong + 1 } :=
        ⟨tidy.live_iff, tidy.free, tidy.returned, tidy.faultless⟩
      exact locked.proceed this fun pushes => by cases pushes
  | reset next =>
      have usable := placed.of_deleter isLive (by simp [next])
      have operated : (pool.operate deleter.object .reset).Tidy :=
        tidy.operate usable (.inl fun _ => rfl)
      exact operated.proceed this fun _ =>
        cleanAt_operate pool deleter.object fun _ => rfl
  | push next =>
      have clean := tidy.returned this deleter isLive next
      have pushed : Tidy { pool with free := pool.free ++ [deleter.object] } := by
        refine ⟨tidy.live_iff, ?_, tidy.returned, tidy.faultless⟩
        intro object isFree
        rcases List.mem_append.mp isFree with before | new
        · exact tidy.free object before
        · rw [List.mem_singleton.mp new]
          exact clean
      exact pushed.proceed this fun pushes => by cases pushes
  | drop next => exact (tidy.finish this).dropStrong
  | delete next => exact (tidy.finish this).destroyObjects [deleter.object]

end Tidy

end ObjectPool
end ModernCommon
