import ModernCommon.ObjectPool.Accounts

/-!
# Recycling is not noticed

A pool stands for an allocator that constructs an object for every acquire and
destroys it with the last copy of its handle. If a client cannot tell an object
that was reset from one that was just constructed, it cannot tell the pool from
that allocator, however its handles come and go and however the deleters of
others are interrupted.
-/

namespace ModernCommon
namespace ObjectPool

open Library

variable {T : Type} [Poolable T]

/-! ## Objects of one's own -/

/-- The copies of a handle and the object that was constructed for them. -/
structure FreshHandle (T : Type) where
  value : T
  otherCopies : Nat := 0

/-- What clients do, when every acquire constructs an object. -/
def freshStep
    (handles : Slots (FreshHandle T)) :
    Event T → Option (Slots (FreshHandle T))
  | .acquire => some (handles ++ [some { value := Poolable.construct }])
  | .mutate this change => do
      let handle ← handles.live this
      return handles.set this
        (some { handle with value := change handle.value })
  | .copyHandle this => do
      let handle ← handles.live this
      return handles.set this
        (some { handle with otherCopies := handle.otherCopies + 1 })
  | .dropHandle this => do
      let handle ← handles.live this
      match handle.otherCopies with
      | others + 1 =>
          return handles.set this (some { handle with otherCopies := others })
      | 0 => return handles.set this none
  | .copyReference | .dropReference | .runDeleter _ => some handles

/-- The runs of a client that gets a fresh object each time. -/
def freshSystem
    (T : Type)
    [Poolable T] : System (Slots (FreshHandle T)) (Event T) where
  initial := []
  step := freshStep

/-! ## What a client sees -/

section Views

variable (alike : T → T → Prop)

/-- What a client sees through a handle. -/
def Sees (pool : ObjectPool T) : Option Handle → Option (FreshHandle T) → Prop
  | some handle, some fresh =>
      fresh.otherCopies = handle.otherCopies ∧
        ∃ pooled, pool.objects.live handle.object = some pooled ∧
          alike pooled.value fresh.value
  | none, none => True
  | _, _ => False

/-- Through all handles of a pool the same is seen as with objects of one's own. -/
structure LooksFresh
    (pool : ObjectPool T)
    (fresh : Slots (FreshHandle T)) : Prop where
  length : fresh.length = pool.handles.length
  handles : ∀ this,
    Sees alike pool (pool.handles.live this) (fresh.live this)

end Views

variable {alike : T → T → Prop} {pool after : ObjectPool T}
variable {fresh : Slots (FreshHandle T)}

theorem Sees.congr
    {handle : Option Handle}
    {own : Option (FreshHandle T)}
    (sees : Sees alike pool handle own)
    (same : ∀ held, handle = some held →
      after.objects.live held.object = pool.objects.live held.object) :
    Sees alike after handle own := by
  cases handle with
  | none => cases own <;> exact sees
  | some held =>
      cases own with
      | none => exact sees
      | some own =>
          obtain ⟨copies, pooled, isLive, isAlike⟩ := sees
          refine ⟨copies, pooled, ?_, isAlike⟩
          rw [same held rfl, isLive]

namespace LooksFresh

/-- A handle that is live in the pool is live beside it. -/
theorem exists_fresh
    (looks : LooksFresh alike pool fresh)
    {this : Nat}
    {handle : Handle}
    (isLive : pool.handles.live this = some handle) :
    ∃ own pooled, fresh.live this = some own ∧
      own.otherCopies = handle.otherCopies ∧
        pool.objects.live handle.object = some pooled ∧
          alike pooled.value own.value := by
  have sees := looks.handles this
  rw [isLive] at sees
  cases isFresh : fresh.live this with
  | none =>
      rw [isFresh] at sees
      exact sees.elim
  | some own =>
      rw [isFresh] at sees
      obtain ⟨copies, pooled, objectLive, isAlike⟩ := sees
      exact ⟨own, pooled, rfl, copies, objectLive, isAlike⟩

/-- What happens elsewhere is not seen. -/
theorem keep
    (looks : LooksFresh alike pool fresh)
    (handles : after.handles = pool.handles)
    (objects : ∀ this handle, pool.handles.live this = some handle →
      after.objects.live handle.object = pool.objects.live handle.object) :
    LooksFresh alike after fresh := by
  refine ⟨by rw [handles]; exact looks.length, fun this => ?_⟩
  rw [handles]
  exact (looks.handles this).congr fun held isHeld => objects this held isHeld

/-- What happens at one handle is seen there only. -/
theorem change
    (looks : LooksFresh alike pool fresh)
    {this : Nat}
    {own : Option (FreshHandle T)}
    (inRange : this < pool.handles.length)
    (length : after.handles.length = pool.handles.length)
    (elsewhere : ∀ other, other ≠ this →
      after.handles.live other = pool.handles.live other)
    (objects : ∀ other handle, other ≠ this →
      pool.handles.live other = some handle →
        after.objects.live handle.object = pool.objects.live handle.object)
    (here : Sees alike after (after.handles.live this) own) :
    LooksFresh alike after (fresh.set this own) := by
  refine ⟨by rw [List.length_set, length]; exact looks.length, fun other => ?_⟩
  by_cases same : other = this
  · subst same
    rw [Slots.live_set_self (by rw [looks.length]; exact inRange)]
    exact here
  · rw [elsewhere other same, Slots.live_set_ne (Ne.symm same)]
    exact (looks.handles other).congr fun held isHeld =>
      objects other held same isHeld

/-- Seen through another handle, another object is live. -/
theorem append
    (looks : LooksFresh alike pool fresh)
    {handle : Handle}
    {own : FreshHandle T}
    (handles : after.handles = pool.handles ++ [some handle])
    (objects : ∀ this held, pool.handles.live this = some held →
      after.objects.live held.object = pool.objects.live held.object)
    (here : Sees alike after (some handle) (some own)) :
    LooksFresh alike after (fresh ++ [some own]) := by
  refine ⟨by simp [handles, looks.length], fun other => ?_⟩
  rw [handles]
  by_cases same : other = pool.handles.length
  · rw [same, Slots.live_append_self, ← looks.length, Slots.live_append_self]
    exact here
  · rw [Slots.live_append_of_ne _ _ same,
      Slots.live_append_of_ne _ _ (by rw [looks.length]; exact same)]
    exact (looks.handles other).congr fun held isHeld =>
      objects other held isHeld

end LooksFresh

/-! ## What happens elsewhere -/

omit [Poolable T] in
/-- No two handles share an object. -/
theorem Placed.handle_unique
    (placed : pool.Placed)
    {this other : Nat}
    {handle otherHandle : Handle}
    (isLive : pool.handles.live this = some handle)
    (otherLive : pool.handles.live other = some otherHandle)
    (same : otherHandle.object = handle.object) :
    other = this := by
  have once := placed handle.object
  unfold places at once
  have one : pool.handles.count (fun held => held.object == handle.object) ≤ 1 := by
    split_ifs at once <;> omega
  exact Slots.eq_of_count_le_one one isLive (by simp) otherLive (by simp [same])

omit [Poolable T] in
theorem live_destroyObjects
    {objects : List Nat}
    {object : Nat}
    (spared : object ∉ objects) :
    (pool.destroyObjects objects).objects.live object =
      pool.objects.live object := by
  rw [destroyObjects, Slots.live_clear, if_neg spared]

omit [Poolable T] in
/-- The last reference takes what is free with it, and nothing else. -/
theorem live_dropStrong
    {object : Nat}
    (taken : object ∉ pool.free) :
    pool.dropStrong.objects.live object = pool.objects.live object := by
  unfold dropStrong
  dsimp only
  split
  · exact live_destroyObjects taken
  · rfl

theorem live_operate
    {operated object : Nat}
    {operation : T → PooledObject T}
    (differs : operated ≠ object) :
    (pool.operate operated operation).objects.live object =
      pool.objects.live object := by
  unfold operate
  split
  · rfl
  · exact Slots.live_set_ne differs _

/-- A deleter touches no object that has a handle. -/
theorem DeleterEffect.live_object
    (placed : pool.Placed)
    {address this : Nat}
    {deleter : Deleter}
    (running : pool.deleters.live address = some deleter)
    (effect : DeleterEffect address deleter pool after)
    {handle : Handle}
    (isLive : pool.handles.live this = some handle) :
    after.objects.live handle.object = pool.objects.live handle.object := by
  obtain ⟨_, _, taken, elsewhere⟩ := placed.of_handle isLive
  cases effect with
  | gone | lock | push => rfl
  | reset next =>
      exact live_operate (elsewhere address deleter running (by simp [next]))
  | drop next => exact live_dropStrong taken
  | delete next =>
      apply live_destroyObjects
      rw [List.mem_singleton]
      exact (elsewhere address deleter running (by simp [next])).symm

theorem DeleterEffect.handles
    {address : Nat}
    {deleter : Deleter}
    (effect : DeleterEffect address deleter pool after) :
    after.handles = pool.handles := by
  cases effect with
  | gone | lock | push | delete => rfl
  | reset next =>
      change (pool.operate deleter.object .reset).handles = pool.handles
      unfold operate
      split <;> rfl
  | drop next =>
      unfold dropStrong
      dsimp only
      split <;> rfl

/-! ## The simulation -/

/-- Clients can tell nothing from what a change makes of objects they could not
tell apart. -/
def Respects (alike : T → T → Prop) : Event T → Prop
  | .mutate _ change => ∀ left right, alike left right →
      alike (change left) (change right)
  | _ => True

/-- What is clean is as good as new. -/
theorem alike_of_isClean
    (constructed : alike Poolable.construct Poolable.construct)
    (resets : ∀ before, alike (Poolable.reset before) Poolable.construct)
    {pooled : PooledObject T}
    (isClean : pooled.isClean = true) :
    alike pooled.value Poolable.construct := by
  cases pooled with
  | constructed => exact constructed
  | reset before => exact resets before
  | mutated value => cases isClean

theorem LooksFresh.acquire
    (constructed : alike Poolable.construct Poolable.construct)
    (resets : ∀ before, alike (Poolable.reset before) Poolable.construct)
    (looks : LooksFresh alike pool fresh)
    (books : pool.Books) :
    LooksFresh alike pool.acquire
      (fresh ++ [some { value := Poolable.construct }]) := by
  obtain ⟨object, pooled, handles, isLive, isClean⟩ := books.acquire.2
  apply looks.append handles
  · intro this held heldLive
    obtain ⟨stored, _⟩ := books.placed.of_handle heldLive
    obtain ⟨added, isAdded⟩ := objects_acquire pool
    rw [Slots.live, Slots.live, ← isAdded, List.getElem?_append_left stored]
  · exact ⟨rfl, pooled, isLive, alike_of_isClean constructed resets isClean⟩

theorem LooksFresh.mutate
    (looks : LooksFresh alike pool fresh)
    (books : pool.Books)
    {this : Nat}
    {handle : Handle}
    (isLive : pool.handles.live this = some handle)
    {change : T → T}
    (respects : ∀ left right, alike left right →
      alike (change left) (change right)) :
    ∃ after, freshStep fresh (.mutate this change) = some after ∧
      LooksFresh alike
        (pool.operate handle.object fun value => .mutated (change value))
        after := by
  obtain ⟨own, pooled, isFresh, copies, objectLive, isAlike⟩ :=
    looks.exists_fresh isLive
  refine ⟨fresh.set this (some { own with value := change own.value }), ?_, ?_⟩
  · simp [freshStep, isFresh]
  have operated : (pool.operate handle.object fun value =>
      .mutated (change value)) = { pool with
        objects := pool.objects.set handle.object
          (some (.mutated (change pooled.value))) } := by
    simp [operate, objectLive]
  rw [operated]
  apply looks.change (Slots.lt_length_of_live isLive)
  · rfl
  · exact fun _ _ => rfl
  · intro other held differs otherLive
    apply Slots.live_set_ne
    intro same
    exact differs (books.placed.handle_unique isLive otherLive same.symm)
  · rw [isLive]
    refine ⟨copies, _, Slots.live_set_self (Slots.lt_length_of_live objectLive) _,
      respects _ _ isAlike⟩

theorem LooksFresh.copyHandle
    (looks : LooksFresh alike pool fresh)
    {this : Nat}
    {handle : Handle}
    (isLive : pool.handles.live this = some handle) :
    ∃ after, freshStep fresh (.copyHandle this) = some after ∧
      LooksFresh alike { pool with
        handles := pool.handles.set this
          (some { handle with otherCopies := handle.otherCopies + 1 }) }
        after := by
  obtain ⟨own, pooled, isFresh, copies, objectLive, isAlike⟩ :=
    looks.exists_fresh isLive
  have inRange := Slots.lt_length_of_live isLive
  refine ⟨fresh.set this
    (some { own with otherCopies := own.otherCopies + 1 }), ?_, ?_⟩
  · simp [freshStep, isFresh]
  apply looks.change inRange (List.length_set ..)
  · intro other differs
    exact Slots.live_set_ne (Ne.symm differs) _
  · exact fun _ _ _ _ => rfl
  · rw [Slots.live_set_self inRange]
    exact ⟨congrArg (· + 1) copies, pooled, objectLive, isAlike⟩

theorem LooksFresh.dropHandle
    (looks : LooksFresh alike pool fresh)
    {this : Nat}
    {handle : Handle}
    (isLive : pool.handles.live this = some handle) :
    ∃ after, freshStep fresh (.dropHandle this) = some after ∧
      LooksFresh alike (pool.dropHandle this handle) after := by
  obtain ⟨own, pooled, isFresh, copies, objectLive, isAlike⟩ :=
    looks.exists_fresh isLive
  have inRange := Slots.lt_length_of_live isLive
  cases others : handle.otherCopies with
  | zero =>
      rw [others] at copies
      refine ⟨fresh.set this none, by simp [freshStep, isFresh, copies], ?_⟩
      simp only [ObjectPool.dropHandle, others]
      apply looks.change inRange (List.length_set ..)
      · intro other differs
        exact Slots.live_set_ne (Ne.symm differs) _
      · exact fun _ _ _ _ => rfl
      · simp only [Slots.live_set_self inRange]
        trivial
  | succ others' =>
      rw [others] at copies
      refine ⟨fresh.set this (some { own with otherCopies := others' }),
        by simp [freshStep, isFresh, copies], ?_⟩
      simp only [ObjectPool.dropHandle, others]
      apply looks.change inRange (List.length_set ..)
      · intro other differs
        exact Slots.live_set_ne (Ne.symm differs) _
      · exact fun _ _ _ _ => rfl
      · simp only [Slots.live_set_self inRange]
        exact ⟨rfl, pooled, objectLive, isAlike⟩

/-- The allocator can follow every event of the pool. -/
theorem LooksFresh.step
    (constructed : alike Poolable.construct Poolable.construct)
    (resets : ∀ before, alike (Poolable.reset before) Poolable.construct)
    (looks : LooksFresh alike pool fresh)
    (books : pool.Books)
    {event : Event T}
    (respects : Respects alike event)
    (stepped : pool.step event = some after) :
    ∃ next, freshStep fresh event = some next ∧ LooksFresh alike after next := by
  cases effect_of_step stepped with
  | copyReference =>
      exact ⟨fresh, rfl, looks.keep rfl fun _ _ _ => rfl⟩
  | dropReference =>
      refine ⟨fresh, rfl, looks.keep ?_ fun this handle isLive => ?_⟩
      · unfold dropStrong
        dsimp only
        split <;> rfl
      · exact live_dropStrong (books.placed.of_handle isLive).2.2.1
  | acquire => exact ⟨_, rfl, looks.acquire constructed resets books⟩
  | mutate change isLive => exact looks.mutate books isLive respects
  | copyHandle isLive => exact looks.copyHandle isLive
  | dropHandle isLive => exact looks.dropHandle isLive
  | @runDeleter address deleter isLive =>
      have effect := runDeleter_effect address deleter pool
      exact ⟨fresh, rfl, looks.keep effect.handles fun this handle held =>
        effect.live_object books.placed isLive held⟩

theorem looksFresh_create
    (alike : T → T → Prop)
    (initialSize incrementStep : Nat) :
    LooksFresh alike (create initialSize incrementStep) [] := by
  rw [create, populate_eq]
  refine ⟨rfl, fun this => ?_⟩
  rw [Slots.live_nil, Slots.live_nil]
  trivial

/-- Whatever clients and deleters do, through its handles a pool looks as if every
acquire had constructed an object of its own, as far as clients can tell reset
objects from constructed ones. -/
theorem recycling_unnoticed
    (alike : T → T → Prop)
    (constructed : alike Poolable.construct Poolable.construct)
    (resets : ∀ before, alike (Poolable.reset before) Poolable.construct)
    (initialSize incrementStep : Nat)
    (grows : 1 ≤ incrementStep)
    (events : List (Event T))
    (respects : ∀ event ∈ events, Respects alike event)
    (pool : ObjectPool T)
    (ran : (system T initialSize incrementStep).run
      (create initialSize incrementStep) events = some pool) :
    ∃ fresh, (freshSystem T).run [] events = some fresh ∧
      LooksFresh alike pool fresh := by
  obtain ⟨fresh, ranFresh, _, looks⟩ := System.simulated_of_run
    (system T initialSize incrementStep) (freshSystem T)
    (fun pool fresh => pool.Books ∧ LooksFresh alike pool fresh)
    (Respects alike)
    (fun pool fresh event after respects related stepped => by
      obtain ⟨books, looks⟩ := related
      obtain ⟨next, followed, stillLooks⟩ :=
        looks.step constructed resets books respects stepped
      exact ⟨next, followed, books.step stepped, stillLooks⟩)
    ⟨books_create initialSize grows,
      looksFresh_create alike initialSize incrementStep⟩
    respects ran
  exact ⟨fresh, ranFresh, looks⟩

/-- The only object of a pool is changed, returned and handed out again. -/
def recycled : List (Event TestedWidget) :=
  [.acquire, .mutate 0 fun widget => { widget with value := 42 }, .dropHandle 0,
    .runDeleter 0, .runDeleter 0, .runDeleter 0, .runDeleter 0, .acquire]

theorem recycling_unnoticed_recycled :
    ∃ pool, (system TestedWidget 1 1).run (create 1 1) recycled = some pool ∧
      pool.objects.length = 1 ∧
      ∃ fresh, (freshSystem TestedWidget).run [] recycled = some fresh ∧
        LooksFresh (fun left right => left.value = right.value) pool fresh := by
  refine ⟨_, rfl, rfl, ?_⟩
  apply recycling_unnoticed (fun left right => left.value = right.value) rfl
    (fun _ => rfl) 1 1 (by decide) recycled ?_ _ rfl
  intro event present
  simp only [recycled, List.mem_cons, List.not_mem_nil, or_false] at present
  rcases present with rfl | rfl | rfl | rfl | rfl | rfl | rfl | rfl
  all_goals first | trivial | exact fun _ _ _ => rfl

end ObjectPool
end ModernCommon
