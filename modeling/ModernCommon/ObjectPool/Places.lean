import ModernCommon.ObjectPool.Pool

/-!
# Where objects are

An object is in the free list, with the copies of one handle, with one running
deleter, or destroyed. Events construct objects in the free list and move them
between these places.
-/

namespace ModernCommon
namespace ObjectPool

open Library

variable {T : Type}

/-- A deleter owns the object it was called with. -/
@[simp] theorem Deleter.owns_called (called object : Nat) :
    Deleter.owns object { object := called } = (called == object) := by
  simp [Deleter.owns]

/-- A deleter owns its object until it has pushed it. -/
theorem Deleter.owns_of_ne_drop
    {deleter : Deleter}
    (holding : deleter.next ≠ .drop)
    (object : Nat) :
    deleter.owns object = (deleter.object == object) := by
  simp [Deleter.owns, holding]

/-- A deleter that has pushed its object owns nothing. -/
theorem Deleter.owns_of_drop
    {deleter : Deleter}
    (pushed : deleter.next = .drop)
    (object : Nat) :
    deleter.owns object = false := by
  simp [Deleter.owns, pushed]

/-- In how many places an object is. -/
def places (pool : ObjectPool T) (object : Nat) : Nat :=
  pool.free.count object +
    pool.handles.count (fun handle => handle.object == object) +
    pool.deleters.count (Deleter.owns object) +
    pool.destroyed.count object

/-- Every object constructed is in exactly one place. -/
def Placed (pool : ObjectPool T) : Prop :=
  ∀ object, pool.places object = if object < pool.objects.length then 1 else 0

/-- Nothing changes place and nothing is constructed. -/
structure SamePlaces (pool after : ObjectPool T) : Prop where
  places : ∀ object, after.places object = pool.places object
  constructed : after.objects.length = pool.objects.length

/-- Objects that keep or exchange places stay placed. -/
theorem SamePlaces.placed
    {pool after : ObjectPool T}
    (same : SamePlaces pool after)
    (placed : pool.Placed) :
    after.Placed := by
  intro object
  rw [same.places, same.constructed]
  exact placed object

theorem SamePlaces.trans
    {pool between after : ObjectPool T}
    (first : SamePlaces pool between)
    (second : SamePlaces between after) :
    SamePlaces pool after :=
  ⟨fun object => (second.places object).trans (first.places object),
    second.constructed.trans first.constructed⟩

/-- A constructed object starts out in the free list. -/
theorem placed_pushBackNew
    {pool : ObjectPool T}
    (placed : pool.Placed) :
    pool.pushBackNew.Placed := by
  intro object
  have before := placed object
  simp only [places, pushBackNew, List.count_append, List.count_singleton,
    List.length_append, List.length_singleton, beq_iff_eq] at before ⊢
  split_ifs at before ⊢ <;> omega

/-- Populating constructs one object after the other. -/
theorem placed_populate
    {pool : ObjectPool T}
    (placed : pool.Placed)
    (count : Nat) :
    (populate count pool).Placed := by
  induction count generalizing pool with
  | zero => exact placed
  | succ count inductionHypothesis =>
      exact inductionHypothesis (placed_pushBackNew placed)

/-- The last free object goes with a new handle. -/
theorem samePlaces_takeBack (pool : ObjectPool T) :
    SamePlaces pool pool.takeBack := by
  unfold takeBack
  cases last : pool.free.getLast? with
  | none => exact ⟨fun _ => rfl, rfl⟩
  | some object =>
      refine ⟨fun other => ?_, rfl⟩
      have split := List.dropLast_append_getLast? object last
      have counted : pool.free.count other =
          pool.free.dropLast.count other + [object].count other := by
        rw [← List.count_append, split]
      simp only [places, Slots.count_append, counted, List.count_singleton,
        Option.any_some]
      omega

/-- Acquiring constructs objects if none is free, and hands the last one out. -/
theorem placed_acquire
    {pool : ObjectPool T}
    (placed : pool.Placed) :
    pool.acquire.Placed := by
  apply (samePlaces_takeBack _).placed
  split
  · exact placed_populate placed pool.incrementStep
  · exact placed

/-- A pool that has just been created has its objects in the free list. -/
theorem placed_create (initialSize incrementStep : Nat) :
    (create initialSize incrementStep : ObjectPool T).Placed := by
  apply placed_populate
  intro object
  simp [places]

/-- Operating on an object leaves all where they are. -/
theorem samePlaces_operate
    [Poolable T]
    (object : Nat)
    (operation : T → PooledObject T)
    (pool : ObjectPool T) :
    SamePlaces pool (pool.operate object operation) := by
  unfold operate
  split
  · exact ⟨fun _ => rfl, rfl⟩
  · exact ⟨fun _ => rfl, List.length_set⟩

/-- The free list of a pool that loses its last reference is destroyed. -/
theorem samePlaces_dropStrong (pool : ObjectPool T) :
    SamePlaces pool pool.dropStrong := by
  unfold dropStrong
  dsimp only
  split
  · refine ⟨fun object => ?_, Slots.length_clear _ _⟩
    simp only [places, destroyObjects, List.count_append, List.count_nil]
    omega
  · exact ⟨fun _ => rfl, rfl⟩

/-- The last copy of a handle passes its object to a deleter. -/
theorem samePlaces_dropHandle
    {pool : ObjectPool T}
    {this : Nat}
    {handle : Handle}
    (isLive : pool.handles.live this = some handle) :
    SamePlaces pool (pool.dropHandle this handle) := by
  unfold dropHandle
  cases handle.otherCopies with
  | zero =>
      refine ⟨fun object => ?_, rfl⟩
      have gone := Slots.count_set isLive none fun handle => handle.object == object
      simp only [places, Slots.count_append, Option.any_some, Option.any_none,
        Deleter.owns_called, Bool.false_eq_true, if_false] at gone ⊢
      omega
  | succ others =>
      refine ⟨fun object => ?_, rfl⟩
      have kept := Slots.count_set isLive
        (some { handle with otherCopies := others })
        fun handle => handle.object == object
      simp only [places, Option.any_some] at kept ⊢
      omega

/-- A copied handle is still one owner. -/
theorem samePlaces_copyHandle
    {pool : ObjectPool T}
    {this : Nat}
    {handle : Handle}
    (isLive : pool.handles.live this = some handle)
    (otherCopies : Nat) :
    SamePlaces pool { pool with
      handles := pool.handles.set this (some { handle with otherCopies }) } := by
  refine ⟨fun object => ?_, rfl⟩
  have kept := Slots.count_set isLive (some { handle with otherCopies })
    fun handle => handle.object == object
  simp only [places, Option.any_some] at kept ⊢
  omega

/-- A deleter that goes on gives up what it owned for what it owns next. -/
theorem places_proceed
    {pool : ObjectPool T}
    {this : Nat}
    {deleter : Deleter}
    (isLive : pool.deleters.live this = some deleter)
    (next : DeleterStep)
    (object : Nat) :
    (pool.proceed this deleter next).places object +
        (if deleter.owns object then 1 else 0) =
      pool.places object +
        if { deleter with next : Deleter }.owns object then 1 else 0 := by
  have counted := Slots.count_set isLive (some { deleter with next })
    (Deleter.owns object)
  simp only [places, proceed, Option.any_some] at counted ⊢
  omega

/-- A deleter that returns gives up what it owned. -/
theorem places_finish
    {pool : ObjectPool T}
    {this : Nat}
    {deleter : Deleter}
    (isLive : pool.deleters.live this = some deleter)
    (object : Nat) :
    (pool.finish this).places object +
        (if deleter.owns object then 1 else 0) =
      pool.places object := by
  have counted := Slots.count_set isLive none (Deleter.owns object)
  simp only [places, finish, Option.any_none, Bool.false_eq_true, if_false]
    at counted ⊢
  omega

/-- A deleter that goes on before it has pushed its object still owns it. -/
theorem samePlaces_proceed
    {pool : ObjectPool T}
    {this : Nat}
    {deleter : Deleter}
    (isLive : pool.deleters.live this = some deleter)
    {next : DeleterStep}
    (owned : deleter.next ≠ .drop)
    (stillOwned : next ≠ .drop) :
    SamePlaces pool (pool.proceed this deleter next) := by
  refine ⟨fun object => ?_, rfl⟩
  have moved := places_proceed isLive next object
  rw [deleter.owns_of_ne_drop owned, Deleter.owns_of_ne_drop stillOwned] at moved
  exact Nat.add_right_cancel moved

/-- A deleter passes its object to the free list, or destroys it. -/
theorem DeleterEffect.samePlaces
    [Poolable T]
    {this : Nat}
    {deleter : Deleter}
    {pool after : ObjectPool T}
    (effect : DeleterEffect this deleter pool after)
    (isLive : pool.deleters.live this = some deleter) :
    SamePlaces pool after := by
  cases effect with
  | gone next dead =>
      exact samePlaces_proceed isLive (by simp [next]) (by simp)
  | lock next alive =>
      have locked : { pool with strong := pool.strong + 1 }.deleters.live this =
          some deleter := isLive
      have same : SamePlaces { pool with strong := pool.strong + 1 }
          ({ pool with strong := pool.strong + 1 }.proceed this deleter .reset) :=
        samePlaces_proceed locked (by simp [next]) (by simp)
      exact ⟨same.places, same.constructed⟩
  | reset next =>
      have stillLive : (pool.operate deleter.object .reset).deleters.live this =
          some deleter := by
        rw [deleters_operate]
        exact isLive
      have operated := samePlaces_operate deleter.object .reset pool
      exact operated.trans (samePlaces_proceed stillLive (by simp [next]) (by simp))
  | push next =>
      refine ⟨fun object => ?_, rfl⟩
      have pushed : { pool with
          free := pool.free ++ [deleter.object] }.deleters.live this =
          some deleter := isLive
      have moved := places_proceed pushed .drop object
      rw [deleter.owns_of_ne_drop (by simp [next]), Deleter.owns_of_drop rfl] at moved
      simp only [places, List.count_append, List.count_singleton,
        Bool.false_eq_true, if_false] at moved ⊢
      omega
  | drop next =>
      have finished : SamePlaces pool (pool.finish this) := by
        refine ⟨fun object => ?_, rfl⟩
        have gone := places_finish isLive object
        rw [Deleter.owns_of_drop next] at gone
        exact gone
      exact finished.trans (samePlaces_dropStrong (pool.finish this))
  | delete next =>
      refine ⟨fun object => ?_, Slots.length_clear _ _⟩
      have gone := places_finish isLive object
      rw [deleter.owns_of_ne_drop (by simp [next])] at gone
      simp only [places, destroyObjects, List.count_append,
        List.count_singleton] at gone ⊢
      omega

/-! ## Consequences -/

namespace Placed

variable {pool : ObjectPool T}

/-- Every event leaves each object in one place. -/
theorem step
    [Poolable T]
    (placed : pool.Placed)
    {event : Event T}
    {after : ObjectPool T}
    (stepped : pool.step event = some after) :
    after.Placed := by
  cases effect_of_step stepped with
  | copyReference => exact placed
  | dropReference => exact (samePlaces_dropStrong _).placed placed
  | acquire => exact placed_acquire placed
  | mutate change isLive => exact (samePlaces_operate _ _ _).placed placed
  | copyHandle isLive => exact (samePlaces_copyHandle isLive _).placed placed
  | dropHandle isLive => exact (samePlaces_dropHandle isLive).placed placed
  | runDeleter isLive => exact ((runDeleter_effect _ _ pool).samePlaces isLive).placed placed

/-- A free object has been constructed and is not destroyed. -/
theorem of_free
    (placed : pool.Placed)
    {object : Nat}
    (isFree : object ∈ pool.free) :
    object < pool.objects.length ∧ object ∉ pool.destroyed := by
  have once := placed object
  have counted := List.count_pos_iff.mpr isFree
  unfold places at once
  split at once
  · rename_i constructed
    exact ⟨constructed, List.count_eq_zero.mp (by omega)⟩
  · omega

/-- A destroyed object has been constructed. -/
theorem of_destroyed
    (placed : pool.Placed)
    {object : Nat}
    (gone : object ∈ pool.destroyed) :
    object < pool.objects.length := by
  have once := placed object
  have counted := List.count_pos_iff.mpr gone
  unfold places at once
  split at once
  · assumption
  · omega

/-- An object with a handle has been constructed and is nowhere else. -/
theorem of_handle
    (placed : pool.Placed)
    {this : Nat}
    {handle : Handle}
    (isLive : pool.handles.live this = some handle) :
    handle.object < pool.objects.length ∧
      handle.object ∉ pool.destroyed ∧ handle.object ∉ pool.free ∧
        ∀ this deleter, pool.deleters.live this = some deleter →
          deleter.next ≠ .drop → deleter.object ≠ handle.object := by
  have once := placed handle.object
  have held : 0 < pool.handles.count fun other => other.object == handle.object :=
    Slots.count_pos_of_live isLive (by simp)
  unfold places at once
  split at once
  · rename_i constructed
    refine ⟨constructed, ?_, ?_, ?_⟩
    · exact List.count_eq_zero.mp (by omega)
    · exact List.count_eq_zero.mp (by omega)
    · intro this deleter running holding same
      have owned : 0 < pool.deleters.count (Deleter.owns handle.object) :=
        Slots.count_pos_of_live running
          (by simp [Deleter.owns_of_ne_drop holding, same])
      omega
  · omega

/-- An object with a deleter has been constructed and is not destroyed. -/
theorem of_deleter
    (placed : pool.Placed)
    {this : Nat}
    {deleter : Deleter}
    (isLive : pool.deleters.live this = some deleter)
    (holding : deleter.next ≠ .drop) :
    deleter.object < pool.objects.length ∧ deleter.object ∉ pool.destroyed := by
  have once := placed deleter.object
  have owned : 0 < pool.deleters.count (Deleter.owns deleter.object) :=
    Slots.count_pos_of_live isLive (by simp [Deleter.owns_of_ne_drop holding])
  unfold places at once
  split at once
  · rename_i constructed
    exact ⟨constructed, List.count_eq_zero.mp (by omega)⟩
  · omega

end Placed

end ObjectPool
end ModernCommon
