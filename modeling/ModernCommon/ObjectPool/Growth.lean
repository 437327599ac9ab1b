import Mathlib.Order.Bounds.Defs
import ModernCommon.ObjectPool.Accounts

/-!
# How far a pool grows

The free list of a living pool runs out exactly when all its objects are checked
out. So a pool that grows by at least one object at a time always has one to
hand out, and has never grown further than the most objects checked out at once
made it.
-/

namespace ModernCommon
namespace ObjectPool

open Library

variable {T : Type}

/-! ## Always something to take -/

/-- At an acquire the free list is not empty when its last object is taken. -/
def TakesFree (pool : ObjectPool T) : Event T → Prop
  | .acquire => pool.references ≠ 0 → pool.grown.free ≠ []
  | _ => True

/-- At an acquire fewer objects are checked out than the pool started with. -/
def BelowInitial (initialSize : Nat) (pool : ObjectPool T) : Event T → Prop
  | .acquire => pool.references ≠ 0 → pool.checkedOut < initialSize
  | _ => True

/-- A pool that does not grow has something free unless all is checked out. -/
theorem free_grown_ne_nil_iff
    {pool : ObjectPool T}
    (intact : pool.Intact)
    (placed : pool.Placed)
    (alive : pool.strong ≠ 0)
    (fixed : pool.incrementStep = 0) :
    pool.grown.free ≠ [] ↔ pool.checkedOut < pool.objects.length := by
  have accounted := intact.accounted placed alive
  have same : pool.grown.free = pool.free := by
    unfold grown
    split
    · rw [growLocked, fixed]
      rfl
    · rfl
  rw [same, ← List.length_pos_iff]
  unfold getPoolSize at accounted
  omega

/-- What a run keeps of a pool that does not grow. -/
structure Fixed (initialSize : Nat) (pool : ObjectPool T) : Prop where
  placed : pool.Placed
  counted : pool.Counted
  intact : pool.Intact
  increment : pool.incrementStep = 0
  constructed : pool.objects.length = initialSize

theorem Fixed.step
    [Poolable T]
    {initialSize : Nat}
    {pool after : ObjectPool T}
    (fixed : Fixed initialSize pool)
    {event : Event T}
    (stepped : pool.step event = some after) :
    Fixed initialSize after := by
  refine ⟨fixed.placed.step stepped, fixed.counted.step stepped,
    fixed.intact.step fixed.counted stepped, ?_, ?_⟩
  · rw [incrementStep_of_step stepped]
    exact fixed.increment
  · rcases length_of_step stepped with same | ⟨_, rfl⟩
    · rw [same]
      exact fixed.constructed
    · rw [length_acquire, fixed.increment, ite_self]
      exact fixed.constructed

theorem fixed_create (initialSize : Nat) :
    Fixed initialSize (create initialSize 0 : ObjectPool T) where
  placed := placed_create initialSize 0
  counted := counted_create initialSize 0
  intact := intact_create initialSize 0
  increment := by rw [create, populate_eq]
  constructed := by simp [create, populate_eq]

theorem Fixed.takesFree_iff_belowInitial
    {initialSize : Nat}
    {pool : ObjectPool T}
    (fixed : Fixed initialSize pool)
    (event : Event T) :
    pool.TakesFree event ↔ BelowInitial initialSize pool event := by
  cases event with
  | acquire =>
      refine imp_congr_right fun referenced => ?_
      rw [free_grown_ne_nil_iff fixed.intact fixed.placed
        (fixed.counted.strong_ne_zero referenced) fixed.increment,
        fixed.constructed]
  | _ => exact Iff.rfl

theorem takesFree_of_grows
    {pool : ObjectPool T}
    (grows : 0 < pool.incrementStep)
    (event : Event T) :
    pool.TakesFree event := by
  cases event with
  | acquire => exact fun _ => free_ne_nil_of_grows grows
  | _ => trivial

/-- A pool always has an object to hand out exactly if it grows by at least one
object at a time, or is never asked for more than it started with. -/
theorem takesFree_iff
    (T : Type)
    [Poolable T]
    (initialSize incrementStep : Nat)
    (events : List (Event T)) :
    (system T initialSize incrementStep).Allows TakesFree
        (create initialSize incrementStep) events ↔
      1 ≤ incrementStep ∨
        (system T initialSize incrementStep).Allows (BelowInitial initialSize)
          (create initialSize incrementStep) events := by
  rcases Nat.eq_zero_or_pos incrementStep with rfl | grows
  · have same := System.allows_congr (system T initialSize 0)
      (Fixed initialSize) (fun _ _ _ fixed stepped => fixed.step stepped)
      (fun _ event fixed => fixed.takesFree_iff_belowInitial event)
      (fixed_create initialSize) events
    simpa using same
  · have increment : 0 <
        (create initialSize incrementStep : ObjectPool T).incrementStep := by
      rw [create, populate_eq]
      exact grows
    have same := System.allows_congr (system T initialSize incrementStep)
      (fun pool => 0 < pool.incrementStep)
      (fun _ _ _ before stepped => (incrementStep_of_step stepped).symm ▸ before)
      (fun _ event before => iff_of_true (takesFree_of_grows before event) trivial)
      increment events
    exact iff_of_true (same.mpr (System.allows_true _ _ events)) (.inl grows)

/-- The second object of a pool that was created with one and does not grow is
taken from an empty free list. -/
theorem not_takesFree_noIncrement :
    ¬(system TestedWidget 1 0).Allows TakesFree (create 1 0)
      [.acquire, .acquire] := by
  rintro ⟨-, second⟩
  exact (second _ rfl).1 Nat.one_ne_zero rfl

/-! ## As far as needed -/

/-- The least number of increments for a demand is so for the demand raised
within what is there. -/
theorem isLeast_increments_max
    {initialSize incrementStep demand increments raised : Nat}
    (least : IsLeast {k | demand ≤ initialSize + incrementStep * k} increments)
    (covered : raised ≤ initialSize + incrementStep * increments) :
    IsLeast {k | max demand raised ≤ initialSize + incrementStep * k}
      increments := by
  refine ⟨Nat.max_le.mpr ⟨least.1, covered⟩, ?_⟩
  intro fewer enough
  exact least.2 (le_trans (Nat.le_max_left demand raised) enough)

/-- One more increment is needed for one more object than is there. -/
theorem isLeast_increments_succ
    {initialSize incrementStep demand increments : Nat}
    (grows : 1 ≤ incrementStep)
    (covered : demand ≤ initialSize + incrementStep * increments) :
    IsLeast
      {k | max demand (initialSize + incrementStep * increments + 1) ≤
        initialSize + incrementStep * k}
      (increments + 1) := by
  constructor
  · rw [Set.mem_ofPred_eq, Nat.mul_succ]
    omega
  · intro fewer enough
    have more := le_trans (Nat.le_max_right demand _) enough
    have strictly : incrementStep * increments < incrementStep * fewer := by
      omega
    exact Nat.lt_of_mul_lt_mul_left strictly

/-- What a run keeps of a pool whose most objects checked out at once were
`demand`. -/
structure Grown
    (initialSize incrementStep demand : Nat)
    (pool : ObjectPool T) : Prop where
  placed : pool.Placed
  counted : pool.Counted
  intact : pool.Intact
  increment : pool.incrementStep = incrementStep
  constructed : ∃ increments,
    IsLeast {k | demand ≤ initialSize + incrementStep * k} increments ∧
      pool.objects.length = initialSize + incrementStep * increments

/-- Acquiring raises the demand, and the pool with it if need be. -/
theorem Grown.acquire
    {initialSize incrementStep demand : Nat}
    {pool : ObjectPool T}
    (grown : Grown initialSize incrementStep demand pool)
    (grows : 1 ≤ incrementStep)
    (alive : pool.strong ≠ 0) :
    ∃ increments,
      IsLeast {k | max demand pool.acquire.checkedOut ≤
        initialSize + incrementStep * k} increments ∧
      pool.acquire.objects.length = initialSize + incrementStep * increments := by
  obtain ⟨increments, least, constructed⟩ := grown.constructed
  have stillGrows : 0 < pool.incrementStep := by
    rw [grown.increment]
    exact grows
  have accounted := grown.intact.accounted grown.placed alive
  rw [checkedOut_acquire (free_ne_nil_of_grows stillGrows), length_acquire,
    grown.increment, constructed]
  unfold getPoolSize at accounted
  by_cases empty : pool.free.isEmpty = true
  · have all : pool.checkedOut = initialSize + incrementStep * increments := by
      rw [List.isEmpty_iff.mp empty] at accounted
      rw [← constructed, ← accounted, List.length_nil, Nat.zero_add]
    refine ⟨increments + 1, ?_, ?_⟩
    · rw [all]
      exact isLeast_increments_succ grows least.1
    · rw [if_pos empty, Nat.mul_succ, Nat.add_assoc]
  · have some_free : 0 < pool.free.length := by
      rw [List.length_pos_iff]
      simpa using empty
    refine ⟨increments, isLeast_increments_max least ?_, ?_⟩
    · omega
    · rw [if_neg empty, Nat.add_zero]

theorem Grown.step
    [Poolable T]
    {initialSize incrementStep demand : Nat}
    {pool after : ObjectPool T}
    (grown : Grown initialSize incrementStep demand pool)
    (grows : 1 ≤ incrementStep)
    (withinDemand : pool.checkedOut ≤ demand)
    {event : Event T}
    (stepped : pool.step event = some after) :
    Grown initialSize incrementStep (max demand after.checkedOut) after := by
  refine ⟨grown.placed.step stepped, grown.counted.step stepped,
    grown.intact.step grown.counted stepped, ?_, ?_⟩
  · rw [incrementStep_of_step stepped]
    exact grown.increment
  · by_cases acquired : event = .acquire
    · subst acquired
      obtain ⟨referenced, same⟩ := Option.ite_none_left_eq_some.mp stepped
      cases same
      exact grown.acquire grows (grown.counted.strong_ne_zero referenced)
    · obtain ⟨increments, least, constructed⟩ := grown.constructed
      have sameLength := (length_of_step stepped).resolve_right fun both =>
        acquired both.1
      have noMore := (checkedOut_of_step grown.placed stepped).resolve_right
        fun both => acquired both.1
      refine ⟨increments, ?_, sameLength.trans constructed⟩
      rw [Nat.max_eq_left (Nat.le_trans noMore withinDemand)]
      exact least

theorem grown_create (initialSize incrementStep : Nat) :
    Grown initialSize incrementStep
      (create initialSize incrementStep : ObjectPool T).checkedOut
      (create initialSize incrementStep : ObjectPool T) where
  placed := placed_create initialSize incrementStep
  counted := counted_create initialSize incrementStep
  intact := intact_create initialSize incrementStep
  increment := by rw [create, populate_eq]
  constructed := by
    refine ⟨0, ⟨?_, fun _ _ => Nat.zero_le _⟩, ?_⟩
    · rw [create, populate_eq]
      exact Nat.zero_le _
    · simp [create, populate_eq]

/-- A pool has grown exactly as far as the most objects ever checked out at once
made it, and what is not checked out is free. -/
theorem constructed_of_run
    [Poolable T]
    (initialSize incrementStep : Nat)
    (grows : 1 ≤ incrementStep)
    (events : List (Event T))
    (pool : ObjectPool T)
    (ran : (system T initialSize incrementStep).run
      (create initialSize incrementStep) events = some pool)
    (alive : pool.strong ≠ 0) :
    (∃ increments,
      IsLeast {k | (system T initialSize incrementStep).peak checkedOut
        (create initialSize incrementStep) events ≤
          initialSize + incrementStep * k} increments ∧
      pool.objects.length = initialSize + incrementStep * increments) ∧
      pool.getPoolSize + pool.checkedOut = pool.objects.length := by
  have grown := System.history_of_run (system T initialSize incrementStep)
    (fun history => Grown initialSize incrementStep
      ((system T initialSize incrementStep).peak checkedOut
        (create initialSize incrementStep) history))
    (grown_create initialSize incrementStep)
    (fun history state event next before grown stepped => by
      rw [System.peak_append_singleton _ checkedOut before stepped]
      exact grown.step grows (System.measure_le_peak _ checkedOut before)
        stepped)
    ran
  exact ⟨grown.constructed, grown.intact.accounted grown.placed alive⟩

/-- Two objects are checked out at once at most, and the second is returned, so
the pool of one object grows by four once. -/
def exhausted : List (Event TestedWidget) :=
  [.acquire, .acquire, .dropHandle 1, .runDeleter 0, .runDeleter 0,
    .runDeleter 0, .runDeleter 0, .acquire]

theorem constructed_exhausted :
    ∃ pool, (system TestedWidget 1 4).run (create 1 4) exhausted = some pool ∧
      pool.objects.length = 5 ∧ pool.getPoolSize = 3 ∧
      (∃ increments,
        IsLeast {k | (system TestedWidget 1 4).peak checkedOut (create 1 4)
          exhausted ≤ 1 + 4 * k} increments ∧
        pool.objects.length = 1 + 4 * increments) ∧
      pool.getPoolSize + pool.checkedOut = pool.objects.length :=
  ⟨_, rfl, rfl, rfl,
    constructed_of_run 1 4 (by decide) exhausted _ rfl (by decide)⟩

end ObjectPool
end ModernCommon
