import Mathlib.Data.Fintype.Lattice
import ModernCommon.Library.Termination

/-!
# Locks taken in ascending order

Programs take locks by guards: a lock is held, alone or shared, around a part of
the program. Guards may be nested. If every program takes inside a guard only
locks of a higher rank than that of the guard, then threads that run such
programs never wait for each other in a circle: whatever the schedule, some
thread can go on until all have finished. A lock may let waiting writers go
before readers.
-/

namespace ModernCommon
namespace Library

open Relation

/-- How a lock is held. -/
inductive LockMode
  | shared
  | exclusive
  deriving DecidableEq

/-- The guards of a program. -/
inductive Locking (LockId : Type*)
  | skip
  | seq (first second : Locking LockId)
  | holding (lock : LockId) (mode : LockMode) (body : Locking LockId)

/-- One action of a thread on a lock. -/
inductive LockAction (LockId : Type*)
  | acquire (lock : LockId) (mode : LockMode)
  | release (lock : LockId)
  deriving DecidableEq

namespace Locking

variable {LockId Rank : Type*}

/-- What a program does to its locks, in order. -/
def actions : Locking LockId → List (LockAction LockId)
  | skip => []
  | seq first second => first.actions ++ second.actions
  | holding lock mode body =>
      .acquire lock mode :: (body.actions ++ [.release lock])

/-- One program after another. -/
def sequence : List (Locking LockId) → Locking LockId
  | [] => skip
  | first :: rest => seq first (sequence rest)

/-- Every guard is allowed, and what is taken inside it ranks higher. -/
def Ascending [LT Rank] (rank : LockId → Rank) :
    (LockId → Prop) → Locking LockId → Prop
  | _, skip => True
  | allowed, seq first second =>
      first.Ascending rank allowed ∧ second.Ascending rank allowed
  | allowed, holding lock _ body =>
      allowed lock ∧ body.Ascending rank fun inner => rank lock < rank inner

theorem Ascending.mono
    [LT Rank]
    {rank : LockId → Rank}
    {program : Locking LockId}
    {allowed permitted : LockId → Prop}
    (ascending : program.Ascending rank allowed)
    (weaker : ∀ lock, allowed lock → permitted lock) :
    program.Ascending rank permitted := by
  induction program with
  | skip => trivial
  | seq first second firstHypothesis secondHypothesis =>
      exact ⟨firstHypothesis ascending.1, secondHypothesis ascending.2⟩
  | holding lock mode body _ => exact ⟨weaker lock ascending.1, ascending.2⟩

theorem ascending_sequence
    [LT Rank]
    {rank : LockId → Rank}
    {allowed : LockId → Prop}
    {programs : List (Locking LockId)}
    (each : ∀ program ∈ programs, program.Ascending rank allowed) :
    (sequence programs).Ascending rank allowed := by
  induction programs with
  | nil => trivial
  | cons first rest inductionHypothesis =>
      exact ⟨each first List.mem_cons_self,
        inductionHypothesis fun program present =>
          each program (List.mem_cons_of_mem _ present)⟩

end Locking

/-! ## Threads -/

namespace Locks

variable {ThreadId LockId Rank : Type*}

/-- What each thread holds, innermost first, and what it has yet to do. -/
structure State (ThreadId LockId : Type*) where
  held : ThreadId → List (LockId × LockMode)
  todo : ThreadId → List (LockAction LockId)

/-- A lock can be had by a thread that does not hold it, if no other thread
does, or all share it. -/
def Admits
    (held : ThreadId → List (LockId × LockMode))
    (thread : ThreadId)
    (lock : LockId)
    (mode : LockMode) : Prop :=
  (∀ own ∈ held thread, own.1 ≠ lock) ∧
    ∀ other, other ≠ thread → ∀ taken ∈ held other,
      taken.1 = lock → mode = .shared ∧ taken.2 = .shared

/-- When a lock that a reader could have makes it wait: only for a writer that
waits too. -/
structure Policy (ThreadId LockId : Type*) where
  yields : State ThreadId LockId → ThreadId → LockId → Bool
  toWriter : ∀ state thread lock, yields state thread lock = true →
    ∃ writer rest, state.todo writer = .acquire lock .exclusive :: rest

variable [DecidableEq ThreadId] [DecidableEq LockId]

/-- A reader waits for every writer that waits. -/
def Policy.writersFirst
    (ThreadId LockId : Type*)
    [Fintype ThreadId]
    [DecidableEq LockId] : Policy ThreadId LockId where
  yields state _ lock :=
    decide (∃ writer,
      (state.todo writer).head? = some (.acquire lock .exclusive))
  toWriter := by
    intro state thread lock yielding
    obtain ⟨writer, writes⟩ := of_decide_eq_true yielding
    obtain ⟨rest, isNext⟩ := List.head?_eq_some_iff.mp writes
    exact ⟨writer, rest, isNext⟩

instance
    [Fintype ThreadId]
    (held : ThreadId → List (LockId × LockMode))
    (thread : ThreadId)
    (lock : LockId)
    (mode : LockMode) :
    Decidable (Admits held thread lock mode) :=
  inferInstanceAs (Decidable (_ ∧ _))

/-- A thread makes its next step, unless it must wait. -/
def step
    [Fintype ThreadId]
    (policy : Policy ThreadId LockId)
    (state : State ThreadId LockId)
    (thread : ThreadId) : Option (State ThreadId LockId) :=
  match state.todo thread with
  | [] => none
  | .acquire lock mode :: rest =>
      if Admits state.held thread lock mode ∧
          ¬(mode = .shared ∧ policy.yields state thread lock = true) then
        some
          { held := Function.update state.held thread
              ((lock, mode) :: state.held thread)
            todo := Function.update state.todo thread rest }
      else none
  | .release lock :: rest =>
      some
        { held := Function.update state.held thread
            ((state.held thread).eraseP fun own => own.1 = lock)
          todo := Function.update state.todo thread rest }

/-- Every thread runs a program of its own. -/
def system
    [Fintype ThreadId]
    (policy : Policy ThreadId LockId)
    (programs : ThreadId → Locking LockId) :
    System (State ThreadId LockId) ThreadId where
  initial :=
    { held := fun _ => []
      todo := fun thread => (programs thread).actions }
  step := step policy

/-! ## The discipline -/

/-- What is taken ranks above what is held, and what is given back is what was
taken last. -/
def Disciplined [LT Rank] (rank : LockId → Rank) :
    List (LockId × LockMode) → List (LockAction LockId) → Prop
  | held, [] => held = []
  | held, .acquire lock mode :: rest =>
      (∀ own ∈ held, rank own.1 < rank lock) ∧
        Disciplined rank ((lock, mode) :: held) rest
  | [], .release _ :: _ => False
  | own :: held, .release lock :: rest =>
      own.1 = lock ∧ Disciplined rank held rest

omit [DecidableEq ThreadId] [DecidableEq LockId] in
/-- Ascending programs keep the discipline. -/
theorem disciplined_actions
    [Preorder Rank]
    {rank : LockId → Rank}
    {program : Locking LockId}
    {held : List (LockId × LockMode)}
    {rest : List (LockAction LockId)}
    (ascending : program.Ascending rank fun lock =>
      ∀ own ∈ held, rank own.1 < rank lock)
    (disciplined : Disciplined rank held rest) :
    Disciplined rank held (program.actions ++ rest) := by
  induction program generalizing held rest with
  | skip => exact disciplined
  | seq first second firstHypothesis secondHypothesis =>
      rw [Locking.actions, List.append_assoc]
      exact firstHypothesis ascending.1
        (secondHypothesis ascending.2 disciplined)
  | holding lock mode body bodyHypothesis =>
      rw [Locking.actions, List.cons_append, List.append_assoc]
      refine ⟨ascending.1,
        bodyHypothesis (ascending.2.mono ?_) ⟨rfl, disciplined⟩⟩
      intro inner above own present
      rcases List.mem_cons.mp present with rfl | outer
      · exact above
      · exact (ascending.1 own outer).trans above

variable [Fintype ThreadId] {policy : Policy ThreadId LockId}

theorem step_disciplined
    [LT Rank]
    {rank : LockId → Rank}
    {state next : State ThreadId LockId}
    {thread : ThreadId}
    (disciplined : ∀ other, Disciplined rank (state.held other) (state.todo other))
    (stepped : step policy state thread = some next)
    (other : ThreadId) :
    Disciplined rank (next.held other) (next.todo other) := by
  have own := disciplined thread
  unfold step at stepped
  split at stepped
  · cases stepped
  · rename_i lock mode rest isNext
    rw [isNext] at own
    split_ifs at stepped
    cases stepped
    by_cases isThread : other = thread
    · subst isThread
      simpa using own.2
    · simpa [isThread] using disciplined other
  · rename_i lock rest isNext
    rw [isNext] at own
    cases stepped
    by_cases isThread : other = thread
    · subst isThread
      cases holds : state.held other with
      | nil => rw [holds] at own; exact own.elim
      | cons last held =>
          rw [holds] at own
          simpa [own.1] using own.2
    · simpa [isThread] using disciplined other

/-- A thread that cannot go on has finished, or waits for a lock. -/
theorem waits_of_blocked
    {state : State ThreadId LockId}
    {thread : ThreadId}
    (blocked : step policy state thread = none)
    (unfinished : state.todo thread ≠ []) :
    ∃ lock mode rest, state.todo thread = .acquire lock mode :: rest ∧
      (Admits state.held thread lock mode →
        mode = .shared ∧ policy.yields state thread lock = true) := by
  unfold step at blocked
  split at blocked
  · rename_i isNil
    exact absurd isNil unfinished
  · rename_i lock mode rest isNext
    split_ifs at blocked with granted
    refine ⟨lock, mode, rest, isNext, fun admitted => ?_⟩
    by_contra free
    exact granted ⟨admitted, free⟩
  · cases blocked

omit [DecidableEq ThreadId] [DecidableEq LockId] [Fintype ThreadId] in
theorem Disciplined.unfinished
    [LT Rank]
    {rank : LockId → Rank}
    {held : List (LockId × LockMode)}
    {todo : List (LockAction LockId)}
    (disciplined : Disciplined rank held todo)
    {own : LockId × LockMode}
    (holds : own ∈ held) :
    todo ≠ [] := by
  rintro rfl
  rw [show held = [] from disciplined] at holds
  cases holds

/-- While a thread is unfinished, some thread can go on: of those that wait, the
one that waits for the lock of the highest rank would wait for a thread that
waits for a lock of a higher one. -/
theorem progress
    [LinearOrder Rank]
    {rank : LockId → Rank}
    {state : State ThreadId LockId}
    (disciplined : ∀ thread,
      Disciplined rank (state.held thread) (state.todo thread))
    {pending : ThreadId}
    (unfinished : state.todo pending ≠ []) :
    ∃ thread next, step policy state thread = some next := by
  by_contra stuck
  have blocked : ∀ thread, step policy state thread = none := by
    intro thread
    rw [Option.eq_none_iff_forall_ne_some]
    intro next stepped
    exact stuck ⟨thread, next, stepped⟩
  have waits : ∀ waiting : { thread // state.todo thread ≠ [] },
      ∃ lock mode rest, state.todo waiting = .acquire lock mode :: rest ∧
        (Admits state.held waiting lock mode →
          mode = .shared ∧ policy.yields state waiting lock = true) :=
    fun waiting => waits_of_blocked (blocked waiting) waiting.property
  choose lock mode rest isNext refused using waits
  have ascends : ∀ waiting : { thread // state.todo thread ≠ [] },
      ∀ own ∈ state.held waiting, rank own.1 < rank (lock waiting) := by
    intro waiting own holds
    have ordered := disciplined waiting
    rw [isNext waiting] at ordered
    exact ordered.1 own holds
  have : Nonempty { thread // state.todo thread ≠ [] } := ⟨pending, unfinished⟩
  obtain ⟨top, highest⟩ := Finite.exists_max fun waiting => rank (lock waiting)
  -- whoever waits for this lock could have it, since nobody holds it
  have admitted : ∀ waiting, lock waiting = lock top →
      Admits state.held waiting (lock waiting) (mode waiting) := by
    intro waiting isTop
    refine ⟨?_, ?_⟩
    · intro own holds isLock
      exact (ascends waiting own holds).ne (by rw [isLock])
    · intro other _ taken holds isLock
      have higher :=
        ascends ⟨other, (disciplined other).unfinished holds⟩ taken holds
      rw [isLock, isTop] at higher
      exact absurd higher (highest _).not_gt
  obtain ⟨_, yielding⟩ := refused top (admitted top rfl)
  obtain ⟨writer, others, writes⟩ := policy.toWriter _ _ _ yielding
  have writing : state.todo writer ≠ [] := by
    rw [writes]
    exact List.cons_ne_nil _ _
  have same := (isNext ⟨writer, writing⟩).symm.trans writes
  simp only [List.cons.injEq, LockAction.acquire.injEq] at same
  obtain ⟨reads, _⟩ := refused ⟨writer, writing⟩ (admitted _ same.1.1)
  rw [same.1.2] at reads
  cases reads

/-- Every step is one action less. -/
theorem step_decreases
    (state : State ThreadId LockId)
    (thread : ThreadId)
    (next : State ThreadId LockId)
    (stepped : step policy state thread = some next) :
    CutExpand (fun _ _ => False)
      (∑ other, Multiset.ofList (next.todo other))
      (∑ other, Multiset.ofList (state.todo other)) := by
  obtain ⟨action, rest, isNext, isRest⟩ : ∃ action rest,
      state.todo thread = action :: rest ∧
        next.todo = Function.update state.todo thread rest := by
    unfold step at stepped
    split at stepped
    · cases stepped
    · rename_i lock mode rest isNext
      split_ifs at stepped
      cases stepped
      exact ⟨_, rest, isNext, rfl⟩
    · rename_i lock rest isNext
      cases stepped
      exact ⟨_, rest, isNext, rfl⟩
  rw [isRest]
  apply cutExpand_sum thread
  · intro other differs
    rw [Function.update_of_ne differs]
  · rw [Function.update_self, isNext, ← Multiset.cons_coe,
      ← Multiset.singleton_add, add_comm]
    have gone : CutExpand (fun _ _ : LockAction LockId => False) 0 {action} :=
      cutExpand_zero
    have less := (cutExpand_add_left (Multiset.ofList rest)).mpr gone
    rwa [add_zero] at less

/-- Along every run the threads keep the discipline. -/
theorem run_disciplined
    [Preorder Rank]
    {rank : LockId → Rank}
    {programs : ThreadId → Locking LockId}
    (ascending : ∀ thread, (programs thread).Ascending rank fun _ => True)
    {schedule : List ThreadId}
    {state : State ThreadId LockId}
    (ran : (system policy programs).run (system policy programs).initial
      schedule = some state)
    (thread : ThreadId) :
    Disciplined rank (state.held thread) (state.todo thread) := by
  refine (system policy programs).invariant_of_run
    (fun reached => ∀ other,
      Disciplined rank (reached.held other) (reached.todo other))
    (fun before event after kept stepped => step_disciplined kept stepped)
    (fun other => ?_) ran thread
  have begins : Disciplined rank [] ((programs other).actions ++ []) :=
    disciplined_actions ((ascending other).mono fun _ _ _ => nofun) rfl
  rwa [List.append_nil] at begins

/-- No thread asks for a lock that it holds. -/
theorem never_relocks
    [Preorder Rank]
    {rank : LockId → Rank}
    {programs : ThreadId → Locking LockId}
    (ascending : ∀ thread, (programs thread).Ascending rank fun _ => True)
    {schedule : List ThreadId}
    {state : State ThreadId LockId}
    (ran : (system policy programs).run (system policy programs).initial
      schedule = some state)
    {thread : ThreadId}
    {lock : LockId}
    {mode : LockMode}
    {rest : List (LockAction LockId)}
    (isNext : state.todo thread = .acquire lock mode :: rest) :
    ∀ own ∈ state.held thread, own.1 ≠ lock := by
  intro own holds isLock
  have ordered := run_disciplined ascending ran thread
  rw [isNext] at ordered
  exact (ordered.1 own holds).ne (by rw [isLock])

variable (policy) in
/-- Lock order rule. Threads that run ascending programs all finish, however
they are scheduled and whichever of them the locks prefer. -/
theorem completes
    [LinearOrder Rank]
    {rank : LockId → Rank}
    {programs : ThreadId → Locking LockId}
    (ascending : ∀ thread, (programs thread).Ascending rank fun _ => True) :
    (system policy programs).Ends (system policy programs).initial ∧
      ∀ schedule state,
        (system policy programs).run (system policy programs).initial
          schedule = some state →
        (system policy programs).Stuck state →
        ∀ thread, state.todo thread = [] ∧ state.held thread = [] := by
  have fewer : WellFounded fun _ _ : LockAction LockId => False :=
    ⟨fun action => ⟨action, nofun⟩⟩
  refine ⟨System.ends_of_cutExpand _ fewer _ step_decreases _, ?_⟩
  intro schedule state ran stuck thread
  have finished : state.todo thread = [] := by
    by_contra unfinished
    obtain ⟨other, next, stepped⟩ : ∃ other next,
        step policy state other = some next :=
      progress (run_disciplined ascending ran) unfinished
    have blocked : step policy state other = none := stuck other
    rw [stepped] at blocked
    cases blocked
  refine ⟨finished, ?_⟩
  have ordered := run_disciplined ascending ran thread
  rw [finished] at ordered
  exact ordered

end Locks
end Library
end ModernCommon
