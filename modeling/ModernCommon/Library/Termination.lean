import Mathlib.Algebra.BigOperators.Fin
import Mathlib.Logic.Hydra
import ModernCommon.Library.SharedMutex

/-!
# Threads that finish

What is still to be done is a collection of pieces of work. A step that takes one
piece and leaves smaller ones, or none, cannot be repeated for ever, however many
it leaves. Threads that hold a lock one at a time, or share it, work off their
operations in this way: whatever the schedule, it ends, and it does not end
before everything has been answered.
-/

namespace ModernCommon
namespace Library

open Relation

/-! ## Schedules that end -/

namespace System

variable {σ ι : Type*} {Work : Type*} {smaller : Work → Work → Prop}

/-- No step is possible. -/
def Stuck (system : System σ ι) (state : σ) : Prop :=
  ∀ event, system.step state event = none

/-- No endless sequence of events can be scheduled from a state. -/
def Ends (system : System σ ι) (state : σ) : Prop :=
  ∀ schedule : Nat → ι, ∃ n,
    system.run state ((List.range n).map schedule) = none

/-- Termination rule. If every step replaces a piece of the remaining work by
smaller ones, every schedule ends. -/
theorem ends_of_cutExpand
    (system : System σ ι)
    (wellFounded : WellFounded smaller)
    (work : σ → Multiset Work)
    (decreases : ∀ state event next, system.step state event = some next →
      CutExpand smaller (work next) (work state))
    (state : σ) :
    system.Ends state := by
  have irreflexive : Std.Irrefl smaller := ⟨wellFounded.irrefl.irrefl⟩
  induction state using
    (InvImage.wf work wellFounded.cutExpand).induction with
  | h state inductionHypothesis =>
      intro schedule
      cases stepped : system.step state (schedule 0) with
      | none =>
          refine ⟨1, ?_⟩
          simp [run, stepped]
      | some next =>
          obtain ⟨n, blocked⟩ := inductionHypothesis next
            (decreases state _ next stepped) fun n => schedule (n + 1)
          refine ⟨n + 1, ?_⟩
          rw [List.range_succ_eq_map, List.map_cons, List.map_map, run, stepped]
          exact blocked

end System

/-- Work that is shared out to threads becomes less when that of one does. -/
theorem cutExpand_sum
    {Work ThreadId : Type*}
    [Fintype ThreadId]
    [DecidableEq ThreadId]
    {smaller : Work → Work → Prop}
    {before after : ThreadId → Multiset Work}
    (thread : ThreadId)
    (others : ∀ other, other ≠ thread → after other = before other)
    (less : CutExpand smaller (after thread) (before thread)) :
    CutExpand smaller (∑ other, after other) (∑ other, before other) := by
  rw [← Finset.add_sum_erase Finset.univ after (Finset.mem_univ thread),
    ← Finset.add_sum_erase Finset.univ before (Finset.mem_univ thread)]
  have same : ∑ other ∈ Finset.univ.erase thread, after other =
      ∑ other ∈ Finset.univ.erase thread, before other :=
    Finset.sum_congr rfl fun other present =>
      others other (Finset.ne_of_mem_erase present)
  rw [same]
  exact (cutExpand_add_right _).mpr less

/-! ## Operations and what is left of them -/

/-- A piece of work of a thread: an operation it has not begun, or what is left
of one it has. -/
inductive Work (σ ι ω : Type)
  | waiting (operation : ι)
  | running (rest : Routine σ ω)

namespace Work

variable {σ ι ω : Type}

/-- What a piece of work becomes by a step. -/
inductive Next : Work σ ι ω → Work σ ι ω → Prop
  | enter (operation rest) : Next (.running rest) (.waiting operation)
  | proceed (change next state) :
      Next (.running (next state)) (.running (.access change next))

theorem acc_running (rest : Routine σ ω) :
    Acc Next (.running rest : Work σ ι ω) := by
  induction rest with
  | done answer =>
      refine ⟨_, fun work isNext => ?_⟩
      cases isNext
  | access change next inductionHypothesis =>
      refine ⟨_, fun work isNext => ?_⟩
      cases isNext with
      | proceed _ _ state => exact inductionHypothesis state

/-- Every operation comes to an end, however it goes on. -/
theorem wellFounded_next : WellFounded (Next : Work σ ι ω → Work σ ι ω → Prop) := by
  refine ⟨fun work => ?_⟩
  cases work with
  | running rest => exact acc_running rest
  | waiting operation =>
      refine ⟨_, fun work isNext => ?_⟩
      cases isNext with
      | enter _ rest => exact acc_running rest

/-- The operations a thread has not begun. -/
def notBegun (todo : List ι) : Multiset (Work σ ι ω) :=
  Multiset.ofList (todo.map waiting)

/-- What a thread has to do, inside its operation and after it. -/
def ofThread (todo : List ι) : Option (Routine σ ω) → Multiset (Work σ ι ω)
  | none => notBegun todo
  | some rest => notBegun todo + {running rest}

theorem cutExpand_enter
    (operation : ι)
    (later : List ι)
    (rest : Routine σ ω) :
    CutExpand Next (ofThread later (some rest))
      (ofThread (operation :: later) none) := by
  have begun : (Next : Work σ ι ω → Work σ ι ω → Prop)
      (.running rest) (.waiting operation) := .enter operation rest
  have less := cutExpand_add_single (notBegun later) begun
  rwa [add_comm _ {waiting operation}, Multiset.singleton_add, notBegun,
    Multiset.cons_coe] at less

theorem cutExpand_proceed
    (todo : List ι)
    (change : σ → σ)
    (next : σ → Routine σ ω)
    (state : σ) :
    CutExpand Next (ofThread todo (some (next state)))
      (ofThread todo (some (.access change next))) :=
  cutExpand_add_single _ (Next.proceed change next state)

theorem cutExpand_leave
    (todo : List ι)
    (rest : Routine σ ω) :
    CutExpand Next (ofThread todo none) (ofThread todo (some rest)) := by
  have gone : CutExpand Next 0 ({running rest} : Multiset (Work σ ι ω)) :=
    cutExpand_zero
  have less := (cutExpand_add_left (notBegun todo)).mpr gone
  rwa [add_zero] at less

end Work

namespace SharedMutex

variable {σ ι ω ThreadId : Type} [DecidableEq ThreadId]

/-- What a thread has still to do. -/
def workOf
    (state : State σ ι ω ThreadId)
    (thread : ThreadId) : Multiset (Work σ ι ω) :=
  Work.ofThread (state.todo thread) ((state.inside.lookup thread).map Prod.snd)

variable [Fintype ThreadId]

/-- Every step works off something. -/
theorem step_decreases
    (mutex : SharedMutex σ ι ω)
    (state : State σ ι ω ThreadId)
    (event : Event ThreadId)
    (next : State σ ι ω ThreadId)
    (stepped : mutex.step state event = some next) :
    CutExpand Work.Next (∑ thread, workOf next thread)
      (∑ thread, workOf state thread) := by
  cases event with
  | enter thread =>
      simp only [SharedMutex.step] at stepped
      split at stepped
      · rename_i operation later outside isNext
        split_ifs at stepped with admitted
        cases stepped
        apply cutExpand_sum thread
        · intro other differs
          simp [workOf, differs, AList.lookup_insert_ne differs]
        · simpa [workOf, outside, isNext] using
            Work.cutExpand_enter operation later (mutex.routine operation)
      · cases stepped
  | proceed thread =>
      simp only [SharedMutex.step] at stepped
      split at stepped
      · rename_i operation change further found
        cases stepped
        apply cutExpand_sum thread
        · intro other differs
          simp [workOf, AList.lookup_insert_ne differs]
        · simpa [workOf, found] using
            Work.cutExpand_proceed (state.todo thread) change further state.shared
      · cases stepped
  | leave thread =>
      simp only [SharedMutex.step] at stepped
      split at stepped
      · rename_i operation answer found
        cases stepped
        apply cutExpand_sum thread
        · intro other differs
          simp [workOf, AList.lookup_erase_ne differs]
        · simpa [workOf, found] using
            Work.cutExpand_leave (state.todo thread) (.done answer)
      · cases stepped

omit [Fintype ThreadId]

/-- A thread inside can go on, and with none inside any thread can enter. -/
theorem answered_of_stuck
    (mutex : SharedMutex σ ι ω)
    {state : State σ ι ω ThreadId}
    (stuck : ∀ event, mutex.step state event = none) :
    (∀ thread, state.inside.lookup thread = none) ∧
      ∀ thread, state.todo thread = [] := by
  have outside : ∀ thread, state.inside.lookup thread = none := by
    intro thread
    cases found : state.inside.lookup thread with
    | none => rfl
    | some held =>
        obtain ⟨operation, rest⟩ := held
        cases rest with
        | done answer =>
            have leaves := stuck (.leave thread)
            simp [SharedMutex.step, found] at leaves
        | access change next =>
            have proceeds := stuck (.proceed thread)
            simp [SharedMutex.step, found] at proceeds
  refine ⟨outside, fun thread => ?_⟩
  have isEmpty : state.inside.entries = [] := by
    rw [List.eq_nil_iff_forall_not_mem]
    rintro ⟨other, held⟩ present
    have found := AList.mem_lookup_iff.mpr present
    rw [outside other] at found
    cases found
  cases upcoming : state.todo thread with
  | nil => rfl
  | cons operation later =>
      have enters := stuck (.enter thread)
      simp [SharedMutex.step, outside, upcoming, admits, isEmpty] at enters

/-- However the threads are scheduled, it ends, and not before every operation
of every thread has been answered. -/
theorem completes
    [Finite ThreadId]
    (mutex : SharedMutex σ ι ω)
    (start : σ)
    (todo : ThreadId → List ι) :
    (mutex.system start todo).Ends (mutex.system start todo).initial ∧
      ∀ events state,
        (mutex.system start todo).run (mutex.system start todo).initial events =
          some state →
        (mutex.system start todo).Stuck state →
        ∀ thread, Monitor.operationsOf thread state.history = todo thread := by
  have := Fintype.ofFinite ThreadId
  refine ⟨System.ends_of_cutExpand _ Work.wellFounded_next _
    mutex.step_decreases _, ?_⟩
  intro events state ran stuck thread
  obtain ⟨outside, nothingLeft⟩ := mutex.answered_of_stuck stuck
  have ordered := (mutex.linear_of_run ran).ordered thread
  simpa [operationIn, outside, nothingLeft] using ordered

end SharedMutex

namespace Monitor

variable {σ ι κ ω ThreadId : Type} [DecidableEq ThreadId]

/-- What is left of the operation a thread is in. -/
def restOf
    (inside : Option (ThreadId × ι × Routine σ ω))
    (thread : ThreadId) : Option (Routine σ ω) :=
  match inside with
  | some (holder, _, rest) => if holder = thread then some rest else none
  | none => none

/-- What a thread has still to do. -/
def workOf
    (state : State σ ι κ ω ThreadId)
    (thread : ThreadId) : Multiset (Work σ ι ω) :=
  Work.ofThread (state.todo thread) (restOf state.inside thread)

/-- Every step of a thread works off something. -/
theorem step_decreases
    [Fintype ThreadId]
    [IsEmpty κ]
    (monitor : Monitor σ ι κ ω)
    (state : State σ ι κ ω ThreadId)
    (event : Event ThreadId κ)
    (next : State σ ι κ ω ThreadId)
    (stepped : monitor.step state event = some next) :
    CutExpand Work.Next (∑ thread, workOf next thread)
      (∑ thread, workOf state thread) := by
  obtain ⟨shared, todo, inside, history⟩ := state
  cases event with
  | enter thread =>
      cases inside with
      | some held => simp [Monitor.step] at stepped
      | none =>
          cases upcoming : todo thread with
          | nil => simp [Monitor.step, upcoming] at stepped
          | cons operation later =>
              simp only [Monitor.step, upcoming, Option.some.injEq] at stepped
              subst stepped
              apply cutExpand_sum thread
              · intro other differs
                simp [workOf, restOf, differs, differs.symm]
              · simpa [workOf, restOf, upcoming] using
                  Work.cutExpand_enter operation later (monitor.routine operation)
  | proceed =>
      cases inside with
      | none => simp [Monitor.step] at stepped
      | some held =>
          obtain ⟨thread, operation, rest⟩ := held
          cases rest with
          | done answer => simp [Monitor.step] at stepped
          | access change further =>
              simp only [Monitor.step, Option.some.injEq] at stepped
              subst stepped
              apply cutExpand_sum thread
              · intro other differs
                simp [workOf, restOf, differs.symm]
              · simpa [workOf, restOf] using
                  Work.cutExpand_proceed (todo thread) change further shared
  | leave =>
      cases inside with
      | none => simp [Monitor.step] at stepped
      | some held =>
          obtain ⟨thread, operation, rest⟩ := held
          cases rest with
          | access change further => simp [Monitor.step] at stepped
          | done answer =>
              simp only [Monitor.step, Option.some.injEq] at stepped
              subst stepped
              apply cutExpand_sum thread
              · intro other differs
                simp [workOf, restOf, differs.symm]
              · simpa [workOf, restOf] using
                  Work.cutExpand_leave (todo thread) (.done answer)
  | intrude call => exact isEmptyElim call

/-- However the threads are scheduled, it ends, and not before every operation
of every thread has been answered. -/
theorem completes
    [Finite ThreadId]
    [IsEmpty κ]
    (monitor : Monitor σ ι κ ω)
    (start : σ)
    (todo : ThreadId → List ι) :
    (monitor.system start todo).Ends (monitor.system start todo).initial ∧
      ∀ events state,
        (monitor.system start todo).run (monitor.system start todo).initial
          events = some state →
        (monitor.system start todo).Stuck state →
        state.inside = none ∧
          ∀ thread, operationsOf thread state.history = todo thread := by
  have := Fintype.ofFinite ThreadId
  refine ⟨System.ends_of_cutExpand _ Work.wellFounded_next _
    monitor.step_decreases _, ?_⟩
  intro events state ran stuck
  have waitsNot : ∀ thread,
      ¬(state.todo thread ≠ [] ∨ state.inside.isSome) := by
    intro thread waits
    obtain ⟨event, next, stepped, _⟩ := monitor.progress state thread waits
    have blocked : monitor.step state event = none := stuck event
    rw [stepped] at blocked
    cases blocked
  have outside : state.inside = none := by
    cases held : state.inside with
    | none => rfl
    | some holder =>
        exact absurd (.inr (by rw [held]; rfl)) (waitsNot holder.1)
  refine ⟨outside, fun thread => ?_⟩
  have nothingLeft : state.todo thread = [] := by
    by_contra waits
    exact waitsNot thread (.inl waits)
  have ordered := (monitor.linear_of_run
    (monitor.allows_undisturbed start todo _ events) ran).ordered thread
  simpa [operationIn, outside, nothingLeft] using ordered

end Monitor

end Library
end ModernCommon
