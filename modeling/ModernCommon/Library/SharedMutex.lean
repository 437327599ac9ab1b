import Mathlib.Data.List.AList
import ModernCommon.Library.Monitor

/-!
# Locks that readers share

An operation holds a lock alone or shares it with others of its kind; what shares
it only reads. Readers may be inside at the same time, between any two of their
accesses others may be scheduled, and a reader sees one state nevertheless:
operations answer as if each were carried out at once, in the order in which they
gave the lock back.
-/

namespace ModernCommon
namespace Library

/-- No access changes the state. -/
def Routine.ReadOnly : Routine σ ω → Prop
  | .done _ => True
  | .access change next =>
      (∀ state, change state = state) ∧ ∀ state, (next state).ReadOnly

theorem Routine.readOnly_read (function : σ → α) :
    (read function).ReadOnly :=
  ⟨fun _ => rfl, fun _ => trivial⟩

theorem Routine.readOnly_pure (answer : α) :
    (pure answer : Routine σ α).ReadOnly := trivial

theorem Routine.ReadOnly.bind
    {first : Routine σ α}
    {next : α → Routine σ β}
    (readsFirst : first.ReadOnly)
    (readsNext : ∀ answer, (next answer).ReadOnly) :
    (first >>= next).ReadOnly := by
  change (first.bind next).ReadOnly
  induction first with
  | done answer => exact readsNext answer
  | access change rest inductionHypothesis =>
      exact ⟨readsFirst.1, fun state =>
        inductionHypothesis state (readsFirst.2 state)⟩

/-- Operations that hold a lock alone, and operations that share it and read. -/
structure SharedMutex (σ ι ω : Type) extends Monitor σ ι Empty ω where
  exclusive : ι → Bool
  readOnly : ∀ operation, exclusive operation = false →
    (routine operation).ReadOnly

namespace SharedMutex

variable {σ ι ω ThreadId : Type}

/-- The threads inside, with their operations and what is left of them. -/
abbrev Inside (σ ι ω ThreadId : Type) :=
  AList fun _ : ThreadId => ι × Routine σ ω

/-- The shared state, what each thread has still to do, the threads inside and
what happened so far. -/
structure State (σ ι ω ThreadId : Type) where
  shared : σ
  todo : ThreadId → List ι
  inside : Inside σ ι ω ThreadId := ∅
  history : List (Monitor.Entry ThreadId ι Empty ω) := []

/-- One step of a schedule. -/
inductive Event (ThreadId : Type)
  | enter (thread : ThreadId)
  | proceed (thread : ThreadId)
  | leave (thread : ThreadId)
  deriving DecidableEq

/-- Whether the lock is free for an operation. -/
def admits
    (mutex : SharedMutex σ ι ω)
    (inside : Inside σ ι ω ThreadId)
    (operation : ι) : Bool :=
  if mutex.exclusive operation then inside.entries.isEmpty
  else inside.entries.all fun held => !mutex.exclusive held.2.1

variable [DecidableEq ThreadId]

/-- One step of a schedule, if the thread it concerns can take it. -/
def step
    (mutex : SharedMutex σ ι ω)
    (state : State σ ι ω ThreadId) :
    Event ThreadId → Option (State σ ι ω ThreadId)
  | .enter thread =>
      match state.inside.lookup thread, state.todo thread with
      | none, operation :: later =>
          if mutex.admits state.inside operation then
            some { state with
              todo := Function.update state.todo thread later
              inside := state.inside.insert thread
                (operation, mutex.routine operation) }
          else none
      | _, _ => none
  | .proceed thread =>
      match state.inside.lookup thread with
      | some (operation, .access change next) =>
          some { state with
            shared := change state.shared
            inside := state.inside.insert thread
              (operation, next state.shared) }
      | _ => none
  | .leave thread =>
      match state.inside.lookup thread with
      | some (operation, .done answer) =>
          some { state with
            inside := state.inside.erase thread
            history := state.history ++ [.answered thread operation answer] }
      | _ => none

/-- The schedules of a program for each thread. -/
def system
    (mutex : SharedMutex σ ι ω)
    (shared : σ)
    (todo : ThreadId → List ι) :
    System (State σ ι ω ThreadId) (Event ThreadId) where
  initial := { shared, todo }
  step := mutex.step

/-- The operation a thread is in. -/
def operationIn
    (inside : Inside σ ι ω ThreadId)
    (thread : ThreadId) : List ι :=
  ((inside.lookup thread).map Prod.fst).toList

/-- What is left of an operation answers what all of it would have answered: a
reader's on the state as it is, since it does not change while a reader is
inside, and a writer's on the state it found. -/
structure Linear
    (mutex : SharedMutex σ ι ω)
    (start : σ)
    (todo : ThreadId → List ι)
    (state : State σ ι ω ThreadId) : Prop where
  alone : ∀ thread operation rest,
    state.inside.lookup thread = some (operation, rest) →
      mutex.exclusive operation →
        ∀ other, state.inside.lookup other ≠ none → other = thread
  atomic : ∃ before, mutex.Sequential start state.history before ∧
    ((∀ thread operation rest,
      state.inside.lookup thread = some (operation, rest) →
        mutex.exclusive operation = false) → state.shared = before) ∧
    ∀ thread operation rest,
      state.inside.lookup thread = some (operation, rest) →
        rest.run state.shared = (mutex.routine operation).run before ∧
        (mutex.exclusive operation = false → rest.ReadOnly)
  ordered : ∀ thread,
    Monitor.operationsOf thread state.history ++
      operationIn state.inside thread ++ state.todo thread = todo thread

theorem Linear.initial
    (mutex : SharedMutex σ ι ω)
    (shared : σ)
    (todo : ThreadId → List ι) :
    mutex.Linear shared todo (mutex.system shared todo).initial where
  alone thread operation rest found := by
    rw [system, AList.lookup_empty] at found
    cases found
  atomic := by
    refine ⟨shared, .nil, fun _ => rfl, ?_⟩
    intro thread operation rest found
    rw [system, AList.lookup_empty] at found
    cases found
  ordered _ := rfl

theorem lookup_eq_none_of_isEmpty
    {inside : Inside σ ι ω ThreadId}
    (isEmpty : inside.entries.isEmpty)
    (thread : ThreadId) :
    inside.lookup thread = none := by
  rw [AList.lookup_eq_none, AList.mem_keys, AList.keys, List.keys,
    List.isEmpty_iff.mp isEmpty]
  simp

theorem exclusive_of_all
    {mutex : SharedMutex σ ι ω}
    {inside : Inside σ ι ω ThreadId}
    (allShare : inside.entries.all fun held => !mutex.exclusive held.2.1)
    {thread : ThreadId}
    {operation : ι}
    {rest : Routine σ ω}
    (found : inside.lookup thread = some (operation, rest)) :
    mutex.exclusive operation = false := by
  have held := AList.mem_lookup_iff.mp found
  simpa using List.all_eq_true.mp allShare _ held

variable {mutex : SharedMutex σ ι ω} {start : σ} {todo : ThreadId → List ι}

/-- Whoever is inside together with another thread is a reader. -/
theorem Linear.shared_of_ne
    {state : State σ ι ω ThreadId}
    (linear : mutex.Linear start todo state)
    {thread : ThreadId}
    {operation : ι}
    {rest : Routine σ ω}
    (found : state.inside.lookup thread = some (operation, rest))
    (other : ThreadId)
    (present : state.inside.lookup other ≠ none)
    (differs : other ≠ thread) :
    mutex.exclusive operation = false := by
  cases isExclusive : mutex.exclusive operation with
  | false => rfl
  | true =>
      exact absurd
        (linear.alone thread operation rest found isExclusive other present)
        differs

/-- A thread in the company of a reader is a reader. -/
theorem Linear.shares
    {state : State σ ι ω ThreadId}
    (linear : mutex.Linear start todo state)
    {thread : ThreadId}
    {operation : ι}
    {rest : Routine σ ω}
    (found : state.inside.lookup thread = some (operation, rest))
    (isShared : mutex.exclusive operation = false)
    (other : ThreadId)
    (otherOperation : ι)
    (otherRest : Routine σ ω)
    (foundOther : state.inside.lookup other = some (otherOperation, otherRest)) :
    mutex.exclusive otherOperation = false := by
  by_cases same : thread = other
  · subst same
    rw [found] at foundOther
    cases foundOther
    exact isShared
  · exact linear.shared_of_ne foundOther thread (by rw [found]; simp) same

/-- A writer is admitted when nobody is inside, a reader when only readers are. -/
theorem admits_cases
    {inside : Inside σ ι ω ThreadId}
    {operation : ι}
    (admitted : mutex.admits inside operation) :
    (mutex.exclusive operation ∧ ∀ other, inside.lookup other = none) ∨
      (mutex.exclusive operation = false ∧
        ∀ other otherOperation otherRest,
          inside.lookup other = some (otherOperation, otherRest) →
            mutex.exclusive otherOperation = false) := by
  unfold admits at admitted
  cases isExclusive : mutex.exclusive operation with
  | true =>
      rw [isExclusive, if_pos rfl] at admitted
      exact .inl ⟨rfl, lookup_eq_none_of_isEmpty admitted⟩
  | false =>
      rw [isExclusive, if_neg Bool.false_ne_true] at admitted
      exact .inr ⟨rfl, fun _ _ _ => exclusive_of_all admitted⟩

theorem Linear.enter
    {shared : σ}
    {rest : ThreadId → List ι}
    {inside : Inside σ ι ω ThreadId}
    {history : List (Monitor.Entry ThreadId ι Empty ω)}
    (linear : mutex.Linear start todo ⟨shared, rest, inside, history⟩)
    {thread : ThreadId}
    (outside : inside.lookup thread = none)
    {operation : ι}
    {later : List ι}
    (isNext : rest thread = operation :: later)
    (admitted : mutex.admits inside operation) :
    mutex.Linear start todo
      ⟨shared, Function.update rest thread later,
        inside.insert thread (operation, mutex.routine operation), history⟩ := by
  obtain ⟨alone, ⟨before, sequential, settled, atomic⟩, ordered⟩ := linear
  have company := admits_cases admitted
  have same : shared = before := by
    apply settled
    intro other otherOperation otherRest found
    obtain ⟨_, isEmpty⟩ | ⟨_, allShare⟩ := company
    · rw [isEmpty other] at found
      cases found
    · exact allShare other otherOperation otherRest found
  refine ⟨?_, ⟨before, sequential, fun _ => same, ?_⟩, ?_⟩
  · intro holder held heldRest found isExclusive other present
    obtain ⟨_, isEmpty⟩ | ⟨isShared, allShare⟩ := company
    · have only : ∀ other, (inside.insert thread
          (operation, mutex.routine operation)).lookup other ≠ none →
            other = thread := by
        intro other present
        by_contra differs
        rw [AList.lookup_insert_ne differs] at present
        exact present (isEmpty other)
      rw [only other present, only holder (by rw [found]; simp)]
    · by_cases isThread : holder = thread
      · subst isThread
        rw [AList.lookup_insert] at found
        cases found
        rw [isShared] at isExclusive
        cases isExclusive
      · rw [AList.lookup_insert_ne isThread] at found
        rw [allShare holder held heldRest found] at isExclusive
        cases isExclusive
  · intro holder held heldRest found
    by_cases isThread : holder = thread
    · subst isThread
      rw [AList.lookup_insert] at found
      cases found
      exact ⟨by rw [same], mutex.readOnly operation⟩
    · rw [AList.lookup_insert_ne isThread] at found
      exact atomic holder held heldRest found
  · intro other
    have program := ordered other
    by_cases isThread : other = thread
    · subst isThread
      simpa [operationIn, outside, isNext] using program
    · simpa [operationIn, AList.lookup_insert_ne isThread,
        Function.update_of_ne isThread] using program

theorem Linear.proceed
    {shared : σ}
    {rest : ThreadId → List ι}
    {inside : Inside σ ι ω ThreadId}
    {history : List (Monitor.Entry ThreadId ι Empty ω)}
    (linear : mutex.Linear start todo ⟨shared, rest, inside, history⟩)
    {thread : ThreadId}
    {operation : ι}
    {change : σ → σ}
    {next : σ → Routine σ ω}
    (found : inside.lookup thread = some (operation, .access change next)) :
    mutex.Linear start todo
      ⟨change shared, rest, inside.insert thread (operation, next shared),
        history⟩ := by
  have shares := linear.shares found
  have sharedWith := linear.shared_of_ne found
  obtain ⟨alone, ⟨before, sequential, settled, atomic⟩, ordered⟩ := linear
  have unchanged : mutex.exclusive operation = false →
      change shared = shared := by
    intro isShared
    exact ((atomic thread operation _ found).2 isShared).1 shared
  have insideBefore : ∀ holder held heldRest,
      (inside.insert thread (operation, next shared)).lookup holder =
        some (held, heldRest) →
      ∃ oldRest, inside.lookup holder = some (held, oldRest) := by
    intro holder held heldRest foundAfter
    by_cases isThread : holder = thread
    · subst isThread
      rw [AList.lookup_insert] at foundAfter
      cases foundAfter
      exact ⟨_, found⟩
    · rw [AList.lookup_insert_ne isThread] at foundAfter
      exact ⟨heldRest, foundAfter⟩
  refine ⟨?_, ⟨before, sequential, ?_, ?_⟩, ?_⟩
  · intro holder held heldRest foundAfter isExclusive other present
    obtain ⟨oldRest, foundBefore⟩ := insideBefore holder held heldRest foundAfter
    apply alone holder held oldRest foundBefore isExclusive
    obtain ⟨⟨otherHeld, otherRest⟩, foundOther⟩ :=
      Option.ne_none_iff_exists'.mp present
    obtain ⟨otherOld, foundOtherBefore⟩ :=
      insideBefore other otherHeld otherRest foundOther
    rw [foundOtherBefore]
    simp
  · intro allShare
    have isShared := allShare thread operation (next shared)
      (AList.lookup_insert inside)
    rw [unchanged isShared]
    exact settled (shares isShared)
  · intro holder held heldRest foundAfter
    by_cases isThread : holder = thread
    · subst isThread
      rw [AList.lookup_insert] at foundAfter
      cases foundAfter
      obtain ⟨ended, readOnly⟩ := atomic holder operation _ found
      exact ⟨ended, fun isShared => (readOnly isShared).2 shared⟩
    · rw [AList.lookup_insert_ne isThread] at foundAfter
      have isShared := sharedWith holder (by rw [foundAfter]; simp) isThread
      rw [unchanged isShared]
      exact atomic holder held heldRest foundAfter
  · intro other
    have program := ordered other
    by_cases isThread : other = thread
    · subst isThread
      simpa [operationIn, found] using program
    · simpa [operationIn, AList.lookup_insert_ne isThread] using program

theorem Linear.leave
    {shared : σ}
    {rest : ThreadId → List ι}
    {inside : Inside σ ι ω ThreadId}
    {history : List (Monitor.Entry ThreadId ι Empty ω)}
    (linear : mutex.Linear start todo ⟨shared, rest, inside, history⟩)
    {thread : ThreadId}
    {operation : ι}
    {answer : ω}
    (found : inside.lookup thread = some (operation, .done answer)) :
    mutex.Linear start todo
      ⟨shared, rest, inside.erase thread,
        history ++ [.answered thread operation answer]⟩ := by
  have shares := linear.shares found
  have sharedWith := linear.shared_of_ne found
  obtain ⟨alone, ⟨before, sequential, settled, atomic⟩, ordered⟩ := linear
  have ended : (answer, shared) = (mutex.routine operation).run before :=
    (atomic thread operation _ found).1
  have insideBefore : ∀ holder held heldRest,
      (inside.erase thread).lookup holder = some (held, heldRest) →
      holder ≠ thread ∧ inside.lookup holder = some (held, heldRest) := by
    intro holder held heldRest foundAfter
    have differs : holder ≠ thread := by
      rintro rfl
      rw [AList.lookup_erase] at foundAfter
      cases foundAfter
    rw [AList.lookup_erase_ne differs] at foundAfter
    exact ⟨differs, foundAfter⟩
  refine ⟨?_, ⟨shared, ?_, fun _ => rfl, ?_⟩, ?_⟩
  · intro holder held heldRest foundAfter isExclusive other present
    obtain ⟨_, foundBefore⟩ := insideBefore holder held heldRest foundAfter
    apply alone holder held heldRest foundBefore isExclusive
    intro absent
    apply present
    by_cases isThread : other = thread
    · rw [isThread, AList.lookup_erase]
    · rw [AList.lookup_erase_ne isThread, absent]
  · have answered := sequential.answered thread operation
    rw [← ended] at answered
    exact answered
  · intro holder held heldRest foundAfter
    obtain ⟨differs, foundBefore⟩ := insideBefore holder held heldRest foundAfter
    have isShared := sharedWith holder (by rw [foundBefore]; simp) differs
    have same : shared = before := settled (shares isShared)
    rw [same]
    have unchanged := atomic holder held heldRest foundBefore
    rwa [same] at unchanged
  · intro other
    have program := ordered other
    rw [Monitor.operationsOf_append]
    by_cases isThread : other = thread
    · subst isThread
      simpa [Monitor.operationsOf, operationIn, found] using program
    · simpa [Monitor.operationsOf, operationIn, Ne.symm isThread,
        AList.lookup_erase_ne isThread] using program

theorem Linear.step
    (state : State σ ι ω ThreadId)
    (event : Event ThreadId)
    (next : State σ ι ω ThreadId)
    (linear : mutex.Linear start todo state)
    (stepped : mutex.step state event = some next) :
    mutex.Linear start todo next := by
  obtain ⟨shared, rest, inside, history⟩ := state
  cases event with
  | enter thread =>
      simp only [SharedMutex.step] at stepped
      split at stepped
      · rename_i operation later outside isNext
        split_ifs at stepped with admitted
        cases stepped
        exact linear.enter outside isNext admitted
      · cases stepped
  | proceed thread =>
      simp only [SharedMutex.step] at stepped
      split at stepped
      · rename_i operation change further found
        cases stepped
        exact linear.proceed found
      · cases stepped
  | leave thread =>
      simp only [SharedMutex.step] at stepped
      split at stepped
      · rename_i operation answer found
        cases stepped
        exact linear.leave found
      · cases stepped

/-- In every run the operations answered so far were carried out one after
another, each thread's in its order. -/
theorem linear_of_run
    (mutex : SharedMutex σ ι ω)
    {start : σ}
    {todo : ThreadId → List ι}
    {events : List (Event ThreadId)}
    {state : State σ ι ω ThreadId}
    (ran : (mutex.system start todo).run (mutex.system start todo).initial
      events = some state) :
    mutex.Linear start todo state :=
  (mutex.system start todo).invariant_of_run (mutex.Linear start todo)
    Linear.step (Linear.initial mutex start todo) ran

/-- What has happened stays. -/
theorem history_prefix_of_run
    (mutex : SharedMutex σ ι ω)
    (start : σ)
    (todo : ThreadId → List ι)
    {events : List (Event ThreadId)}
    {state final : State σ ι ω ThreadId}
    (ran : (mutex.system start todo).run state events = some final) :
    state.history <+: final.history := by
  refine (mutex.system start todo).invariant_of_run
    (fun later => state.history <+: later.history) ?_ List.prefix_rfl ran
  intro later event next grown stepped
  change mutex.step later event = some next at stepped
  cases event with
  | enter thread =>
      simp only [SharedMutex.step] at stepped
      split at stepped
      · split_ifs at stepped
        cases stepped
        exact grown
      · cases stepped
  | proceed thread =>
      simp only [SharedMutex.step] at stepped
      split at stepped
      · cases stepped
        exact grown
      · cases stepped
  | leave thread =>
      simp only [SharedMutex.step] at stepped
      split at stepped
      · cases stepped
        exact grown.trans (List.prefix_append _ _)
      · cases stepped

end SharedMutex
end Library
end ModernCommon
