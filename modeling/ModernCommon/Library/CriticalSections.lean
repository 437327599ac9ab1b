import Mathlib.Logic.Function.Basic
import ModernCommon.Library.System

/-!
# Threads and critical sections

Threads issue operations one at a time. An operation is a sequence of critical
sections, each of them under one lock: take the lock, access what it guards,
give the lock back. The instructions of different threads interleave freely; a
lock that is held makes whoever requests it wait.

The module proves what holds of every such run: a thread holds at most the lock
of the section it is in, the holder alone accesses what a lock guards, some
thread can always go on, and each thread carries out the sections of its last
operation in order.
-/

namespace ModernCommon
namespace Library

/-- One instruction of a critical section. -/
inductive Instruction (LockId Access : Type*)
  | lock (lock : LockId)
  | access (lock : LockId) (access : Access)
  | unlock (lock : LockId)
  deriving DecidableEq

/-- The instructions of one critical section. -/
def withLock (guarded : LockId × Access) : List (Instruction LockId Access) :=
  [.lock guarded.1, .access guarded.1 guarded.2, .unlock guarded.1]

/-- What operations are made of, and what they do to a memory `σ`. -/
structure CriticalSections (σ ThreadId LockId Access Operation : Type*) where
  initial : σ
  /-- The critical sections of an operation, in the order of its code. -/
  program : Operation → List (LockId × Access)
  /-- A thread enters an operation, with fresh local variables. -/
  enter : ThreadId → σ → σ
  /-- A thread accesses what a lock guards. -/
  perform : ThreadId → LockId → Access → σ → σ

namespace CriticalSections

variable {σ ThreadId LockId Access Operation : Type*}

/-- The memory, the holders of the locks, and what each thread has left of the
operation it is in. -/
structure State (σ ThreadId LockId Access : Type*) where
  memory : σ
  holder : LockId → Option ThreadId
  todo : ThreadId → List (Instruction LockId Access)

variable {state next : State σ ThreadId LockId Access}

/-! ## Who holds what -/

/-- The lock a thread holds, by what it has left: sections not yet begun, or
the rest of one and then such sections. -/
inductive Placed : Option LockId → List (Instruction LockId Access) → Prop
  | between (sections : List (LockId × Access)) :
      Placed none (sections.flatMap withLock)
  | locked (lock : LockId) (access : Access)
      (sections : List (LockId × Access)) :
      Placed (some lock)
        (.access lock access :: .unlock lock :: sections.flatMap withLock)
  | accessed (lock : LockId) (sections : List (LockId × Access)) :
      Placed (some lock) (.unlock lock :: sections.flatMap withLock)

theorem Placed.of_nil
    {held : Option LockId}
    (placed : Placed held ([] : List (Instruction LockId Access))) :
    held = none := by
  generalize left : [] = todo at placed
  cases placed with
  | between sections => rfl
  | locked lock access sections => cases left
  | accessed lock sections => cases left

theorem Placed.of_lock
    {held : Option LockId}
    {lock : LockId}
    {rest : List (Instruction LockId Access)}
    (placed : Placed held (.lock lock :: rest)) :
    held = none ∧ Placed (some lock) rest := by
  generalize left : .lock lock :: rest = todo at placed
  cases placed with
  | between sections =>
      cases sections with
      | nil => cases left
      | cons first sections =>
          cases left
          exact ⟨rfl, .locked first.1 first.2 sections⟩
  | locked lock access sections => cases left
  | accessed lock sections => cases left

theorem Placed.of_access
    {held : Option LockId}
    {lock : LockId}
    {access : Access}
    {rest : List (Instruction LockId Access)}
    (placed : Placed held (.access lock access :: rest)) :
    held = some lock ∧ Placed (some lock) rest := by
  generalize left : .access lock access :: rest = todo at placed
  cases placed with
  | between sections => cases sections <;> cases left
  | locked lock access sections =>
      cases left
      exact ⟨rfl, .accessed lock sections⟩
  | accessed lock sections => cases left

theorem Placed.of_unlock
    {held : Option LockId}
    {lock : LockId}
    {rest : List (Instruction LockId Access)}
    (placed : Placed held (.unlock lock :: rest)) :
    held = some lock ∧ Placed none rest := by
  generalize left : .unlock lock :: rest = todo at placed
  cases placed with
  | between sections => cases sections <;> cases left
  | locked lock access sections => cases left
  | accessed lock sections =>
      cases left
      exact ⟨rfl, .between sections⟩

/-- Every thread is somewhere in its sections and holds the lock of the section
it is in, and no other. -/
def Disciplined (state : State σ ThreadId LockId Access) : Prop :=
  ∀ thread, ∃ held,
    Placed held (state.todo thread) ∧
      ∀ lock, state.holder lock = some thread ↔ held = some lock

/-- A thread that requests a lock holds none. -/
theorem Disciplined.holder_ne_of_lock
    (disciplined : Disciplined state)
    {thread : ThreadId}
    {requested : LockId}
    {rest : List (Instruction LockId Access)}
    (todo : state.todo thread = .lock requested :: rest)
    (lock : LockId) :
    state.holder lock ≠ some thread := by
  obtain ⟨held, placed, holds⟩ := disciplined thread
  rw [todo] at placed
  obtain ⟨rfl, -⟩ := placed.of_lock
  simpa using holds lock

/-- Only its holder accesses what a lock guards. -/
theorem Disciplined.holder_of_access
    (disciplined : Disciplined state)
    {thread : ThreadId}
    {lock : LockId}
    {access : Access}
    {rest : List (Instruction LockId Access)}
    (todo : state.todo thread = .access lock access :: rest) :
    state.holder lock = some thread := by
  obtain ⟨held, placed, holds⟩ := disciplined thread
  rw [todo] at placed
  exact (holds lock).mpr placed.of_access.1

/-! ## Steps -/

variable [DecidableEq ThreadId] [DecidableEq LockId] [DecidableEq Access]

/-- A thread issues an operation or carries out its next instruction. -/
inductive Event (ThreadId LockId Access Operation : Type*)
  | call (thread : ThreadId) (operation : Operation)
  | run (thread : ThreadId) (instruction : Instruction LockId Access)
  deriving DecidableEq

/-- Carry out an instruction; a lock has to be free to be taken. -/
def execute
    (code : CriticalSections σ ThreadId LockId Access Operation)
    (thread : ThreadId)
    (state : State σ ThreadId LockId Access) :
    Instruction LockId Access → Option (State σ ThreadId LockId Access)
  | .lock lock =>
      match state.holder lock with
      | none => some { state with
          holder := Function.update state.holder lock (some thread) }
      | some _ => none
  | .access lock access => some { state with
      memory := code.perform thread lock access state.memory }
  | .unlock lock => some { state with
      holder := Function.update state.holder lock none }

/-- A thread that has nothing left may issue an operation; one that has goes on
with its next instruction. -/
def step
    (code : CriticalSections σ ThreadId LockId Access Operation)
    (state : State σ ThreadId LockId Access) :
    Event ThreadId LockId Access Operation →
      Option (State σ ThreadId LockId Access)
  | .call thread operation =>
      match state.todo thread with
      | [] => some { state with
          memory := code.enter thread state.memory
          todo := Function.update state.todo thread
            ((code.program operation).flatMap withLock) }
      | _ :: _ => none
  | .run thread instruction =>
      match state.todo thread with
      | [] => none
      | next :: rest =>
          if next = instruction then
            (code.execute thread state instruction).map fun reached =>
              { reached with todo := Function.update state.todo thread rest }
          else none

/-- No lock is held and no thread is in an operation. -/
def system (code : CriticalSections σ ThreadId LockId Access Operation) :
    System (State σ ThreadId LockId Access)
      (Event ThreadId LockId Access Operation) where
  initial :=
    { memory := code.initial, holder := fun _ => none, todo := fun _ => [] }
  step := code.step

variable {code : CriticalSections σ ThreadId LockId Access Operation}

/-- All that a step can do. -/
inductive Effect
    (code : CriticalSections σ ThreadId LockId Access Operation)
    (state : State σ ThreadId LockId Access) :
    Event ThreadId LockId Access Operation →
      State σ ThreadId LockId Access → Prop
  | call {thread operation}
      (idle : state.todo thread = []) :
      Effect code state (.call thread operation)
        { memory := code.enter thread state.memory
          holder := state.holder
          todo := Function.update state.todo thread
            ((code.program operation).flatMap withLock) }
  | lock {thread lock rest}
      (next : state.todo thread = .lock lock :: rest)
      (free : state.holder lock = none) :
      Effect code state (.run thread (.lock lock))
        { memory := state.memory
          holder := Function.update state.holder lock (some thread)
          todo := Function.update state.todo thread rest }
  | access {thread lock access rest}
      (next : state.todo thread = .access lock access :: rest) :
      Effect code state (.run thread (.access lock access))
        { memory := code.perform thread lock access state.memory
          holder := state.holder
          todo := Function.update state.todo thread rest }
  | unlock {thread lock rest}
      (next : state.todo thread = .unlock lock :: rest) :
      Effect code state (.run thread (.unlock lock))
        { memory := state.memory
          holder := Function.update state.holder lock none
          todo := Function.update state.todo thread rest }

theorem step_iff_effect
    {event : Event ThreadId LockId Access Operation} :
    code.step state event = some next ↔ Effect code state event next := by
  constructor
  · intro stepped
    cases event with
    | call thread operation =>
        cases todo : state.todo thread with
        | nil =>
            simp only [step, todo, Option.some.injEq] at stepped
            subst stepped
            exact .call todo
        | cons instruction rest => simp [step, todo] at stepped
    | run thread instruction =>
        cases todo : state.todo thread with
        | nil => simp [step, todo] at stepped
        | cons first rest =>
            by_cases same : first = instruction
            · subst same
              cases first with
              | lock lock =>
                  cases holder : state.holder lock with
                  | some other =>
                      simp [step, todo, execute, holder] at stepped
                  | none =>
                      simp only [step, todo, execute, holder, if_true,
                        Option.map_some, Option.some.injEq] at stepped
                      subst stepped
                      exact .lock todo holder
              | access lock access =>
                  simp only [step, todo, execute, if_true, Option.map_some,
                    Option.some.injEq] at stepped
                  subst stepped
                  exact .access todo
              | unlock lock =>
                  simp only [step, todo, execute, if_true, Option.map_some,
                    Option.some.injEq] at stepped
                  subst stepped
                  exact .unlock todo
            · simp [step, todo, same] at stepped
  · intro effect
    cases effect with
    | call idle => simp [step, idle]
    | lock todo free => simp [step, execute, todo, free]
    | access todo => simp [step, execute, todo]
    | unlock todo => simp [step, execute, todo]

/-! ## The discipline in every run -/

theorem disciplined_initial : Disciplined code.system.initial := by
  intro thread
  exact ⟨none, .between [], by simp [system]⟩

omit [DecidableEq LockId] [DecidableEq Access] in
/-- A thread may move on under the lock it holds. -/
theorem Disciplined.move
    (disciplined : Disciplined state)
    {mover : ThreadId}
    {rest : List (Instruction LockId Access)}
    (placed : ∀ held, Placed held (state.todo mover) → Placed held rest)
    (held : next.holder = state.holder)
    (moved : next.todo = Function.update state.todo mover rest) :
    Disciplined next := by
  intro thread
  obtain ⟨holding, wasPlaced, holds⟩ := disciplined thread
  refine ⟨holding, ?_, by simpa [held] using holds⟩
  by_cases own : thread = mover
  · subst own
    simpa [moved] using placed holding wasPlaced
  · simpa [moved, own] using wasPlaced

omit [DecidableEq Access] in
/-- Whoever takes a free lock holds it, and nothing else. -/
theorem Disciplined.lock
    (disciplined : Disciplined state)
    {mover : ThreadId}
    {taken : LockId}
    {rest : List (Instruction LockId Access)}
    (todo : state.todo mover = .lock taken :: rest)
    (free : state.holder taken = none)
    (held : next.holder = Function.update state.holder taken (some mover))
    (moved : next.todo = Function.update state.todo mover rest) :
    Disciplined next := by
  intro thread
  obtain ⟨holding, placed, holds⟩ := disciplined thread
  by_cases own : thread = mover
  · subst own
    rw [todo] at placed
    obtain ⟨rfl, entered⟩ := placed.of_lock
    refine ⟨some taken, by simpa [moved] using entered, ?_⟩
    intro lock
    by_cases same : lock = taken
    · simp [held, same]
    · have notHeld := (holds lock).not.mpr (by simp)
      simp [held, same, notHeld, Ne.symm same]
  · refine ⟨holding, by simpa [moved, own] using placed, ?_⟩
    intro lock
    by_cases same : lock = taken
    · have notHeld := (holds taken).not.mp (by simp [free])
      simp [held, same, notHeld, Ne.symm own]
    · simpa [held, same] using holds lock

omit [DecidableEq Access] in
/-- A lock that is given back was the mover's, and is nobody's. -/
theorem Disciplined.unlock
    (disciplined : Disciplined state)
    {mover : ThreadId}
    {given : LockId}
    {rest : List (Instruction LockId Access)}
    (todo : state.todo mover = .unlock given :: rest)
    (held : next.holder = Function.update state.holder given none)
    (moved : next.todo = Function.update state.todo mover rest) :
    Disciplined next := by
  obtain ⟨wasHeld, placedMover, holdsMover⟩ := disciplined mover
  rw [todo] at placedMover
  obtain ⟨rfl, left⟩ := placedMover.of_unlock
  have byMover := (holdsMover given).mpr rfl
  intro thread
  by_cases own : thread = mover
  · subst own
    refine ⟨none, by simpa [moved] using left, ?_⟩
    intro lock
    by_cases same : lock = given
    · simp [held, same]
    · have notHeld := (holdsMover lock).not.mpr (by simpa using Ne.symm same)
      simp [held, same, notHeld]
  · obtain ⟨holding, placed, holds⟩ := disciplined thread
    refine ⟨holding, by simpa [moved, own] using placed, ?_⟩
    intro lock
    by_cases same : lock = given
    · have notHeld := (holds given).not.mp (by simp [byMover, Ne.symm own])
      simp [held, same, notHeld]
    · simpa [held, same] using holds lock

omit [DecidableEq Access] in
/-- Every step keeps the discipline. -/
theorem Disciplined.step
    {event : Event ThreadId LockId Access Operation}
    (disciplined : Disciplined state)
    (effect : Effect code state event next) :
    Disciplined next := by
  cases effect with
  | @call thread operation idle =>
      refine disciplined.move ?_ rfl rfl
      intro held placed
      rw [idle] at placed
      rw [placed.of_nil]
      exact .between (code.program operation)
  | lock todo free => exact disciplined.lock todo free rfl rfl
  | @access thread lock access rest todo =>
      refine disciplined.move ?_ rfl rfl
      intro held placed
      rw [todo] at placed
      rw [placed.of_access.1]
      exact placed.of_access.2
  | unlock todo => exact disciplined.unlock todo rfl rfl

/-- In every run the threads keep to the discipline. -/
theorem disciplined_of_run
    {events : List (Event ThreadId LockId Access Operation)}
    (ran : code.system.run code.system.initial events = some state) :
    Disciplined state := by
  apply code.system.invariant_of_run Disciplined ?_ disciplined_initial ran
  intro before event after disciplined stepped
  exact disciplined.step (step_iff_effect.mp stepped)

omit [DecidableEq Access] in
/-- A thread that need not wait for a lock can go on. -/
theorem exists_effect
    (code : CriticalSections σ ThreadId LockId Access Operation)
    {thread : ThreadId}
    {instruction : Instruction LockId Access}
    {rest : List (Instruction LockId Access)}
    (todo : state.todo thread = instruction :: rest)
    (free : ∀ lock, instruction = .lock lock → state.holder lock = none) :
    ∃ next, Effect code state (.run thread instruction) next := by
  cases instruction with
  | lock lock => exact ⟨_, .lock todo (free lock rfl)⟩
  | access lock access => exact ⟨_, .access todo⟩
  | unlock lock => exact ⟨_, .unlock todo⟩

/-- While an operation is pending, some thread can go on: one that waits for a
lock waits for a thread inside its section, which does not wait. -/
theorem Disciplined.progress
    (disciplined : Disciplined state)
    {pending : ThreadId}
    (unfinished : state.todo pending ≠ []) :
    ∃ thread instruction next,
      code.step state (.run thread instruction) = some next := by
  suffices goesOn : ∃ thread instruction next,
      Effect code state (.run thread instruction) next by
    obtain ⟨thread, instruction, next, effect⟩ := goesOn
    exact ⟨thread, instruction, next, step_iff_effect.mpr effect⟩
  obtain ⟨instruction, rest, todo⟩ := List.exists_cons_of_ne_nil unfinished
  by_cases waits : ∃ lock holder,
      instruction = .lock lock ∧ state.holder lock = some holder
  · obtain ⟨lock, holder, rfl, taken⟩ := waits
    obtain ⟨held, placed, holds⟩ := disciplined holder
    obtain rfl := (holds lock).mp taken
    generalize left : state.todo holder = todoHolder at placed
    cases placed with
    | locked lock access sections =>
        obtain ⟨next, effect⟩ := exists_effect code left (by simp)
        exact ⟨holder, _, next, effect⟩
    | accessed lock sections =>
        obtain ⟨next, effect⟩ := exists_effect code left (by simp)
        exact ⟨holder, _, next, effect⟩
  · have free : ∀ lock, instruction = .lock lock →
        state.holder lock = none := by
      intro lock requests
      by_contra taken
      obtain ⟨holder, isHolder⟩ := Option.ne_none_iff_exists'.mp taken
      exact waits ⟨lock, holder, requests, isHolder⟩
    obtain ⟨next, effect⟩ := exists_effect code todo free
    exact ⟨pending, instruction, next, effect⟩

/-! ## The order of a thread's sections -/

/-- What a thread has accessed. -/
def accesses
    (thread : ThreadId)
    (history : List (Event ThreadId LockId Access Operation)) :
    List (LockId × Access) :=
  history.filterMap fun
    | .run other (.access lock access) =>
        if other = thread then some (lock, access) else none
    | _ => none

/-- What a thread has yet to access. -/
def pending (todo : List (Instruction LockId Access)) :
    List (LockId × Access) :=
  todo.filterMap fun
    | .access lock access => some (lock, access)
    | _ => none

omit [DecidableEq LockId] [DecidableEq Access] in
@[simp] theorem accesses_append
    (thread : ThreadId)
    (earlier later : List (Event ThreadId LockId Access Operation)) :
    accesses thread (earlier ++ later) =
      accesses thread earlier ++ accesses thread later := by
  simp [accesses]

omit [DecidableEq LockId] [DecidableEq Access] in
/-- What the other threads do is not counted. -/
theorem accesses_of_ne
    {thread other : ThreadId}
    (different : other ≠ thread)
    (instruction : Instruction LockId Access) :
    accesses thread
      [(.run other instruction : Event ThreadId LockId Access Operation)] =
        [] := by
  cases instruction <;> simp [accesses, different]

omit [DecidableEq ThreadId] [DecidableEq LockId] [DecidableEq Access] in
@[simp] theorem pending_flatMap_withLock
    (sections : List (LockId × Access)) :
    pending (sections.flatMap withLock) = sections := by
  induction sections with
  | nil => rfl
  | cons first sections inductionHypothesis =>
      rw [pending] at inductionHypothesis
      simp [pending, withLock, inductionHypothesis]

/-- `operation` is the last that the thread issued; `since` is what has happened
since. -/
structure LastCall
    (thread : ThreadId)
    (history earlier : List (Event ThreadId LockId Access Operation))
    (operation : Operation)
    (since : List (Event ThreadId LockId Access Operation)) : Prop where
  split : history = earlier ++ .call thread operation :: since
  last : ∀ other, .call thread other ∉ since

omit [DecidableEq ThreadId] [DecidableEq LockId] [DecidableEq Access] in
theorem LastCall.extend
    {thread : ThreadId}
    {history earlier since : List (Event ThreadId LockId Access Operation)}
    {operation : Operation}
    (lastCall : LastCall thread history earlier operation since)
    {event : Event ThreadId LockId Access Operation}
    (otherwise : ∀ other, event ≠ .call thread other) :
    LastCall thread (history ++ [event]) earlier operation
      (since ++ [event]) where
  split := by simp [lastCall.split]
  last other := by simp [lastCall.last other, (otherwise other).symm]

/-- A thread inside an operation has accessed the first of its sections and has
the others left. -/
def Ordered
    (code : CriticalSections σ ThreadId LockId Access Operation)
    (history : List (Event ThreadId LockId Access Operation))
    (state : State σ ThreadId LockId Access) : Prop :=
  ∀ thread, state.todo thread ≠ [] →
    ∃ earlier operation since,
      LastCall thread history earlier operation since ∧
        code.program operation =
          accesses thread since ++ pending (state.todo thread)

omit [DecidableEq LockId] [DecidableEq Access] in
/-- A thread's instruction moves its section from the pending ones to those
accessed. -/
theorem Ordered.run
    {history : List (Event ThreadId LockId Access Operation)}
    {thread : ThreadId}
    {instruction : Instruction LockId Access}
    {rest : List (Instruction LockId Access)}
    (ordered : Ordered code history state)
    (todo : state.todo thread = instruction :: rest)
    (moved : next.todo = Function.update state.todo thread rest) :
    Ordered code (history ++ [.run thread instruction]) next := by
  intro other unfinished
  have wasUnfinished : state.todo other ≠ [] := by
    by_cases own : other = thread
    · simp [own, todo]
    · simpa [moved, own] using unfinished
  obtain ⟨earlier, operation, since, lastCall, order⟩ :=
    ordered other wasUnfinished
  refine ⟨earlier, operation, since ++ [.run thread instruction],
    lastCall.extend (by simp), ?_⟩
  by_cases own : other = thread
  · subst own
    rw [order, todo, accesses_append, List.append_assoc]
    cases instruction <;> simp [accesses, pending, moved]
  · rw [order, accesses_append, accesses_of_ne (Ne.symm own)]
    simp [moved, own]

theorem ordered_of_run
    {events : List (Event ThreadId LockId Access Operation)}
    (ran : code.system.run code.system.initial events = some state) :
    Ordered code events state := by
  refine code.system.history_of_run (Ordered code) ?_ ?_ ran
  · intro thread unfinished
    exact absurd rfl unfinished
  intro history before event after _ ordered stepped
  cases step_iff_effect.mp stepped with
  | lock todo free => exact ordered.run todo rfl
  | access todo => exact ordered.run todo rfl
  | unlock todo => exact ordered.run todo rfl
  | @call caller operation idle =>
      intro thread unfinished
      by_cases own : thread = caller
      · subst own
        refine ⟨history, operation, [], ⟨rfl, by simp⟩, ?_⟩
        simp [accesses]
      · have wasUnfinished : before.todo thread ≠ [] := by
          simpa [own] using unfinished
        obtain ⟨earlier, issued, since, lastCall, order⟩ :=
          ordered thread wasUnfinished
        have otherwise : ∀ other,
            (.call caller operation : Event ThreadId LockId Access Operation) ≠
              .call thread other := by
          simp [Ne.symm own]
        refine ⟨earlier, issued, since ++ [.call caller operation],
          lastCall.extend otherwise, ?_⟩
        simp [order, accesses, own]

/-! ## Instants since a call -/

/-- At some instant since the thread's last call the state was as `condition`
says. -/
def DuringCall
    (code : CriticalSections σ ThreadId LockId Access Operation)
    (thread : ThreadId)
    (history : List (Event ThreadId LockId Access Operation))
    (condition : Operation → State σ ThreadId LockId Access → Prop) : Prop :=
  ∃ earlier operation since,
    LastCall thread history earlier operation since ∧
      code.system.During code.system.initial
        (earlier ++ [.call thread operation]) since (condition operation)

theorem DuringCall.extend
    {thread : ThreadId}
    {history : List (Event ThreadId LockId Access Operation)}
    {condition : Operation → State σ ThreadId LockId Access → Prop}
    (duringCall : DuringCall code thread history condition)
    {event : Event ThreadId LockId Access Operation}
    (otherwise : ∀ other, event ≠ .call thread other) :
    DuringCall code thread (history ++ [event]) condition := by
  obtain ⟨earlier, operation, since, lastCall, during⟩ := duringCall
  exact ⟨earlier, operation, since ++ [event], lastCall.extend otherwise,
    during.extend [event]⟩

/-- The present is such an instant. -/
theorem DuringCall.now
    {thread : ThreadId}
    {history earlier since : List (Event ThreadId LockId Access Operation)}
    {operation : Operation}
    {condition : Operation → State σ ThreadId LockId Access → Prop}
    (lastCall : LastCall thread history earlier operation since)
    (ran : code.system.run code.system.initial history = some state)
    (holds : condition operation state) :
    DuringCall code thread history condition := by
  refine ⟨earlier, operation, since, lastCall, System.During.now ?_ holds⟩
  rw [← List.append_cons, ← lastCall.split]
  exact ran

end CriticalSections
end Library
end ModernCommon
