import ModernCommon.Cache.Interleaving

/-!
# What synchronized maps hold

In every run of threads at synchronized maps a map holds the contents of one
other map at one instant, with its own later additions and removals on top. A
reload never leaves a mix behind, whatever happens between its two sections.
-/

namespace ModernCommon
namespace Cache
namespace Interleaving

open Library CriticalSections

variable {ThreadId MapId Key EntryT : Type} [LinearOrder Key]
variable [DecidableEq ThreadId] [DecidableEq MapId] [DecidableEq EntryT]

/-! ## Additions and removals -/

/-- An addition or removal; other accesses are passed over. -/
def Access.edit (map : SynchronizedMap Key EntryT) :
    Access Key EntryT → SynchronizedMap Key EntryT
  | .addDataEntry key data => (map.addDataEntry key data).2
  | .removeDataEntry key => map.removeDataEntry key
  | _ => map

omit [DecidableEq EntryT] in
theorem Access.applied_of_ne_moveIn
    (map : SynchronizedMap Key EntryT)
    (snapshot : MapType Key EntryT)
    {access : Access Key EntryT}
    (edits : access ≠ .moveIn) :
    access.applied map snapshot = access.edit map := by
  cases access with
  | moveIn => exact absurd rfl edits
  | addDataEntry key data | removeDataEntry key | lookupDataEntry key
  | size | snapshot | copyOut => rfl

/-- Contents after the additions to and removals from a map in a history, in
order. -/
def edited
    (target : MapId)
    (history : List (MapsEvent ThreadId MapId Key EntryT))
    (contents : SynchronizedMap Key EntryT) : SynchronizedMap Key EntryT :=
  history.foldl (fun contents event =>
    match event with
    | .run _ (.access map access) =>
        if map = target then access.edit contents else contents
    | _ => contents) contents

/-- A thread moves its copy into a map. -/
def swapsInto (target : MapId) (thread : ThreadId) :
    MapsEvent ThreadId MapId Key EntryT :=
  .run thread (.access target .moveIn)

/-- The whole contents of a reload's source. -/
def CopyOf (target : MapId) (contents : SynchronizedMap Key EntryT)
    (operation : Operation MapId Key EntryT)
    (seen : MapsState ThreadId MapId Key EntryT) : Prop :=
  ∃ source, operation = .reload target source ∧
    contents = seen.memory.map source

/-- Contents edited since the last swap, which brought in what its reload's
source held at one instant of that reload; or edited from the start. -/
def Explained
    (history : List (MapsEvent ThreadId MapId Key EntryT))
    (target : MapId)
    (contents : SynchronizedMap Key EntryT) : Prop :=
  ((∀ thread, swapsInto target thread ∉ history) ∧
      contents = edited target history {}) ∨
    ∃ before thread since copied,
      history = before ++ swapsInto target thread :: since ∧
        (∀ other, swapsInto target other ∉ since) ∧
        DuringCall (maps ThreadId MapId Key EntryT) thread before
          (CopyOf target copied) ∧
        contents = edited target since copied

/-- Contents stay explained through an event that is no swap into the map. -/
theorem Explained.extend
    {history : List (MapsEvent ThreadId MapId Key EntryT)}
    {target : MapId}
    {contents : SynchronizedMap Key EntryT}
    (explained : Explained history target contents)
    {event : MapsEvent ThreadId MapId Key EntryT}
    (otherwise : ∀ thread, event ≠ swapsInto target thread) :
    Explained (history ++ [event]) target
      (edited target [event] contents) := by
  have after : ∀ since base,
      edited target [event] (edited target since base) =
        edited target (since ++ [event]) base := by
    intro since base
    simp [edited]
  rcases explained with ⟨unswapped, rfl⟩ |
    ⟨before, thread, since, copied, rfl, last, during, rfl⟩
  · left
    refine ⟨?_, after history {}⟩
    intro thread
    simp [unswapped thread, (otherwise thread).symm]
  · right
    refine ⟨before, thread, since ++ [event], copied, by simp, ?_, during,
      after since copied⟩
    intro other
    simp [last other, (otherwise other).symm]

/-! ## The sections of each member -/

omit [LinearOrder Key] [DecidableEq ThreadId] [DecidableEq MapId]
  [DecidableEq EntryT] in
/-- Only a reload moves in, once it has copied. -/
theorem Operation.program_moveIn
    {operation : Operation MapId Key EntryT}
    {accessed left : List (MapId × Access Key EntryT)}
    {target : MapId}
    (order : operation.program = accessed ++ (target, .moveIn) :: left) :
    left = [] ∧ ∃ source, operation = .reload target source ∧
      accessed = [(source, .copyOut)] := by
  cases operation with
  | reload into source =>
      obtain _ | ⟨first, _ | ⟨second, accessed⟩⟩ := accessed <;>
        simp [program] at order
      obtain ⟨rfl, rfl, rfl⟩ := order
      exact ⟨rfl, source, rfl, rfl⟩
  | addDataEntry into key data | removeDataEntry into key
  | lookupDataEntry into key | size into | snapshot into =>
      obtain _ | ⟨first, accessed⟩ := accessed <;> simp [program] at order

omit [DecidableEq ThreadId] [DecidableEq MapId] [DecidableEq EntryT] in
/-- An access that answers its caller is the only one of its operation. -/
theorem Operation.program_answer
    {operation : Operation MapId Key EntryT}
    {accessed left : List (MapId × Access Key EntryT)}
    {target : MapId}
    {access : Access Key EntryT}
    (order : operation.program = accessed ++ (target, access) :: left)
    {map : MapId → SynchronizedMap Key EntryT}
    {result : Result Key EntryT}
    (answers : access.answer (map target) = some result) :
    operation.answer map = some result := by
  cases operation with
  | reload into source =>
      obtain _ | ⟨first, _ | ⟨second, accessed⟩⟩ := accessed <;>
        simp [program] at order
      · obtain ⟨⟨rfl, rfl⟩, -⟩ := order
        simp [Access.answer] at answers
      · obtain ⟨-, ⟨rfl, rfl⟩, -⟩ := order
        simp [Access.answer] at answers
  | addDataEntry into key data | removeDataEntry into key
  | lookupDataEntry into key | size into | snapshot into =>
      obtain _ | ⟨first, accessed⟩ := accessed <;> simp [program] at order
      obtain ⟨⟨rfl, rfl⟩, -⟩ := order
      exact answers

/-! ## One step -/

/-- What the history says about the maps, the copies that threads are about to
move in, and the results of their calls. -/
structure Accounted
    (history : List (MapsEvent ThreadId MapId Key EntryT))
    (state : MapsState ThreadId MapId Key EntryT) : Prop where
  contents : ∀ target, Explained history target (state.memory.map target)
  copies : ∀ thread target,
    pending (state.todo thread) = [(target, .moveIn)] →
      DuringCall (maps ThreadId MapId Key EntryT) thread history
        (CopyOf target ⟨⟨state.memory.snapshot thread⟩⟩)
  results : ∀ thread result,
    state.memory.result thread = some result →
      DuringCall (maps ThreadId MapId Key EntryT) thread history
        fun operation seen => operation.answer seen.memory.map = some result

theorem accounted_initial :
    Accounted [] (maps ThreadId MapId Key EntryT).system.initial where
  contents target := .inl ⟨by simp, rfl⟩
  copies thread target moves := by simp [system, pending] at moves
  results thread result answered := by simp [system, maps] at answered

/-- The instructions around an access leave the memory alone. -/
theorem Accounted.quietly
    {history : List (MapsEvent ThreadId MapId Key EntryT)}
    {state next : MapsState ThreadId MapId Key EntryT}
    (accounted : Accounted history state)
    {thread : ThreadId}
    {instruction : Instruction MapId (Access Key EntryT)}
    {rest : List (Instruction MapId (Access Key EntryT))}
    (todo : state.todo thread = instruction :: rest)
    (noAccess : pending [instruction] = [])
    (memory : next.memory = state.memory)
    (moved : next.todo = Function.update state.todo thread rest) :
    Accounted (history ++ [.run thread instruction]) next where
  contents target := by
    have otherwise : ∀ other,
        .run thread instruction ≠
          (swapsInto target other : MapsEvent ThreadId MapId Key EntryT) := by
      rintro other same
      cases same
      simp [pending] at noAccess
    have explained := (accounted.contents target).extend otherwise
    cases instruction with
    | access map access => simp [pending] at noAccess
    | lock map | unlock map => simpa [memory, edited] using explained
  copies other target moves := by
    rw [memory]
    refine (accounted.copies other target ?_).extend (by simp)
    by_cases own : other = thread
    · subst own
      rw [todo, ← moves, moved, Function.update_self]
      cases instruction with
      | access map access => simp [pending] at noAccess
      | lock map | unlock map => simp [pending]
    · simpa [moved, own] using moves
  results other result answered := by
    rw [memory] at answered
    exact (accounted.results other result answered).extend (by simp)

/-- A call starts with nothing copied and no result. -/
theorem Accounted.call
    {history : List (MapsEvent ThreadId MapId Key EntryT)}
    {state next : MapsState ThreadId MapId Key EntryT}
    (accounted : Accounted history state)
    {thread : ThreadId}
    {operation : Operation MapId Key EntryT}
    (memory : next.memory = state.memory.enter thread)
    (moved : next.todo = Function.update state.todo thread
      (operation.program.flatMap withLock)) :
    Accounted (history ++ [.call thread operation]) next where
  contents target := by
    have explained := (accounted.contents target).extend
      (show ∀ other, .call thread operation ≠ swapsInto target other by
        simp [swapsInto])
    simpa [memory, Memory.enter, edited] using explained
  copies other target moves := by
    by_cases own : other = thread
    · subst own
      rw [moved, Function.update_self, pending_flatMap_withLock] at moves
      -- No member begins with its second section.
      have fromStart : operation.program =
          [] ++ (target, .moveIn) :: [] := moves
      obtain ⟨-, source, -, copied⟩ :=
        Operation.program_moveIn fromStart
      cases copied
    · have wasAbout : pending (state.todo other) = [(target, .moveIn)] := by
        simpa [moved, own] using moves
      have otherwise : ∀ issued,
          (.call thread operation : MapsEvent ThreadId MapId Key EntryT) ≠
            .call other issued := by
        simp [Ne.symm own]
      have copied := (accounted.copies other target wasAbout).extend otherwise
      simpa [memory, Memory.enter, own] using copied
  results other result answered := by
    by_cases own : other = thread
    · subst own
      simp [memory, Memory.enter] at answered
    · have before : state.memory.result other = some result := by
        simpa [memory, Memory.enter, own] using answered
      exact (accounted.results other result before).extend (by
        simp [Ne.symm own])

omit [DecidableEq EntryT] in
/-- A thread's access leaves the copies of the other threads alone. -/
theorem Memory.perform_snapshot_of_ne
    (memory : Memory ThreadId MapId Key EntryT)
    {thread other : ThreadId}
    (different : other ≠ thread)
    (target : MapId)
    (access : Access Key EntryT) :
    (memory.perform thread target access).snapshot other =
      memory.snapshot other := by
  cases access <;> simp [perform, different]

omit [DecidableEq EntryT] in
/-- A result is that of the access, or was there before. -/
theorem Memory.perform_result
    {memory : Memory ThreadId MapId Key EntryT}
    {thread other : ThreadId}
    {target : MapId}
    {access : Access Key EntryT}
    {result : Result Key EntryT}
    (answered :
      (memory.perform thread target access).result other = some result) :
    (other = thread ∧ access.answer (memory.map target) = some result) ∨
      memory.result other = some result := by
  cases answer : access.answer (memory.map target) with
  | none => exact .inr (by simpa [perform, answer] using answered)
  | some given =>
      by_cases own : other = thread
      · subst own
        exact .inl ⟨rfl, by simpa [perform, answer] using answered⟩
      · exact .inr (by simpa [perform, answer, own] using answered)

/-- An access edits its map, or swaps in what its thread copied. -/
theorem Explained.access
    {history : List (MapsEvent ThreadId MapId Key EntryT)}
    {memory : Memory ThreadId MapId Key EntryT}
    {thread : ThreadId}
    {map : MapId}
    {access : Access Key EntryT}
    {target : MapId}
    (explained : Explained history target (memory.map target))
    (copied : target = map → access = .moveIn →
      DuringCall (maps ThreadId MapId Key EntryT) thread history
        (CopyOf target ⟨⟨memory.snapshot thread⟩⟩)) :
    Explained (history ++ [.run thread (.access map access)]) target
      ((memory.perform thread map access).map target) := by
  by_cases swaps : target = map ∧ access = .moveIn
  · obtain ⟨rfl, rfl⟩ := swaps
    refine .inr ⟨history, thread, [], _, rfl, by simp, copied rfl rfl, ?_⟩
    simp [Memory.perform, Access.applied, edited]
  · have otherwise : ∀ other,
        .run thread (.access map access) ≠
          (swapsInto target other : MapsEvent ThreadId MapId Key EntryT) := by
      rintro other same
      cases same
      exact swaps ⟨rfl, rfl⟩
    have edits := explained.extend otherwise
    by_cases same : target = map
    · subst same
      have isEdit : access ≠ .moveIn := fun isMove => swaps ⟨rfl, isMove⟩
      simpa [Memory.perform, edited, Access.applied_of_ne_moveIn _ _ isEdit]
        using edits
    · simpa [Memory.perform, edited, same, Ne.symm same] using edits

/-- Where a thread is in its operation when it accesses a map. -/
theorem program_of_access
    {history : List (MapsEvent ThreadId MapId Key EntryT)}
    {state : MapsState ThreadId MapId Key EntryT}
    (ran : (maps ThreadId MapId Key EntryT).system.run
      (maps ThreadId MapId Key EntryT).system.initial history = some state)
    {thread : ThreadId}
    {map : MapId}
    {access : Access Key EntryT}
    {rest : List (Instruction MapId (Access Key EntryT))}
    (todo : state.todo thread = .access map access :: rest) :
    ∃ earlier operation since,
      LastCall thread history earlier operation since ∧
        operation.program =
          accesses thread since ++ (map, access) :: pending rest := by
  obtain ⟨earlier, operation, since, lastCall, order⟩ :=
    ordered_of_run ran thread (by simp [todo])
  rw [todo] at order
  exact ⟨earlier, operation, since, lastCall, order⟩

/-- An access that leaves a thread with a move to make has copied the whole of
the source. -/
theorem copyOf_of_access
    {history : List (MapsEvent ThreadId MapId Key EntryT)}
    {state : MapsState ThreadId MapId Key EntryT}
    (ran : (maps ThreadId MapId Key EntryT).system.run
      (maps ThreadId MapId Key EntryT).system.initial history = some state)
    {thread : ThreadId}
    {map target : MapId}
    {access : Access Key EntryT}
    {rest : List (Instruction MapId (Access Key EntryT))}
    (todo : state.todo thread = .access map access :: rest)
    (moves : pending rest = [(target, .moveIn)]) :
    DuringCall (maps ThreadId MapId Key EntryT) thread history
      (CopyOf target
        ⟨⟨(state.memory.perform thread map access).snapshot thread⟩⟩) := by
  obtain ⟨earlier, operation, since, lastCall, program⟩ :=
    program_of_access ran todo
  -- The section before a reload's second one is its first.
  rw [moves, List.append_cons] at program
  obtain ⟨-, source, rfl, copied⟩ := Operation.program_moveIn program
  rw [← List.nil_append [(source, Access.copyOut)]] at copied
  cases (List.append_inj' copied rfl).2
  apply DuringCall.now lastCall ran
  refine ⟨map, rfl, ?_⟩
  simp [Memory.perform]

/-- An access keeps the account of the maps, the copies and the results. -/
theorem Accounted.access
    {history : List (MapsEvent ThreadId MapId Key EntryT)}
    {state next : MapsState ThreadId MapId Key EntryT}
    (ran : (maps ThreadId MapId Key EntryT).system.run
      (maps ThreadId MapId Key EntryT).system.initial history = some state)
    (accounted : Accounted history state)
    {thread : ThreadId}
    {map : MapId}
    {access : Access Key EntryT}
    {rest : List (Instruction MapId (Access Key EntryT))}
    (todo : state.todo thread = .access map access :: rest)
    (memory : next.memory = state.memory.perform thread map access)
    (moved : next.todo = Function.update state.todo thread rest) :
    Accounted (history ++ [.run thread (.access map access)]) next where
  contents target := by
    rw [memory]
    apply (accounted.contents target).access
    rintro rfl rfl
    obtain ⟨earlier, operation, since, _, program⟩ :=
      program_of_access ran todo
    have nothingLeft := (Operation.program_moveIn program).1
    apply accounted.copies thread target
    rw [todo]
    simpa [pending] using nothingLeft
  copies other target moves := by
    rw [memory]
    by_cases own : other = thread
    · subst own
      rw [moved, Function.update_self] at moves
      exact (copyOf_of_access ran todo moves).extend (by simp)
    · have wasAbout : pending (state.todo other) = [(target, .moveIn)] := by
        simpa [moved, own] using moves
      rw [state.memory.perform_snapshot_of_ne own map access]
      exact (accounted.copies other target wasAbout).extend (by simp)
  results other result answered := by
    rw [memory] at answered
    rcases Memory.perform_result answered with ⟨rfl, answers⟩ | before
    · obtain ⟨earlier, operation, since, lastCall, program⟩ :=
        program_of_access ran todo
      refine DuringCall.extend ?_ (by simp)
      apply DuringCall.now lastCall ran
      exact Operation.program_answer program answers
    · exact (accounted.results other result before).extend (by simp)

theorem accounted_of_run
    {events : List (MapsEvent ThreadId MapId Key EntryT)}
    {state : MapsState ThreadId MapId Key EntryT}
    (ran : (maps ThreadId MapId Key EntryT).system.run
      (maps ThreadId MapId Key EntryT).system.initial events = some state) :
    Accounted events state := by
  refine (maps ThreadId MapId Key EntryT).system.history_of_run Accounted
    accounted_initial ?_ ran
  intro history before event after reached accounted stepped
  cases step_iff_effect.mp stepped with
  | call idle => exact accounted.call rfl rfl
  | lock todo free => exact accounted.quietly todo rfl rfl rfl
  | access todo => exact accounted.access reached todo rfl rfl
  | unlock todo => exact accounted.quietly todo rfl rfl rfl

/-! ## Every run -/

/-- No deadlock and no mixture: what holds in a state reached by some events. -/
structure Consistent
    (events : List (MapsEvent ThreadId MapId Key EntryT))
    (state : MapsState ThreadId MapId Key EntryT) : Prop where
  /-- A thread that requests a map's lock holds no map's lock. -/
  requests : ∀ thread map rest other,
    state.todo thread = .lock map :: rest → state.holder other ≠ some thread
  /-- A map is accessed under its lock. -/
  excludes : ∀ thread map access rest,
    state.todo thread = .access map access :: rest →
      state.holder map = some thread
  /-- While some call is pending, some call goes on. -/
  proceeds : ∀ thread, state.todo thread ≠ [] →
    ∃ mover instruction next,
      (maps ThreadId MapId Key EntryT).step state (.run mover instruction) =
        some next
  /-- Every map holds explained contents. -/
  contents : ∀ target, Explained events target (state.memory.map target)
  /-- Every result was computed from explained contents during its call. -/
  results : ∀ thread result, state.memory.result thread = some result →
    ∃ earlier operation instant rest seen,
      LastCall thread events earlier operation (instant ++ rest) ∧
        (maps ThreadId MapId Key EntryT).system.run
            (maps ThreadId MapId Key EntryT).system.initial
            (earlier ++ [.call thread operation] ++ instant) = some seen ∧
        operation.answer seen.memory.map = some result ∧
        ∀ target, Explained (earlier ++ [.call thread operation] ++ instant)
          target (seen.memory.map target)

/-- Threads at synchronized maps neither deadlock nor expose a mixture. -/
theorem consistent_of_run
    {events : List (MapsEvent ThreadId MapId Key EntryT)}
    {state : MapsState ThreadId MapId Key EntryT}
    (ran : (maps ThreadId MapId Key EntryT).system.run
      (maps ThreadId MapId Key EntryT).system.initial events = some state) :
    Consistent events state where
  requests thread map rest other todo :=
    (disciplined_of_run ran).holder_ne_of_lock todo other
  excludes thread map access rest todo :=
    (disciplined_of_run ran).holder_of_access todo
  proceeds thread unfinished := (disciplined_of_run ran).progress unfinished
  contents := (accounted_of_run ran).contents
  results thread result answered := by
    obtain ⟨earlier, operation, since, lastCall, instant, rest, seen, rfl,
      reached, answers⟩ := (accounted_of_run ran).results thread result answered
    exact ⟨earlier, operation, instant, rest, seen, lastCall, reached, answers,
      (accounted_of_run reached).contents⟩

/-- Two maps reload from each other, each having copied before the other
moves. -/
def mutualReload : List (MapsEvent Bool Bool Nat Nat) :=
  .call true (.addDataEntry true 1 1) ::
      (withLock (true, .addDataEntry 1 1)).map (.run true) ++
    [.call true (.reload true false), .call false (.reload false true)] ++
    (withLock (false, .copyOut)).map (.run true) ++
    (withLock (true, .copyOut)).map (.run false) ++
    (withLock (true, .moveIn)).map (.run true) ++
    (withLock (false, .moveIn)).map (.run false)

theorem consistent_mutualReload :
    ∃ state,
      (maps Bool Bool Nat Nat).system.run
          (maps Bool Bool Nat Nat).system.initial mutualReload = some state ∧
        state.memory.map true = {} ∧
        (state.memory.map false).lookupDataEntry 1 = some 1 ∧
        Consistent mutualReload state :=
  ⟨_, rfl, rfl, rfl, consistent_of_run rfl⟩

end Interleaving
end Cache
end ModernCommon
