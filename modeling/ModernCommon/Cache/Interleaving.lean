import ModernCommon.Cache.Synchronized
import ModernCommon.Library.CriticalSections

/-!
# Threads at synchronized maps

Any number of threads call the operations of any number of `SynchronizedMap`s.
Every operation is one critical section under its map's lock, but for `reload`,
which is two: one copies the other map, one moves the copy into this one, and
no lock is held in between.
-/

namespace ModernCommon
namespace Cache
namespace Interleaving

open Library CriticalSections

variable {ThreadId MapId Key EntryT : Type} [LinearOrder Key]

/-- What the body of a critical section does to the map it locks. -/
inductive Access (Key EntryT : Type)
  | addDataEntry (key : Key) (data : EntryT)
  | removeDataEntry (key : Key)
  | lookupDataEntry (key : Key)
  | size
  | snapshot
  | copyOut
  | moveIn
  deriving DecidableEq

/-- A call of a member of `SynchronizedMap`, with the map it is called on. -/
inductive Operation (MapId Key EntryT : Type)
  | addDataEntry (target : MapId) (key : Key) (data : EntryT)
  | removeDataEntry (target : MapId) (key : Key)
  | lookupDataEntry (target : MapId) (key : Key)
  | size (target : MapId)
  | snapshot (target : MapId)
  | reload (target other : MapId)
  deriving DecidableEq

/-- The critical sections of each member. -/
def Operation.program :
    Operation MapId Key EntryT → List (MapId × Access Key EntryT)
  | .addDataEntry target key data => [(target, .addDataEntry key data)]
  | .removeDataEntry target key => [(target, .removeDataEntry key)]
  | .lookupDataEntry target key => [(target, .lookupDataEntry key)]
  | .size target => [(target, .size)]
  | .snapshot target => [(target, .snapshot)]
  | .reload target other => [(other, .copyOut), (target, .moveIn)]

/-- What a call returns. -/
inductive Result (Key EntryT : Type)
  | inserted (absent : Bool)
  | found (entry : Option EntryT)
  | size (count : Nat)
  | entries (pairs : List (Key × EntryT))
  deriving DecidableEq

/-- The map after an access by a thread with a given `snapshot`. -/
def Access.applied
    (map : SynchronizedMap Key EntryT)
    (snapshot : MapType Key EntryT) :
    Access Key EntryT → SynchronizedMap Key EntryT
  | .addDataEntry key data => (map.addDataEntry key data).2
  | .removeDataEntry key => map.removeDataEntry key
  | .moveIn => map.moveIn snapshot
  | _ => map

/-- What an access reads from the map for the caller. -/
def Access.answer (map : SynchronizedMap Key EntryT) :
    Access Key EntryT → Option (Result Key EntryT)
  | .addDataEntry key data => some (.inserted (map.addDataEntry key data).1)
  | .lookupDataEntry key => some (.found (map.lookupDataEntry key))
  | .size => some (.size map.size)
  | .snapshot => some (.entries map.snapshot)
  | .removeDataEntry _ | .copyOut | .moveIn => none

/-- The maps, and in each thread the local variable of `reload` and what its
call returns. -/
structure Memory (ThreadId MapId Key EntryT : Type) [LinearOrder Key] where
  map : MapId → SynchronizedMap Key EntryT := fun _ => {}
  snapshot : ThreadId → MapType Key EntryT := fun _ => ∅
  result : ThreadId → Option (Result Key EntryT) := fun _ => none

variable [DecidableEq ThreadId] [DecidableEq MapId]

/-- A call that has yet to answer. -/
def Memory.enter
    (thread : ThreadId)
    (memory : Memory ThreadId MapId Key EntryT) :
    Memory ThreadId MapId Key EntryT :=
  { memory with
    snapshot := Function.update memory.snapshot thread ∅
    result := Function.update memory.result thread none }

/-- The body of a critical section. -/
def Memory.perform
    (thread : ThreadId)
    (target : MapId)
    (access : Access Key EntryT)
    (memory : Memory ThreadId MapId Key EntryT) :
    Memory ThreadId MapId Key EntryT where
  map := Function.update memory.map target
    (access.applied (memory.map target) (memory.snapshot thread))
  snapshot :=
    match access with
    | .copyOut =>
        Function.update memory.snapshot thread (memory.map target).copyOut
    | _ => memory.snapshot
  result :=
    match access.answer (memory.map target) with
    | some result => Function.update memory.result thread (some result)
    | none => memory.result

/-- Threads at synchronized maps that are empty at first. -/
def maps (ThreadId MapId Key EntryT : Type)
    [DecidableEq ThreadId] [DecidableEq MapId] [LinearOrder Key] :
    CriticalSections (Memory ThreadId MapId Key EntryT) ThreadId MapId
      (Access Key EntryT) (Operation MapId Key EntryT) where
  initial := {}
  program := Operation.program
  enter := Memory.enter
  perform := Memory.perform

/-- A state of the maps and their callers. -/
abbrev MapsState (ThreadId MapId Key EntryT : Type) [LinearOrder Key] :=
  State (Memory ThreadId MapId Key EntryT) ThreadId MapId (Access Key EntryT)

/-- A call of a member or an instruction of one. -/
abbrev MapsEvent (ThreadId MapId Key EntryT : Type) :=
  Event ThreadId MapId (Access Key EntryT) (Operation MapId Key EntryT)

/-! ## One thread alone -/

/-- The maps after a whole call. -/
def Operation.applied
    (map : MapId → SynchronizedMap Key EntryT) :
    Operation MapId Key EntryT → MapId → SynchronizedMap Key EntryT
  | .addDataEntry target key data =>
      Function.update map target ((map target).addDataEntry key data).2
  | .removeDataEntry target key =>
      Function.update map target ((map target).removeDataEntry key)
  | .reload target other =>
      Function.update map target ((map target).reload (map other))
  | _ => map

/-- What a whole call returns. -/
def Operation.answer
    (map : MapId → SynchronizedMap Key EntryT) :
    Operation MapId Key EntryT → Option (Result Key EntryT)
  | .addDataEntry target key data =>
      some (.inserted ((map target).addDataEntry key data).1)
  | .lookupDataEntry target key =>
      some (.found ((map target).lookupDataEntry key))
  | .size target => some (.size (map target).size)
  | .snapshot target => some (.entries (map target).snapshot)
  | .removeDataEntry _ _ | .reload _ _ => none

variable [DecidableEq EntryT]

/-- Undisturbed, the sections of a call are the member of `SynchronizedMap`. -/
theorem run_alone
    {state : MapsState ThreadId MapId Key EntryT}
    {thread : ThreadId}
    (idle : state.todo thread = [])
    (free : ∀ map, state.holder map = none)
    (operation : Operation MapId Key EntryT) :
    ∃ final,
      (maps ThreadId MapId Key EntryT).system.run state
          (.call thread operation ::
            (operation.program.flatMap withLock).map (.run thread)) =
          some final ∧
        final.memory.map = operation.applied state.memory.map ∧
        final.memory.result thread = operation.answer state.memory.map := by
  have released : ∀ map,
      Function.update state.holder map none = state.holder := by
    intro map
    rw [Function.update_eq_self_iff, free map]
  cases operation <;>
    simp [System.run, system, step, execute, idle, free, released, maps,
      withLock, Operation.program, Memory.enter, Memory.perform,
      Access.applied, Access.answer, Operation.applied, Operation.answer]

end Interleaving
end Cache
end ModernCommon
