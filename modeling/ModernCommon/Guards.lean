import ModernCommon.Library.LockOrder

/-!
# The locks of the process

Each function is cut down to the guards that one run of it takes; the branch it
takes and the guards of the caller's own code, which it calls (`dump()`, the
constructor and the `reset()` of a pooled object, what `withLock()` is given, row
callbacks, the copying and the destruction of entries), are its arguments. A run
that ends in an exception gives its guards back early and is a shorter run.

If the caller's code takes, inside a guard, only locks that rank above it, then
no thread ever asks for a lock it holds, and all calls return.
-/

namespace ModernCommon
namespace Guards

open Library

/-- The mutexes of the process, those of the caller's own code included. -/
inductive Mutex
  | registry
  | pool (address : Nat)
  | poolInstance (address : Nat)
  | value (address : Nat)
  | defaultParamsMutex
  | instanceMutex
  | queryMutex (connection : Nat)
  | callers (address : Nat)
  deriving DecidableEq

/-- A guard: the mutex is held for a block. -/
def lockGuard (mutex : Mutex) (body : Locking Mutex) : Locking Mutex :=
  .holding mutex .exclusive body

/-- A guard that other readers may hold at the same time. -/
def sharedLock (mutex : Mutex) (body : Locking Mutex) : Locking Mutex :=
  .holding mutex .shared body

namespace DiagnosticDumpRegistry

/-- The objects are dumped under the registry's lock. -/
def dump (objects : List (Locking Mutex)) : Locking Mutex :=
  sharedLock .registry (.sequence objects)

/-- The same for the objects of one name. -/
def dumpNamed (objects : List (Locking Mutex)) : Locking Mutex :=
  sharedLock .registry (.sequence objects)

/-- The registry is changed under its exclusive lock. -/
def registerObject : Locking Mutex := lockGuard .registry .skip

/-- Searching for the object and erasing it are one guarded block. -/
def deregisterObject : Locking Mutex := lockGuard .registry .skip

/-- The size is read under the shared lock. -/
def getNumberOfRegisteredObjects : Locking Mutex :=
  sharedLock .registry .skip

end DiagnosticDumpRegistry

namespace ObjectPool

/-- It takes no lock of its own: its callers hold the pool's. -/
def growLocked (constructors : List (Locking Mutex)) : Locking Mutex :=
  .sequence constructors

/-- The first objects are constructed under the guard of the new pool. -/
def create
    (pool : Nat)
    (constructors : List (Locking Mutex)) : Locking Mutex :=
  lockGuard (.pool pool) (.sequence constructors)

/-- An empty pool grows under the guard. -/
def acquire
    (pool : Nat)
    (isEmpty : Bool)
    (constructors : List (Locking Mutex)) : Locking Mutex :=
  lockGuard (.pool pool) (if isEmpty then growLocked constructors else .skip)

/-- What the last copy of a handle runs. If the pool was kept by nothing else, the
objects in it are destroyed after the guard has gone. -/
def deleter
    (pool : Option Nat)
    (reset destructor : Locking Mutex)
    (remaining : List (Locking Mutex)) : Locking Mutex :=
  match pool with
  | some pool =>
      .seq reset (.seq (lockGuard (.pool pool) .skip) (.sequence remaining))
  | none => destructor

/-- The size is read under the guard. -/
def getPoolSize (pool : Nat) : Locking Mutex := lockGuard (.pool pool) .skip

/-- The language itself guards the initialisation of the local static. -/
def getInstance
    (pool : Nat)
    (isFirst : Bool)
    (constructors : List (Locking Mutex)) : Locking Mutex :=
  lockGuard (.poolInstance pool)
    (if isFirst then create pool constructors else .skip)

end ObjectPool

namespace Synchronized

/-- The caller's function runs under the guard. -/
def withLock (value : Nat) (fn : Locking Mutex) : Locking Mutex :=
  lockGuard (.value value) fn

end Synchronized

namespace SynchronizedMap

open Synchronized

/-- The entry is emplaced under the guard. -/
def addDataEntry (map : Nat) (emplaced : Locking Mutex) : Locking Mutex :=
  withLock map emplaced

/-- The entry found is copied under the guard. -/
def lookupDataEntry (map : Nat) (copied : Locking Mutex) : Locking Mutex :=
  withLock map copied

/-- The entry erased is destroyed under the guard. -/
def removeDataEntry (map : Nat) (erased : Locking Mutex) : Locking Mutex :=
  withLock map erased

/-- The size is read under the guard. -/
def size (map : Nat) : Locking Mutex := withLock map .skip

/-- The locks of the two maps are held one after the other, so that two maps can
be reloaded from each other. -/
def reload
    (map other : Nat)
    (copied replaced : Locking Mutex) : Locking Mutex :=
  .seq (withLock other copied) (withLock map replaced)

/-- The whole map is copied under the guard. -/
def snapshot (map : Nat) (copied : Locking Mutex) : Locking Mutex :=
  withLock map copied

end SynchronizedMap

namespace MySqlConnection

/-- The connection is opened, if it must be, and counted under the guard. -/
def getCurrentInstance : Locking Mutex := lockGuard .instanceMutex .skip

/-- Marking the instance and destroying it when idle are one guarded block. -/
def disconnect : Locking Mutex := lockGuard .instanceMutex .skip

/-- Counting down and destroying the last share are one guarded block. -/
def releaseInstance : Locking Mutex := lockGuard .instanceMutex .skip

end MySqlConnection

namespace DataFactory

open MySqlConnection

/-- The default parameters are set under their own guard. -/
def setDefaultConnectionParams : Locking Mutex :=
  lockGuard .defaultParamsMutex .skip

/-- The default parameters are cleared under their own guard. -/
def clearDefaultConnectionParams : Locking Mutex :=
  lockGuard .defaultParamsMutex .skip

/-- `DataFactory::DataFactory(std::string)`, which connects under the guard of the
default parameters. -/
def construct (haveDefaultParams : Bool) : Locking Mutex :=
  lockGuard .defaultParamsMutex
    (if haveDefaultParams then getCurrentInstance else .skip)

/-- A share of the connection is taken; the factory itself has no lock. -/
def connect : Locking Mutex := getCurrentInstance

/-- `DataFactory::~DataFactory()` -/
def destroy (isConnected : Bool) : Locking Mutex :=
  if isConnected then releaseInstance else .skip

/-- `operator=(DataFactory&&)` -/
def moveAssign (isSelf isConnected : Bool) : Locking Mutex :=
  if !isSelf && isConnected then releaseInstance else .skip

/-- Without a connection it throws before it takes the guard. -/
def executeModificationSql (connection : Option Nat) : Locking Mutex :=
  match connection with
  | none => .skip
  | some connection => lockGuard (.queryMutex connection) .skip

/-- As for a modification; the result set is stored under the guard. -/
def executeQuery (connection : Option Nat) : Locking Mutex :=
  match connection with
  | none => .skip
  | some connection => lockGuard (.queryMutex connection) .skip

/-- Rows are converted and handed to the callback when the guard has gone. -/
def runQuery
    (connection : Option Nat)
    (rows : List (Locking Mutex)) : Locking Mutex :=
  .seq (executeQuery connection) (.sequence rows)

end DataFactory

namespace CacheData

/-- Each row is converted and copied, and then emplaced in the fresh map, from
which the cache is reloaded. -/
def reload
    (connection : Option Nat)
    (map fresh : Nat)
    (rows : List (Locking Mutex × Locking Mutex))
    (copied replaced : Locking Mutex) : Locking Mutex :=
  .seq
    (DataFactory.runQuery connection
      (rows.map fun row => .seq row.1 (SynchronizedMap.addDataEntry fresh row.2)))
    (SynchronizedMap.reload map fresh copied replaced)

/-- The entry is copied under the lock of the map. -/
def lookup (map : Nat) (copied : Locking Mutex) : Locking Mutex :=
  SynchronizedMap.lookupDataEntry map copied

/-- The predicate runs on a snapshot. -/
def lookupAll
    (map : Nat)
    (copied : Locking Mutex)
    (predicates : List (Locking Mutex)) : Locking Mutex :=
  .seq (SynchronizedMap.snapshot map copied) (.sequence predicates)

end CacheData

/-! ## Calls -/

variable {Rank : Type*} [LT Rank]

/-- The caller's code under a guard takes only locks that rank above it. -/
def Above
    (rank : Mutex → Rank)
    (mutex : Mutex)
    (program : Locking Mutex) : Prop :=
  program.Ascending rank fun inner => rank mutex < rank inner

/-- The caller's code under no guard takes its locks in ascending order. -/
def Ordered (rank : Mutex → Rank) (program : Locking Mutex) : Prop :=
  program.Ascending rank fun _ => True

/-- The runs of the functions, in which the code of the caller keeps to the order
of the locks. -/
inductive Call (rank : Mutex → Rank) : Locking Mutex → Prop
  | dump objects :
      (∀ object ∈ objects, Above rank .registry object) →
      Call rank (DiagnosticDumpRegistry.dump objects)
  | dumpNamed objects :
      (∀ object ∈ objects, Above rank .registry object) →
      Call rank (DiagnosticDumpRegistry.dumpNamed objects)
  | registerObject : Call rank DiagnosticDumpRegistry.registerObject
  | deregisterObject : Call rank DiagnosticDumpRegistry.deregisterObject
  | getNumberOfRegisteredObjects :
      Call rank DiagnosticDumpRegistry.getNumberOfRegisteredObjects
  | create pool constructors :
      (∀ constructor ∈ constructors, Above rank (.pool pool) constructor) →
      Call rank (ObjectPool.create pool constructors)
  | acquire pool isEmpty constructors :
      (∀ constructor ∈ constructors, Above rank (.pool pool) constructor) →
      Call rank (ObjectPool.acquire pool isEmpty constructors)
  | deleter pool reset destructor remaining :
      Ordered rank reset →
      Ordered rank destructor →
      (∀ other ∈ remaining, Ordered rank other) →
      Call rank (ObjectPool.deleter pool reset destructor remaining)
  | getPoolSize pool : Call rank (ObjectPool.getPoolSize pool)
  | getInstance pool isFirst constructors :
      (∀ constructor ∈ constructors, Above rank (.pool pool) constructor) →
      Call rank (ObjectPool.getInstance pool isFirst constructors)
  | withLock value fn :
      Above rank (.value value) fn →
      Call rank (Synchronized.withLock value fn)
  | addDataEntry map emplaced :
      Above rank (.value map) emplaced →
      Call rank (SynchronizedMap.addDataEntry map emplaced)
  | lookupDataEntry map copied :
      Above rank (.value map) copied →
      Call rank (SynchronizedMap.lookupDataEntry map copied)
  | removeDataEntry map erased :
      Above rank (.value map) erased →
      Call rank (SynchronizedMap.removeDataEntry map erased)
  | size map : Call rank (SynchronizedMap.size map)
  | reloadMap map other copied replaced :
      Above rank (.value other) copied →
      Above rank (.value map) replaced →
      Call rank (SynchronizedMap.reload map other copied replaced)
  | snapshot map copied :
      Above rank (.value map) copied →
      Call rank (SynchronizedMap.snapshot map copied)
  | disconnect : Call rank MySqlConnection.disconnect
  | setDefaultConnectionParams :
      Call rank DataFactory.setDefaultConnectionParams
  | clearDefaultConnectionParams :
      Call rank DataFactory.clearDefaultConnectionParams
  | construct haveDefaultParams :
      Call rank (DataFactory.construct haveDefaultParams)
  | connect : Call rank DataFactory.connect
  | destroy isConnected : Call rank (DataFactory.destroy isConnected)
  | moveAssign isSelf isConnected :
      Call rank (DataFactory.moveAssign isSelf isConnected)
  | executeModificationSql connection :
      Call rank (DataFactory.executeModificationSql connection)
  | executeQuery connection : Call rank (DataFactory.executeQuery connection)
  | runQuery connection rows :
      (∀ row ∈ rows, Ordered rank row) →
      Call rank (DataFactory.runQuery connection rows)
  | reload connection map fresh rows copied replaced :
      (∀ row ∈ rows, Ordered rank row.1 ∧ Above rank (.value fresh) row.2) →
      Above rank (.value fresh) copied →
      Above rank (.value map) replaced →
      Call rank (CacheData.reload connection map fresh rows copied replaced)
  | lookup map copied :
      Above rank (.value map) copied →
      Call rank (CacheData.lookup map copied)
  | lookupAll map copied predicates :
      Above rank (.value map) copied →
      (∀ predicate ∈ predicates, Ordered rank predicate) →
      Call rank (CacheData.lookupAll map copied predicates)
  | callers address body :
      Above rank (.callers address) body →
      Call rank (lockGuard (.callers address) body)

theorem ordered_lockGuard
    {rank : Mutex → Rank}
    {mutex : Mutex}
    {body : Locking Mutex}
    (above : Above rank mutex body) :
    Ordered rank (lockGuard mutex body) :=
  ⟨trivial, above⟩

theorem above_if
    {rank : Mutex → Rank}
    {mutex : Mutex}
    {body : Locking Mutex}
    {condition : Prop}
    [Decidable condition]
    (above : Above rank mutex body) :
    Above rank mutex (if condition then body else .skip) := by
  split
  · exact above
  · trivial

theorem ordered_executeQuery
    {rank : Mutex → Rank}
    (connection : Option Nat) :
    Ordered rank (DataFactory.executeQuery connection) := by
  cases connection with
  | none => trivial
  | some connection => exact ordered_lockGuard trivial

theorem ordered_runQuery
    {rank : Mutex → Rank}
    {connection : Option Nat}
    {rows : List (Locking Mutex)}
    (each : ∀ row ∈ rows, Ordered rank row) :
    Ordered rank (DataFactory.runQuery connection rows) :=
  ⟨ordered_executeQuery connection, Locking.ascending_sequence each⟩

theorem ordered_release
    {rank : Mutex → Rank}
    (condition : Bool) :
    Ordered rank
      (if condition then MySqlConnection.releaseInstance else .skip) := by
  split
  · exact ordered_lockGuard trivial
  · trivial

/-- Two guards of the library stand inside others: a pool is created while its
instance is initialised, and a factory connects while the default parameters are
guarded. -/
theorem Call.ordered
    {rank : Mutex → Rank}
    (initialises : ∀ pool, rank (.poolInstance pool) < rank (.pool pool))
    (connects : rank .defaultParamsMutex < rank .instanceMutex)
    {program : Locking Mutex}
    (call : Call rank program) :
    Ordered rank program := by
  cases call with
  | dump objects each | dumpNamed objects each =>
      exact ⟨trivial, Locking.ascending_sequence each⟩
  | registerObject | deregisterObject | getNumberOfRegisteredObjects =>
      exact ⟨trivial, trivial⟩
  | create pool constructors each =>
      exact ordered_lockGuard (Locking.ascending_sequence each)
  | acquire pool isEmpty constructors each =>
      exact ordered_lockGuard (above_if (Locking.ascending_sequence each))
  | deleter pool reset destructor remaining resets destroys each =>
      cases pool with
      | some pool =>
          exact ⟨resets, ordered_lockGuard trivial,
            Locking.ascending_sequence each⟩
      | none => exact destroys
  | getInstance pool isFirst constructors each =>
      exact ordered_lockGuard
        (above_if ⟨initialises pool, Locking.ascending_sequence each⟩)
  | withLock value fn above => exact ordered_lockGuard above
  | addDataEntry map body above | lookupDataEntry map body above
  | removeDataEntry map body above | snapshot map body above
  | lookup map body above =>
      exact ordered_lockGuard above
  | reloadMap map other copied replaced copies replaces =>
      exact ⟨ordered_lockGuard copies, ordered_lockGuard replaces⟩
  | construct haveDefaultParams =>
      exact ordered_lockGuard (above_if ⟨connects, trivial⟩)
  | destroy isConnected => exact ordered_release isConnected
  | moveAssign isSelf isConnected => exact ordered_release _
  | executeModificationSql connection | executeQuery connection =>
      exact ordered_executeQuery connection
  | runQuery connection rows each => exact ordered_runQuery each
  | reload connection map fresh rows copied replaced each copies replaces =>
      refine ⟨ordered_runQuery fun row present => ?_,
        ordered_lockGuard copies, ordered_lockGuard replaces⟩
      obtain ⟨fetched, isFetched, rfl⟩ := List.mem_map.mp present
      exact ⟨(each fetched isFetched).1,
        ordered_lockGuard (each fetched isFetched).2⟩
  | lookupAll map copied predicates copies each =>
      exact ⟨ordered_lockGuard copies, Locking.ascending_sequence each⟩
  | callers address body above => exact ordered_lockGuard above
  | _ => exact ordered_lockGuard trivial

/-! ## The process -/

/-- Every thread makes its calls one after the other. -/
def process
    {ThreadId : Type*}
    [Fintype ThreadId]
    [DecidableEq ThreadId]
    (policy : Locks.Policy ThreadId Mutex)
    (calls : ThreadId → List (Locking Mutex)) :
    System (Locks.State ThreadId Mutex) ThreadId :=
  Locks.system policy fun thread => .sequence (calls thread)

/-- Whatever the threads call and however they are scheduled, no thread asks for a
mutex that it holds, and the calls of all of them return. -/
theorem calls_return
    {ThreadId Rank : Type*}
    [Fintype ThreadId]
    [DecidableEq ThreadId]
    [LinearOrder Rank]
    {rank : Mutex → Rank}
    (initialises : ∀ pool, rank (.poolInstance pool) < rank (.pool pool))
    (connects : rank .defaultParamsMutex < rank .instanceMutex)
    (policy : Locks.Policy ThreadId Mutex)
    {calls : ThreadId → List (Locking Mutex)}
    (each : ∀ thread, ∀ call ∈ calls thread, Call rank call) :
    (process policy calls).Ends (process policy calls).initial ∧
      ∀ schedule state,
        (process policy calls).run (process policy calls).initial schedule =
          some state →
        (∀ thread mutex mode rest,
          state.todo thread = .acquire mutex mode :: rest →
          ∀ own ∈ state.held thread, own.1 ≠ mutex) ∧
        ((process policy calls).Stuck state →
          ∀ thread, state.todo thread = [] ∧ state.held thread = []) := by
  have ascending : ∀ thread,
      (Locking.sequence (calls thread)).Ascending rank fun _ => True :=
    fun thread => Locking.ascending_sequence fun call present =>
      (each thread call present).ordered initialises connects
  obtain ⟨ends, finishes⟩ := Locks.completes policy ascending
  refine ⟨ends, fun schedule state ran => ⟨?_, finishes schedule state ran⟩⟩
  intro thread mutex mode rest isNext
  exact Locks.never_relocks ascending ran isNext

/-- An order of the mutexes: objects may be dumped, values locked and objects
constructed by code that uses what comes later. -/
def Mutex.rank : Mutex → Nat
  | .callers _ => 0
  | .registry => 1
  | .value _ => 2
  | .poolInstance _ => 3
  | .pool _ => 4
  | .defaultParamsMutex => 5
  | .instanceMutex => 6
  | .queryMutex _ => 7

/-- One thread dumps an object that counts what a cache and a pool hold; two
caches are reloaded from each other. -/
def crossReloads (thread : Bool) : List (Locking Mutex) :=
  if thread then
    [DiagnosticDumpRegistry.dump
        [.seq (SynchronizedMap.size 0) (ObjectPool.getPoolSize 0)],
      DataFactory.construct true,
      SynchronizedMap.reload 0 1 .skip .skip]
  else
    [DiagnosticDumpRegistry.registerObject,
      SynchronizedMap.reload 1 0 .skip .skip,
      ObjectPool.getInstance 0 true []]

theorem calls_return_crossReloads :
    (process (.writersFirst Bool Mutex) crossReloads).Ends
        (process (.writersFirst Bool Mutex) crossReloads).initial ∧
      ∀ schedule state,
        (process (.writersFirst Bool Mutex) crossReloads).run
          (process (.writersFirst Bool Mutex) crossReloads).initial schedule =
            some state →
        (process (.writersFirst Bool Mutex) crossReloads).Stuck state →
        ∀ thread, state.todo thread = [] ∧ state.held thread = [] := by
  have each : ∀ thread, ∀ call ∈ crossReloads thread, Call Mutex.rank call := by
    intro thread call present
    cases thread with
    | true =>
        simp only [crossReloads, if_true, List.mem_cons, List.not_mem_nil,
          or_false] at present
        rcases present with rfl | rfl | rfl
        · refine .dump _ fun object isObject => ?_
          rw [List.mem_singleton.mp isObject]
          exact ⟨⟨by decide, trivial⟩, by decide, trivial⟩
        · exact .construct true
        · exact .reloadMap 0 1 _ _ trivial trivial
    | false =>
        simp only [crossReloads, Bool.false_eq_true, if_false, List.mem_cons,
          List.not_mem_nil, or_false] at present
        rcases present with rfl | rfl | rfl
        · exact .registerObject
        · exact .reloadMap 1 0 _ _ trivial trivial
        · exact .getInstance 0 true [] nofun
  obtain ⟨ends, returns⟩ :=
    calls_return (fun _ => Nat.lt_succ_self 3) (by decide)
      (.writersFirst Bool Mutex) each
  exact ⟨ends, fun schedule state ran => (returns schedule state ran).2⟩

end Guards
end ModernCommon
