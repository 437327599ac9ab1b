import Mathlib.Order.Compare
import Mathlib.Order.Lattice
import Std.Data.TreeMap.Lemmas

/-!
# Synchronized values and maps

`Synchronized<T>` runs every access as one critical section under its lock.
`SynchronizedMap` is a map inside; each of its operations is one critical
section, but for `reload`, which copies the other map in one section and moves
the copy in place in another.
-/

namespace ModernCommon
namespace Cache

/-- A value that is only reached under its mutex. -/
structure Synchronized (T : Type) where
  value : T

/-- `withLock`: run a function on the value, which it may change. -/
def Synchronized.withLock (synchronized : Synchronized T) (fn : T → α × T) :
    α × Synchronized T :=
  let (result, value) := fn synchronized.value
  (result, ⟨value⟩)

/-- `std::map`, ordered by its keys. -/
abbrev MapType (Key EntryT : Type) [LinearOrder Key] :=
  Std.TreeMap Key EntryT compare

/-- A map that is only reached under its mutex. -/
structure SynchronizedMap (Key EntryT : Type) [LinearOrder Key] where
  map : Synchronized (MapType Key EntryT) := ⟨∅⟩

namespace SynchronizedMap

variable {Key EntryT : Type} [LinearOrder Key]

/-- `addDataEntry`: insert unless the key is present; whether it was absent. -/
def addDataEntry
    (target : SynchronizedMap Key EntryT)
    (key : Key)
    (data : EntryT) : Bool × SynchronizedMap Key EntryT :=
  let (inserted, map) := target.map.withLock fun m =>
    let (present, m) := m.containsThenInsertIfNew key data
    (!present, m)
  (inserted, ⟨map⟩)

/-- `lookupDataEntry`: a copy of the entry of a key, if present. -/
def lookupDataEntry
    (source : SynchronizedMap Key EntryT)
    (key : Key) : Option EntryT :=
  (source.map.withLock fun m => (m[key]?, m)).1

/-- `removeDataEntry`: erase the entry of a key, if there is one. -/
def removeDataEntry
    (target : SynchronizedMap Key EntryT)
    (key : Key) : SynchronizedMap Key EntryT :=
  ⟨(target.map.withLock fun m => ((), m.erase key)).2⟩

/-- `size`: the number of entries. -/
def size (source : SynchronizedMap Key EntryT) : Nat :=
  (source.map.withLock fun m => (m.size, m)).1

/-- `reload`: replace the contents by a snapshot of the other map's. -/
def reload
    (target other : SynchronizedMap Key EntryT) : SynchronizedMap Key EntryT :=
  let snapshot := (other.map.withLock fun m => (m, m)).1
  ⟨(target.map.withLock fun _ => ((), snapshot)).2⟩

/-- The first critical section of `reload`: copy the other map. -/
def copyOut (other : SynchronizedMap Key EntryT) : MapType Key EntryT :=
  (other.map.withLock fun m => (m, m)).1

/-- The second critical section of `reload`: move the copy in place. -/
def moveIn
    (target : SynchronizedMap Key EntryT)
    (snapshot : MapType Key EntryT) : SynchronizedMap Key EntryT :=
  ⟨(target.map.withLock fun _ => ((), snapshot)).2⟩

/-- `snapshot`: every key with its data, in ascending order of the keys. -/
def snapshot (source : SynchronizedMap Key EntryT) : List (Key × EntryT) :=
  (source.map.withLock fun m => (m.toList, m)).1

/-! ## The map inside -/

@[simp] theorem addDataEntry_value
    (target : SynchronizedMap Key EntryT)
    (key : Key)
    (data : EntryT) :
    (target.addDataEntry key data).2.map.value =
      target.map.value.insertIfNew key data := by
  simp [addDataEntry, Synchronized.withLock]

@[simp] theorem lookupDataEntry_eq
    (source : SynchronizedMap Key EntryT)
    (key : Key) :
    source.lookupDataEntry key = source.map.value[key]? := rfl

@[simp] theorem size_eq (source : SynchronizedMap Key EntryT) :
    source.size = source.map.value.size := rfl

@[simp] theorem snapshot_eq (source : SynchronizedMap Key EntryT) :
    source.snapshot = source.map.value.toList := rfl

@[simp] theorem removeDataEntry_value
    (target : SynchronizedMap Key EntryT)
    (key : Key) :
    (target.removeDataEntry key).map.value = target.map.value.erase key := rfl

@[simp] theorem copyOut_eq (other : SynchronizedMap Key EntryT) :
    other.copyOut = other.map.value := rfl

/-- The copy is all that is left. -/
@[simp] theorem moveIn_eq
    (target : SynchronizedMap Key EntryT)
    (snapshot : MapType Key EntryT) :
    target.moveIn snapshot = ⟨⟨snapshot⟩⟩ := rfl

/-- Nothing of the previous contents is left. -/
@[simp] theorem reload_eq (target other : SynchronizedMap Key EntryT) :
    target.reload other = other := rfl

end SynchronizedMap
end Cache
end ModernCommon
