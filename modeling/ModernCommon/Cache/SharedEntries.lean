import Mathlib.Data.List.Perm.Basic
import ModernCommon.Cache.CacheData
import ModernCommon.Library.CountedHeap
import ModernCommon.Library.System

/-!
# Cached entries and those who hold them

The maps of `CacheData` hold shared pointers to entries, and so do its callers,
for as long as they like. A reload fills a map of its own, copies that and moves
the copy in place; the pointers of the old map, of the copy's original and of a
reload that failed are dropped, each entry with the last pointer to it.
-/

namespace ModernCommon
namespace Cache
namespace SharedEntries

open Data Library

variable {Key EntryT Constraint : Type} [LinearOrder Key]

/-- The pointers a map holds. -/
def pointers (map : MapType Key Nat) : List Nat :=
  map.toList.map Prod.snd

/-- How far a call is, with its local variables. The rows delivered to a reload
are noted beside them. -/
inductive Phase (Key EntryT Constraint : Type) [LinearOrder Key]
  | filling (rows : List EntryT) (fresh : SynchronizedMap Key Nat)
  | copied
      (rows : List EntryT)
      (fresh : SynchronizedMap Key Nat)
      (snapshot : MapType Key Nat)
  | swapped (fresh : SynchronizedMap Key Nat)
  /-- `lookupAll`: the copy of the map, what of it is still to visit, and the
  results so far. -/
  | listing
      (constraint : Option Constraint)
      (snapshot rest : List (Key × Nat))
      (results : List Nat)
  | returned

/-- The pointers the local variables of a call hold. -/
def Phase.pointers : Phase Key EntryT Constraint → List Nat
  | .filling _ fresh => SharedEntries.pointers fresh.map.value
  | .copied _ fresh snapshot =>
      SharedEntries.pointers snapshot ++ SharedEntries.pointers fresh.map.value
  | .swapped fresh => SharedEntries.pointers fresh.map.value
  | .listing _ snapshot _ results => results ++ snapshot.map Prod.snd
  | .returned => []

/-- A cache with its entries, the calls that were made, and the pointers its
callers hold. The rows of the reload that swapped last are noted beside them. -/
structure State (Key EntryT Constraint : Type) [LinearOrder Key] where
  heap : CountedHeap EntryT := {}
  map : SynchronizedMap Key Nat := {}
  predicate : Constraint → EntryT → Bool
  calls : List (Phase Key EntryT Constraint) := []
  handles : List Nat := []
  rows : List EntryT := []

/-- A step of a call, which is named by its number, or of a caller. -/
inductive Event (Key EntryT Constraint : Type)
  | reload
  /-- The query of a reload delivers a row. -/
  | row (call : Nat) (entry : EntryT)
  /-- The query throws, and so does the reload. -/
  | fail (call : Nat)
  | copy (call : Nat)
  | swap (call : Nat)
  | finish (call : Nat)
  | lookup (key : Key)
  /-- `lookupAll()`, or `lookupAll(constraint)`. -/
  | lookupAll (constraint : Option Constraint)
  | visit (call : Nat)
  | answer (call : Nat)
  | copyHandle (handle : Nat)
  | dropHandle (handle : Nat)

/-- A call goes on to its next phase. -/
def State.enter
    (state : State Key EntryT Constraint)
    (call : Nat)
    (phase : Phase Key EntryT Constraint) : State Key EntryT Constraint :=
  { state with calls := state.calls.set call phase }

variable [Entry EntryT Key]

/-- `fresh.addDataEntry(e.getKey(), std::make_shared<EntryT>(e))`: what is not
added is dropped. -/
def addRow
    (heap : CountedHeap EntryT)
    (fresh : SynchronizedMap Key Nat)
    (entry : EntryT) : CountedHeap EntryT × SynchronizedMap Key Nat :=
  let added := fresh.addDataEntry (getKey entry) heap.next
  let made := heap.make entry
  (if added.1 then made else made.drop heap.next, added.2)

/-- One step, if the call it belongs to has come to it. -/
def step (state : State Key EntryT Constraint) :
    Event Key EntryT Constraint → Option (State Key EntryT Constraint)
  | .reload => some { state with calls := state.calls ++ [.filling [] {}] }
  | .row call entry =>
      match state.calls[call]? with
      | some (.filling rows fresh) =>
          let (heap, fresh) := addRow state.heap fresh entry
          some { state.enter call (.filling (rows ++ [entry]) fresh) with heap }
      | _ => none
  | .fail call =>
      match state.calls[call]? with
      | some (.filling _ fresh) =>
          some { state.enter call .returned with
            heap := state.heap.dropAll (pointers fresh.map.value) }
      | _ => none
  | .copy call =>
      match state.calls[call]? with
      | some (.filling rows fresh) =>
          some { state.enter call (.copied rows fresh fresh.copyOut) with
            heap := state.heap.copyAll (pointers fresh.copyOut) }
      | _ => none
  | .swap call =>
      match state.calls[call]? with
      | some (.copied rows fresh snapshot) =>
          some { state.enter call (.swapped fresh) with
            heap := state.heap.dropAll (pointers state.map.map.value)
            map := state.map.moveIn snapshot
            rows }
      | _ => none
  | .finish call =>
      match state.calls[call]? with
      | some (.swapped fresh) =>
          some { state.enter call .returned with
            heap := state.heap.dropAll (pointers fresh.map.value) }
      | _ => none
  | .lookup key =>
      match state.map.lookupDataEntry key with
      | some entry =>
          some { state with
            heap := state.heap.copy entry
            handles := entry :: state.handles }
      | none => some state
  | .lookupAll constraint =>
      some { state with
        heap := state.heap.copyAll (pointers state.map.map.value)
        calls := state.calls ++
          [.listing constraint state.map.snapshot state.map.snapshot []] }
  | .visit call =>
      match state.calls[call]? with
      | some (.listing constraint snapshot ((_, entry) :: rest) results) =>
          match state.heap.value entry with
          | none => some { state with
              heap := { state.heap with misused := true } }
          | some value =>
              if constraint.all fun constraint =>
                  state.predicate constraint value then
                some { state.enter call
                    (.listing constraint snapshot rest (results ++ [entry])) with
                  heap := state.heap.copy entry }
              else
                some (state.enter call
                  (.listing constraint snapshot rest results))
      | _ => none
  | .answer call =>
      match state.calls[call]? with
      | some (.listing _ snapshot [] results) =>
          some { state.enter call .returned with
            heap := state.heap.dropAll (snapshot.map Prod.snd)
            handles := results ++ state.handles }
      | _ => none
  | .copyHandle handle =>
      if handle ∈ state.handles then
        some { state with
          heap := state.heap.copy handle
          handles := handle :: state.handles }
      else none
  | .dropHandle handle =>
      if handle ∈ state.handles then
        some { state with
          heap := state.heap.drop handle
          handles := state.handles.erase handle }
      else none

/-- A cache, empty at first, and its callers. -/
def cache (predicate : Constraint → EntryT → Bool) :
    System (State Key EntryT Constraint) (Event Key EntryT Constraint) where
  initial := { predicate }
  step := step

/-! ## Pointers in maps -/

section Maps

omit [Entry EntryT Key]

theorem mem_pointers
    {map : MapType Key Nat}
    {key : Key}
    {entry : Nat}
    (found : map[key]? = some entry) :
    entry ∈ pointers map :=
  List.mem_map.mpr ⟨(key, entry),
    Std.TreeMap.mem_toList_iff_getElem?_eq_some.mpr found, rfl⟩

/-- A new key brings its pointer along. -/
theorem pointers_insertIfNew_of_absent
    {map : MapType Key Nat}
    {key : Key}
    (absent : map[key]? = none)
    (entry : Nat) :
    (pointers (map.insertIfNew key entry)).Perm (entry :: pointers map) := by
  have notMem : key ∉ map := by
    rw [Std.TreeMap.mem_iff_isSome_getElem?, absent]
    simp
  have same : (map.insertIfNew key entry).Equiv (map.insert key entry) := by
    apply Std.TreeMap.Equiv.of_forall_constGet?_eq
    intro other
    rw [Std.TreeMap.getElem?_insertIfNew, Std.TreeMap.getElem?_insert]
    simp [notMem]
  have inserted := (Std.TreeMap.equiv_iff_toList_perm.mp same).trans
    Std.TreeMap.toList_insert_perm
  have others : map.toList.filter (fun keyed => ¬(key == keyed.1) = true) =
      map.toList := by
    rw [List.filter_eq_self]
    intro keyed present
    have found := Std.TreeMap.mem_toList_iff_getElem?_eq_some.mp present
    have differs : key ≠ keyed.1 := by
      rintro rfl
      rw [absent] at found
      cases found
    simpa using differs
  rw [others] at inserted
  exact inserted.map Prod.snd

/-- A key that is there already keeps its pointer. -/
theorem insertIfNew_of_present
    {map : MapType Key Nat}
    {key : Key}
    {old : Nat}
    (present : map[key]? = some old)
    (entry : Nat) :
    (map.insertIfNew key entry).Equiv map := by
  apply Std.TreeMap.Equiv.of_forall_constGet?_eq
  intro other
  have mem : key ∈ map := by
    rw [Std.TreeMap.mem_iff_isSome_getElem?, present]
    rfl
  rw [Std.TreeMap.getElem?_insertIfNew]
  simp [mem]

end Maps

end SharedEntries
end Cache
end ModernCommon
