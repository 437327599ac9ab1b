import Mathlib.Data.List.Dedup
import Mathlib.Data.Nat.Basic
import ModernCommon.Cache.Synchronized
import ModernCommon.Data.Table

/-!
# A cache refilled from a table

`CacheData` keeps a snapshot of a table's entries by key and answers lookups
from it. A reload reads the table once, keeping the first entry of each key,
and puts the fresh map in place of the old one.
-/

namespace ModernCommon
namespace Cache

open Data

/-- A cache with its predicate, which says what belongs under a constraint. -/
structure CacheData (Key EntryT Constraint : Type) [LinearOrder Key] where
  map : SynchronizedMap Key EntryT := {}
  predicate : Constraint → EntryT → Bool := fun _ _ => true

namespace CacheData

variable {Key EntryT Constraint ε W τ : Type} [LinearOrder Key]
variable [Entry EntryT Key]

/-- `reload`: refill the cache, a variable in scope, from the table. -/
def reload (table : Table ε W Key EntryT) :
    Program ε W (τ × CacheData Key EntryT Constraint) Unit := do
  let fresh ← withLocal {} (table.query fun entry => do
    modifyLocal fun fresh : SynchronizedMap Key EntryT =>
      (fresh.addDataEntry (getKey entry) entry).2
    return true)
  modifyLocal fun cache => { cache with map := cache.map.reload fresh }

/-- `lookup`: the cached entry of a key; null when there is none. -/
def lookup (cache : CacheData Key EntryT Constraint) (key : Key) :
    Option EntryT :=
  cache.map.lookupDataEntry key

/-- `lookupAll` under a constraint: the cached entries it admits. -/
def lookupAllOf
    (cache : CacheData Key EntryT Constraint)
    (constraint : Constraint) : List EntryT := Id.run do
  let mut results := []
  for (_, entry) in cache.map.snapshot do
    if cache.predicate constraint entry then
      results := results ++ [entry]
  return results

/-- `lookupAll`: every cached entry. -/
def lookupAll (cache : CacheData Key EntryT Constraint) : List EntryT := Id.run do
  let mut results := []
  for (_, entry) in cache.map.snapshot do
    results := results ++ [entry]
  return results

/-- The number of entries in the snapshot. -/
def size (cache : CacheData Key EntryT Constraint) : Nat :=
  cache.map.size

/-! ## Reading the snapshot -/

omit [Entry EntryT Key] in
theorem lookupAll_eq (cache : CacheData Key EntryT Constraint) :
    cache.lookupAll = cache.map.map.value.toList.map Prod.snd := by
  have loop : ∀ entries : List (Key × EntryT),
      (entries.map fun keyed => [keyed.2]).flatten = entries.map Prod.snd := by
    intro entries
    induction entries with
    | nil => rfl
    | cons keyed entries inductionHypothesis => simp [inductionHypothesis]
  simp [lookupAll, loop]

omit [Entry EntryT Key] in
theorem lookupAllOf_eq
    (cache : CacheData Key EntryT Constraint)
    (constraint : Constraint) :
    cache.lookupAllOf constraint =
      cache.lookupAll.filter (cache.predicate constraint) := by
  have loop : ∀ (entries : List (Key × EntryT)) (results : List EntryT),
      (forIn entries results fun keyed results =>
        if cache.predicate constraint keyed.2 then
          (pure (.yield (results ++ [keyed.2])) : Id (ForInStep (List EntryT)))
        else pure (.yield results)).run =
      results ++ (entries.map Prod.snd).filter (cache.predicate constraint) := by
    intro entries
    induction entries with
    | nil => simp
    | cons keyed entries inductionHypothesis =>
        intro results
        by_cases admitted : cache.predicate constraint keyed.2 <;>
          simp [admitted, inductionHypothesis]
  simp [lookupAllOf, lookupAll_eq, loop]

/-! ## Filling the map -/

/-- Add rows one after another. -/
def fill
    (target : SynchronizedMap Key EntryT)
    (rows : List EntryT) : SynchronizedMap Key EntryT :=
  rows.foldl (fun fresh entry => (fresh.addDataEntry (getKey entry) entry).2)
    target

/-- A key keeps the entry it has, or else gets the first row that has it. -/
theorem fill_getElem?
    (target : SynchronizedMap Key EntryT)
    (rows : List EntryT)
    (key : Key) :
    (fill target rows).map.value[key]? =
      target.map.value[key]?.or (rows.find? fun row => getKey row = key) := by
  induction rows generalizing target with
  | nil => simp [fill]
  | cons row rows inductionHypothesis =>
      have rest := inductionHypothesis
        (target.addDataEntry (getKey row) row).2
      rw [fill, List.foldl_cons]
      rw [fill] at rest
      rw [rest, SynchronizedMap.addDataEntry_value,
        Std.TreeMap.getElem?_insertIfNew]
      simp only [compare_eq_iff_eq, Std.TreeMap.mem_iff_isSome_getElem?]
      by_cases sameKey : getKey row = key
      · subst sameKey
        cases target.map.value[getKey row]? <;> simp
      · simp [sameKey]

/-- The entries of the filled map lie under their own keys. -/
theorem mem_fill_toList
    (rows : List EntryT)
    (keyed : Key × EntryT) :
    keyed ∈ (fill ({} : SynchronizedMap Key EntryT) rows).map.value.toList ↔
      rows.find? (fun row => getKey row = keyed.1) = some keyed.2 := by
  rw [Std.TreeMap.mem_toList_iff_getElem?_eq_some, fill_getElem?]
  simp

theorem fill_toList_keys (rows : List EntryT) :
    ((fill ({} : SynchronizedMap Key EntryT) rows).map.value.toList.map
        Prod.snd).map getKey =
      (fill ({} : SynchronizedMap Key EntryT) rows).map.value.keys := by
  rw [← Std.TreeMap.map_fst_toList_eq_keys, List.map_map]
  apply List.map_congr_left
  intro keyed present
  have found := List.find?_some ((mem_fill_toList rows keyed).mp present)
  simpa using found

/-- A table with unique keys is cached whole. -/
theorem fill_values_perm
    {rows : List EntryT}
    (unique : (rows.map (getKey : EntryT → Key)).Nodup) :
    ((fill ({} : SynchronizedMap Key EntryT) rows).map.value.toList.map
      Prod.snd).Perm rows := by
  have distinct : ((fill ({} : SynchronizedMap Key EntryT)
      rows).map.value.toList.map Prod.snd).Nodup := by
    apply List.Nodup.of_map getKey
    rw [fill_toList_keys]
    exact Std.TreeMap.nodup_keys
  apply (List.perm_ext_iff_of_nodup distinct (unique.of_map getKey)).mpr
  intro entry
  simp only [List.mem_map, mem_fill_toList]
  constructor
  · rintro ⟨keyed, found, rfl⟩
    exact List.mem_of_find?_eq_some found
  · intro present
    refine ⟨(getKey entry, entry), ?_, rfl⟩
    cases found : rows.find? fun row => getKey row = getKey entry with
    | none =>
        have other := List.find?_eq_none.mp found entry present
        simp at other
    | some row =>
        have sameKey : (getKey row : Key) = getKey entry := by
          simpa using List.find?_some found
        rw [List.inj_on_of_nodup_map unique (List.mem_of_find?_eq_some found)
          present sameKey]

theorem mem_fill_keys
    (rows : List EntryT)
    (key : Key) :
    key ∈ (fill ({} : SynchronizedMap Key EntryT) rows).map.value.keys ↔
      key ∈ rows.map getKey := by
  rw [Std.TreeMap.mem_keys, Std.TreeMap.mem_iff_isSome_getElem?, fill_getElem?]
  simp

/-- Ascending keys, each of them once. -/
theorem fill_keys_pairwise (rows : List EntryT) :
    (fill ({} : SynchronizedMap Key EntryT) rows).map.value.keys.Pairwise
      (· < ·) := by
  refine Std.TreeMap.ordered_keys.imp ?_
  intro earlier later ascending
  exact compare_lt_iff_lt.mp ascending

theorem fill_size (rows : List EntryT) :
    (fill ({} : SynchronizedMap Key EntryT) rows).map.value.size =
      (rows.map getKey).dedup.length := by
  have distinct :
      (fill ({} : SynchronizedMap Key EntryT) rows).map.value.keys.Nodup :=
    (fill_keys_pairwise rows).imp ne_of_lt
  have sameKeys := (List.perm_ext_iff_of_nodup distinct
    (List.nodup_dedup (rows.map getKey))).mpr fun key => by
      rw [mem_fill_keys, List.mem_dedup]
  rw [← Std.TreeMap.length_keys, sameKeys.length_eq]

/-! ## Reloading -/

theorem reload_run
    {table : Table ε W Key EntryT}
    {rows : List EntryT}
    (delivers : Delivers table rows)
    (world : W)
    (outer : τ)
    (cache : CacheData Key EntryT Constraint) :
    (reload table).run (world, outer, cache) =
      .ok () (world, outer, { cache with map := fill {} rows }) := by
  have filled : (withLocal {} (deliver (fun entry => do
        modifyLocal fun fresh : SynchronizedMap Key EntryT =>
          (fresh.addDataEntry (getKey entry) entry).2
        return true) rows) :
      Program ε W (τ × CacheData Key EntryT Constraint) _).run
        (world, outer, cache) = .ok (fill {} rows) (world, outer, cache) :=
    withLocal_run (deliver_fold_run
      (fun (fresh : SynchronizedMap Key EntryT) entry =>
        (fresh.addDataEntry (getKey entry) entry).2)
      rows world (outer, cache) { })
  rw [reload, delivers.query, EStateM.run_bind, filled]
  rfl

theorem findByKey_run
    {table : Table ε W Key EntryT}
    {rows : List EntryT}
    (delivers : Delivers table rows)
    (key : Key)
    (world : W)
    (outer : τ) :
    (findByKey table key).run (world, outer) =
      .ok (rows.find? fun row => getKey row = key) (world, outer) := by
  rw [findByKey, delivers.queryKey]
  apply withLocal_run
  rw [deliver_first_run, List.head?_filter, Option.or_none]

theorem countAll_run
    {table : Table ε W Key EntryT}
    {rows : List EntryT}
    (delivers : Delivers table rows)
    (world : W)
    (outer : τ) :
    (countAll table).run (world, outer) = .ok rows.length (world, outer) := by
  rw [countAll, delivers.query]
  apply withLocal_run
  have counted : ∀ (entries : List EntryT) (n : Nat),
      entries.foldl (fun n _ => n + 1) n = n + entries.length := by
    intro entries
    induction entries with
    | nil => simp
    | cons _ entries inductionHypothesis =>
        intro n
        rw [List.foldl_cons, inductionHypothesis, List.length_cons]
        omega
  rw [deliver_fold_run (fun n (_ : EntryT) => n + 1), counted, Nat.zero_add]

theorem lookup_fill
    (predicate : Constraint → EntryT → Bool)
    (rows : List EntryT)
    (key : Key) :
    (⟨fill {} rows, predicate⟩ : CacheData Key EntryT Constraint).lookup key =
      rows.find? fun row => getKey row = key := by
  rw [lookup, SynchronizedMap.lookupDataEntry_eq, fill_getElem?]
  simp

/-- An entry of the cache is found under its own key. -/
theorem lookup_of_mem_lookupAll
    (predicate : Constraint → EntryT → Bool)
    (rows : List EntryT)
    {entry : EntryT}
    (present : entry ∈
      (⟨fill {} rows, predicate⟩ : CacheData Key EntryT Constraint).lookupAll) :
    (⟨fill {} rows, predicate⟩ : CacheData Key EntryT Constraint).lookup
      (getKey entry) = some entry := by
  rw [lookupAll_eq] at present
  obtain ⟨keyed, isKeyed, rfl⟩ := List.mem_map.mp present
  have found := (mem_fill_toList rows keyed).mp isKeyed
  have ownKey : getKey keyed.2 = keyed.1 := by
    simpa using List.find?_some found
  rw [lookup_fill, ownKey]
  exact found

/-- Exactly a table with unique keys has as many keys as rows. -/
theorem length_dedup_eq_iff (rows : List EntryT) :
    (rows.map (getKey : EntryT → Key)).dedup.length = rows.length ↔
      (rows.map (getKey : EntryT → Key)).Nodup := by
  rw [← List.dedup_eq_self]
  constructor
  · intro sameLength
    apply (List.dedup_sublist _).eq_of_length
    rw [sameLength, List.length_map]
  · intro unique
    rw [unique, List.length_map]

/-- A reloaded cache answers as its table does, whatever it held before. -/
theorem reload_answers
    {table : Table ε W Key EntryT}
    {rows : List EntryT}
    (delivers : Delivers table rows)
    (predicate : Constraint → EntryT → Bool)
    (world : W)
    (outer : τ) :
    ∃ reloaded : CacheData Key EntryT Constraint,
      (∀ previous, (reload table).run (world, outer, ⟨previous, predicate⟩) =
        .ok () (world, outer, reloaded)) ∧
      (∀ key, (reloaded.lookup key = none ↔ ∀ row ∈ rows, getKey row ≠ key) ∧
        (findByKey table key).run (world, outer) =
          .ok (reloaded.lookup key) (world, outer)) ∧
      (reloaded.lookupAll.map getKey).Pairwise (· < ·) ∧
      (∀ key, key ∈ reloaded.lookupAll.map getKey ↔ key ∈ rows.map getKey) ∧
      (∀ entry ∈ reloaded.lookupAll,
        reloaded.lookup (getKey entry) = some entry) ∧
      reloaded.size = (rows.map getKey).dedup.length ∧
      (∃ count, (countAll table).run (world, outer) =
          .ok count (world, outer) ∧
        reloaded.size ≤ count ∧
        (reloaded.size = count ↔ (rows.map getKey).Nodup)) ∧
      ∀ constraint, reloaded.lookupAllOf constraint =
        reloaded.lookupAll.filter (predicate constraint) := by
  refine ⟨⟨fill {} rows, predicate⟩, ?_, ?_, ?_, ?_, ?_, ?_, ?_, ?_⟩
  · intro previous
    exact reload_run delivers world outer ⟨previous, predicate⟩
  · intro key
    rw [lookup_fill, findByKey_run delivers]
    refine ⟨?_, rfl⟩
    rw [List.find?_eq_none]
    simp
  · rw [lookupAll_eq, fill_toList_keys]
    exact fill_keys_pairwise rows
  · intro key
    rw [lookupAll_eq, fill_toList_keys]
    exact mem_fill_keys rows key
  · intro entry present
    exact lookup_of_mem_lookupAll predicate rows present
  · rw [size, SynchronizedMap.size_eq]
    exact fill_size rows
  · have fewer := (List.dedup_sublist (rows.map getKey)).length_le
    rw [List.length_map] at fewer
    refine ⟨rows.length, countAll_run delivers world outer, ?_, ?_⟩ <;>
      rw [size, SynchronizedMap.size_eq, fill_size]
    · exact fewer
    · exact length_dedup_eq_iff rows
  · intro constraint
    exact lookupAllOf_eq _ constraint

/-- Of two rows with one key the first is cached. -/
theorem reload_answers_duplicate :
    ∃ reloaded : CacheData Nat (Nat × Nat) Unit,
      (reload (Table.ofRows [(2, 0), (1, 1), (2, 2)]) :
        Program Empty Unit _ Unit).run ((), (), {}) =
          .ok () ((), (), reloaded) ∧
      reloaded.lookup 2 = some (2, 0) ∧
      reloaded.size = 2 := by
  obtain ⟨reloaded, reloads, lookups, _, _, _, sizes, _, _⟩ := reload_answers
    (Table.ofRows_delivers [(2, 0), (1, 1), (2, 2)] :
      Delivers (Table.ofRows [(2, 0), (1, 1), (2, 2)] :
        Table Empty Unit Nat (Nat × Nat)) _)
    (fun (_ : Unit) _ => true) () ()
  have found := (lookups 2).2
  have first : (findByKey (Table.ofRows [(2, 0), (1, 1), (2, 2)]) 2 :
      Program Empty Unit Unit _).run ((), ()) = .ok (some (2, 0)) ((), ()) := rfl
  rw [first] at found
  injection found with same
  exact ⟨reloaded, reloads {}, same.symm, sizes⟩

end CacheData
end Cache
end ModernCommon
