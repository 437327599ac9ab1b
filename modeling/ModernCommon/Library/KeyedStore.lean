import Mathlib.Data.List.Nodup
import Mathlib.Data.List.Perm.Basic
import Mathlib.Logic.Function.Basic

/-!
# Stores of rows under their keys

A store has at most one row under a key, and a row is stored under its own key.
A list of rows lists a store when it holds exactly its rows, each key once; two
lists of one store are the same up to their order. Writing and erasing change a
list of the store accordingly, and so do filtering and mapping.
-/

namespace ModernCommon
namespace Library

/-- Rows found under their keys. -/
structure KeyedStore {Row Key : Type*} (keyOf : Row → Key) where
  find : Key → Option Row
  keyed : ∀ key row, find key = some row → keyOf row = key

namespace KeyedStore

variable {Row Key : Type*} {keyOf : Row → Key}

@[ext] theorem ext
    {left right : KeyedStore keyOf}
    (same : ∀ key, left.find key = right.find key) :
    left = right := by
  obtain ⟨find, _⟩ := left
  obtain ⟨other, _⟩ := right
  obtain rfl : find = other := funext same
  rfl

/-- The store without rows. -/
def empty : KeyedStore keyOf where
  find _ := none
  keyed := by simp

/-- The rows that a test keeps. -/
def filter (store : KeyedStore keyOf) (keep : Row → Bool) : KeyedStore keyOf where
  find key := (store.find key).filter keep
  keyed key row found :=
    store.keyed key row (Option.eq_some_of_filter_eq_some found)

/-- The rows as a function that keeps their keys changes them. -/
def map
    (store : KeyedStore keyOf)
    (change : Row → Row)
    (keepsKey : ∀ row, keyOf (change row) = keyOf row) : KeyedStore keyOf where
  find key := (store.find key).map change
  keyed key row found := by
    obtain ⟨stored, isStored, rfl⟩ := Option.map_eq_some_iff.mp found
    rw [keepsKey]
    exact store.keyed key stored isStored

variable [DecidableEq Key]

/-- Write a row under its key. -/
def set (store : KeyedStore keyOf) (row : Row) : KeyedStore keyOf where
  find key := if keyOf row = key then some row else store.find key
  keyed key other found := by
    by_cases sameKey : keyOf row = key
    · rw [if_pos sameKey] at found
      obtain rfl := Option.some.inj found
      exact sameKey
    · rw [if_neg sameKey] at found
      exact store.keyed key other found

/-- Leave nothing under a key. -/
def erase (store : KeyedStore keyOf) (erased : Key) : KeyedStore keyOf where
  find key := if erased = key then none else store.find key
  keyed key row found := by
    by_cases sameKey : erased = key
    · rw [if_pos sameKey] at found
      cases found
    · rw [if_neg sameKey] at found
      exact store.keyed key row found

theorem set_find
    (store : KeyedStore keyOf)
    (row : Row)
    (key : Key) :
    (store.set row).find key =
      if keyOf row = key then some row else store.find key := rfl

theorem erase_find
    (store : KeyedStore keyOf)
    (erased key : Key) :
    (store.erase erased).find key =
      if erased = key then none else store.find key := rfl

/-- Writing a row that is there already changes nothing. -/
theorem set_of_find
    {store : KeyedStore keyOf}
    {row : Row}
    (stored : store.find (keyOf row) = some row) :
    store.set row = store := by
  ext1 key
  rw [set_find]
  by_cases sameKey : keyOf row = key
  · rw [if_pos sameKey, ← sameKey, stored]
  · rw [if_neg sameKey]

/-- Erasing where nothing is changes nothing. -/
theorem erase_of_find
    {store : KeyedStore keyOf}
    {key : Key}
    (absent : store.find key = none) :
    store.erase key = store := by
  ext1 other
  rw [erase_find]
  by_cases sameKey : key = other
  · rw [if_pos sameKey, ← sameKey, absent]
  · rw [if_neg sameKey]

/-! ## Lists of a store -/

omit [DecidableEq Key] in
/-- A list of exactly the rows of a store. -/
structure Lists (store : KeyedStore keyOf) (rows : List Row) : Prop where
  unique : (rows.map keyOf).Nodup
  holds : ∀ row, row ∈ rows ↔ store.find (keyOf row) = some row

namespace Lists

variable {store : KeyedStore keyOf} {rows : List Row}

omit [DecidableEq Key] in
theorem nodup (lists : store.Lists rows) : rows.Nodup :=
  lists.unique.of_map keyOf

omit [DecidableEq Key] in
/-- The order of the rows is left open, and nothing else. -/
theorem perm
    {others : List Row}
    (lists : store.Lists rows)
    (listsOthers : store.Lists others) :
    rows.Perm others := by
  apply (List.perm_ext_iff_of_nodup lists.nodup listsOthers.nodup).mpr
  intro row
  rw [lists.holds, listsOthers.holds]

omit [DecidableEq Key] in
theorem of_perm
    {others : List Row}
    (lists : store.Lists rows)
    (reordered : others.Perm rows) :
    store.Lists others where
  unique := (reordered.map keyOf).nodup_iff.mpr lists.unique
  holds row := by rw [reordered.mem_iff, lists.holds]

omit [DecidableEq Key] in
theorem find_isSome_iff
    (lists : store.Lists rows)
    (key : Key) :
    (store.find key).isSome ↔ key ∈ rows.map keyOf := by
  rw [List.mem_map, Option.isSome_iff_exists]
  constructor
  · rintro ⟨row, found⟩
    have sameKey := store.keyed key row found
    exact ⟨row, (lists.holds row).mpr (sameKey.symm ▸ found), sameKey⟩
  · rintro ⟨row, present, rfl⟩
    exact ⟨row, (lists.holds row).mp present⟩

omit [DecidableEq Key] in
theorem find_eq_none_iff
    (lists : store.Lists rows)
    (key : Key) :
    store.find key = none ↔ key ∉ rows.map keyOf := by
  rw [← lists.find_isSome_iff, Option.not_isSome_iff_eq_none]

theorem find_eq
    (lists : store.Lists rows)
    (key : Key) :
    (rows.find? fun row => keyOf row = key) = store.find key := by
  cases found : rows.find? fun row => keyOf row = key with
  | none =>
      symm
      rw [lists.find_eq_none_iff]
      rintro present
      obtain ⟨row, isRow, sameKey⟩ := List.mem_map.mp present
      have other := List.find?_eq_none.mp found row isRow
      exact other (decide_eq_true sameKey)
  | some row =>
      obtain rfl : keyOf row = key := by simpa using List.find?_some found
      exact ((lists.holds row).mp (List.mem_of_find?_eq_some found)).symm

/-- How many rows a key has. -/
theorem countP_eq
    (lists : store.Lists rows)
    (key : Key) :
    (rows.countP fun row => keyOf row = key) =
      if (store.find key).isSome then 1 else 0 := by
  have counted : (rows.countP fun row => keyOf row = key) =
      (rows.map keyOf).count key := by
    rw [List.count, List.countP_map]
    apply List.countP_congr
    intro row _
    simp
  rw [counted]
  by_cases present : key ∈ rows.map keyOf
  · rw [if_pos ((lists.find_isSome_iff key).mpr present),
      List.count_eq_one_of_mem lists.unique present]
  · rw [if_neg (present ∘ (lists.find_isSome_iff key).mp),
      List.count_eq_zero_of_not_mem present]

theorem cons
    {row : Row}
    (lists : store.Lists rows)
    (absent : store.find (keyOf row) = none) :
    (store.set row).Lists (row :: rows) where
  unique := List.nodup_cons.mpr
    ⟨(lists.find_eq_none_iff _).mp absent, lists.unique⟩
  holds other := by
    rw [List.mem_cons, lists.holds, set_find]
    by_cases sameKey : keyOf row = keyOf other
    · rw [if_pos sameKey, ← sameKey, absent, Option.some.injEq]
      simp [eq_comm]
    · rw [if_neg sameKey]
      apply or_iff_right
      rintro rfl
      exact sameKey rfl

/-- Every row but the one with the key of a row that replaces it. -/
theorem replace
    {row : Row}
    (lists : store.Lists rows)
    (present : (store.find (keyOf row)).isSome) :
    (store.set row).Lists
      (rows.map fun other => if keyOf other = keyOf row then row else other) where
  unique := by
    have sameKeys : (rows.map fun other =>
        if keyOf other = keyOf row then row else other).map keyOf =
          rows.map keyOf := by
      rw [List.map_map]
      apply List.map_congr_left
      intro other _
      by_cases sameKey : keyOf other = keyOf row <;> simp [sameKey]
    rw [sameKeys]
    exact lists.unique
  holds other := by
    rw [set_find, List.mem_map]
    obtain ⟨replaced, isReplaced, replacedKey⟩ :=
      List.mem_map.mp ((lists.find_isSome_iff _).mp present)
    by_cases sameKey : keyOf row = keyOf other
    · rw [if_pos sameKey, Option.some.injEq]
      constructor
      · rintro ⟨stored, _, rfl⟩
        by_cases isStored : keyOf stored = keyOf row
        · rw [if_pos isStored]
        · rw [if_neg isStored] at sameKey
          exact absurd sameKey.symm isStored
      · rintro rfl
        exact ⟨replaced, isReplaced, if_pos replacedKey⟩
    · rw [if_neg sameKey, ← lists.holds]
      constructor
      · rintro ⟨stored, isStored, rfl⟩
        by_cases storedKey : keyOf stored = keyOf row
        · rw [if_pos storedKey] at sameKey
          exact absurd rfl sameKey
        · rw [if_neg storedKey]
          exact isStored
      · intro isOther
        exact ⟨other, isOther, if_neg fun otherKey => sameKey otherKey.symm⟩

theorem erase
    (lists : store.Lists rows)
    (erased : Key) :
    (store.erase erased).Lists (rows.filter fun row => keyOf row ≠ erased) where
  unique := lists.unique.sublist (List.filter_sublist.map keyOf)
  holds row := by
    rw [List.mem_filter, lists.holds, erase_find, decide_eq_true_eq]
    by_cases sameKey : erased = keyOf row
    · simp [sameKey]
    · simp [sameKey, Ne.symm sameKey]

omit [DecidableEq Key] in
theorem filter
    (lists : store.Lists rows)
    (keep : Row → Bool) :
    (store.filter keep).Lists (rows.filter keep) where
  unique := lists.unique.sublist (List.filter_sublist.map keyOf)
  holds row := by
    rw [List.mem_filter, lists.holds, KeyedStore.filter,
      Option.filter_eq_some_iff]

omit [DecidableEq Key] in
theorem map
    (lists : store.Lists rows)
    (change : Row → Row)
    (keepsKey : ∀ row, keyOf (change row) = keyOf row) :
    (store.map change keepsKey).Lists (rows.map change) where
  unique := by
    have sameKeys : (rows.map change).map keyOf = rows.map keyOf := by
      rw [List.map_map]
      exact List.map_congr_left fun row _ => keepsKey row
    rw [sameKeys]
    exact lists.unique
  holds row := by
    rw [List.mem_map, KeyedStore.map, Option.map_eq_some_iff]
    constructor
    · rintro ⟨stored, isStored, rfl⟩
      rw [keepsKey]
      exact ⟨stored, (lists.holds stored).mp isStored, rfl⟩
    · rintro ⟨stored, found, rfl⟩
      have sameKey := store.keyed _ stored found
      exact ⟨stored, (lists.holds stored).mpr (sameKey.symm ▸ found), rfl⟩

end Lists

/-- The store of a list of rows with unique keys. -/
def ofRows (rows : List Row) (_unique : (rows.map keyOf).Nodup) :
    KeyedStore keyOf where
  find key := rows.find? fun row => keyOf row = key
  keyed key row found := by simpa using List.find?_some found

theorem ofRows_lists
    {rows : List Row}
    (unique : (rows.map keyOf).Nodup) :
    (ofRows rows unique).Lists rows where
  unique := unique
  holds row := by
    constructor
    · intro present
      change rows.find? (fun other => keyOf other = keyOf row) = some row
      cases found : rows.find? fun other => keyOf other = keyOf row with
      | none =>
          have other := List.find?_eq_none.mp found row present
          simp at other
      | some other =>
          have sameKey : keyOf other = keyOf row := by
            simpa using List.find?_some found
          rw [List.inj_on_of_nodup_map unique
            (List.mem_of_find?_eq_some found) present sameKey]
    · intro found
      exact List.mem_of_find?_eq_some found

end KeyedStore
end Library
end ModernCommon
