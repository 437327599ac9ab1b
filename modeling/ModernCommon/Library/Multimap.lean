import Mathlib.Data.List.Sort

/-!
# Ordered multimaps

A multimap holds entries in ascending order of their keys, and entries of equal
keys in the order of their arrival: a new entry goes behind all entries whose
keys are not greater. Beside a multimap stands the list of what it holds in the
order of arrival; the multimap arranges that list when, for every key, both have
the same entries in the same order.
-/

namespace ModernCommon
namespace Library

/-- Entries in ascending order of their keys. -/
structure Multimap (κ α : Type*) [LinearOrder κ] where
  entries : List (κ × α)
  sorted : entries.Pairwise fun before after => before.1 ≤ after.1

namespace Multimap

variable {κ α : Type*} [LinearOrder κ]

/-- The multimap without entries. -/
def empty : Multimap κ α := ⟨[], List.Pairwise.nil⟩

/-- Insertion behind every entry whose key is not greater keeps the order. -/
theorem sorted_orderedInsert
    (entry : κ × α)
    {entries : List (κ × α)}
    (sorted : entries.Pairwise fun before after => before.1 ≤ after.1) :
    (entries.orderedInsert (fun new old => new.1 < old.1) entry).Pairwise
      fun before after => before.1 ≤ after.1 := by
  induction entries with
  | nil => exact List.pairwise_singleton _ _
  | cons first rest ih =>
      rw [List.pairwise_cons] at sorted
      rw [List.orderedInsert_cons]
      split_ifs with before
      · rw [List.pairwise_cons, List.pairwise_cons]
        refine ⟨fun other member => ?_, sorted⟩
        rcases List.mem_cons.mp member with rfl | inRest
        · exact before.le
        · exact before.le.trans (sorted.1 other inRest)
      · rw [List.pairwise_cons]
        refine ⟨fun other member => ?_, ih sorted.2⟩
        rcases (List.mem_orderedInsert _).mp member with rfl | inRest
        · exact not_lt.mp before
        · exact sorted.1 other inRest

/-- `std::multimap::emplace`: the new entry is the last of its key. -/
def emplace (map : Multimap κ α) (key : κ) (value : α) : Multimap κ α where
  entries := map.entries.orderedInsert (fun new old => new.1 < old.1) (key, value)
  sorted := sorted_orderedInsert (key, value) map.sorted

/-- The first entry that satisfies a test is erased. -/
def eraseFirst (map : Multimap κ α) (test : κ × α → Bool) : Multimap κ α where
  entries := map.entries.eraseP test
  sorted := map.sorted.sublist List.eraseP_sublist

/-- `std::multimap::erase` of an iterator, by its position. -/
def eraseAt (map : Multimap κ α) (position : Nat) : Multimap κ α where
  entries := map.entries.eraseIdx position
  sorted := map.sorted.sublist (List.eraseIdx_sublist _ _)

/-- A multimap is what it holds. -/
theorem ext_entries
    {left right : Multimap κ α}
    (same : left.entries = right.entries) :
    left = right := by
  cases left
  cases right
  cases same
  rfl

/-- `std::multimap::equal_range`: what lies between the first entry whose key is
not less and the first entry whose key is greater. -/
def equalRange (map : Multimap κ α) (key : κ) : List (κ × α) :=
  (map.entries.dropWhile fun entry => entry.1 < key).takeWhile fun entry =>
    entry.1 ≤ key

/-- No entry of a key is among entries of greater keys. -/
theorem filter_key_eq_nil
    {entries : List (κ × α)}
    {key : κ}
    (greater : ∀ entry ∈ entries, key < entry.1) :
    (entries.filter fun entry => entry.1 = key) = [] := by
  rw [List.filter_eq_nil_iff]
  intro entry member
  simpa using (greater entry member).ne'

/-- Of entries whose keys are not less, those not greater come first. -/
theorem takeWhile_le_eq_filter
    {entries : List (κ × α)}
    (sorted : entries.Pairwise fun before after => before.1 ≤ after.1)
    {key : κ}
    (notLess : ∀ entry ∈ entries, key ≤ entry.1) :
    entries.takeWhile (fun entry => entry.1 ≤ key) =
      entries.filter fun entry => entry.1 = key := by
  induction entries with
  | nil => rfl
  | cons first rest ih =>
      rw [List.pairwise_cons] at sorted
      rw [List.forall_mem_cons] at notLess
      by_cases isKey : first.1 = key
      · rw [List.takeWhile_cons_of_pos (by simpa using isKey.le),
          List.filter_cons_of_pos (by simpa using isKey),
          ih sorted.2 notLess.2]
      · have greater : key < first.1 := lt_of_le_of_ne notLess.1 (Ne.symm isKey)
        have noneLeft : rest.filter (fun entry => entry.1 = key) = [] := by
          apply filter_key_eq_nil
          intro entry inRest
          exact greater.trans_le (sorted.1 entry inRest)
        rw [List.takeWhile_cons_of_neg (by simpa using greater),
          List.filter_cons_of_neg (by simpa using isKey), noneLeft]

/-- What lies there is the entries of the key. -/
theorem equalRange_eq_filter
    (map : Multimap κ α)
    (key : κ) :
    map.equalRange key = map.entries.filter fun entry => entry.1 = key := by
  obtain ⟨entries, sorted⟩ := map
  unfold equalRange
  induction entries with
  | nil => rfl
  | cons first rest ih =>
      rw [List.pairwise_cons] at sorted
      by_cases below : first.1 < key
      · rw [List.dropWhile_cons_of_pos (by simpa using below),
          List.filter_cons_of_neg (by simpa using below.ne)]
        exact ih sorted.2
      · have notLess : ∀ entry ∈ first :: rest, key ≤ entry.1 := by
          rw [List.forall_mem_cons]
          refine ⟨not_lt.mp below, fun entry inRest => ?_⟩
          exact (not_lt.mp below).trans (sorted.1 entry inRest)
        rw [List.dropWhile_cons_of_neg (by simpa using below)]
        exact takeWhile_le_eq_filter (List.pairwise_cons.mpr sorted) notLess

/-! ## The order of arrival -/

/-- The multimap holds for every key what the list does, in the same order. -/
def Arranges (map : Multimap κ α) (arrived : List (κ × α)) : Prop :=
  ∀ key, (map.entries.filter fun entry => entry.1 = key) =
    arrived.filter fun entry => entry.1 = key

variable {map : Multimap κ α} {arrived : List (κ × α)}

theorem arranges_empty : (empty : Multimap κ α).Arranges [] := fun _ => rfl

/-- Both have the same entries, each as often. -/
theorem Arranges.perm
    [DecidableEq α]
    (arranges : map.Arranges arrived) :
    map.entries.Perm arrived := by
  rw [List.perm_iff_count]
  intro entry
  have ofKey : ∀ entries : List (κ × α),
      (entries.filter fun other => other.1 = entry.1).count entry =
        entries.count entry :=
    fun entries => List.count_filter (by simp)
  rw [← ofKey map.entries, arranges entry.1, ofKey arrived]

theorem Arranges.mem_iff
    (arranges : map.Arranges arrived)
    {entry : κ × α} :
    entry ∈ map.entries ↔ entry ∈ arrived := by
  have sameKey := congrArg (entry ∈ ·) (arranges entry.1)
  simpa using sameKey

/-- What is inserted comes last of its key and moves nothing else. -/
theorem filter_orderedInsert
    (key : κ)
    (entry : κ × α)
    {entries : List (κ × α)}
    (sorted : entries.Pairwise fun before after => before.1 ≤ after.1) :
    ((entries.orderedInsert (fun new old => new.1 < old.1) entry).filter
        fun other => other.1 = key) =
      (entries.filter fun other => other.1 = key) ++
        [entry].filter fun other => other.1 = key := by
  induction entries with
  | nil => rfl
  | cons first rest ih =>
      rw [List.pairwise_cons] at sorted
      rw [List.orderedInsert_cons]
      split_ifs with before
      · by_cases isKey : entry.1 = key
        · have noneOfKey : (first :: rest).filter (fun other => other.1 = key) = [] := by
            apply filter_key_eq_nil
            rw [← isKey, List.forall_mem_cons]
            refine ⟨before, fun other inRest => ?_⟩
            exact before.trans_le (sorted.1 other inRest)
          rw [List.filter_cons_of_pos (by simpa using isKey), noneOfKey,
            List.filter_cons_of_pos (by simpa using isKey)]
          rfl
        · have entryNotOfKey : [entry].filter (fun other => other.1 = key) = [] := by
            simpa using isKey
          rw [entryNotOfKey, List.append_nil,
            List.filter_cons_of_neg (by simpa using isKey)]
      · rw [List.filter_cons, List.filter_cons, ih sorted.2]
        split_ifs with isKey
        · rfl
        · rfl

/-- An arriving entry is arranged by `emplace`. -/
theorem Arranges.emplace
    (arranges : map.Arranges arrived)
    (key : κ)
    (value : α) :
    (map.emplace key value).Arranges (arrived ++ [(key, value)]) := by
  intro other
  rw [List.filter_append, ← arranges other]
  exact filter_orderedInsert other (key, value) map.sorted

/-- What is erased first has the smallest key of all that satisfy the test. -/
theorem eraseFirst_cases
    (map : Multimap κ α)
    (test : κ × α → Bool) :
    (map.eraseFirst test = map ∧ ∀ entry ∈ map.entries, ¬ test entry) ∨
      ∃ front entry back, map.entries = front ++ entry :: back ∧
        (map.eraseFirst test).entries = front ++ back ∧
        (∀ other ∈ front, ¬ test other) ∧ test entry ∧
        ∀ other ∈ map.entries, test other → entry.1 ≤ other.1 := by
  by_cases found : ∃ entry ∈ map.entries, test entry
  · obtain ⟨found, member, passes⟩ := found
    obtain ⟨entry, front, back, noneBefore, entryPasses, split, erased⟩ :=
      List.exists_of_eraseP member passes
    refine .inr ⟨front, entry, back, split, erased, noneBefore, entryPasses, ?_⟩
    intro other otherMember otherPasses
    have sorted := map.sorted
    rw [split, List.pairwise_append, List.pairwise_cons] at sorted
    rw [split, List.mem_append, List.mem_cons] at otherMember
    rcases otherMember with inFront | rfl | inBack
    · exact absurd otherPasses (noneBefore other inFront)
    · exact le_rfl
    · exact sorted.2.1.1 other inBack
  · have nonePasses : ∀ entry ∈ map.entries, ¬ test entry := fun entry member passes =>
      found ⟨entry, member, passes⟩
    refine .inl ⟨?_, nonePasses⟩
    have same : map.entries.eraseP test = map.entries :=
      List.eraseP_of_forall_not nonePasses
    simp only [eraseFirst, same]

/-- Erasing the first occurrence of an entry from both keeps them in step. -/
theorem Arranges.remove
    [DecidableEq α]
    (arranges : map.Arranges arrived)
    {erased : Multimap κ α}
    {front back : List (κ × α)}
    {entry : κ × α}
    (split : map.entries = front ++ entry :: back)
    (joined : erased.entries = front ++ back)
    (notBefore : entry ∉ front) :
    erased.Arranges (arrived.erase entry) := by
  have isErase : erased.entries = map.entries.erase entry := by
    rw [split, joined, List.erase_append_right _ notBefore, List.erase_cons_head]
  intro key
  rw [isErase, ← List.erase_filter, ← List.erase_filter, arranges key]

end Multimap
end Library
end ModernCommon
