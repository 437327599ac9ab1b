import Mathlib.Algebra.BigOperators.Group.Finset.Piecewise
import Mathlib.Data.List.Basic

/-!
# Objects at addresses

Objects are built at fresh addresses, one after the other, and an address whose
object is destroyed stays empty. Objects that satisfy a test are counted, and
an update changes the count by the object it replaces and the one it stores.
-/

namespace ModernCommon
namespace Library

/-- Objects at the addresses `0, 1, …`; nothing where the object is destroyed. -/
abbrev Slots (α : Type*) := List (Option α)

namespace Slots

variable {α : Type*}

/-- The live object at an address. -/
def live (slots : Slots α) (address : Nat) : Option α :=
  slots[address]?.join

/-- The number of live objects that satisfy a test. -/
def count (slots : Slots α) (test : α → Bool) : Nat :=
  slots.countP fun slot => slot.any test

@[simp] theorem live_nil (address : Nat) :
    live ([] : Slots α) address = none := by
  simp [live]

@[simp] theorem count_nil (test : α → Bool) :
    count ([] : Slots α) test = 0 := rfl

/-- An address has a live object when it stores one. -/
theorem live_eq_some_iff
    {slots : Slots α}
    {address : Nat}
    {object : α} :
    slots.live address = some object ↔ slots[address]? = some (some object) := by
  simp [live, Option.join_eq_some_iff]

/-- An address with a live object has been handed out. -/
theorem lt_length_of_live
    {slots : Slots α}
    {address : Nat}
    {object : α}
    (isLive : slots.live address = some object) :
    address < slots.length :=
  (List.getElem?_eq_some_iff.mp (live_eq_some_iff.mp isLive)).1

/-- A live object is stored. -/
theorem mem_of_live
    {slots : Slots α}
    {address : Nat}
    {object : α}
    (isLive : slots.live address = some object) :
    some object ∈ slots :=
  List.mem_of_getElem? (live_eq_some_iff.mp isLive)

/-- A stored object is live at some address. -/
theorem exists_live_of_mem
    {slots : Slots α}
    {object : α}
    (stored : some object ∈ slots) :
    ∃ address, slots.live address = some object := by
  obtain ⟨address, found⟩ := List.getElem?_of_mem stored
  exact ⟨address, live_eq_some_iff.mpr found⟩

/-- An update is seen at its own address. -/
theorem live_set_self
    {slots : Slots α}
    {address : Nat}
    (stored : address < slots.length)
    (slot : Option α) :
    live (slots.set address slot) address = slot := by
  simp [live, List.getElem?_set_self stored]

/-- An update is not seen at another address. -/
theorem live_set_ne
    {slots : Slots α}
    {address other : Nat}
    (different : address ≠ other)
    (slot : Option α) :
    live (slots.set address slot) other = slots.live other := by
  simp [live, List.getElem?_set_ne different]

/-- A new object is at the next address. -/
theorem live_append_self
    (slots : Slots α)
    (slot : Option α) :
    live (slots ++ [slot]) slots.length = slot := by
  simp [live]

/-- A new object changes no earlier address. -/
theorem live_append_of_ne
    (slots : Slots α)
    (slot : Option α)
    {address : Nat}
    (different : address ≠ slots.length) :
    live (slots ++ [slot]) address = slots.live address := by
  rcases Nat.lt_or_gt_of_ne different with before | beyond
  · simp [live, List.getElem?_append_left before]
  · rw [live, live, List.getElem?_eq_none (by simp; omega),
      List.getElem?_eq_none (by omega)]

/-- What is live after an update was stored by it or was live before. -/
theorem stored_or_live_of_live_set
    {slots : Slots α}
    {address other : Nat}
    {slot : Option α}
    {object : α}
    (isLive : live (slots.set address slot) other = some object) :
    slot = some object ∨ slots.live other = some object := by
  by_cases same : address = other
  · subst same
    by_cases stored : address < slots.length
    · exact .inl ((live_set_self stored slot).symm.trans isLive)
    · rw [live, List.getElem?_eq_none (by simpa using stored)] at isLive
      cases isLive
  · exact .inr ((live_set_ne same slot).symm.trans isLive)

/-- What is live after an object is built is new or was live before. -/
theorem stored_or_live_of_live_append
    {slots : Slots α}
    {address : Nat}
    {slot : Option α}
    {object : α}
    (isLive : live (slots ++ [slot]) address = some object) :
    slot = some object ∨ slots.live address = some object := by
  by_cases last : address = slots.length
  · subst last
    exact .inl ((live_append_self slots slot).symm.trans isLive)
  · exact .inr ((live_append_of_ne slots slot last).symm.trans isLive)

/-- A live object that satisfies a test is counted. -/
theorem count_pos_of_live
    {slots : Slots α}
    {address : Nat}
    {object : α}
    {test : α → Bool}
    (isLive : slots.live address = some object)
    (satisfied : test object = true) :
    0 < slots.count test := by
  apply List.countP_pos_iff.mpr
  exact ⟨some object, mem_of_live isLive, by simpa using satisfied⟩

/-- A new object adds itself to the count. -/
theorem count_append
    (slots : Slots α)
    (slot : Option α)
    (test : α → Bool) :
    count (slots ++ [slot]) test =
      slots.count test + if slot.any test then 1 else 0 := by
  simp [count, List.countP_append, List.countP_singleton]

/-- An update gives up the object it replaces and adds the one it stores. -/
theorem count_set
    {slots : Slots α}
    {address : Nat}
    {object : α}
    (isLive : slots.live address = some object)
    (slot : Option α)
    (test : α → Bool) :
    count (slots.set address slot) test + (if test object then 1 else 0) =
      slots.count test + if slot.any test then 1 else 0 := by
  obtain ⟨stored, replaced⟩ :=
    List.getElem?_eq_some_iff.mp (live_eq_some_iff.mp isLive)
  rw [count, count, List.countP_set stored, replaced]
  by_cases satisfied : test object = true
  · have counted : 0 < slots.countP fun slot => slot.any test :=
      count_pos_of_live isLive satisfied
    simp only [Option.any_some, satisfied, if_true]
    omega
  · simp [satisfied]

/-- Only live objects are counted. -/
theorem count_eq_zero
    {slots : Slots α}
    {test : α → Bool}
    (unsatisfied : ∀ address object,
      slots.live address = some object → test object = false) :
    slots.count test = 0 := by
  apply List.countP_eq_zero.mpr
  intro slot stored
  obtain ⟨address, bound, rfl⟩ := List.getElem_of_mem stored
  cases isLive : slots[address] with
  | none => simp
  | some object =>
      have := unsatisfied address object (by simp [live, bound, isLive])
      simp [this]

/-- Of objects of which one is counted, one is live. -/
theorem eq_of_count_le_one
    {slots : Slots α}
    {test : α → Bool}
    (one : slots.count test ≤ 1)
    {address other : Nat}
    {object another : α}
    (isLive : slots.live address = some object)
    (satisfied : test object = true)
    (otherLive : slots.live other = some another)
    (otherSatisfied : test another = true) :
    other = address := by
  by_contra differs
  have without := count_set isLive none test
  have stillLive : live (slots.set address none) other = some another := by
    rw [live_set_ne (Ne.symm differs), otherLive]
  have counted : 0 < count (slots.set address none) test :=
    count_pos_of_live stillLive otherSatisfied
  simp only [satisfied, if_true, Option.any_none, Bool.false_eq_true,
    if_false] at without
  omega

/-- Counted by key, the objects that satisfy a test are all of them. -/
theorem sum_count
    (slots : Slots α)
    (test : α → Bool)
    (key : α → Nat)
    {bound : Nat}
    (below : ∀ object, some object ∈ slots → test object = true →
      key object < bound) :
    ∑ index ∈ Finset.range bound,
        slots.count (fun object => key object == index && test object) =
      slots.count test := by
  induction slots with
  | nil => simp
  | cons slot slots inductionHypothesis =>
      have rest := inductionHypothesis fun object stored =>
        below object (List.mem_cons_of_mem slot stored)
      simp only [count, List.countP_cons, Finset.sum_add_distrib] at rest ⊢
      rw [rest, Nat.add_left_cancel_iff]
      cases slot with
      | none => simp
      | some object =>
          by_cases satisfied : test object = true
          · have inRange := below object List.mem_cons_self satisfied
            simp [satisfied, inRange]
          · simp [satisfied]

/-! ## Destroying several objects -/

/-- Destroy the objects at the given addresses, in order. -/
def clear (slots : Slots α) (addresses : List Nat) : Slots α :=
  addresses.foldl (fun slots address => slots.set address none) slots

@[simp] theorem clear_nil (slots : Slots α) : slots.clear [] = slots := rfl

@[simp] theorem clear_cons
    (slots : Slots α)
    (address : Nat)
    (addresses : List Nat) :
    slots.clear (address :: addresses) = clear (slots.set address none) addresses := rfl

@[simp] theorem length_clear
    (slots : Slots α)
    (addresses : List Nat) :
    (slots.clear addresses).length = slots.length := by
  induction addresses generalizing slots with
  | nil => rfl
  | cons address addresses inductionHypothesis =>
      rw [clear_cons, inductionHypothesis, List.length_set]

/-- Only the objects at the given addresses are destroyed. -/
theorem live_clear
    (slots : Slots α)
    (addresses : List Nat)
    (other : Nat) :
    (slots.clear addresses).live other =
      if other ∈ addresses then none else slots.live other := by
  induction addresses generalizing slots with
  | nil => simp
  | cons address addresses inductionHypothesis =>
      rw [clear_cons, inductionHypothesis]
      by_cases later : other ∈ addresses
      · simp [later]
      · by_cases same : address = other
        · subst same
          by_cases stored : address < slots.length
          · simp [later, live_set_self stored none]
          · have beyond : slots.length ≤ address := by omega
            simp [later, live, beyond]
        · simp [later, live_set_ne same none, Ne.symm same]

end Slots
end Library
end ModernCommon
