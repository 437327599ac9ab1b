import ModernCommon.Library.Slots

/-!
# Objects with counted references

Objects live at addresses of a heap, each with the number of pointers to it.
Copying a pointer counts it, dropping one counts it off, and the last one to be
dropped destroys the object. When the pointers there are have been counted, an
object is alive as long as there is one, keeps its value, and is destroyed once.
-/

namespace ModernCommon
namespace Library

/-- Objects with their counts, the addresses of those that were destroyed, in
order, and whether a destroyed one was ever used. -/
structure CountedHeap (α : Type) where
  objects : Slots (α × Nat) := []
  destroyed : List Nat := []
  misused : Bool := false

namespace CountedHeap

variable {α : Type}

/-- The object at an address, while it is alive. -/
def value (heap : CountedHeap α) (address : Nat) : Option α :=
  (heap.objects.live address).map Prod.fst

/-- `use_count()` -/
def useCount (heap : CountedHeap α) (address : Nat) : Nat :=
  ((heap.objects.live address).map Prod.snd).getD 0

/-- The address of the next object. -/
def next (heap : CountedHeap α) : Nat := heap.objects.length

/-- `make_shared`: the object is at the next address. -/
def make (heap : CountedHeap α) (object : α) : CountedHeap α :=
  { heap with objects := heap.objects ++ [some (object, 1)] }

/-- Copy a pointer. -/
def copy (heap : CountedHeap α) (address : Nat) : CountedHeap α :=
  match heap.objects.live address with
  | none => { heap with misused := true }
  | some (object, count) =>
      { heap with objects := heap.objects.set address (some (object, count + 1)) }

/-- Drop a pointer, and the object with the last one. -/
def drop (heap : CountedHeap α) (address : Nat) : CountedHeap α :=
  match heap.objects.live address with
  | none => { heap with misused := true }
  | some (object, count) =>
      if count ≤ 1 then
        { heap with
          objects := heap.objects.set address none
          destroyed := heap.destroyed ++ [address] }
      else
        { heap with
          objects := heap.objects.set address (some (object, count - 1)) }

/-- Copy pointers one after another. -/
def copyAll (heap : CountedHeap α) (addresses : List Nat) : CountedHeap α :=
  addresses.foldl copy heap

/-- Drop pointers one after another. -/
def dropAll (heap : CountedHeap α) (addresses : List Nat) : CountedHeap α :=
  addresses.foldl drop heap

/-- The heap counts these pointers and no others. -/
structure Counts (heap : CountedHeap α) (pointers : List Nat) : Prop where
  counted : ∀ address, heap.useCount address = pointers.count address
  positive : ∀ address object count,
    heap.objects.live address = some (object, count) → 0 < count
  once : heap.destroyed.Nodup
  gone : ∀ address, address ∈ heap.destroyed ↔
    address < heap.next ∧ heap.objects.live address = none
  neverMisused : heap.misused = false

theorem counts_empty : Counts ({} : CountedHeap α) [] where
  counted _ := rfl
  positive address object count isLive := by
    rw [Slots.live_nil] at isLive
    cases isLive
  once := .nil
  gone address := by simp [next]
  neverMisused := rfl

variable {heap : CountedHeap α} {pointers : List Nat}

/-- The order of the pointers does not matter. -/
theorem Counts.perm
    (counts : heap.Counts pointers)
    {others : List Nat}
    (perm : pointers.Perm others) :
    heap.Counts others :=
  { counts with
    counted := fun address => by rw [counts.counted, perm.count_eq] }

/-- What a pointer points to is alive. -/
theorem Counts.live_of_mem
    (counts : heap.Counts pointers)
    {address : Nat}
    (present : address ∈ pointers) :
    ∃ object count, heap.objects.live address = some (object, count) := by
  cases isLive : heap.objects.live address with
  | some object => exact ⟨object.1, object.2, rfl⟩
  | none =>
      have unused := counts.counted address
      rw [useCount, isLive] at unused
      exact absurd present (List.count_eq_zero.mp unused.symm)

/-- What is alive has a pointer. -/
theorem Counts.mem_of_live
    (counts : heap.Counts pointers)
    {address count : Nat}
    {object : α}
    (isLive : heap.objects.live address = some (object, count)) :
    address ∈ pointers := by
  have used := counts.counted address
  rw [useCount, isLive] at used
  apply List.count_pos_iff.mp
  rw [← used]
  exact counts.positive address object count isLive

theorem Counts.lt_next
    (counts : heap.Counts pointers)
    {address : Nat}
    (present : address ∈ pointers) :
    address < heap.next := by
  obtain ⟨object, count, isLive⟩ := counts.live_of_mem present
  exact Slots.lt_length_of_live isLive

/-! ## New objects -/

theorem value_make_self (heap : CountedHeap α) (object : α) :
    (heap.make object).value heap.next = some object := by
  rw [value, make, next, Slots.live_append_self]
  rfl

theorem value_make_of_lt
    (object : α)
    {address : Nat}
    (older : address < heap.next) :
    (heap.make object).value address = heap.value address := by
  rw [value, make, Slots.live_append_of_ne _ _ (Nat.ne_of_lt older)]
  rfl

theorem Counts.make
    (counts : heap.Counts pointers)
    (object : α) :
    (heap.make object).Counts (heap.next :: pointers) where
  counted address := by
    by_cases isNew : address = heap.next
    · subst isNew
      have unused : pointers.count heap.next = 0 := by
        apply List.count_eq_zero.mpr
        intro present
        exact absurd (counts.lt_next present) (Nat.lt_irrefl _)
      rw [useCount, CountedHeap.make, next, Slots.live_append_self,
        List.count_cons_self]
      rw [next] at unused
      rw [unused]
      rfl
    · rw [List.count_cons_of_ne (Ne.symm isNew), ← counts.counted, useCount,
        CountedHeap.make, Slots.live_append_of_ne _ _ isNew]
      rfl
  positive address other count isLive := by
    by_cases isNew : address = heap.next
    · subst isNew
      rw [CountedHeap.make, next, Slots.live_append_self] at isLive
      cases isLive
      exact Nat.one_pos
    · rw [CountedHeap.make, Slots.live_append_of_ne _ _ isNew] at isLive
      exact counts.positive address other count isLive
  once := counts.once
  gone address := by
    change address ∈ heap.destroyed ↔ _
    rw [counts.gone, CountedHeap.make, next, next, List.length_append]
    by_cases isNew : address = heap.objects.length
    · subst isNew
      simp [Slots.live_append_self]
    · rw [Slots.live_append_of_ne _ _ isNew, List.length_singleton]
      have : address < heap.objects.length + 1 ↔
          address < heap.objects.length := by omega
      rw [this]
  neverMisused := counts.neverMisused

/-! ## Copies -/

/-- An object that stays is counted anew. -/
theorem Counts.recount
    (counts : heap.Counts pointers)
    {address count recount : Nat}
    {object : α}
    {others : List Nat}
    (isLive : heap.objects.live address = some (object, count))
    (positive : 0 < recount)
    (here : recount = others.count address)
    (elsewhere : ∀ other, address ≠ other →
      pointers.count other = others.count other) :
    Counts { heap with
      objects := heap.objects.set address (some (object, recount)) } others := by
  have self := Slots.live_set_self (Slots.lt_length_of_live isLive)
    (some (object, recount))
  refine ⟨?_, ?_, counts.once, ?_, counts.neverMisused⟩
  · intro other
    by_cases same : address = other
    · subst same
      rw [useCount, self]
      exact here
    · rw [useCount, Slots.live_set_ne same, ← elsewhere other same]
      exact counts.counted other
  · intro other otherObject otherCount otherLive
    by_cases same : address = other
    · subst same
      rw [self] at otherLive
      cases otherLive
      exact positive
    · rw [Slots.live_set_ne same] at otherLive
      exact counts.positive other otherObject otherCount otherLive
  · intro other
    change other ∈ heap.destroyed ↔ _
    rw [counts.gone, next, next, List.length_set]
    by_cases same : address = other
    · subst same
      rw [self, isLive]
      simp
    · rw [Slots.live_set_ne same]

/-- One more pointer to an object changes the count of that object only. -/
theorem Counts.copy
    (counts : heap.Counts pointers)
    {address : Nat}
    (present : address ∈ pointers) :
    (heap.copy address).Counts (address :: pointers) := by
  obtain ⟨object, count, isLive⟩ := counts.live_of_mem present
  have here := counts.counted address
  rw [useCount, isLive, Option.map_some, Option.getD_some] at here
  rw [CountedHeap.copy, isLive]
  apply counts.recount isLive (Nat.succ_pos count)
  · rw [List.count_cons_self]
    exact congrArg Nat.succ here
  · intro other differs
    rw [List.count_cons_of_ne differs]

/-- No object changes when a pointer is copied. -/
theorem value_copy
    (heap : CountedHeap α)
    (address other : Nat) :
    (heap.copy address).value other = heap.value other := by
  rw [copy]
  cases isLive : heap.objects.live address with
  | none => rfl
  | some counted =>
      rw [value, value]
      by_cases same : address = other
      · subst same
        rw [Slots.live_set_self (Slots.lt_length_of_live isLive), isLive]
        rfl
      · rw [Slots.live_set_ne same]

@[simp] theorem copyAll_nil (heap : CountedHeap α) : heap.copyAll [] = heap := rfl

@[simp] theorem copyAll_cons
    (heap : CountedHeap α)
    (address : Nat)
    (addresses : List Nat) :
    heap.copyAll (address :: addresses) = (heap.copy address).copyAll addresses :=
  rfl

theorem Counts.copyAll
    (counts : heap.Counts pointers)
    {addresses : List Nat}
    (present : addresses ⊆ pointers) :
    (heap.copyAll addresses).Counts (addresses ++ pointers) := by
  induction addresses generalizing heap pointers with
  | nil => exact counts
  | cons address addresses inductionHypothesis =>
      obtain ⟨first, rest⟩ := List.cons_subset.mp present
      have copied := inductionHypothesis (counts.copy first)
        fun other inRest => List.mem_cons_of_mem address (rest inRest)
      exact copied.perm List.perm_middle

theorem value_copyAll
    (heap : CountedHeap α)
    (addresses : List Nat)
    (other : Nat) :
    (heap.copyAll addresses).value other = heap.value other := by
  induction addresses generalizing heap with
  | nil => rfl
  | cons address addresses inductionHypothesis =>
      rw [copyAll_cons, inductionHypothesis, value_copy]

/-! ## Drops -/

/-- An object that nothing points to any more goes. -/
theorem Counts.destroy
    {address count : Nat}
    {object : α}
    (counts : heap.Counts (address :: pointers))
    (isLive : heap.objects.live address = some (object, count))
    (last : pointers.count address = 0) :
    Counts { heap with
      objects := heap.objects.set address none
      destroyed := heap.destroyed ++ [address] } pointers := by
  have self := Slots.live_set_self (Slots.lt_length_of_live isLive) none
  refine ⟨?_, ?_, ?_, ?_, counts.neverMisused⟩
  · intro other
    by_cases same : address = other
    · subst same
      rw [useCount, self, last]
      rfl
    · have before := counts.counted other
      rw [List.count_cons_of_ne same] at before
      rw [useCount, Slots.live_set_ne same]
      exact before
  · intro other otherObject otherCount otherLive
    by_cases same : address = other
    · subst same
      rw [self] at otherLive
      cases otherLive
    · rw [Slots.live_set_ne same] at otherLive
      exact counts.positive other otherObject otherCount otherLive
  · apply counts.once.append (List.nodup_singleton address)
    rw [List.disjoint_singleton, counts.gone, isLive]
    simp
  · intro other
    rw [List.mem_append, List.mem_singleton, counts.gone, next, next,
      List.length_set]
    by_cases same : address = other
    · subst same
      rw [self]
      simp [Slots.lt_length_of_live isLive]
    · rw [Slots.live_set_ne same]
      simp [Ne.symm same]

/-- One pointer less; the last one takes its object with it. -/
theorem Counts.drop
    {address : Nat}
    (counts : heap.Counts (address :: pointers)) :
    (heap.drop address).Counts pointers := by
  obtain ⟨object, count, isLive⟩ := counts.live_of_mem List.mem_cons_self
  have here := counts.counted address
  rw [useCount, isLive, List.count_cons_self, Option.map_some,
    Option.getD_some] at here
  rw [CountedHeap.drop, isLive]
  simp only
  split_ifs with last
  · apply counts.destroy isLive
    omega
  · apply counts.recount isLive
    · omega
    · omega
    · intro other differs
      rw [List.count_cons_of_ne differs]

/-- What another pointer points to stays as it is. -/
theorem Counts.value_drop
    {address : Nat}
    (counts : heap.Counts (address :: pointers))
    {other : Nat}
    (present : other ∈ pointers) :
    (heap.drop address).value other = heap.value other := by
  obtain ⟨object, count, isLive⟩ := counts.live_of_mem List.mem_cons_self
  have stored := Slots.lt_length_of_live isLive
  rw [CountedHeap.drop, isLive, value, value]
  simp only
  by_cases same : address = other
  · subst same
    have here := counts.counted address
    rw [useCount, isLive, List.count_cons_self, Option.map_some,
      Option.getD_some] at here
    have more : 0 < pointers.count address := List.count_pos_iff.mpr present
    rw [if_neg (by omega), Slots.live_set_self stored, isLive]
    rfl
  · split_ifs <;> rw [Slots.live_set_ne same]

@[simp] theorem dropAll_nil (heap : CountedHeap α) : heap.dropAll [] = heap := rfl

@[simp] theorem dropAll_cons
    (heap : CountedHeap α)
    (address : Nat)
    (addresses : List Nat) :
    heap.dropAll (address :: addresses) = (heap.drop address).dropAll addresses :=
  rfl

theorem Counts.dropAll
    {addresses : List Nat}
    (counts : heap.Counts (addresses ++ pointers)) :
    (heap.dropAll addresses).Counts pointers := by
  induction addresses generalizing heap with
  | nil => exact counts
  | cons address addresses inductionHypothesis =>
      exact inductionHypothesis counts.drop

theorem Counts.value_dropAll
    {addresses : List Nat}
    (counts : heap.Counts (addresses ++ pointers))
    {other : Nat}
    (present : other ∈ pointers) :
    (heap.dropAll addresses).value other = heap.value other := by
  induction addresses generalizing heap with
  | nil => rfl
  | cons address addresses inductionHypothesis =>
      rw [dropAll_cons, inductionHypothesis counts.drop]
      exact counts.value_drop (List.mem_append_right _ present)

/-! ## Objects do not change -/

/-- Every object of the earlier heap is as it was or destroyed in the later one,
and the addresses of the destroyed ones are not used again. -/
def Later (before after : CountedHeap α) : Prop :=
  before.next ≤ after.next ∧
    ∀ address, address < before.next →
      after.value address = before.value address ∨ after.value address = none

theorem Later.refl (heap : CountedHeap α) : heap.Later heap :=
  ⟨le_refl _, fun _ _ => .inl rfl⟩

theorem Later.trans
    {before between after : CountedHeap α}
    (first : before.Later between)
    (second : between.Later after) :
    before.Later after := by
  refine ⟨le_trans first.1 second.1, ?_⟩
  intro address older
  rcases second.2 address (lt_of_lt_of_le older first.1) with same | gone
  · rw [same]
    exact first.2 address older
  · exact .inr gone

theorem later_make (heap : CountedHeap α) (object : α) :
    heap.Later (heap.make object) := by
  refine ⟨?_, fun address older => .inl (value_make_of_lt object older)⟩
  simp [make, next]

theorem later_copy (heap : CountedHeap α) (address : Nat) :
    heap.Later (heap.copy address) := by
  refine ⟨?_, fun other _ => .inl (value_copy heap address other)⟩
  rw [copy]
  cases heap.objects.live address <;> simp [next]

theorem later_drop (heap : CountedHeap α) (address : Nat) :
    heap.Later (heap.drop address) := by
  rw [drop]
  cases isLive : heap.objects.live address with
  | none => exact Later.refl heap
  | some counted =>
      have stored := Slots.lt_length_of_live isLive
      simp only
      split_ifs with last
      · refine ⟨by simp [next], ?_⟩
        intro other _
        rw [value, value]
        by_cases same : address = other
        · subst same
          rw [Slots.live_set_self stored]
          exact .inr rfl
        · rw [Slots.live_set_ne same]
          exact .inl rfl
      · refine ⟨by simp [next], ?_⟩
        intro other _
        rw [value, value]
        by_cases same : address = other
        · subst same
          rw [Slots.live_set_self stored, isLive]
          exact .inl rfl
        · rw [Slots.live_set_ne same]
          exact .inl rfl

theorem later_copyAll (heap : CountedHeap α) (addresses : List Nat) :
    heap.Later (heap.copyAll addresses) := by
  induction addresses generalizing heap with
  | nil => exact Later.refl heap
  | cons address addresses inductionHypothesis =>
      exact (later_copy heap address).trans (inductionHypothesis _)

theorem later_dropAll (heap : CountedHeap α) (addresses : List Nat) :
    heap.Later (heap.dropAll addresses) := by
  induction addresses generalizing heap with
  | nil => exact Later.refl heap
  | cons address addresses inductionHypothesis =>
      exact (later_drop heap address).trans (inductionHypothesis _)

/-- What is alive later has always been what it is. -/
theorem Later.value_eq
    {before after : CountedHeap α}
    (later : before.Later after)
    {address : Nat}
    {object : α}
    (older : address < before.next)
    (isLive : after.value address = some object) :
    before.value address = some object := by
  rcases later.2 address older with same | gone
  · rw [← same, isLive]
  · rw [gone] at isLive
    cases isLive

end CountedHeap
end Library
end ModernCommon
