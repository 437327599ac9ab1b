import ModernCommon.Cache.SharedEntries

/-!
# Entries live as long as they are held

Over every run of the calls of a cache the counts of its entries are the numbers
of pointers in its map, in the local variables of its calls and with its callers.
So nothing is used after it was destroyed or destroyed twice, what somebody holds
stays as it is however often the cache is reloaded, nothing else stays, and what
is looked up is what the last reload read.
-/

namespace ModernCommon
namespace Cache
namespace SharedEntries

open Data Library

variable {Key EntryT Constraint : Type} [LinearOrder Key]

/-- Every pointer there is. -/
def State.pointers (state : State Key EntryT Constraint) : List Nat :=
  state.handles ++ SharedEntries.pointers state.map.map.value ++
    state.calls.flatMap Phase.pointers

/-- The pointers that neither a call nor a caller has. -/
def State.others
    (state : State Key EntryT Constraint)
    (call : Nat) : List Nat :=
  SharedEntries.pointers state.map.map.value ++
    (state.calls.eraseIdx call).flatMap Phase.pointers

section Entries

variable [Entry EntryT Key]

/-- The map leads to the first row of each key. -/
def Reads
    (heap : CountedHeap EntryT)
    (map : MapType Key Nat)
    (rows : List EntryT) : Prop :=
  ∀ key, map[key]?.bind heap.value = rows.find? fun row => getKey row = key

/-- The local variables are as the phase of the call demands. -/
def Phase.Valid (heap : CountedHeap EntryT) :
    Phase Key EntryT Constraint → Prop
  | .filling rows fresh => Reads heap fresh.map.value rows
  | .copied rows fresh snapshot =>
      snapshot = fresh.map.value ∧ Reads heap snapshot rows
  | .swapped _ => True
  | .listing _ snapshot rest _ => rest ⊆ snapshot
  | .returned => True

/-- The pointers are counted, and the maps lead to what was read. -/
structure Valid (state : State Key EntryT Constraint) : Prop where
  counts : state.heap.Counts state.pointers
  reads : Reads state.heap state.map.map.value state.rows
  calls : ∀ phase ∈ state.calls, phase.Valid state.heap

theorem Reads.congr
    {heap after : CountedHeap EntryT}
    {map : MapType Key Nat}
    {rows : List EntryT}
    (reads : Reads heap map rows)
    (same : ∀ entry ∈ SharedEntries.pointers map,
      after.value entry = heap.value entry) :
    Reads after map rows := by
  intro key
  rw [← reads key]
  cases found : map[key]? with
  | none => rfl
  | some entry => exact same entry (mem_pointers found)

theorem Phase.Valid.congr
    {heap after : CountedHeap EntryT}
    {phase : Phase Key EntryT Constraint}
    (valid : phase.Valid heap)
    (same : ∀ entry ∈ phase.pointers, after.value entry = heap.value entry) :
    phase.Valid after := by
  cases phase with
  | filling rows fresh => exact Reads.congr valid same
  | copied rows fresh snapshot =>
      refine ⟨valid.1, valid.2.congr ?_⟩
      intro entry present
      exact same entry (List.mem_append_left _ present)
  | swapped fresh => trivial
  | listing constraint snapshot rest results => exact valid
  | returned => trivial

/-! ## Adding a row -/

omit [Entry EntryT Key] in
/-- An entry is added when its key was absent. -/
theorem addDataEntry_added
    (fresh : SynchronizedMap Key Nat)
    (key : Key)
    (entry : Nat) :
    (fresh.addDataEntry key entry).1 = fresh.map.value[key]?.isNone := by
  have contained : fresh.map.value.contains key =
      fresh.map.value[key]?.isSome := Std.TreeMap.contains_eq_isSome_getElem?
  rw [← Option.not_isSome, ← contained]
  simp [SynchronizedMap.addDataEntry, Synchronized.withLock]

/-- A row with a new key is the first of its key. -/
theorem Reads.insert_of_absent
    {heap : CountedHeap EntryT}
    {map : MapType Key Nat}
    {rows : List EntryT}
    {entry : EntryT}
    {pointer : Nat}
    (reads : Reads heap map rows)
    (absent : map[(getKey entry : Key)]? = none)
    (made : heap.value pointer = some entry) :
    Reads heap (map.insertIfNew (getKey entry) pointer) (rows ++ [entry]) := by
  intro key
  rw [Std.TreeMap.getElem?_insertIfNew, List.find?_append]
  by_cases same : getKey entry = key
  · subst same
    have first : rows.find? (fun row => getKey row = (getKey entry : Key)) =
        none := by
      rw [← reads, absent]
      rfl
    have notMem : (getKey entry : Key) ∉ map := by
      rw [Std.TreeMap.mem_iff_isSome_getElem?, absent]
      simp
    rw [first]
    simp [notMem, made]
  · simp [same, reads key]

/-- A row with a key that is there already is not the first of its key. -/
theorem Reads.insert_of_present
    {heap : CountedHeap EntryT}
    {map : MapType Key Nat}
    {rows : List EntryT}
    {entry : EntryT}
    {old : Nat}
    (reads : Reads heap map rows)
    (present : map[(getKey entry : Key)]? = some old)
    (alive : (heap.value old).isSome)
    (pointer : Nat) :
    Reads heap (map.insertIfNew (getKey entry) pointer) (rows ++ [entry]) := by
  intro key
  have sameKey : (map.insertIfNew (getKey entry) pointer)[key]? = map[key]? :=
    (insertIfNew_of_present present pointer).getElem?_eq
  rw [sameKey, reads key, List.find?_append]
  by_cases isKey : getKey entry = key
  · subst isKey
    have cached : (rows.find? fun row =>
        getKey row = (getKey entry : Key)).isSome := by
      rw [← reads, present]
      exact alive
    rw [Option.or_of_isSome cached]
  · simp [isKey]

/-- A row adds its entry, unless its key is there, and changes no other. -/
theorem addRow_valid
    {heap : CountedHeap EntryT}
    {fresh : SynchronizedMap Key Nat}
    {others : List Nat}
    {rows : List EntryT}
    (counts : heap.Counts (SharedEntries.pointers fresh.map.value ++ others))
    (reads : Reads heap fresh.map.value rows)
    (entry : EntryT) :
    (addRow heap fresh entry).1.Counts
        (SharedEntries.pointers (addRow heap fresh entry).2.map.value ++
          others) ∧
      (∀ other ∈ SharedEntries.pointers fresh.map.value ++ others,
        (addRow heap fresh entry).1.value other = heap.value other) ∧
      Reads (addRow heap fresh entry).1 (addRow heap fresh entry).2.map.value
        (rows ++ [entry]) := by
  have made := counts.make entry
  have older : ∀ other ∈ SharedEntries.pointers fresh.map.value ++ others,
      (heap.make entry).value other = heap.value other := by
    intro other present
    exact CountedHeap.value_make_of_lt entry (counts.lt_next present)
  have isAdded := addDataEntry_added fresh (getKey entry) heap.next
  cases found : fresh.map.value[(getKey entry : Key)]? with
  | none =>
      have added : addRow heap fresh entry = (heap.make entry,
          (fresh.addDataEntry (getKey entry) heap.next).2) := by
        rw [found] at isAdded
        simp [addRow, isAdded]
      have kept := reads.congr fun other present =>
        older other (List.mem_append_left _ present)
      rw [added]
      simp only [SynchronizedMap.addDataEntry_value]
      refine ⟨?_, older,
        kept.insert_of_absent found (CountedHeap.value_make_self heap entry)⟩
      apply made.perm
      rw [← List.cons_append]
      exact ((pointers_insertIfNew_of_absent found _).symm).append_right others
  | some old =>
      have dropped : addRow heap fresh entry =
          ((heap.make entry).drop heap.next,
            (fresh.addDataEntry (getKey entry) heap.next).2) := by
        rw [found] at isAdded
        simp [addRow, isAdded]
      have values : ∀ other ∈ SharedEntries.pointers fresh.map.value ++ others,
          ((heap.make entry).drop heap.next).value other =
            heap.value other := by
        intro other present
        rw [made.value_drop present]
        exact older other present
      have kept := reads.congr fun other present =>
        values other (List.mem_append_left _ present)
      have held := List.mem_append_left others (mem_pointers found)
      have alive : (((heap.make entry).drop heap.next).value old).isSome := by
        obtain ⟨object, count, isLive⟩ := counts.live_of_mem held
        rw [values old held, CountedHeap.value, isLive]
        rfl
      have same := insertIfNew_of_present found heap.next
      have samePointers :=
        (Std.TreeMap.equiv_iff_toList_perm.mp same).map Prod.snd
      rw [dropped]
      simp only [SynchronizedMap.addDataEntry_value]
      exact ⟨made.drop.perm (samePointers.symm.append_right others), values,
        kept.insert_of_present found alive heap.next⟩

/-! ## One step -/

omit [Entry EntryT Key] in
/-- The pointers are those of a call, of the callers, and the others. -/
theorem pointers_perm
    {state : State Key EntryT Constraint}
    {call : Nat}
    {phase : Phase Key EntryT Constraint}
    (found : state.calls[call]? = some phase) :
    state.pointers.Perm
      (phase.pointers ++ (state.handles ++ state.others call)) := by
  obtain ⟨inRange, isPhase⟩ := List.getElem?_eq_some_iff.mp found
  have split := ((List.getElem_cons_eraseIdx_perm inRange).symm).flatMap_right
    Phase.pointers
  rw [isPhase, List.flatMap_cons] at split
  apply (split.append_left _).trans
  rw [List.perm_iff_count]
  intro entry
  simp only [State.others, List.count_append]
  omega

/-- A call goes on: it and the callers have other pointers then, and all others
are untouched. -/
theorem Valid.enter
    {state : State Key EntryT Constraint}
    (valid : Valid state)
    {call : Nat}
    {old phase : Phase Key EntryT Constraint}
    (found : state.calls[call]? = some old)
    {heap : CountedHeap EntryT}
    {handles : List Nat}
    (counts : heap.Counts
      (phase.pointers ++ (handles ++ state.others call)))
    (same : ∀ entry ∈ state.others call,
      heap.value entry = state.heap.value entry)
    (phaseValid : phase.Valid heap) :
    Valid { state.enter call phase with heap, handles } := by
  obtain ⟨inRange, _⟩ := List.getElem?_eq_some_iff.mp found
  have split := List.set_perm_cons_eraseIdx inRange phase
  refine ⟨?_, ?_, ?_⟩
  · apply counts.perm
    have pointersSplit := split.flatMap_right Phase.pointers
    rw [List.flatMap_cons] at pointersSplit
    apply List.Perm.symm
    apply (pointersSplit.append_left _).trans
    rw [List.perm_iff_count]
    intro entry
    simp only [State.others, List.count_append, State.enter]
    omega
  · apply valid.reads.congr
    intro entry present
    exact same entry (List.mem_append_left _ present)
  · intro other present
    rcases List.mem_cons.mp (split.mem_iff.mp present) with rfl | kept
    · exact phaseValid
    · apply (valid.calls other (List.mem_of_mem_eraseIdx kept)).congr
      intro entry inOther
      apply same
      exact List.mem_append_right _ (List.mem_flatMap.mpr ⟨other, kept, inOther⟩)

/-- The callers of the cache copy or drop pointers. -/
theorem Valid.hand
    {state : State Key EntryT Constraint}
    (valid : Valid state)
    {heap : CountedHeap EntryT}
    {handles : List Nat}
    (counts : heap.Counts (handles ++ (SharedEntries.pointers
      state.map.map.value ++ state.calls.flatMap Phase.pointers)))
    (same : ∀ entry ∈ SharedEntries.pointers state.map.map.value ++
      state.calls.flatMap Phase.pointers,
        heap.value entry = state.heap.value entry) :
    Valid { state with heap, handles } where
  counts := by
    rw [State.pointers, List.append_assoc]
    exact counts
  reads := by
    apply valid.reads.congr
    intro entry present
    exact same entry (List.mem_append_left _ present)
  calls := by
    intro phase present
    apply (valid.calls phase present).congr
    intro entry inPhase
    apply same
    exact List.mem_append_right _ (List.mem_flatMap.mpr ⟨phase, present, inPhase⟩)

/-- What a call had is counted beside the others. -/
theorem Valid.counts_of_call
    {state : State Key EntryT Constraint}
    (valid : Valid state)
    {call : Nat}
    {phase : Phase Key EntryT Constraint}
    (found : state.calls[call]? = some phase) :
    state.heap.Counts (phase.pointers ++ (state.handles ++ state.others call)) :=
  valid.counts.perm (pointers_perm found)

theorem Valid.phase
    {state : State Key EntryT Constraint}
    (valid : Valid state)
    {call : Nat}
    {phase : Phase Key EntryT Constraint}
    (found : state.calls[call]? = some phase) :
    phase.Valid state.heap :=
  valid.calls phase (List.mem_of_getElem? found)

/-- A call that begins has pointers that were counted before. -/
theorem Valid.begin
    {state : State Key EntryT Constraint}
    (valid : Valid state)
    {heap : CountedHeap EntryT}
    {phase : Phase Key EntryT Constraint}
    (counts : heap.Counts (phase.pointers ++ state.pointers))
    (same : ∀ entry, heap.value entry = state.heap.value entry)
    (phaseValid : phase.Valid heap) :
    Valid { state with heap, calls := state.calls ++ [phase] } where
  counts := by
    apply counts.perm
    rw [State.pointers, State.pointers, List.flatMap_append,
      List.flatMap_singleton, ← List.append_assoc _ _ phase.pointers]
    exact List.perm_append_comm
  reads := valid.reads.congr fun entry _ => same entry
  calls := by
    intro other present
    rcases List.mem_append.mp present with old | new
    · exact (valid.calls other old).congr fun entry _ => same entry
    · rw [List.mem_singleton.mp new]
      exact phaseValid

/-- The local variables of a call are destroyed when it is over. -/
theorem Valid.over
    {state : State Key EntryT Constraint}
    (valid : Valid state)
    {call : Nat}
    {phase : Phase Key EntryT Constraint}
    (found : state.calls[call]? = some phase) :
    Valid { state.enter call .returned with
      heap := state.heap.dropAll phase.pointers } := by
  have counts := valid.counts_of_call found
  apply valid.enter found counts.dropAll
  · intro entry present
    exact counts.value_dropAll (List.mem_append_right _ present)
  · trivial

/-- The map of the cache gives way to the copy of the fresh one. -/
theorem Valid.swap
    {state : State Key EntryT Constraint}
    (valid : Valid state)
    {call : Nat}
    {rows : List EntryT}
    {fresh : SynchronizedMap Key Nat}
    {snapshot : MapType Key Nat}
    (found : state.calls[call]? = some (.copied rows fresh snapshot)) :
    Valid { state.enter call (.swapped fresh) with
      heap := state.heap.dropAll (SharedEntries.pointers state.map.map.value)
      map := state.map.moveIn snapshot
      rows } := by
  obtain ⟨inRange, _⟩ := List.getElem?_eq_some_iff.mp found
  have split := List.set_perm_cons_eraseIdx inRange (.swapped fresh)
  let kept := SharedEntries.pointers snapshot ++
    (SharedEntries.pointers fresh.map.value ++ (state.handles ++
      (state.calls.eraseIdx call).flatMap Phase.pointers))
  have counts : state.heap.Counts
      (SharedEntries.pointers state.map.map.value ++ kept) := by
    apply (valid.counts_of_call found).perm
    rw [List.perm_iff_count]
    intro entry
    simp only [kept, State.others, Phase.pointers, List.count_append]
    omega
  have same : ∀ entry ∈ kept,
      (state.heap.dropAll (SharedEntries.pointers state.map.map.value)).value
        entry = state.heap.value entry := fun entry present =>
    counts.value_dropAll present
  refine ⟨?_, ?_, ?_⟩
  · apply counts.dropAll.perm
    have pointersSplit := split.flatMap_right Phase.pointers
    rw [List.flatMap_cons] at pointersSplit
    apply List.Perm.symm
    apply (pointersSplit.append_left _).trans
    rw [List.perm_iff_count]
    intro entry
    simp only [kept, Phase.pointers, List.count_append, State.enter,
      SynchronizedMap.moveIn_eq]
    omega
  · apply (valid.phase found).2.congr
    intro entry present
    exact same entry (List.mem_append_left _ present)
  · intro other present
    rcases List.mem_cons.mp (split.mem_iff.mp present) with rfl | inRest
    · trivial
    · apply (valid.calls other (List.mem_of_mem_eraseIdx inRest)).congr
      intro entry inOther
      apply same
      simp only [kept, List.mem_append, List.mem_flatMap]
      exact .inr (.inr (.inr ⟨other, inRest, inOther⟩))

theorem Valid.row
    {state : State Key EntryT Constraint}
    (valid : Valid state)
    {call : Nat}
    {rows : List EntryT}
    {fresh : SynchronizedMap Key Nat}
    (found : state.calls[call]? = some (.filling rows fresh))
    (entry : EntryT) :
    Valid { state.enter call
        (.filling (rows ++ [entry]) (addRow state.heap fresh entry).2) with
      heap := (addRow state.heap fresh entry).1 } := by
  obtain ⟨counts, same, reads⟩ := addRow_valid (valid.counts_of_call found)
    (valid.phase found) entry
  apply valid.enter found counts
  · intro other present
    exact same other (List.mem_append_right _ (List.mem_append_right _ present))
  · exact reads

theorem Valid.copy
    {state : State Key EntryT Constraint}
    (valid : Valid state)
    {call : Nat}
    {rows : List EntryT}
    {fresh : SynchronizedMap Key Nat}
    (found : state.calls[call]? = some (.filling rows fresh)) :
    Valid { state.enter call (.copied rows fresh fresh.copyOut) with
      heap := state.heap.copyAll (SharedEntries.pointers fresh.copyOut) } := by
  have counts := (valid.counts_of_call found).copyAll
    (List.subset_append_left (SharedEntries.pointers fresh.map.value) _)
  apply valid.enter found
  · rw [Phase.pointers, List.append_assoc]
    exact counts
  · exact fun entry _ => CountedHeap.value_copyAll _ _ entry
  · refine ⟨rfl, ?_⟩
    exact Reads.congr (valid.phase found) fun entry _ =>
      CountedHeap.value_copyAll _ _ entry

/-- An entry that is visited is alive, and stays counted with the copies. -/
theorem Valid.visit
    {state : State Key EntryT Constraint}
    (valid : Valid state)
    {call : Nat}
    {constraint : Option Constraint}
    {snapshot rest : List (Key × Nat)}
    {key : Key}
    {entry : Nat}
    {results : List Nat}
    (found : state.calls[call]? =
      some (.listing constraint snapshot ((key, entry) :: rest) results)) :
    (∃ value, state.heap.value entry = some value) ∧
    Valid { state.enter call
        (.listing constraint snapshot rest (results ++ [entry])) with
      heap := state.heap.copy entry } ∧
    Valid (state.enter call (.listing constraint snapshot rest results)) := by
  have counts := valid.counts_of_call found
  obtain ⟨here, inRest⟩ := List.cons_subset.mp (valid.phase found)
  have present : entry ∈
      (Phase.listing constraint snapshot ((key, entry) :: rest) results :
        Phase Key EntryT Constraint).pointers ++
          (state.handles ++ state.others call) := by
    apply List.mem_append_left
    exact List.mem_append_right _ (List.mem_map.mpr ⟨(key, entry), here, rfl⟩)
  obtain ⟨value, count, isLive⟩ := counts.live_of_mem present
  refine ⟨⟨value, by rw [CountedHeap.value, isLive]; rfl⟩, ?_, ?_⟩
  · apply valid.enter found
    · apply (counts.copy present).perm
      rw [List.perm_iff_count]
      intro other
      simp only [Phase.pointers, State.enter, List.count_append,
        List.count_cons, List.count_nil]
      omega
    · exact fun other _ => CountedHeap.value_copy _ _ other
    · exact inRest
  · exact valid.enter found counts (fun _ _ => rfl) inRest

/-- The results of a call go to its caller. -/
theorem Valid.answer
    {state : State Key EntryT Constraint}
    (valid : Valid state)
    {call : Nat}
    {constraint : Option Constraint}
    {snapshot rest : List (Key × Nat)}
    {results : List Nat}
    (found : state.calls[call]? =
      some (.listing constraint snapshot rest results)) :
    Valid { state.enter call .returned with
      heap := state.heap.dropAll (snapshot.map Prod.snd)
      handles := results ++ state.handles } := by
  have counts : state.heap.Counts (snapshot.map Prod.snd ++
      ((results ++ state.handles) ++ state.others call)) := by
    apply (valid.counts_of_call found).perm
    rw [List.perm_iff_count]
    intro other
    simp only [Phase.pointers, List.count_append]
    omega
  apply valid.enter found counts.dropAll
  · intro entry present
    exact counts.value_dropAll (List.mem_append_right _ present)
  · trivial

/-- A caller gets one more pointer to what there is a pointer to. -/
theorem Valid.handle
    {state : State Key EntryT Constraint}
    (valid : Valid state)
    {entry : Nat}
    (present : entry ∈ state.pointers) :
    Valid { state with
      heap := state.heap.copy entry
      handles := entry :: state.handles } := by
  apply valid.hand _ fun other _ => CountedHeap.value_copy _ _ other
  have counts := valid.counts.copy present
  rw [State.pointers, List.append_assoc] at counts
  exact counts

theorem Valid.release
    {state : State Key EntryT Constraint}
    (valid : Valid state)
    {handle : Nat}
    (held : handle ∈ state.handles) :
    Valid { state with
      heap := state.heap.drop handle
      handles := state.handles.erase handle } := by
  have counts : state.heap.Counts (handle :: (state.handles.erase handle ++
      (SharedEntries.pointers state.map.map.value ++
        state.calls.flatMap Phase.pointers))) := by
    apply valid.counts.perm
    rw [State.pointers, List.append_assoc]
    exact (List.perm_cons_erase held).append_right _
  apply valid.hand counts.drop
  intro other present
  exact counts.value_drop (List.mem_append_right _ present)

theorem Valid.step
    (state : State Key EntryT Constraint)
    (event : Event Key EntryT Constraint)
    (next : State Key EntryT Constraint)
    (valid : Valid state)
    (stepped : SharedEntries.step state event = some next) :
    Valid next := by
  cases event with
  | reload =>
      cases stepped
      refine valid.begin valid.counts (fun _ => rfl) ?_
      intro key
      rfl
  | row call entry =>
      simp only [SharedEntries.step] at stepped
      split at stepped <;> cases stepped
      next rows fresh found => exact valid.row found entry
  | fail call =>
      simp only [SharedEntries.step] at stepped
      split at stepped <;> cases stepped
      next rows fresh found => exact valid.over found
  | copy call =>
      simp only [SharedEntries.step] at stepped
      split at stepped <;> cases stepped
      next rows fresh found => exact valid.copy found
  | swap call =>
      simp only [SharedEntries.step] at stepped
      split at stepped <;> cases stepped
      next rows fresh snapshot found => exact valid.swap found
  | finish call =>
      simp only [SharedEntries.step] at stepped
      split at stepped <;> cases stepped
      next fresh found => exact valid.over found
  | lookup key =>
      simp only [SharedEntries.step] at stepped
      split at stepped <;> cases stepped
      next entry found =>
        apply valid.handle
        apply List.mem_append_left
        exact List.mem_append_right _ (mem_pointers found)
      next => exact valid
  | lookupAll constraint =>
      cases stepped
      apply valid.begin
      · apply valid.counts.copyAll
        intro entry present
        exact List.mem_append_left _ (List.mem_append_right _ present)
      · exact CountedHeap.value_copyAll _ _
      · exact List.Subset.refl _
  | visit call =>
      simp only [SharedEntries.step] at stepped
      split at stepped
      · rename_i constraint snapshot key entry rest results found
        obtain ⟨⟨value, isLive⟩, admitted, passed⟩ := valid.visit found
        rw [isLive] at stepped
        simp only at stepped
        split_ifs at stepped <;> cases stepped
        · exact admitted
        · exact passed
      · cases stepped
  | answer call =>
      simp only [SharedEntries.step] at stepped
      split at stepped <;> cases stepped
      next constraint snapshot results found => exact valid.answer found
  | copyHandle handle =>
      simp only [SharedEntries.step] at stepped
      split_ifs at stepped with held
      cases stepped
      apply valid.handle
      exact List.mem_append_left _ (List.mem_append_left _ held)
  | dropHandle handle =>
      simp only [SharedEntries.step] at stepped
      split_ifs at stepped with held
      cases stepped
      exact valid.release held

theorem valid_of_run
    {predicate : Constraint → EntryT → Bool}
    {events : List (Event Key EntryT Constraint)}
    {state : State Key EntryT Constraint}
    (ran : (cache predicate).run (cache predicate).initial events =
      some state) :
    Valid state := by
  have start : Valid (cache predicate : System (State Key EntryT Constraint)
      _).initial :=
    { counts := CountedHeap.counts_empty
      reads := fun key => rfl
      calls := by simp [cache] }
  exact (cache predicate).invariant_of_run Valid Valid.step start ran

/-! ## Whole runs -/

/-- No step changes an entry. -/
theorem later_step
    {state next : State Key EntryT Constraint}
    {event : Event Key EntryT Constraint}
    (stepped : SharedEntries.step state event = some next) :
    state.heap.Later next.heap := by
  cases event with
  | reload =>
      cases stepped
      exact .refl _
  | row call entry =>
      simp only [SharedEntries.step] at stepped
      split at stepped <;> cases stepped
      have made := CountedHeap.later_make state.heap entry
      simp only [addRow]
      split_ifs
      · exact made
      · exact made.trans (CountedHeap.later_drop _ _)
  | fail call | finish call | swap call =>
      simp only [SharedEntries.step] at stepped
      split at stepped <;> cases stepped
      exact CountedHeap.later_dropAll _ _
  | copy call =>
      simp only [SharedEntries.step] at stepped
      split at stepped <;> cases stepped
      exact CountedHeap.later_copyAll _ _
  | lookup key =>
      simp only [SharedEntries.step] at stepped
      split at stepped <;> cases stepped
      · exact CountedHeap.later_copy _ _
      · exact .refl _
  | lookupAll constraint =>
      cases stepped
      exact CountedHeap.later_copyAll _ _
  | visit call =>
      simp only [SharedEntries.step] at stepped
      split at stepped
      · split at stepped
        · cases stepped
          exact .refl state.heap
        · split_ifs at stepped <;> cases stepped
          · exact CountedHeap.later_copy _ _
          · exact .refl _
      · cases stepped
  | answer call =>
      simp only [SharedEntries.step] at stepped
      split at stepped <;> cases stepped
      exact CountedHeap.later_dropAll _ _
  | copyHandle handle =>
      simp only [SharedEntries.step] at stepped
      split_ifs at stepped
      cases stepped
      exact CountedHeap.later_copy _ _
  | dropHandle handle =>
      simp only [SharedEntries.step] at stepped
      split_ifs at stepped
      cases stepped
      exact CountedHeap.later_drop _ _

/-- What there is a pointer to is alive. -/
theorem Valid.alive
    {state : State Key EntryT Constraint}
    (valid : Valid state)
    {entry : Nat}
    (present : entry ∈ state.pointers) :
    ∃ value, state.heap.value entry = some value := by
  obtain ⟨value, count, isLive⟩ := valid.counts.live_of_mem present
  exact ⟨value, by rw [CountedHeap.value, isLive]; rfl⟩

/-- In every run of reloads, some of which may fail, of lookups and of callers
that copy and drop what they were given, interleaved in any way: no entry is used
after it was destroyed, none is destroyed twice, and those that are not are the
ones that somebody has a pointer to. What a caller still holds is as it was when
it was given, and what is found under a key is what a cache of values finds
after a reload from the rows that the last reload read. -/
theorem entries_owned
    {predicate : Constraint → EntryT → Bool}
    {earlier later : List (Event Key EntryT Constraint)}
    {state final : State Key EntryT Constraint}
    (ranEarlier : (cache predicate).run (cache predicate).initial earlier =
      some state)
    (ranLater : (cache predicate).run state later = some final) :
    final.heap.misused = false ∧
    final.heap.destroyed.Nodup ∧
    (∀ entry, entry < final.heap.next →
      (entry ∉ final.heap.destroyed ↔ entry ∈ final.pointers)) ∧
    (∀ handle ∈ state.handles, handle ∈ final.handles → ∃ entry,
      state.heap.value handle = some entry ∧
        final.heap.value handle = some entry) ∧
    ∀ key, (final.map.lookupDataEntry key).bind final.heap.value =
      (⟨CacheData.fill {} final.rows, predicate⟩ :
        CacheData Key EntryT Constraint).lookup key := by
  have validEarlier := valid_of_run ranEarlier
  have valid : Valid final := (cache predicate).invariant_of_run Valid
    Valid.step validEarlier ranLater
  have since : state.heap.Later final.heap := by
    refine (cache predicate).invariant_of_run
      (fun reached => state.heap.Later reached.heap) ?_ (.refl _) ranLater
    intro reached event next before stepped
    exact before.trans (later_step stepped)
  refine ⟨valid.counts.neverMisused, valid.counts.once, ?_, ?_, ?_⟩
  · intro entry inRange
    rw [valid.counts.gone, not_and]
    constructor
    · intro notGone
      cases isLive : final.heap.objects.live entry with
      | none => exact absurd isLive (notGone inRange)
      | some object => exact valid.counts.mem_of_live isLive
    · intro present _ isDestroyed
      obtain ⟨object, count, isLive⟩ := valid.counts.live_of_mem present
      rw [isDestroyed] at isLive
      cases isLive
  · intro handle held stillHeld
    obtain ⟨entry, isLive⟩ := valid.alive
      (List.mem_append_left _ (List.mem_append_left _ stillHeld))
    have older := validEarlier.counts.lt_next
      (List.mem_append_left _ (List.mem_append_left _ held))
    exact ⟨entry, since.value_eq older isLive, isLive⟩
  · intro key
    rw [CacheData.lookup_fill]
    exact valid.reads key

end Entries

/-- Two rows with one key are read, and what is cached is looked up. -/
def reloadAndLookup : List (Event Nat (Nat × Nat) Unit) :=
  [.reload, .row 0 (1, 10), .row 0 (1, 11), .copy 0, .swap 0, .finish 0,
    .lookup 1]

/-- The entry is updated in the table, and the cache is reloaded. -/
def reloadAgain : List (Event Nat (Nat × Nat) Unit) :=
  [.reload, .row 1 (1, 20), .copy 1, .swap 1, .finish 1]

/-- The entry that was looked up outlives the reload. -/
theorem entries_owned_update :
    let cached : System (State Nat (Nat × Nat) Unit) _ := cache fun _ _ => true
    ∃ state final,
      cached.run cached.initial reloadAndLookup = some state ∧
      cached.run state reloadAgain = some final ∧
      final.handles = [0] ∧
      final.heap.misused = false ∧
      final.heap.destroyed.Nodup ∧
      (∀ entry, entry < final.heap.next →
        (entry ∉ final.heap.destroyed ↔ entry ∈ final.pointers)) ∧
      (∀ handle ∈ state.handles, handle ∈ final.handles → ∃ entry,
        state.heap.value handle = some entry ∧
          final.heap.value handle = some entry) ∧
      ∀ key, (final.map.lookupDataEntry key).bind final.heap.value =
        (⟨CacheData.fill {} final.rows, fun _ _ => true⟩ :
          CacheData Nat (Nat × Nat) Unit).lookup key := by
  intro cached
  obtain ⟨state, final, ranEarlier, ranLater, held⟩ :
      ∃ state final,
        cached.run cached.initial reloadAndLookup = some state ∧
        cached.run state reloadAgain = some final ∧
        final.handles = [0] := ⟨_, _, rfl, rfl, rfl⟩
  exact ⟨state, final, ranEarlier, ranLater, held,
    entries_owned ranEarlier ranLater⟩

end SharedEntries
end Cache
end ModernCommon
