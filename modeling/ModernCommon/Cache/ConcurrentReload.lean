import Mathlib.Logic.Function.Basic
import ModernCommon.Cache.CacheData
import ModernCommon.Library.System

/-!
# Concurrent reloads of one cache

Any number of threads call `reload()` on one `CacheData` while the table
changes. A reload reads the table once into a map of its own, copies that map
and moves the copy in place under the cache's lock; between these steps the
other threads and the table move as they like. Nothing orders the swaps as the
reads were ordered.
-/

namespace ModernCommon
namespace Cache
namespace ConcurrentReload

open Data Library

variable {ThreadId Key EntryT : Type} [DecidableEq ThreadId] [LinearOrder Key]
variable [Entry EntryT Key]

/-- How far a thread is in `CacheData::reload`, with its local variables. -/
inductive Phase (Key EntryT : Type) [LinearOrder Key]
  | idle
  | called
  | filled (fresh : SynchronizedMap Key EntryT)
  | copied (snapshot : MapType Key EntryT)
  | swapped

/-- The table's rows, the map of the cache, and where its callers are. -/
structure State (ThreadId Key EntryT : Type) [LinearOrder Key] where
  rows : List EntryT
  map : SynchronizedMap Key EntryT := {}
  phase : ThreadId → Phase Key EntryT := fun _ => .idle

/-- What happens next: the table is modified, or a thread goes on. -/
inductive Event (ThreadId EntryT : Type)
  | modify (rows : List EntryT)
  | call (thread : ThreadId)
  | query (thread : ThreadId)
  | copy (thread : ThreadId)
  | swap (thread : ThreadId)
  | finish (thread : ThreadId)
  deriving DecidableEq

/-- A thread goes on to its next phase. -/
def State.enter
    (state : State ThreadId Key EntryT)
    (thread : ThreadId)
    (phase : Phase Key EntryT) : State ThreadId Key EntryT :=
  { state with phase := Function.update state.phase thread phase }

/-- One step of `CacheData::reload` by one thread, or a modified table. -/
def step (state : State ThreadId Key EntryT) :
    Event ThreadId EntryT → Option (State ThreadId Key EntryT)
  | .modify rows => some { state with rows := rows }
  | .call thread =>
      match state.phase thread with
      | .idle => some (state.enter thread .called)
      | _ => none
  | .query thread =>
      match state.phase thread with
      | .called =>
          some (state.enter thread (.filled (CacheData.fill {} state.rows)))
      | _ => none
  | .copy thread =>
      match state.phase thread with
      | .filled fresh => some (state.enter thread (.copied fresh.copyOut))
      | _ => none
  | .swap thread =>
      match state.phase thread with
      | .copied snapshot =>
          some { state.enter thread .swapped with
            map := state.map.moveIn snapshot }
      | _ => none
  | .finish thread =>
      match state.phase thread with
      | .swapped => some (state.enter thread .idle)
      | _ => none

/-- An empty cache in front of an empty table, and no reload in progress. -/
def reloads : System (State ThreadId Key EntryT) (Event ThreadId EntryT) where
  initial := { rows := [] }
  step := step

/-- No reload is in progress. -/
def State.Quiet (state : State ThreadId Key EntryT) : Prop :=
  ∀ thread, state.phase thread = .idle

/-- All that a step can do. -/
inductive Effect (state : State ThreadId Key EntryT) :
    Event ThreadId EntryT → State ThreadId Key EntryT → Prop
  | modify {rows} :
      Effect state (.modify rows) { state with rows := rows }
  | call {thread}
      (free : state.phase thread = .idle) :
      Effect state (.call thread) (state.enter thread .called)
  | query {thread}
      (inside : state.phase thread = .called) :
      Effect state (.query thread)
        (state.enter thread (.filled (CacheData.fill {} state.rows)))
  | copy {thread fresh}
      (inside : state.phase thread = .filled fresh) :
      Effect state (.copy thread) (state.enter thread (.copied fresh.copyOut))
  | swap {thread snapshot}
      (inside : state.phase thread = .copied snapshot) :
      Effect state (.swap thread)
        { state.enter thread .swapped with map := state.map.moveIn snapshot }
  | finish {thread}
      (inside : state.phase thread = .swapped) :
      Effect state (.finish thread) (state.enter thread .idle)

theorem effect_of_step
    {state next : State ThreadId Key EntryT}
    {event : Event ThreadId EntryT}
    (stepped : step state event = some next) :
    Effect state event next := by
  cases event with
  | modify rows =>
      cases stepped
      exact .modify
  | call thread =>
      simp only [step] at stepped
      split at stepped <;> cases stepped
      next inside => exact .call inside
  | query thread =>
      simp only [step] at stepped
      split at stepped <;> cases stepped
      next inside => exact .query inside
  | copy thread =>
      simp only [step] at stepped
      split at stepped <;> cases stepped
      next inside => exact .copy inside
  | swap thread =>
      simp only [step] at stepped
      split at stepped <;> cases stepped
      next inside => exact .swap inside
  | finish thread =>
      simp only [step] at stepped
      split at stepped <;> cases stepped
      next inside => exact .finish inside

/-! ## One thread alone -/

/-- Undisturbed, the steps are `CacheData::reload`. -/
theorem run_alone
    {table : Table ε W Key EntryT}
    {start : State ThreadId Key EntryT}
    (delivers : Delivers table start.rows)
    (predicate : Constraint → EntryT → Bool)
    (world : W)
    (outer : τ)
    (thread : ThreadId)
    (free : start.phase thread = .idle) :
    ∃ reloaded : CacheData Key EntryT Constraint,
      (CacheData.reload table).run (world, outer, ⟨start.map, predicate⟩) =
          .ok () (world, outer, reloaded) ∧
        reloads.run start
            [.call thread, .query thread, .copy thread, .swap thread,
              .finish thread] =
          some { start with map := reloaded.map } := by
  refine ⟨_, CacheData.reload_run delivers world outer _, ?_⟩
  have returned : Function.update start.phase thread .idle = start.phase := by
    rw [← free, Function.update_eq_self]
  simp [System.run, reloads, step, State.enter, free, returned]

/-! ## What a reload has read -/

/-- The contents are the table's at some instant of `later`, which happened
after `earlier`. -/
def ReadDuring
    (start : State ThreadId Key EntryT)
    (earlier later : List (Event ThreadId EntryT))
    (contents : SynchronizedMap Key EntryT) : Prop :=
  reloads.During start earlier later fun seen =>
    contents = CacheData.fill {} seen.rows

/-- The contents were read from the table since the thread last called
`reload()`. -/
def Fetched
    (start : State ThreadId Key EntryT)
    (thread : ThreadId)
    (history : List (Event ThreadId EntryT))
    (contents : SynchronizedMap Key EntryT) : Prop :=
  ∃ earlier since,
    history = earlier ++ .call thread :: since ∧
      .call thread ∉ since ∧
      ReadDuring start (earlier ++ [.call thread]) since contents

/-- The contents were fetched by the reload that swapped last. -/
def SwappedLast
    (start : State ThreadId Key EntryT)
    (history : List (Event ThreadId EntryT))
    (contents : SynchronizedMap Key EntryT) : Prop :=
  ∃ before thread later,
    history = before ++ .swap thread :: later ∧
      (∀ other, .swap other ∉ later) ∧
      Fetched start thread before contents

theorem Fetched.extend
    {start : State ThreadId Key EntryT}
    {thread : ThreadId}
    {history : List (Event ThreadId EntryT)}
    {contents : SynchronizedMap Key EntryT}
    (fetched : Fetched start thread history contents)
    {event : Event ThreadId EntryT}
    (otherwise : event ≠ .call thread) :
    Fetched start thread (history ++ [event]) contents := by
  obtain ⟨earlier, since, rfl, last, read⟩ := fetched
  refine ⟨earlier, since ++ [event], by simp, ?_,
    System.During.extend read [event]⟩
  simp [last, otherwise.symm]

theorem SwappedLast.extend
    {start : State ThreadId Key EntryT}
    {history : List (Event ThreadId EntryT)}
    {contents : SynchronizedMap Key EntryT}
    (swappedLast : SwappedLast start history contents)
    {event : Event ThreadId EntryT}
    (otherwise : ∀ other, event ≠ .swap other) :
    SwappedLast start (history ++ [event]) contents := by
  obtain ⟨before, thread, later, rfl, last, fetched⟩ := swappedLast
  refine ⟨before, thread, later ++ [event], by simp, ?_, fetched⟩
  intro other
  simp [last other, (otherwise other).symm]

/-! ## Every run -/

/-- The map a thread holds between its read and its swap. -/
def Phase.contents : Phase Key EntryT → Option (SynchronizedMap Key EntryT)
  | .filled fresh => some fresh
  | .copied snapshot => some ⟨⟨snapshot⟩⟩
  | _ => none

/-- The thread has yet to swap. -/
def Phase.BeforeSwap (phase : Phase Key EntryT) : Prop :=
  phase = .called ∨ phase.contents.isSome

/-- What the history says about the maps in the cache and in the threads. -/
structure Traced
    (start : State ThreadId Key EntryT)
    (history : List (Event ThreadId EntryT))
    (state : State ThreadId Key EntryT) : Prop where
  called : ∀ thread, state.phase thread = .called →
    ∃ earlier since,
      history = earlier ++ .call thread :: since ∧ .call thread ∉ since
  fetched : ∀ thread contents,
    (state.phase thread).contents = some contents →
      Fetched start thread history contents
  swapped : ∀ thread, .swap thread ∈ history →
    SwappedLast start history state.map
  pending : ∀ thread, .call thread ∈ history →
    .swap thread ∈ history ∨ (state.phase thread).BeforeSwap

/-- Before anything has happened no reload is known. -/
theorem Traced.of_quiet
    {start : State ThreadId Key EntryT}
    (quiet : start.Quiet) :
    Traced start [] start where
  called thread inside := by simp [quiet thread] at inside
  fetched thread contents inside := by simp [quiet thread, Phase.contents] at inside
  swapped := by simp
  pending := by simp

theorem Traced.modify
    {start state : State ThreadId Key EntryT}
    {history : List (Event ThreadId EntryT)}
    (traced : Traced start history state)
    (rows : List EntryT) :
    Traced start (history ++ [.modify rows]) { state with rows := rows } where
  called thread inside := by
    obtain ⟨earlier, since, rfl, last⟩ := traced.called thread inside
    exact ⟨earlier, since ++ [.modify rows], by simp, by simp [last]⟩
  fetched thread contents inside :=
    (traced.fetched thread contents inside).extend (by simp)
  swapped thread earlier := by
    have before : .swap thread ∈ history := by simpa using earlier
    exact (traced.swapped thread before).extend (by simp)
  pending thread earlier := by
    have before : .call thread ∈ history := by simpa using earlier
    simpa using traced.pending thread before

/-- A thread going on leaves the others where they are: only what it enters and
what it leaves in the cache is new. -/
theorem Traced.enter
    {start state : State ThreadId Key EntryT}
    {history : List (Event ThreadId EntryT)}
    (traced : Traced start history state)
    {event : Event ThreadId EntryT}
    {thread : ThreadId}
    {phase : Phase Key EntryT}
    {map : SynchronizedMap Key EntryT}
    (own : ∀ other, event = .call other → other = thread)
    (called : phase = .called → event = .call thread)
    (fetched : ∀ contents, phase.contents = some contents →
      Fetched start thread (history ++ [event]) contents)
    (swapped : SwappedLast start (history ++ [event]) map ∨
      (∀ other, event ≠ .swap other) ∧ map = state.map)
    (pending : .call thread ∈ history ++ [event] →
      .swap thread ∈ history ++ [event] ∨ phase.BeforeSwap) :
    Traced start (history ++ [event])
      { state.enter thread phase with map := map } where
  called other inside := by
    by_cases same : other = thread
    · subst same
      have entered : phase = .called := by simpa [State.enter] using inside
      exact ⟨history, [], by simp [called entered], by simp⟩
    · have stayed : state.phase other = .called := by
        simpa [State.enter, same] using inside
      obtain ⟨earlier, since, rfl, last⟩ := traced.called other stayed
      refine ⟨earlier, since ++ [event], by simp, ?_⟩
      have otherwise : .call other ≠ event := fun calls =>
        same (own other calls.symm)
      simp [last, otherwise]
  fetched other contents inside := by
    by_cases same : other = thread
    · subst same
      exact fetched contents (by simpa [State.enter] using inside)
    · have stayed : (state.phase other).contents = some contents := by
        simpa [State.enter, same] using inside
      exact (traced.fetched other contents stayed).extend fun calls =>
        same (own other calls)
  swapped other earlier := by
    rcases swapped with here | ⟨otherwise, rfl⟩
    · exact here
    · have before : .swap other ∈ history := by
        simpa [(otherwise other).symm] using earlier
      exact (traced.swapped other before).extend otherwise
  pending other earlier := by
    by_cases same : other = thread
    · subst same
      simpa [State.enter] using pending earlier
    · have otherwise : .call other ≠ event := fun calls =>
        same (own other calls.symm)
      have before : .call other ∈ history := by
        simpa [otherwise] using earlier
      rcases traced.pending other before with swappedBefore | stayed
      · exact .inl (List.mem_append_left _ swappedBefore)
      · right
        simpa [State.enter, same] using stayed

/-- Every step keeps the account of the history. -/
theorem Traced.step
    {start state next : State ThreadId Key EntryT}
    {history : List (Event ThreadId EntryT)}
    {event : Event ThreadId EntryT}
    (ran : reloads.run start history = some state)
    (traced : Traced start history state)
    (effect : Effect state event next) :
    Traced start (history ++ [event]) next := by
  cases effect with
  | modify => exact traced.modify _
  | call free =>
      exact traced.enter (by simp) (by simp) (by simp [Phase.contents])
        (.inr ⟨by simp, rfl⟩) (by simp [Phase.BeforeSwap])
  | query inside =>
      obtain ⟨earlier, since, rfl, last⟩ := traced.called _ inside
      refine traced.enter (by simp) (by simp) ?_ (.inr ⟨by simp, rfl⟩)
        (by simp [Phase.BeforeSwap, Phase.contents])
      intro contents entered
      cases entered
      refine Fetched.extend ⟨earlier, since, rfl, last, ?_⟩ (by simp)
      refine System.During.now ?_ rfl
      rw [← List.append_cons]
      exact ran
  | @copy thread fresh inside =>
      refine traced.enter (by simp) (by simp) ?_ (.inr ⟨by simp, rfl⟩)
        (by simp [Phase.BeforeSwap, Phase.contents])
      intro contents entered
      cases entered
      apply (traced.fetched thread fresh ?_).extend (by simp)
      rw [inside, Phase.contents]
  | @swap thread snapshot inside =>
      refine traced.enter (by simp) (by simp) (by simp [Phase.contents])
        (.inl ⟨history, thread, [], rfl, by simp, ?_⟩) (by simp)
      apply traced.fetched thread
      rw [inside, Phase.contents]
      rfl
  | @finish thread inside =>
      refine traced.enter (by simp) (by simp) (by simp [Phase.contents])
        (.inr ⟨by simp, rfl⟩) ?_
      intro earlier
      have before : .call thread ∈ history := by simpa using earlier
      have away := traced.pending thread before
      simpa [inside, Phase.BeforeSwap, Phase.contents] using away

/-- Every run from a quiet state keeps the account. -/
theorem traced_of_run
    {start final : State ThreadId Key EntryT}
    (quiet : start.Quiet)
    {events : List (Event ThreadId EntryT)}
    (ran : reloads.run start events = some final) :
    Traced start events final := by
  apply reloads.history_of_run (Traced start) (Traced.of_quiet quiet) ?_ ran
  intro history state event next before traced stepped
  exact traced.step before (effect_of_step stepped)

/-! ## When every reload has returned -/

/-- What was read by a run from a later state was read by the whole run. -/
theorem SwappedLast.readDuring
    {start middle : State ThreadId Key EntryT}
    {earlier later : List (Event ThreadId EntryT)}
    {thread : ThreadId}
    {contents : SynchronizedMap Key EntryT}
    (ran : reloads.run start earlier = some middle)
    (swappedLast : SwappedLast middle (.call thread :: later) contents) :
    ReadDuring start (earlier ++ [.call thread]) later contents := by
  obtain ⟨before, swapping, rest, split, _, fetched⟩ := swappedLast
  obtain ⟨waited, since, rfl, _, instant, unread, seen, rfl, read, same⟩ :=
    fetched
  -- The instant lies after the first event of the run, which is the call.
  have instantAfterCall : ∃ between after,
      waited ++ [.call swapping] ++ instant = .call thread :: between ∧
        between ++ after = later := by
    cases waited with
    | nil =>
        simp only [List.nil_append, List.cons_append, List.append_assoc,
          List.cons.injEq] at split
        exact ⟨instant, unread ++ .swap swapping :: rest, by simp [split.1],
          by simp [split.2]⟩
    | cons first waited =>
        simp only [List.cons_append, List.append_assoc,
          List.cons.injEq] at split
        exact ⟨waited ++ [.call swapping] ++ instant,
          unread ++ .swap swapping :: rest, by simp [split.1],
          by simp [split.2]⟩
  obtain ⟨between, after, instantIs, remains⟩ := instantAfterCall
  refine ⟨between, after, seen, remains, ?_, same⟩
  rw [instantIs] at read
  rw [List.append_assoc, List.singleton_append, System.run_append_eq_some]
  exact ⟨middle, ran, read⟩

/-- A reload that has returned has swapped. -/
theorem Traced.swappedLast
    {start final : State ThreadId Key EntryT}
    {history : List (Event ThreadId EntryT)}
    (traced : Traced start history final)
    (returned : final.Quiet)
    {thread : ThreadId}
    (called : .call thread ∈ history) :
    SwappedLast start history final.map := by
  rcases traced.pending thread called with swapped | inside
  · exact traced.swapped thread swapped
  · simp [returned thread, Phase.BeforeSwap, Phase.contents] at inside

/-- Once every reload has returned the cache holds what the table held at some
instant of the reload that swapped last, and is no older than any reload that
was called while no other was in progress. -/
theorem map_of_run
    {start final : State ThreadId Key EntryT}
    {events : List (Event ThreadId EntryT)}
    (quiet : start.Quiet)
    (ran : reloads.run start events = some final)
    (returned : final.Quiet) :
    (∀ thread, .call thread ∈ events →
        SwappedLast start events final.map) ∧
      ∀ earlier thread later atCall,
        events = earlier ++ .call thread :: later →
        reloads.run start earlier = some atCall →
        atCall.Quiet →
        ReadDuring start (earlier ++ [.call thread]) later final.map := by
  constructor
  · intro thread called
    exact (traced_of_run quiet ran).swappedLast returned called
  · intro earlier thread later atCall split before alone
    obtain ⟨between, ranBefore, rest⟩ :=
      (reloads.run_append_eq_some start final earlier _).mp (split ▸ ran)
    rw [before] at ranBefore
    cases ranBefore
    have called : Event.call thread ∈ .call thread :: later := by simp
    apply SwappedLast.readDuring before
    exact (traced_of_run alone rest).swappedLast returned called

/-! ## A slow reload -/

/-- Only a modification changes the rows. -/
theorem rows_of_effect
    {state next : State ThreadId Key EntryT}
    {event : Event ThreadId EntryT}
    (effect : Effect state event next)
    (otherwise : ∀ rows, event ≠ .modify rows) :
    next.rows = state.rows := by
  cases effect with
  | modify => exact absurd rfl (otherwise _)
  | call | query | copy | swap | finish => rfl

theorem rows_of_run
    {state final : State ThreadId Key EntryT}
    {events : List (Event ThreadId EntryT)}
    (ran : reloads.run state events = some final)
    (otherwise : ∀ rows, .modify rows ∉ events) :
    final.rows = state.rows := by
  induction events generalizing state with
  | nil =>
      cases ran
      rfl
  | cons event events inductionHypothesis =>
      obtain ⟨next, stepped, rest⟩ :=
        (reloads.run_cons_eq_some state final event events).mp ran
      rw [inductionHypothesis rest fun rows later =>
        otherwise rows (List.mem_cons_of_mem event later)]
      apply rows_of_effect (effect_of_step stepped)
      intro rows same
      exact otherwise rows (by simp [same])

/-- A table that is empty when a first reload reads it. -/
def emptyTable : State Nat Nat (Nat × Nat) := { rows := [] }

/-- The first reload reads the empty table. -/
def untilModified : List (Event Nat (Nat × Nat)) :=
  [.call 0, .query 0, .modify [(1, 1)]]

/-- A second reload comes and goes before the first one goes on. -/
def afterSecondCall : List (Event Nat (Nat × Nat)) :=
  [.query 1, .copy 1, .swap 1, .finish 1, .copy 0, .swap 0, .finish 0]

/-- The older read is swapped in last. -/
theorem slowReload_ran :
    ∃ final,
      reloads.run emptyTable (untilModified ++ .call 1 :: afterSecondCall) =
          some final ∧
        final.Quiet ∧ final.map.size = 0 := by
  refine ⟨_, rfl, ?_, rfl⟩
  intro thread
  by_cases first : thread = 0
  · subst first
    rfl
  · by_cases second : thread = 1
    · subst second
      rfl
    · simp [State.enter, emptyTable, first, second]

theorem map_of_run_slowReload :
    ∃ final,
      reloads.run emptyTable (untilModified ++ .call 1 :: afterSecondCall) =
          some final ∧
        SwappedLast emptyTable (untilModified ++ .call 1 :: afterSecondCall)
          final.map ∧
        ReadDuring emptyTable [.call 0]
          (.query 0 :: .modify [(1, 1)] :: .call 1 :: afterSecondCall)
          final.map := by
  obtain ⟨final, ran, returned, _⟩ := slowReload_ran
  have quiet : emptyTable.Quiet := fun _ => rfl
  have known := map_of_run quiet ran returned
  exact ⟨final, ran, known.1 0 (by decide),
    known.2 [] 0 _ emptyTable rfl rfl quiet⟩

/-- Swaps may come in the other order than calls: the cache is then older than
the newest reload. -/
theorem not_readDuring_slowReload :
    ¬ ∀ (start final : State Nat Nat (Nat × Nat))
        (events earlier later : List (Event Nat (Nat × Nat)))
        (thread : Nat),
      start.Quiet →
      reloads.run start events = some final →
      final.Quiet →
      events = earlier ++ .call thread :: later →
      (∀ other, .call other ∉ later) →
      ReadDuring start (earlier ++ [.call thread]) later final.map := by
  intro claimed
  obtain ⟨final, ran, returned, empty⟩ := slowReload_ran
  have read := claimed emptyTable final _ untilModified afterSecondCall 1
    (fun _ => rfl) ran returned rfl (by intro other; simp [afterSecondCall])
  obtain ⟨instant, rest, seen, split, reached, same⟩ := read
  obtain ⟨modified, before, since⟩ :=
    (reloads.run_append_eq_some emptyTable seen _ instant).mp reached
  have unmodified : ∀ rows, .modify rows ∉ instant := by
    intro rows inside
    have later : .modify rows ∈ afterSecondCall := by
      rw [← split]
      exact List.mem_append_left rest inside
    simp [afterSecondCall] at later
  have seenRows : seen.rows = [(1, 1)] := by
    rw [rows_of_run since unmodified]
    cases before
    rfl
  rw [same, SynchronizedMap.size_eq, CacheData.fill_size, seenRows] at empty
  cases empty

end ConcurrentReload
end Cache
end ModernCommon
