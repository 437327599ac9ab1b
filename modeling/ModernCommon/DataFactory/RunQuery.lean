import ModernCommon.DataFactory.Callbacks

/-!
# What a query delivers

The mapper and the callback of a query are observed from outside: a transcript
lists their calls with the arguments and how each ended. It is that of the rows
the query found, however much else the callbacks do with the connection.
-/

namespace ModernCommon
namespace DataFactory

open Library Data

variable {σ τ EntryT : Type}

/-- The beginning or the end of a call to the mapper or the callback. -/
inductive Invocation (EntryT : Type)
  | mapRow (row : MySqlRow) (lengths : List Nat)
  | mapped (entry : EntryT)
  | callback (entry : EntryT)
  | returned (more : Bool)
  | threw (failure : Failure)

/-- What the mapper and the callback of a query see of rows: each row is mapped
and its entry called back, until the rows are exhausted, the callback says stop,
or either throws; `failure` is what it throws. -/
inductive Transcript :
    List MySqlRow → List (Invocation EntryT) → Option Failure → Prop
  | exhausted : Transcript [] [] none
  | mapRowThrew (row rows failure) :
      Transcript (row :: rows)
        [.mapRow row (fetchLengths row), .threw failure] (some failure)
  | callbackThrew (row rows entry failure) :
      Transcript (row :: rows)
        [.mapRow row (fetchLengths row), .mapped entry, .callback entry,
          .threw failure]
        (some failure)
  | stopped (row rows entry) :
      Transcript (row :: rows)
        [.mapRow row (fetchLengths row), .mapped entry, .callback entry,
          .returned false]
        none
  | more (row entry) {rows calls failure} :
      Transcript rows calls failure →
      Transcript (row :: rows)
        (.mapRow row (fetchLengths row) :: .mapped entry :: .callback entry ::
          .returned true :: calls)
        failure

/-! ## Observing -/

/-- Add an invocation to the transcript. -/
def record (invocation : Invocation EntryT) :
    Program ε W ((τ × List (Invocation EntryT)) × ρ) Unit :=
  modify fun state =>
    (state.1, (state.2.1.1, state.2.1.2 ++ [invocation]), state.2.2)

/-- Run a program that knows nothing of the transcript. -/
def apart (program : Program ε W (τ × ρ) α) :
    Program ε W ((τ × κ) × ρ) α := fun state =>
  match program.run (state.1, state.2.1.1, state.2.2) with
  | .ok result (world, values, rest) =>
      .ok result (world, (values, state.2.1.2), rest)
  | .error thrown (world, values, rest) =>
      .error thrown (world, (values, state.2.1.2), rest)

/-- Run a program between records of how it was called and how it ended. -/
def transcribing
    (called : Invocation EntryT)
    (returned : α → Invocation EntryT)
    (program : Program Failure W (τ × ρ) α) :
    Program Failure W ((τ × List (Invocation EntryT)) × ρ) α := do
  record called
  match ← outcomeOf (apart program) with
  | .ok result =>
      record (returned result)
      return result
  | .error failure =>
      record (.threw failure)
      throw failure

theorem apart_run
    (program : Program ε W (τ × ρ) α)
    (world : W)
    (values : τ)
    (beside : κ)
    (rest : ρ) :
    (apart program).run (world, (values, beside), rest) =
      match program.run (world, values, rest) with
      | .ok result (world, values, rest) =>
          .ok result (world, (values, beside), rest)
      | .error thrown (world, values, rest) =>
          .error thrown (world, (values, beside), rest) := rfl

/-- The program runs as it does unobserved. -/
theorem transcribing_run
    (called : Invocation EntryT)
    (returned : α → Invocation EntryT)
    (program : Program Failure W (τ × ρ) α)
    (world : W)
    (values : τ)
    (calls : List (Invocation EntryT))
    (rest : ρ) :
    (transcribing called returned program).run (world, (values, calls), rest) =
      match program.run (world, values, rest) with
      | .ok result (world, values, rest) =>
          .ok result (world, (values, calls ++ [called, returned result]), rest)
      | .error failure (world, values, rest) =>
          .error failure
            (world, (values, calls ++ [called, .threw failure]), rest) := by
  have recorded : (record called :
      Program Failure W ((τ × List (Invocation EntryT)) × ρ) Unit).run
        (world, (values, calls), rest) =
          .ok () (world, (values, calls ++ [called]), rest) := rfl
  rw [transcribing, EStateM.run_bind, recorded]
  simp only
  rw [EStateM.run_bind, outcomeOf_run, apart_run]
  cases ran : program.run (world, values, rest) with
  | ok result reached => simp [record, -bind_pure_comp]
  | error failure reached =>
      simp only [record, EStateM.run_bind, EStateM.run_modify,
        List.append_assoc, List.singleton_append]
      rfl

/-! ## The transcript of the rows -/

/-- The calls to the mapper and the callback are a transcript of the rows, and
what one of them throws is thrown. -/
theorem fetchRows_transcript
    (mapRow : MySqlRow → List Nat → Program Failure (Client σ) (τ × ρ) EntryT)
    (cb : RowCallback Failure (Client σ) (τ × ρ) EntryT)
    (rows : List MySqlRow)
    (client : Client σ)
    (values : τ)
    (calls : List (Invocation EntryT))
    (rest : ρ) :
    ∃ more,
      (finalState ((fetchRows
        (fun row lengths =>
          transcribing (.mapRow row lengths) .mapped (mapRow row lengths))
        (fun entry => transcribing (.callback entry) .returned (cb entry))
        rows).run (client, (values, calls), rest))).2.1.2 = calls ++ more ∧
      Transcript rows more (thrown ((fetchRows
        (fun row lengths =>
          transcribing (.mapRow row lengths) .mapped (mapRow row lengths))
        (fun entry => transcribing (.callback entry) .returned (cb entry))
        rows).run (client, (values, calls), rest))) := by
  induction rows generalizing client values calls rest with
  | nil => exact ⟨[], by simp [fetchRows], .exhausted⟩
  | cons row rows inductionHypothesis =>
      rw [fetchRows, EStateM.run_bind, transcribing_run]
      cases maps : (mapRow row (fetchLengths row)).run
          (client, values, rest) with
      | error failure reached => exact ⟨_, rfl, .mapRowThrew row rows failure⟩
      | ok entry reached =>
          simp only
          rw [EStateM.run_bind, transcribing_run]
          cases answers : (cb entry).run (reached.1, reached.2.1, reached.2.2) with
          | error failure after =>
              refine ⟨_, ?_, .callbackThrew row rows entry failure⟩
              simp
          | ok more after =>
              cases more with
              | false =>
                  refine ⟨_, ?_, .stopped row rows entry⟩
                  simp
              | true =>
                  obtain ⟨later, recorded, transcript⟩ := inductionHypothesis
                    after.1 after.2.1
                    (calls ++ [.mapRow row (fetchLengths row), .mapped entry] ++
                      [.callback entry, .returned true])
                    after.2.2
                  refine ⟨_, ?_, .more row entry transcript⟩
                  simpa using recorded

/-! ## Queries -/

/-- A mapper, observed and noting the mutex. -/
def observedMapRow
    (mysql : MySqlClient σ)
    (mapRow : MySqlRow → List Nat → Script τ EntryT)
    (row : MySqlRow)
    (lengths : List Nat) :
    Program Failure (Client σ)
      ((τ × List (Invocation EntryT)) × List Bool) EntryT :=
  transcribing (.mapRow row lengths) .mapped do
    noteMutex
    (mapRow row lengths).run mysql

/-- A callback, observed and noting the mutex. -/
def observedCallback
    (mysql : MySqlClient σ)
    (cb : EntryT → Script τ Bool) :
    RowCallback Failure (Client σ)
      ((τ × List (Invocation EntryT)) × List Bool) EntryT := fun entry =>
  transcribing (.callback entry) .returned do
    noteMutex
    (cb entry).run mysql

/-- A transcript as the beginning of a query explains it: of the rows of its
result set, or none without one. -/
def Delivered
    (opened : EStateM.Result Failure (Client σ) (Option MySqlRes))
    (calls : List (Invocation EntryT))
    (failure : Option Failure) : Prop :=
  match opened with
  | .ok (some result) _ => Transcript result.rows calls failure
  | .ok none _ => calls = [] ∧ failure = none
  | .error failed _ => calls = [] ∧ failure = some failed

theorem orderly_apart
    {program : Program Failure (Client σ) (τ × List Bool) α}
    (orderly : Keeps Orderly program) :
    Keeps Orderly (apart program :
      Program Failure (Client σ) ((τ × κ) × List Bool) α) := by
  rintro ⟨client, ⟨values, beside⟩, notes⟩ unlocked free
  have kept := orderly (client, values, notes) unlocked free
  rw [apart_run]
  cases ran : program.run (client, values, notes) with
  | ok result reached =>
      rw [ran] at kept
      exact kept
  | error failure reached =>
      rw [ran] at kept
      exact kept

theorem orderly_record (invocation : Invocation EntryT) :
    Keeps Orderly (record invocation :
      Program Failure (Client σ)
        ((τ × List (Invocation EntryT)) × List Bool) Unit) :=
  keeps_modify fun state _ free => ⟨.refl state.1, free⟩

/-- Observing adds nothing to what a program does. -/
theorem orderly_transcribing
    (called : Invocation EntryT)
    (returned : α → Invocation EntryT)
    {program : Program Failure (Client σ) (τ × List Bool) α}
    (orderly : Keeps Orderly program) :
    Keeps Orderly (transcribing called returned program) := by
  apply keeps_bind (orderly_record called)
  intro _
  apply keeps_bind (keeps_outcomeOf (orderly_apart orderly))
  intro outcome
  cases outcome with
  | ok result =>
      exact keeps_bind (orderly_record _) fun _ => keeps_pure result
  | error failure =>
      exact keeps_bind (orderly_record _) fun _ => keeps_throw failure

theorem orderly_observed
    (mysql : MySqlClient σ)
    (script : Script τ α)
    (called : Invocation EntryT)
    (returned : α → Invocation EntryT) :
    Keeps Orderly (transcribing called returned do
      noteMutex
      script.run mysql) := by
  apply orderly_transcribing
  exact keeps_bind orderly_noteMutex fun _ => script.run_orderly mysql

/-- Begun with an empty transcript, the delivery of rows leaves theirs. -/
theorem fetchRows_observed
    (mysql : MySqlClient σ)
    (mapRow : MySqlRow → List Nat → Script τ EntryT)
    (cb : EntryT → Script τ Bool)
    (rows : List MySqlRow)
    (client : Client σ)
    (values : τ) :
    Transcript rows
      (finalState ((fetchRows (observedMapRow mysql mapRow)
        (observedCallback mysql cb) rows).run
          (client, (values, []), []))).2.1.2
      (thrown ((fetchRows (observedMapRow mysql mapRow)
        (observedCallback mysql cb) rows).run
          (client, (values, []), []))) := by
  obtain ⟨calls, recorded, transcript⟩ := fetchRows_transcript
    (fun row lengths => do
      noteMutex
      (mapRow row lengths).run mysql)
    (fun entry => do
      noteMutex
      (cb entry).run mysql)
    rows client values [] []
  rw [List.nil_append] at recorded
  rw [← recorded] at transcript
  exact transcript

/-- A thread that holds the query mutex already gets no result set. -/
theorem executeQuery_run_of_locked
    (mysql : MySqlClient σ)
    (factory : DataFactory)
    (query : Bytes)
    {client : Client σ}
    (locked : client.queryMutex = true) :
    ∃ failure, (factory.executeQuery mysql query).run client =
      .error failure client := by
  cases isConnection : factory.connection with
  | none =>
      rw [executeQuery, EStateM.run_bind,
        requireConnection_run_of_none isConnection]
      exact ⟨_, rfl⟩
  | some connection =>
      rw [executeQuery, EStateM.run_bind,
        requireConnection_run (by simp [isConnection])]
      refine ⟨.deadlock, ?_⟩
      simp [lockGuard, EStateM.run, locked]

/-- A query delivers the rows it found when it was sent, in order, until the
callback says stop or something throws, and hands that exception on. Whatever
statements and queries its callbacks run meanwhile, the query mutex is free
whenever one of them begins, and each result set handed out is freed once. -/
theorem runQuery_delivers
    (mysql : MySqlClient σ)
    (factory : DataFactory)
    (sql : Bytes)
    (mapRow : MySqlRow → List Nat → Script τ EntryT)
    (cb : EntryT → Script τ Bool)
    (client : Client σ)
    (values : τ) :
    ∃ opened ended,
      opened = (factory.executeQuery mysql sql).run client ∧
      ended = (runQuery mysql factory sql (observedMapRow mysql mapRow)
        (observedCallback mysql cb)).run (client, (values, []), []) ∧
      Delivered opened (finalState ended).2.1.2 (thrown ended) ∧
      (∀ held ∈ (finalState ended).2.2, held = false) ∧
      Released client (finalState ended).1 := by
  refine ⟨_, _, rfl, rfl, ?_, ?_⟩
  · rw [runQuery_run_eq]
    cases opened : (factory.executeQuery mysql sql).run client with
    | error failure reached => exact ⟨rfl, rfl⟩
    | ok obtained reached =>
        cases obtained with
        | none => exact ⟨rfl, rfl⟩
        | some result =>
            simp only
            have observed := fetchRows_observed mysql mapRow cb result.rows
              reached values
            cases delivered : (fetchRows (observedMapRow mysql mapRow)
                (observedCallback mysql cb) result.rows).run
                  (reached, (values, []), []) with
            | ok done state =>
                rw [delivered] at observed
                exact observed
            | error failure state =>
                rw [delivered] at observed
                exact observed
  · cases locked : client.queryMutex with
    | true =>
        obtain ⟨failure, threw⟩ :=
          executeQuery_run_of_locked mysql factory sql locked
        rw [runQuery_run_eq, threw]
        exact ⟨by simp, .refl client⟩
    | false =>
        have orderly := orderly_runQuery mysql factory sql
          (fun row lengths => orderly_observed mysql (mapRow row lengths)
            (.mapRow row lengths) .mapped)
          (fun entry => orderly_observed mysql (cb entry) (.callback entry)
            .returned)
        have kept := orderly (client, (values, []), []) locked (by simp)
        exact ⟨kept.2, kept.1⟩

end DataFactory
end ModernCommon
