import ModernCommon.DataFactory.Endings

/-!
# What callbacks do

A row mapper or a callback may assign to the variables in scope, throw, and run
further statements and queries on the connection, whose callbacks may do the
same. A script is the finite tree of what one call of it does; what comes after
a statement depends on how that ended, so an exception can be caught.
-/

namespace ModernCommon
namespace DataFactory

open Library Data

/-- What a mapper or a callback does until it returns or throws. -/
inductive Script (τ : Type) : Type → Type 1
  | done {α : Type} (result : α) : Script τ α
  | throw {α : Type} (failure : Failure) : Script τ α
  /-- Read the variables in scope and assign to them. -/
  | access {α : Type} (assign : τ → τ) (next : τ → Script τ α) : Script τ α
  | executeModificationSql {α : Type}
      (factory : DataFactory)
      (query : Bytes)
      (next : Except Failure Unit → Script τ α) : Script τ α
  /-- `executeQuery`, and `mysql_free_result` of what it returned. -/
  | executeQuery {α : Type}
      (factory : DataFactory)
      (query : Bytes)
      (next : Except Failure (Option (List MySqlRow)) → Script τ α) :
      Script τ α
  | runQuery {α EntryT : Type}
      (factory : DataFactory)
      (sql : Bytes)
      (mapRow : MySqlRow → List Nat → Script τ EntryT)
      (cb : EntryT → Script τ Bool)
      (next : Except Failure Unit → Script τ α) : Script τ α

/-- Fetch all rows and free the result set, as callers of `executeQuery` do. -/
def executeQueryAndFree
    (mysql : MySqlClient σ)
    (factory : DataFactory)
    (query : Bytes) : ClientM σ (Option (List MySqlRow)) := do
  match ← factory.executeQuery mysql query with
  | none => return none
  | some result =>
      mysqlFreeResult result
      return some result.rows

/-- Ghost: note whether the query mutex is held. -/
def noteMutex : Program ε (Client σ) (τ × List Bool) Unit :=
  modify fun state =>
    (state.1, state.2.1, state.2.2 ++ [state.1.queryMutex])

/-- Run a script. Every mapper and callback of a query notes the mutex as it
begins. -/
def Script.run (mysql : MySqlClient σ) :
    {α : Type} → Script τ α → Program Failure (Client σ) (τ × List Bool) α
  | _, .done result => pure result
  | _, .throw failure => MonadExcept.throw failure
  | _, .access assign next => do
      let values := (← get).2.1
      modify fun state => (state.1, assign state.2.1, state.2.2)
      (next values).run mysql
  | _, .executeModificationSql factory query next => do
      let outcome ←
        outcomeOf (onWorld (factory.executeModificationSql mysql query))
      (next outcome).run mysql
  | _, .executeQuery factory query next => do
      let outcome ← outcomeOf (onWorld (executeQueryAndFree mysql factory query))
      (next outcome).run mysql
  | _, .runQuery factory sql mapRow cb next => do
      let outcome ← outcomeOf (DataFactory.runQuery mysql factory sql
        (fun row lengths => do noteMutex; (mapRow row lengths).run mysql)
        (fun entry => do noteMutex; (cb entry).run mysql))
      (next outcome).run mysql

variable {σ τ : Type}

/-! ## Result sets are freed -/

/-- Since `client`, the result sets handed out have been freed, each of them
once, and the query mutex is as it was. -/
structure Released (client reached : Client σ) : Prop where
  queryMutex : reached.queryMutex = client.queryMutex
  results : client.results ≤ reached.results
  freed : ∃ freed, reached.freed = client.freed ++ freed ∧
    freed.Perm
      (List.range' client.results (reached.results - client.results))

namespace Released

/-- A statement without result sets. -/
theorem of_session (client : Client σ) (session : σ) :
    Released client { client with session } where
  queryMutex := rfl
  results := Nat.le_refl client.results
  freed := ⟨[], by simp⟩

theorem refl (client : Client σ) : Released client client :=
  of_session client client.session

theorem trans
    {client between reached : Client σ}
    (first : Released client between)
    (second : Released between reached) :
    Released client reached where
  queryMutex := second.queryMutex.trans first.queryMutex
  results := Nat.le_trans first.results second.results
  freed := by
    obtain ⟨before, freedBefore, permBefore⟩ := first.freed
    obtain ⟨after, freedAfter, permAfter⟩ := second.freed
    refine ⟨before ++ after, ?_, ?_⟩
    · rw [freedAfter, freedBefore, List.append_assoc]
    · have split : reached.results - client.results =
          (between.results - client.results) +
            (reached.results - between.results) := by
        have := first.results
        have := second.results
        omega
      have next : client.results + (between.results - client.results) =
          between.results := by
        have := first.results
        omega
      rw [split, ← List.range'_append_1, next]
      exact permBefore.append permAfter

/-- A result set that is handed out first and freed last. -/
theorem around
    {client reached : Client σ}
    {session : σ}
    (during : Released
      { client with session, results := client.results + 1 } reached) :
    Released client
      { reached with freed := reached.freed ++ [client.results] } where
  queryMutex := during.queryMutex
  results := Nat.le_of_succ_le during.results
  freed := by
    obtain ⟨freed, isFreed, perm⟩ := during.freed
    refine ⟨freed ++ [client.results], ?_, ?_⟩
    · simp [isFreed]
    · have more : reached.results - client.results =
          reached.results - (client.results + 1) + 1 := by
        have := during.results
        simp only at this
        omega
      rw [more, List.range'_succ]
      exact (List.perm_append_singleton _ _).trans (perm.cons _)

end Released

/-- If the query mutex is free, and was whenever a mapper or a callback began so
far, then all result sets are freed and it still was. -/
def Orderly (state reached : Client σ × (τ × List Bool)) : Prop :=
  state.1.queryMutex = false → (∀ held ∈ state.2.2, held = false) →
    Released state.1 reached.1 ∧ ∀ held ∈ reached.2.2, held = false

instance : IsPreorder (Client σ × (τ × List Bool)) Orderly where
  refl state _ free := ⟨.refl state.1, free⟩
  trans _ _ _ first second unlocked free :=
    have before := first unlocked free
    have after := second (before.1.queryMutex.trans unlocked) before.2
    ⟨before.1.trans after.1, after.2⟩

/-- What a program on the client releases, it releases in any scope. -/
theorem orderly_onWorld
    {action : ClientM σ α}
    (releases : ∀ client, client.queryMutex = false →
      Released client (finalState (action.run client))) :
    Keeps Orderly
      (onWorld action : Program Failure (Client σ) (τ × List Bool) α) := by
  rintro ⟨client, scope⟩ unlocked free
  have released := releases client unlocked
  rw [EStateM.run] at released
  unfold onWorld
  simp only [EStateM.run]
  cases ran : action client with
  | ok result reached =>
      rw [ran] at released
      exact ⟨released, free⟩
  | error failure reached =>
      rw [ran] at released
      exact ⟨released, free⟩

theorem executeModificationSql_released
    (mysql : MySqlClient σ)
    (factory : DataFactory)
    (query : Bytes)
    (client : Client σ)
    (unlocked : client.queryMutex = false) :
    Released client
      (finalState ((factory.executeModificationSql mysql query).run client)) := by
  cases isConnection : factory.connection with
  | none =>
      rw [executeModificationSql, EStateM.run_bind,
        requireConnection_run_of_none isConnection]
      exact .refl client
  | some connection =>
      have connected : factory.connection.isSome := by simp [isConnection]
      rcases executeModificationSql_ends mysql connected query unlocked with
        returned | ⟨failure, threw⟩
      · rw [returned]
        exact .of_session client _
      · rw [threw]
        exact .of_session client _

theorem executeQueryAndFree_released
    (mysql : MySqlClient σ)
    (factory : DataFactory)
    (query : Bytes)
    (client : Client σ)
    (unlocked : client.queryMutex = false) :
    Released client
      (finalState ((executeQueryAndFree mysql factory query).run client)) := by
  rw [executeQueryAndFree, EStateM.run_bind]
  obtain ⟨session, nothing | ⟨rows, stored⟩ | ⟨failure, threw⟩⟩ :=
    executeQuery_ends mysql factory query unlocked
  · rw [nothing]
    exact .of_session client session
  · rw [stored]
    exact Released.around (.refl _)
  · rw [threw]
    exact .of_session client session

/-- The mutex is free when a mapper or a callback begins. -/
theorem orderly_noteMutex :
    Keeps Orderly
      (noteMutex : Program Failure (Client σ) (τ × List Bool) Unit) := by
  apply keeps_modify
  intro state unlocked free
  refine ⟨.refl state.1, ?_⟩
  simpa [unlocked] using free

/-- Fetching rows is orderly if the mapper and the callback are. -/
theorem orderly_fetchRows
    {mapRow : MySqlRow → List Nat → Program Failure (Client σ) (τ × List Bool) EntryT}
    {cb : RowCallback Failure (Client σ) (τ × List Bool) EntryT}
    (maps : ∀ row lengths, Keeps Orderly (mapRow row lengths))
    (calls : ∀ entry, Keeps Orderly (cb entry))
    (rows : List MySqlRow) :
    Keeps Orderly (fetchRows mapRow cb rows) := by
  induction rows with
  | nil => exact keeps_pure ()
  | cons row rows inductionHypothesis =>
      apply keeps_bind (maps row (fetchLengths row))
      intro entry
      apply keeps_bind (calls entry)
      intro more
      cases more with
      | false => exact keeps_pure ()
      | true => exact inductionHypothesis

/-- A query is orderly if its mapper and its callback are. -/
theorem orderly_runQuery
    (mysql : MySqlClient σ)
    (factory : DataFactory)
    (sql : Bytes)
    {mapRow : MySqlRow → List Nat →
      Program Failure (Client σ) (τ × List Bool) EntryT}
    {cb : RowCallback Failure (Client σ) (τ × List Bool) EntryT}
    (maps : ∀ row lengths, Keeps Orderly (mapRow row lengths))
    (calls : ∀ entry, Keeps Orderly (cb entry)) :
    Keeps Orderly (runQuery mysql factory sql mapRow cb) := by
  rintro ⟨client, outer⟩ unlocked free
  rw [runQuery_run_eq]
  obtain ⟨session, nothing | ⟨rows, stored⟩ | ⟨failure, threw⟩⟩ :=
    executeQuery_ends mysql factory sql unlocked
  · rw [nothing]
    exact ⟨.of_session client session, free⟩
  · rw [stored]
    have during := orderly_fetchRows maps calls rows
      ({ client with session, results := client.results + 1 }, outer) unlocked
      free
    simp only
    cases delivered : (fetchRows mapRow cb rows).run
        ({ client with session, results := client.results + 1 }, outer) with
    | ok done state =>
        rw [delivered] at during
        exact ⟨Released.around during.1, during.2⟩
    | error failure state =>
        rw [delivered] at during
        exact ⟨Released.around during.1, during.2⟩
  · rw [threw]
    exact ⟨.of_session client session, free⟩

/-- Whatever a script does, and whichever way it ends, it is orderly. -/
theorem Script.run_orderly
    (mysql : MySqlClient σ)
    {α : Type}
    (script : Script τ α) :
    Keeps Orderly (script.run mysql) := by
  induction script with
  | done result => exact keeps_pure result
  | throw failure => exact keeps_throw failure
  | access assign next inductionHypothesis =>
      apply keeps_bind
      · exact fun state => refl_of Orderly state
      · intro state
        apply keeps_bind
        · exact keeps_modify fun state _ free => ⟨.refl state.1, free⟩
        · exact fun _ => inductionHypothesis state.2.1
  | executeModificationSql factory query next inductionHypothesis =>
      apply keeps_bind
      · exact keeps_outcomeOf (orderly_onWorld
          (executeModificationSql_released mysql factory query))
      · exact inductionHypothesis
  | executeQuery factory query next inductionHypothesis =>
      apply keeps_bind
      · exact keeps_outcomeOf (orderly_onWorld
          (executeQueryAndFree_released mysql factory query))
      · exact inductionHypothesis
  | runQuery factory sql mapRow cb next mapRowOrderly cbOrderly
      inductionHypothesis =>
      apply keeps_bind
      · apply keeps_outcomeOf
        apply orderly_runQuery
        · exact fun row lengths =>
            keeps_bind orderly_noteMutex fun _ => mapRowOrderly row lengths
        · exact fun entry =>
            keeps_bind orderly_noteMutex fun _ => cbOrderly entry
      · exact inductionHypothesis

end DataFactory
end ModernCommon
