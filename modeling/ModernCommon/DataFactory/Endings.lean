import ModernCommon.Data.Query
import ModernCommon.DataFactory.Client

/-!
# How statements end

Whatever the client library answers, a query throws, returns no result set, or
hands out the next one, and leaves all else of the client but its session. A
query with callbacks ends as the delivery of its rows does.
-/

namespace ModernCommon
namespace DataFactory

open Library Data

variable {σ τ : Type}

/-- A factory without a connection throws. -/
theorem requireConnection_run_of_none
    {factory : DataFactory}
    (unset : factory.connection = none)
    (client : Client σ) :
    factory.requireConnection.run client =
      .error (.thrown (.ServiceUnavailable (bytes "DataFactory not connected")))
        client := by
  simp [requireConnection, unset]

/-- Reporting an error changes nothing, whether it throws or not. -/
theorem processError_ends
    (mysql : MySqlClient σ)
    {factory : DataFactory}
    (connected : factory.connection.isSome)
    (errorLoc : Bytes)
    (client : Client σ) :
    (factory.processError mysql errorLoc true).run client = .ok () client ∨
      ∃ failure, (factory.processError mysql errorLoc true).run client =
        .error failure client := by
  by_cases silent : mysql.errno client.session = 0
  · left
    obtain ⟨connection, isConnection⟩ := Option.isSome_iff_exists.mp connected
    simp [processError, isConnection, connectionProcessError, silent]
  · right
    exact ⟨_, processError_run mysql connected errorLoc silent⟩

/-- The statement of `executeQuery` is sent. -/
def sending
    (mysql : MySqlClient σ)
    (factory : DataFactory)
    (query : Bytes) : ClientM σ Unit := do
  if (← mysqlRealQuery mysql query) ≠ 0 then
    factory.processError mysql (bytes "executeQuery: " ++ query) true

/-- What `executeQuery` does once its statement has been sent. -/
def storing
    (mysql : MySqlClient σ)
    (factory : DataFactory)
    (query : Bytes) : ClientM σ (Option MySqlRes) := do
  let result ← mysqlStoreResult mysql
  if result.isNone ∧ (← mysqlErrno mysql) ≠ 0 then
    factory.processError mysql (bytes "mysql_store_result: " ++ query) true
  return result

theorem executeQuery_eq
    (mysql : MySqlClient σ)
    (factory : DataFactory)
    (query : Bytes) :
    factory.executeQuery mysql query = (do
      factory.requireConnection
      lockGuard do
        sending mysql factory query
        storing mysql factory query) := by
  have sendsFirst : (do
      if (← mysqlRealQuery mysql query) ≠ 0 then
        factory.processError mysql (bytes "executeQuery: " ++ query) true
      storing mysql factory query) = (do
        sending mysql factory query
        storing mysql factory query) := by
    rw [sending, bind_assoc]
    apply bind_congr
    intro code
    split
    · rfl
    · rw [pure_bind]
  rw [← sendsFirst]
  rfl

/-- Sending a statement goes on or throws, with what the library has done. -/
theorem sending_ends
    (mysql : MySqlClient σ)
    {factory : DataFactory}
    (connected : factory.connection.isSome)
    (query : Bytes)
    (client : Client σ) :
    (sending mysql factory query).run client =
        .ok () { client with session := (mysql.realQuery query client.session).2 } ∨
      ∃ failure, (sending mysql factory query).run client =
        .error failure
          { client with session := (mysql.realQuery query client.session).2 } := by
  by_cases accepted : (mysql.realQuery query client.session).1 = 0
  · left
    simp [sending, accepted]
  · rcases processError_ends mysql connected (bytes "executeQuery: " ++ query)
      { client with session := (mysql.realQuery query client.session).2 } with
      silent | ⟨failure, threw⟩
    · left
      simp [sending, accepted, silent]
    · right
      exact ⟨failure, by simp [sending, accepted, threw]⟩

/-- Storing a result hands out no result set or one, the next. -/
theorem storing_ends
    (mysql : MySqlClient σ)
    {factory : DataFactory}
    (connected : factory.connection.isSome)
    (query : Bytes)
    (client : Client σ) :
    ∃ session,
      (storing mysql factory query).run client =
          .ok none { client with session } ∨
        (∃ rows, (storing mysql factory query).run client =
          .ok (some ⟨client.results, rows⟩)
            { client with session, results := client.results + 1 }) ∨
        ∃ failure, (storing mysql factory query).run client =
          .error failure { client with session } := by
  refine ⟨(mysql.storeResult client.session).2, ?_⟩
  cases stored : (mysql.storeResult client.session).1 with
  | none =>
      have nothing : (mysqlStoreResult mysql).run client =
          .ok none
            { client with session := (mysql.storeResult client.session).2 } := by
        obtain ⟨session, queryMutex, results, freed⟩ := client
        simp only at stored
        simp [mysqlStoreResult, stored]
      by_cases quiet : mysql.errno (mysql.storeResult client.session).2 = 0
      · left
        simp [storing, nothing, quiet]
      · right
        right
        have thrown : (factory.processError mysql
            (bytes "mysql_store_result: " ++ query) true).run
            { client with session := (mysql.storeResult client.session).2 } = _ :=
          processError_run mysql connected _ quiet
        simp [storing, nothing, quiet, thrown, -bind_pure_comp]
  | some rows =>
      right
      left
      refine ⟨rows, ?_⟩
      simp [storing, mysqlStoreResult_run mysql stored, -bind_pure_comp]

/-- A query hands out no result set or one, the next. -/
theorem executeQuery_ends
    (mysql : MySqlClient σ)
    (factory : DataFactory)
    (query : Bytes)
    {client : Client σ}
    (unlocked : client.queryMutex = false) :
    ∃ session,
      (factory.executeQuery mysql query).run client =
          .ok none { client with session } ∨
        (∃ rows, (factory.executeQuery mysql query).run client =
          .ok (some ⟨client.results, rows⟩)
            { client with session, results := client.results + 1 }) ∨
        ∃ failure, (factory.executeQuery mysql query).run client =
          .error failure { client with session } := by
  obtain ⟨session, queryMutex, results, freed⟩ := client
  cases unlocked
  cases isConnection : factory.connection with
  | none =>
      refine ⟨session, .inr (.inr ⟨.thrown (.ServiceUnavailable
        (bytes "DataFactory not connected")), ?_⟩)⟩
      rw [executeQuery_eq, EStateM.run_bind,
        requireConnection_run_of_none isConnection]
  | some connection =>
      have connected : factory.connection.isSome := by simp [isConnection]
      rw [executeQuery_eq, EStateM.run_bind, requireConnection_run connected]
      simp only
      rw [lockGuard_run _ rfl, EStateM.run_bind]
      rcases sending_ends mysql connected query
        { session, queryMutex := true, results, freed } with sent | ⟨failure, threw⟩
      · obtain ⟨reached, stores⟩ := storing_ends mysql connected query
          { session := (mysql.realQuery query session).2, queryMutex := true,
            results, freed }
        refine ⟨reached, ?_⟩
        rw [sent]
        rcases stores with nothing | ⟨rows, stored⟩ | ⟨failure, threw⟩
        · exact .inl (by simp [nothing])
        · exact .inr (.inl ⟨rows, by simp [stored]⟩)
        · exact .inr (.inr ⟨failure, by simp [threw]⟩)
      · exact ⟨_, .inr (.inr ⟨failure, by rw [threw]⟩)⟩

/-- A query that throws hands its exception on, one without a result set calls
nothing back, and otherwise the result set is freed whichever way the delivery
of its rows ends. -/
theorem runQuery_run_eq
    (mysql : MySqlClient σ)
    (factory : DataFactory)
    (sql : Bytes)
    (mapRow : MySqlRow → List Nat → Program Failure (Client σ) τ EntryT)
    (cb : RowCallback Failure (Client σ) τ EntryT)
    (client : Client σ)
    (outer : τ) :
    (runQuery mysql factory sql mapRow cb).run (client, outer) =
      match (factory.executeQuery mysql sql).run client with
      | .error failure reached => .error failure (reached, outer)
      | .ok none reached => .ok () (reached, outer)
      | .ok (some result) reached =>
          match (fetchRows mapRow cb result.rows).run (reached, outer) with
          | .ok () (after, left) =>
              .ok () ({ after with freed := after.freed ++ [result.id] }, left)
          | .error failure (after, left) =>
              .error failure
                ({ after with freed := after.freed ++ [result.id] }, left) := by
  rw [runQuery, EStateM.run_bind]
  cases ran : (factory.executeQuery mysql sql).run client with
  | error failure reached => rw [onWorld_run_error ran outer]
  | ok obtained reached =>
      rw [onWorld_run ran outer]
      cases obtained with
      | none => rfl
      | some result =>
          simp only
          rw [EStateM.run_bind]
          cases delivered : (fetchRows mapRow cb result.rows).run
              (reached, outer) with
          | ok done state =>
              rw [tryCatch_run_ok delivered]
              rfl
          | error failure state =>
              rw [tryCatch_run_error delivered]
              rfl

/-! ## Queries of tables -/

/-- Map and deliver the rows of a result set, and free it. -/
def deliverAndFree
    (mapRow : MySqlRow → List Nat → ClientM σ EntryT)
    (result : MySqlRes) : List MySqlRow → Query Failure (Client σ) EntryT
  | [] => .perform (mysqlFreeResult result) fun _ => .done
  | row :: rows => .perform (mapRow row (fetchLengths row)) fun
      | .error failure =>
          .perform (mysqlFreeResult result) fun _ => .throw failure
      | .ok entry => .callBack entry fun
          | .error failure =>
              .perform (mysqlFreeResult result) fun _ => .throw failure
          | .ok false => .perform (mysqlFreeResult result) fun _ => .done
          | .ok true => deliverAndFree mapRow result rows

/-- `runQuery`, as what it does to its world and its callback. -/
def queryOf
    (mysql : MySqlClient σ)
    (factory : DataFactory)
    (sql : Bytes)
    (mapRow : MySqlRow → List Nat → ClientM σ EntryT) :
    Query Failure (Client σ) EntryT :=
  .perform (factory.executeQuery mysql sql) fun
    | .error failure => .throw failure
    | .ok none => .done
    | .ok (some result) => deliverAndFree mapRow result result.rows

/-- The result set is freed once the delivery of the rows has ended. -/
theorem deliverAndFree_run
    (mapRow : MySqlRow → List Nat → ClientM σ EntryT)
    (cb : RowCallback Failure (Client σ) τ EntryT)
    (result : MySqlRes)
    (rows : List MySqlRow)
    (client : Client σ)
    (outer : τ) :
    ((deliverAndFree mapRow result rows).run cb).run (client, outer) =
      match (fetchRows (fun row lengths => onWorld (mapRow row lengths)) cb
          rows).run (client, outer) with
      | .ok () (after, left) =>
          .ok () ({ after with freed := after.freed ++ [result.id] }, left)
      | .error failure (after, left) =>
          .error failure
            ({ after with freed := after.freed ++ [result.id] }, left) := by
  induction rows generalizing client outer with
  | nil => rfl
  | cons row rows inductionHypothesis =>
      rw [deliverAndFree, Query.run_perform, fetchRows, EStateM.run_bind]
      cases maps : (mapRow row (fetchLengths row)).run client with
      | error failure reached =>
          rw [onWorld_run_error maps outer]
          rfl
      | ok entry reached =>
          rw [onWorld_run maps outer]
          simp only
          rw [Query.run_callBack, EStateM.run_bind]
          cases answers : (cb entry).run (reached, outer) with
          | error failure after => rfl
          | ok more after =>
              cases more with
              | false => rfl
              | true => exact inductionHypothesis after.1 after.2

/-- What `runQuery` does, whatever the callback. -/
theorem runQuery_eq_run
    (mysql : MySqlClient σ)
    (factory : DataFactory)
    (sql : Bytes)
    (mapRow : MySqlRow → List Nat → ClientM σ EntryT)
    (cb : RowCallback Failure (Client σ) τ EntryT) :
    runQuery mysql factory sql (fun row lengths => onWorld (mapRow row lengths))
        cb =
      (queryOf mysql factory sql mapRow).run cb := by
  funext state
  obtain ⟨client, outer⟩ := state
  refine (runQuery_run_eq mysql factory sql _ cb client outer).trans ?_
  refine Eq.trans ?_
    (Query.run_perform cb (factory.executeQuery mysql sql) _ client outer).symm
  cases (factory.executeQuery mysql sql).run client with
  | error failure reached => rfl
  | ok obtained reached =>
      cases obtained with
      | none => rfl
      | some result =>
          exact (deliverAndFree_run mapRow cb result result.rows reached
            outer).symm

end DataFactory
end ModernCommon
