import Mathlib.Data.List.Induction
import ModernCommon.MySql.Session

/-!
# Transactions on the shared connection

The transaction functions of `MySqlConnection` keep a flag beside the server's
autocommit mode. Modifications come through any factory that shares the
connection. As long as the library's calls succeed, flag and mode say the same,
and a transaction is all or nothing.
-/

namespace ModernCommon
namespace MySql

open Library
open DataFactory (Client ClientM MySqlClient)

/-- A constructed connection: the client behind `_mysql`, which is not null any
more, and `_transactionActive`. -/
structure Connected (σ : Type) where
  client : Client σ
  transactionActive : Bool := false

/-- A program of one thread on a connection. -/
abbrev ConnectionM (σ α : Type) := EStateM Failure (Connected σ) α

namespace Connected

variable {σ α : Type}

/-- Run a program of the client on the connection. -/
def onClient (program : ClientM σ α) : ConnectionM σ α := fun connected =>
  match program.run connected.client with
  | .ok result client => .ok result { connected with client }
  | .error failure client => .error failure { connected with client }

/-- Make a call of the library whose result is ignored. -/
def ignoring (call : σ → Int × σ) : ConnectionM σ Unit :=
  modify fun connected =>
    let session := (call connected.client.session).2
    { connected with client := { connected.client with session } }

/-- Assign the flag of the connection. -/
def setTransactionActive (active : Bool) : ConnectionM σ Unit :=
  modify fun connected => { connected with transactionActive := active }

/-- Read the flag of the connection. -/
def isTransactionActive : ConnectionM σ Bool :=
  return (← get).transactionActive

/-- Switch autocommit off; a second start does it again. -/
def startTransaction (library : TransactionalClient σ) : ConnectionM σ Unit := do
  ignoring (library.autocommit false)
  setTransactionActive true

/-- Commit and switch autocommit on again, if a transaction was started. -/
def commitTransaction (library : TransactionalClient σ) : ConnectionM σ Unit := do
  if !(← isTransactionActive) then
    return
  ignoring library.commit
  setTransactionActive false
  ignoring (library.autocommit true)

/-- Roll back and switch autocommit on again, if a transaction was started. -/
def rollbackTransaction (library : TransactionalClient σ) :
    ConnectionM σ Unit := do
  if !(← isTransactionActive) then
    return
  ignoring library.rollback
  setTransactionActive false
  ignoring (library.autocommit true)

/-- The constructor's last call, on a session just opened. -/
def construct
    (library : TransactionalClient σ)
    (session : σ) : Connected σ where
  client := { session := (library.autocommit true session).2 }

end Connected

open Connected

/-! ## Runs -/

/-- A use of the shared connection. The factories of modifications are any. -/
inductive Operation (modifies : Bytes → Prop)
  | startTransaction
  | commitTransaction
  | rollbackTransaction
  | modification (factory : DataFactory) (query : {query // modifies query})

namespace Operation

variable {modifies : Bytes → Prop} {σ : Type}

/-- The program of an operation. -/
def program (library : TransactionalClient σ) :
    Operation modifies → ConnectionM σ Unit
  | .startTransaction => Connected.startTransaction library
  | .commitTransaction => Connected.commitTransaction library
  | .rollbackTransaction => Connected.rollbackTransaction library
  | .modification factory query =>
      onClient (factory.executeModificationSql library.toMySqlClient query)

/-- Perform an operation, catching what it throws. -/
def perform
    (library : TransactionalClient σ)
    (connected : Connected σ)
    (operation : Operation modifies) : Connected σ :=
  match (operation.program library).run connected with
  | .ok _ after => after
  | .error _ after => after

/-- The connection after its construction and a list of operations. -/
def run
    (library : TransactionalClient σ)
    (session : σ)
    (operations : List (Operation modifies)) : Connected σ :=
  operations.foldl (perform library) (construct library session)

/-- The operation ends a transaction. -/
def ends : Operation modifies → Bool
  | .commitTransaction => true
  | .rollbackTransaction => true
  | _ => false

/-- The library's calls an operation makes, given the flag. -/
def calls (active : Bool) : Operation modifies → List LibraryCall
  | .startTransaction => [.autocommit false]
  | .commitTransaction => if active then [.commit, .autocommit true] else []
  | .rollbackTransaction => if active then [.rollback, .autocommit true] else []
  | .modification factory query =>
      if factory.connection.isSome then [.realQuery query] else []

/-- The flag after an operation. -/
def leavesActive (active : Bool) : Operation modifies → Bool
  | .startTransaction => true
  | .commitTransaction => false
  | .rollbackTransaction => false
  | .modification _ _ => active

/-- The statement an operation sends, if its factory has a connection. -/
def sends : Operation modifies → Option Bytes
  | .modification factory query =>
      if factory.connection.isSome then some query else none
  | _ => none

end Operation

/-- Replace the session. -/
def Connected.withSession
    (connected : Connected σ)
    (session : σ) : Connected σ :=
  { connected with client := { connected.client with session } }

/-! ## What each operation does -/

namespace Operation

variable {modifies : Bytes → Prop} {σ : Type}

/-- Without an active transaction an end returns at once. -/
theorem perform_ends_inactive
    (library : TransactionalClient σ)
    {connected : Connected σ}
    {operation : Operation modifies}
    (isEnd : operation.ends)
    (inactive : connected.transactionActive = false) :
    perform library connected operation = connected := by
  cases operation with
  | commitTransaction =>
      simp [perform, program, Connected.commitTransaction, isTransactionActive,
        inactive]
  | rollbackTransaction =>
      simp [perform, program, Connected.rollbackTransaction, isTransactionActive,
        inactive]
  | startTransaction => cases isEnd
  | modification factory query => cases isEnd

theorem perform_commitTransaction
    (library : TransactionalClient σ)
    {connected : Connected σ}
    (active : connected.transactionActive) :
    perform library connected (.commitTransaction : Operation modifies) =
      { connected.withSession
          (library.autocommit true
            (library.commit connected.client.session).2).2 with
        transactionActive := false } := by
  simp [perform, program, Connected.commitTransaction, isTransactionActive,
    active, ignoring, setTransactionActive, withSession]

theorem perform_rollbackTransaction
    (library : TransactionalClient σ)
    {connected : Connected σ}
    (active : connected.transactionActive) :
    perform library connected (.rollbackTransaction : Operation modifies) =
      { connected.withSession
          (library.autocommit true
            (library.rollback connected.client.session).2).2 with
        transactionActive := false } := by
  simp [perform, program, Connected.rollbackTransaction, isTransactionActive,
    active, ignoring, setTransactionActive, withSession]

theorem perform_modification
    (library : TransactionalClient σ)
    {connected : Connected σ}
    (unlocked : connected.client.queryMutex = false)
    (factory : DataFactory)
    (query : {query // modifies query}) :
    perform library connected (.modification factory query) =
      if factory.connection.isSome then
        connected.withSession
          (library.realQuery query connected.client.session).2
      else connected := by
  by_cases shared : factory.connection.isSome
  · rw [if_pos shared]
    have ends := DataFactory.executeModificationSql_ends library.toMySqlClient shared
      query unlocked
    rw [EStateM.run] at ends
    rcases ends with returned | ⟨failure, threw⟩
    · simp [perform, program, onClient, EStateM.run, returned, withSession]
    · simp [perform, program, onClient, EStateM.run, threw, withSession]
  · rw [if_neg shared]
    have threw : (factory.executeModificationSql library.toMySqlClient query).run
        connected.client = .error (.thrown (.ServiceUnavailable
          (bytes "DataFactory not connected"))) connected.client := by
      have unset : factory.connection = none := by simpa using shared
      simp [DataFactory.executeModificationSql, DataFactory.requireConnection,
        unset]
    rw [EStateM.run] at threw
    simp [perform, program, onClient, EStateM.run, threw]

/-- No operation leaves the query mutex locked. -/
theorem perform_unlocked
    (library : TransactionalClient σ)
    {connected : Connected σ}
    (operation : Operation modifies)
    (unlocked : connected.client.queryMutex = false) :
    (perform library connected operation).client.queryMutex = false := by
  cases operation with
  | startTransaction => exact unlocked
  | commitTransaction =>
      cases active : connected.transactionActive with
      | false => rwa [perform_ends_inactive library rfl active]
      | true => rwa [perform_commitTransaction library active]
  | rollbackTransaction =>
      cases active : connected.transactionActive with
      | false => rwa [perform_ends_inactive library rfl active]
      | true => rwa [perform_rollbackTransaction library active]
  | modification factory query =>
      rw [perform_modification library unlocked]
      split_ifs
      · exact unlocked
      · exact unlocked

theorem run_append_singleton
    (library : TransactionalClient σ)
    (session : σ)
    (before : List (Operation modifies))
    (operation : Operation modifies) :
    run library session (before ++ [operation]) =
      perform library (run library session before) operation := by
  simp [run]

theorem run_unlocked
    (library : TransactionalClient σ)
    (session : σ)
    (operations : List (Operation modifies)) :
    (run library session operations).client.queryMutex = false := by
  induction operations using List.reverseRecOn with
  | nil => rfl
  | append_singleton before operation inductionHypothesis =>
      rw [run_append_singleton]
      exact perform_unlocked library operation inductionHypothesis

end Operation

/-! ## The log of a run -/

/-- The server's client library, logged. -/
def TransactionServer.library (server : TransactionServer σ D) :
    TransactionalClient (Logged σ) :=
  server.toTransactionalClient.logged

/-- The library's calls so far, with their results. -/
def Connected.calls (connected : Connected (Logged σ)) :
    List (LibraryCall × Int) :=
  connected.client.session.calls

/-- What the server holds for the session. -/
def Connected.view
    (server : TransactionServer σ D)
    (connected : Connected (Logged σ)) : Session D :=
  server.view connected.client.session.session

/-- No statement of a log has failed. -/
def StatementsSucceeded (log : List (LibraryCall × Int)) : Prop :=
  ∀ query code, (.realQuery query, code) ∈ log → code = 0

/-- What an operation does: it makes its calls, logged with their answers, sets
the flag, and moves the session as the answers say. -/
structure Operation.Performed
    (server : TransactionServer σ D)
    (before : Connected (Logged σ))
    (operation : Operation server.modifies)
    (answered : List (LibraryCall × Int))
    (after : Connected (Logged σ)) : Prop where
  calls : answered.map Prod.fst = operation.calls before.transactionActive
  log : after.calls = before.calls ++ answered
  flag : after.transactionActive =
    operation.leavesActive before.transactionActive
  view : StatementsSucceeded answered →
    after.view server = answered.foldl (Session.answer server.effect)
      (before.view server)

namespace Operation

variable {σ D : Type}

/-- The two calls that end a transaction, answered. -/
theorem performed_end
    (server : TransactionServer σ D)
    {before : Connected (Logged σ)}
    {operation : Operation server.modifies}
    {call : LibraryCall}
    (calls : operation.calls before.transactionActive =
      [call, .autocommit true])
    (ends : operation.leavesActive before.transactionActive = false)
    {sent : Int × σ}
    (ended : perform server.library before operation =
      { before.withSession
          (server.library.autocommit true
            (before.client.session.log call sent).2).2 with
        transactionActive := false })
    (answered : server.view sent.2 =
      (before.view server).answer server.effect (call, sent.1)) :
    operation.Performed server before
      [(call, sent.1),
        (.autocommit true, (server.autocommit true sent.2).1)]
      (perform server.library before operation) where
  calls := by simp [calls]
  log := by
    rw [ended]
    simp [Connected.calls, withSession, TransactionServer.library,
      TransactionalClient.logged, Logged.log]
  flag := by rw [ended, ends]
  view _ := by
    rw [ended]
    simp only [List.foldl_cons, List.foldl_nil, ← answered]
    exact server.view_autocommit true sent.2

/-- An end without an active transaction makes no call. -/
theorem performed_stray
    (server : TransactionServer σ D)
    {before : Connected (Logged σ)}
    {operation : Operation server.modifies}
    (isEnd : operation.ends)
    (inactive : before.transactionActive = false) :
    operation.Performed server before []
      (perform server.library before operation) := by
  rw [perform_ends_inactive server.library isEnd inactive]
  have noCalls : operation.calls before.transactionActive = [] ∧
      operation.leavesActive before.transactionActive = false := by
    cases operation with
    | commitTransaction => simp [Operation.calls, leavesActive, inactive]
    | rollbackTransaction => simp [Operation.calls, leavesActive, inactive]
    | startTransaction => cases isEnd
    | modification factory query => cases isEnd
  exact
    { calls := noCalls.1.symm
      log := (List.append_nil _).symm
      flag := inactive.trans noCalls.2.symm
      view := fun _ => rfl }

/-- Every operation does what its specification says. -/
theorem performed
    (server : TransactionServer σ D)
    {before : Connected (Logged σ)}
    (unlocked : before.client.queryMutex = false)
    (operation : Operation server.modifies) :
    ∃ answered, operation.Performed server before answered
      (perform server.library before operation) := by
  let session := before.client.session.session
  cases operation with
  | startTransaction =>
      refine ⟨[(.autocommit false, (server.autocommit false session).1)],
        rfl, rfl, rfl, fun _ => ?_⟩
      exact server.view_autocommit false session
  | commitTransaction =>
      cases active : before.transactionActive with
      | false => exact ⟨[], performed_stray server rfl active⟩
      | true =>
          refine ⟨_, performed_end server (by simp [Operation.calls, active]) rfl
            (perform_commitTransaction server.library active) ?_⟩
          exact server.view_commit session
  | rollbackTransaction =>
      cases active : before.transactionActive with
      | false => exact ⟨[], performed_stray server rfl active⟩
      | true =>
          refine ⟨_, performed_end server (by simp [Operation.calls, active]) rfl
            (perform_rollbackTransaction server.library active) ?_⟩
          exact server.view_rollback session
  | modification factory query =>
      rw [perform_modification server.library unlocked]
      by_cases shared : factory.connection.isSome
      · rw [if_pos shared]
        refine ⟨[(.realQuery query, (server.realQuery query session).1)],
          by simp [Operation.calls, shared], rfl, rfl, fun succeeded => ?_⟩
        have accepted := succeeded query _ (List.mem_singleton.mpr rfl)
        have answered := server.view_realQuery query session query.2 accepted
        simp only [List.foldl_cons, List.foldl_nil, Session.answer,
          if_pos accepted]
        exact answered
      · rw [if_neg shared]
        exact ⟨[], by simp [Operation.calls, shared],
          (List.append_nil _).symm, rfl, fun _ => rfl⟩

/-! ## Whole runs -/

/-- The connection after a run on a server that logs its calls. -/
def reached
    (server : TransactionServer σ D)
    (session : σ)
    (operations : List (Operation server.modifies)) : Connected (Logged σ) :=
  run server.library { session } operations

theorem reached_append_singleton
    (server : TransactionServer σ D)
    (session : σ)
    (before : List (Operation server.modifies))
    (operation : Operation server.modifies) :
    ∃ answered, operation.Performed server (reached server session before)
      answered (reached server session (before ++ [operation])) := by
  rw [reached, reached, run_append_singleton]
  exact performed server (run_unlocked server.library { session } before) operation

end Operation

end MySql
end ModernCommon
