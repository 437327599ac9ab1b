import Mathlib.Order.RelClasses
import ModernCommon.DataFactory.Client

/-!
# What statements do to the session

A statement touches the session of its connection only through the library's
calls. What those calls keep, the statement keeps, whether it returns or throws.
-/

namespace ModernCommon
namespace DataFactory

open Library MySql

variable {σ : Type} {relation : σ → σ → Prop}

/-- The sessions of two clients are related. -/
abbrev OfSession (relation : σ → σ → Prop) : Client σ → Client σ → Prop :=
  Order.Preimage Client.session relation

/-- A program that leaves the session as it is. -/
theorem keeps_of_session_eq
    [IsPreorder σ relation]
    {program : ClientM σ α}
    (unchanged : ∀ client,
      (finalState (program.run client)).session = client.session) :
    Keeps (OfSession relation) program := by
  intro client
  change relation _ _
  rw [unchanged]
  exact refl_of relation client.session

/-- The mutex is not the session's business. -/
theorem keeps_lockGuard
    [IsPreorder σ relation]
    {body : ClientM σ α}
    (kept : Keeps (OfSession relation) body) :
    Keeps (OfSession relation) (lockGuard body) := by
  intro client
  cases locked : client.queryMutex with
  | true =>
      have stuck : (lockGuard body).run client = .error .deadlock client := by
        simp [lockGuard, EStateM.run, locked]
      rw [stuck]
      exact refl_of relation client.session
  | false =>
      rw [lockGuard_run body locked]
      have during := kept { client with queryMutex := true }
      cases ran : body.run { client with queryMutex := true } with
      | ok result after | error failure after =>
          rw [ran] at during
          exact during

theorem requireConnection_session
    (factory : DataFactory)
    (client : Client σ) :
    (finalState (factory.requireConnection.run client)).session =
      client.session := by
  unfold requireConnection
  cases factory.connection <;> rfl

theorem processError_session
    (mysql : MySqlClient σ)
    (factory : DataFactory)
    (errorLoc : Bytes)
    (client : Client σ) :
    (finalState ((factory.processError mysql errorLoc true).run client)).session =
      client.session := by
  unfold processError connectionProcessError
  cases factory.connection with
  | none => rfl
  | some connection =>
      by_cases noError : mysql.errno client.session = 0 <;> simp [noError]

theorem keeps_mysqlRealQuery
    {mysql : MySqlClient σ}
    {query : Bytes}
    (sends : ∀ session, relation session (mysql.realQuery query session).2) :
    Keeps (OfSession relation) (mysqlRealQuery mysql query) :=
  fun client => sends client.session

theorem keeps_mysqlStoreResult
    {mysql : MySqlClient σ}
    (stores : ∀ session, relation session (mysql.storeResult session).2) :
    Keeps (OfSession relation) (mysqlStoreResult mysql) := by
  intro client
  have reached :
      (finalState ((mysqlStoreResult mysql).run client)).session =
        (mysql.storeResult client.session).2 := by
    unfold mysqlStoreResult
    rw [EStateM.run_modifyGet, finalState_ok]
    dsimp only
    split <;> rfl
  change relation _ _
  rw [reached]
  exact stores client.session

section Statements

variable [IsPreorder σ relation]

/-- A modification keeps what its statement keeps. -/
theorem keeps_executeModificationSql
    {mysql : MySqlClient σ}
    (factory : DataFactory)
    {query : Bytes}
    (sends : ∀ session, relation session (mysql.realQuery query session).2) :
    Keeps (OfSession relation) (factory.executeModificationSql mysql query) := by
  refine keeps_bind
    (keeps_of_session_eq (requireConnection_session factory)) fun _ => ?_
  refine keeps_lockGuard (keeps_bind (keeps_mysqlRealQuery sends) fun code => ?_)
  split_ifs
  · exact keeps_bind
      (keeps_of_session_eq (processError_session mysql factory _))
      fun _ => keeps_pure _
  · refine keeps_bind (keeps_of_session_eq fun _ => rfl) fun affected => ?_
    split_ifs
    · exact keeps_throw _
    · exact keeps_pure _

/-- A query keeps what its statement and the fetching of its result keep. -/
theorem keeps_executeQuery
    {mysql : MySqlClient σ}
    (factory : DataFactory)
    {query : Bytes}
    (sends : ∀ session, relation session (mysql.realQuery query session).2)
    (stores : ∀ session, relation session (mysql.storeResult session).2) :
    Keeps (OfSession relation) (factory.executeQuery mysql query) := by
  have reports : ∀ errorLoc, Keeps (OfSession relation)
      (factory.processError mysql errorLoc true) := fun errorLoc =>
    keeps_of_session_eq (processError_session mysql factory errorLoc)
  refine keeps_bind
    (keeps_of_session_eq (requireConnection_session factory)) fun _ => ?_
  refine keeps_lockGuard (keeps_bind (keeps_mysqlRealQuery sends) fun code => ?_)
  have fetched : Keeps (OfSession relation) (do
      let result ← mysqlStoreResult mysql
      if result.isNone ∧ (← mysqlErrno mysql) ≠ 0 then
        factory.processError mysql (bytes "mysql_store_result: " ++ query) true
      return result) := by
    refine keeps_bind (keeps_mysqlStoreResult stores) fun result => ?_
    refine keeps_bind (keeps_of_session_eq fun _ => rfl) fun errno => ?_
    split_ifs
    · exact keeps_bind (reports _) fun _ => keeps_pure _
    · exact keeps_pure _
  split_ifs
  · exact keeps_bind (reports _) fun _ => fetched
  · exact fetched

end Statements

end DataFactory
end ModernCommon
