import ModernCommon.Library.Monitor
import ModernCommon.MySql.Session

/-!
# Statements of several threads on one connection

Factories of any number of threads share one connection and its query mutex. A
statement and the reads of its error number, its error text, its affected rows
and its result set are separate calls of the client library, all made with the
mutex held; the calls that begin and end transactions are made without it.
-/

namespace ModernCommon
namespace DataFactory

open Library MySql

variable {σ : Type}

/-! ## The statements, call by call -/

/-- A part of a program that is carried out call by call. -/
abbrev SectionM (σ α : Type) := ExceptT Failure (Routine (Client σ)) α

/-- `MySqlConnection::processError` call by call. -/
def connectionProcessErrorSection
    (mysql : MySqlClient σ)
    (errorLoc : Bytes)
    (throwExceptions : Bool)
    (tableName : Bytes) : SectionM σ Unit := do
  let errNo ← Routine.atomically (mysqlErrno mysql)
  if errNo = 0 then
    return
  let ost := errorText tableName errorLoc
    (← Routine.atomically (mysqlError mysql)) errNo
  if !throwExceptions then
    return
  throw (.thrown (errorOf errNo ost))

/-- `processError` call by call. -/
def processErrorSection
    (mysql : MySqlClient σ)
    (factory : DataFactory)
    (errorLoc : Bytes)
    (throwExceptions : Bool) : SectionM σ Unit := do
  if factory.connection.isNone then
    if throwExceptions then
      throw (.thrown (.ServiceUnavailable (bytes "no connection")))
    return
  connectionProcessErrorSection mysql errorLoc throwExceptions factory.tableName

/-- `executeModificationSql` with the mutex held, call by call. -/
def modificationSection
    (mysql : MySqlClient σ)
    (factory : DataFactory)
    (query : Bytes) : SectionM σ Unit := do
  if (← Routine.atomically (mysqlRealQuery mysql query)) ≠ 0 then
    processErrorSection mysql factory
      (bytes "executeModificationSql: " ++ query) true
    return
  if (← Routine.atomically (mysqlAffectedRows mysql)) = 0 then
    throw (.thrown (.EntryNotFound (bytes "entry not found")))

/-- `executeQuery` with the mutex held, call by call. -/
def querySection
    (mysql : MySqlClient σ)
    (factory : DataFactory)
    (query : Bytes) : SectionM σ (Option MySqlRes) := do
  if (← Routine.atomically (mysqlRealQuery mysql query)) ≠ 0 then
    processErrorSection mysql factory (bytes "executeQuery: " ++ query) true
  let result ← Routine.atomically (mysqlStoreResult mysql)
  if result.isNone ∧ (← Routine.atomically (mysqlErrno mysql)) ≠ 0 then
    processErrorSection mysql factory
      (bytes "mysql_store_result: " ++ query) true
  return result

theorem connectionProcessErrorSection_performs
    (mysql : MySqlClient σ)
    (errorLoc : Bytes)
    (throwExceptions : Bool)
    (tableName : Bytes) :
    Routine.Performs
      (connectionProcessErrorSection mysql errorLoc throwExceptions tableName)
      (connectionProcessError mysql errorLoc throwExceptions tableName) := by
  apply Routine.performs_bind (Routine.performs_atomically _)
  intro errNo
  apply Routine.performs_ite (Routine.performs_pure ())
  apply Routine.performs_bind (Routine.performs_atomically _)
  intro error
  exact Routine.performs_ite (Routine.performs_pure ()) (Routine.performs_throw _)

theorem processErrorSection_performs
    (mysql : MySqlClient σ)
    (factory : DataFactory)
    (errorLoc : Bytes)
    (throwExceptions : Bool) :
    Routine.Performs
      (processErrorSection mysql factory errorLoc throwExceptions)
      (factory.processError mysql errorLoc throwExceptions) := by
  apply Routine.performs_ite
  · apply Routine.performs_ite
    · exact Routine.performs_bind (Routine.performs_throw _)
        fun _ => Routine.performs_pure ()
    · exact Routine.performs_pure ()
  · exact connectionProcessErrorSection_performs mysql errorLoc throwExceptions _

/-- Take the mutex, carry out a section and give the mutex back, however the
section ends. -/
def guarded (body : SectionM σ α) : SectionM σ α := ExceptT.mk do
  Routine.call fun client => ((), { client with queryMutex := true })
  let outcome ← body.run
  Routine.call fun client => ((), { client with queryMutex := false })
  return outcome

theorem guarded_run
    {body : SectionM σ α}
    {program : ClientM σ α}
    (performs : Routine.Performs body program)
    {client : Client σ}
    (unlocked : client.queryMutex = false) :
    (guarded body).run.run client =
      Routine.ending ((lockGuard program).run client) := by
  rw [lockGuard_run program unlocked]
  rw [guarded, ExceptT.run_mk, Routine.run_bind, Routine.run_bind,
    Routine.run_bind, Routine.run_call, Routine.run_call]
  simp only [performs { client with queryMutex := true }]
  cases program.run { client with queryMutex := true } <;> rfl

theorem modificationSection_run
    (mysql : MySqlClient σ)
    {factory : DataFactory}
    (connected : factory.connection.isSome)
    (query : Bytes)
    {client : Client σ}
    (unlocked : client.queryMutex = false) :
    (guarded (modificationSection mysql factory query)).run.run client =
      Routine.ending
        ((factory.executeModificationSql mysql query).run client) := by
  rw [executeModificationSql, EStateM.run_bind, requireConnection_run connected]
  refine guarded_run ?_ unlocked
  apply Routine.performs_bind (Routine.performs_atomically _)
  intro code
  apply Routine.performs_ite
  · exact Routine.performs_bind (processErrorSection_performs mysql factory _ _)
      fun _ => Routine.performs_pure ()
  · apply Routine.performs_bind (Routine.performs_atomically _)
    intro affectedRows
    exact Routine.performs_ite (Routine.performs_throw _) (Routine.performs_pure ())

theorem querySection_run
    (mysql : MySqlClient σ)
    {factory : DataFactory}
    (connected : factory.connection.isSome)
    (query : Bytes)
    {client : Client σ}
    (unlocked : client.queryMutex = false) :
    (guarded (querySection mysql factory query)).run.run client =
      Routine.ending ((factory.executeQuery mysql query).run client) := by
  rw [executeQuery, EStateM.run_bind, requireConnection_run connected]
  refine guarded_run ?_ unlocked
  apply Routine.performs_bind (Routine.performs_atomically _)
  intro code
  have stored : Routine.Performs
      (do
        let result ← Routine.atomically (mysqlStoreResult mysql)
        if result.isNone ∧ (← Routine.atomically (mysqlErrno mysql)) ≠ 0 then
          processErrorSection mysql factory
            (bytes "mysql_store_result: " ++ query) true
        return result)
      (do
        let result ← mysqlStoreResult mysql
        if result.isNone ∧ (← mysqlErrno mysql) ≠ 0 then
          factory.processError mysql (bytes "mysql_store_result: " ++ query) true
        return result) := by
    apply Routine.performs_bind (Routine.performs_atomically _)
    intro result
    apply Routine.performs_bind (Routine.performs_atomically _)
    intro errNo
    apply Routine.performs_ite
    · exact Routine.performs_bind
        (processErrorSection_performs mysql factory _ _)
        fun _ => Routine.performs_pure result
    · exact Routine.performs_pure result
  apply Routine.performs_ite
  · exact Routine.performs_bind (processErrorSection_performs mysql factory _ _)
      fun _ => stored
  · exact stored

/-! ## Many threads -/

/-- The two functions that send a statement. -/
inductive StatementKind
  | executeModificationSql
  | executeQuery

/-- A statement sent by a factory that is connected. -/
structure StatementCall where
  factory : DataFactory
  connected : factory.connection.isSome
  kind : StatementKind
  query : Bytes

namespace StatementCall

/-- The statement on its own; a modification hands out no result set. -/
def program
    (mysql : MySqlClient σ)
    (call : StatementCall) : ClientM σ (Option MySqlRes) :=
  match call.kind with
  | .executeModificationSql => do
      call.factory.executeModificationSql mysql call.query
      return none
  | .executeQuery => call.factory.executeQuery mysql call.query

/-- The statement call by call. -/
def guardedSection
    (mysql : MySqlClient σ)
    (call : StatementCall) : SectionM σ (Option MySqlRes) :=
  match call.kind with
  | .executeModificationSql => do
      guarded (modificationSection mysql call.factory call.query)
      return none
  | .executeQuery => guarded (querySection mysql call.factory call.query)

/-- A statement that nothing comes between does what it does on its own. -/
theorem guardedSection_run
    (mysql : MySqlClient σ)
    (call : StatementCall)
    {client : Client σ}
    (unlocked : client.queryMutex = false) :
    (call.guardedSection mysql).run.run client =
      Routine.ending ((call.program mysql).run client) := by
  obtain ⟨factory, connected, kind, query⟩ := call
  cases kind with
  | executeModificationSql =>
      rw [guardedSection, program, ExceptT.run_bind, Routine.run_bind,
        modificationSection_run mysql connected query unlocked,
        EStateM.run_bind]
      cases (factory.executeModificationSql mysql query).run client <;> rfl
  | executeQuery => exact querySection_run mysql connected query unlocked

end StatementCall

/-- The calls that begin and end transactions; no mutex is taken for them. -/
inductive TransactionCall
  | autocommit (mode : Bool)
  | commit
  | rollback

/-- A call made at once, whatever it returns: its result is ignored. -/
def TransactionCall.effect
    (library : TransactionalClient σ)
    (call : TransactionCall)
    (client : Client σ) : Client σ :=
  match call with
  | .autocommit mode =>
      { client with session := (library.autocommit mode client.session).2 }
  | .commit => { client with session := (library.commit client.session).2 }
  | .rollback => { client with session := (library.rollback client.session).2 }

/-- The query mutex of a shared connection, and what is done with and without
it. -/
def queryMonitor (library : TransactionalClient σ) :
    Monitor (Client σ) StatementCall TransactionCall
      (Except Failure (Option MySqlRes)) where
  routine call := (call.guardedSection library.toMySqlClient).run
  intrusion := TransactionCall.effect library

/-- Carry out a statement or a call on its own. -/
def performAlone
    (library : TransactionalClient σ) :
    StatementCall ⊕ TransactionCall → Client σ →
      Option (Except Failure (Option MySqlRes)) × Client σ
  | .inl call, client =>
      let ended := Routine.ending
        ((call.program library.toMySqlClient).run client)
      (some ended.1, ended.2)
  | .inr call, client => (none, call.effect library client)

/-- A statement on its own gives the mutex back. -/
theorem program_unlocked
    (mysql : MySqlClient σ)
    (call : StatementCall)
    {client : Client σ}
    (unlocked : client.queryMutex = false) :
    (Routine.ending ((call.program mysql).run client)).2.queryMutex = false := by
  obtain ⟨factory, connected, kind, query⟩ := call
  cases kind with
  | executeModificationSql =>
      rw [StatementCall.program, EStateM.run_bind]
      obtain ended | ⟨failure, ended⟩ :=
        executeModificationSql_ends mysql connected query unlocked <;>
        rw [ended] <;> exact unlocked
  | executeQuery =>
      rw [StatementCall.program, executeQuery, EStateM.run_bind,
        requireConnection_run connected]
      simp only
      rw [lockGuard_run _ unlocked]
      split <;> rfl

theorem performAlone_unlocked
    (library : TransactionalClient σ)
    (request : StatementCall ⊕ TransactionCall)
    (client : Client σ)
    (unlocked : client.queryMutex = false) :
    (performAlone library request client).2.queryMutex = false := by
  cases request with
  | inl call => exact program_unlocked library.toMySqlClient call unlocked
  | inr call => cases call <;> exact unlocked

theorem carryOut_eq_performAlone
    (library : TransactionalClient σ)
    (request : StatementCall ⊕ TransactionCall)
    (client : Client σ)
    (unlocked : client.queryMutex = false) :
    (queryMonitor library).carryOut request client =
      performAlone library request client := by
  cases request with
  | inl call =>
      have ran := call.guardedSection_run library.toMySqlClient unlocked
      simp only [Monitor.carryOut, queryMonitor, performAlone, ran]
  | inr call => rfl

variable {ThreadId : Type} [DecidableEq ThreadId]

/-- The schedules of threads that send statements over one connection. -/
def statementSystem
    (library : TransactionalClient σ)
    (start : Client σ)
    (todo : ThreadId → List StatementCall) :
    System
      (Monitor.State (Client σ) StatementCall TransactionCall
        (Except Failure (Option MySqlRes)) ThreadId)
      (Monitor.Event ThreadId TransactionCall) :=
  (queryMonitor library).system start todo

/-- In every run in which no thread begins or ends a transaction while another
is inside a statement, all statements end as they would have if they and the
transaction calls had been made one after another, each thread's in its order;
and while a thread has statements left, it can take the mutex or the thread that
holds it can go on. -/
theorem statements_linearize
    (library : TransactionalClient σ)
    {todo : ThreadId → List StatementCall}
    {start : Client σ}
    (unlocked : start.queryMutex = false)
    {events : List (Monitor.Event ThreadId TransactionCall)}
    {state}
    (undisturbed : (statementSystem library start todo).Allows
      Monitor.Undisturbed (statementSystem library start todo).initial events)
    (ran : (statementSystem library start todo).run
      (statementSystem library start todo).initial events = some state) :
    (∃ final,
      Specification.session (performAlone library)
          (state.history.map Monitor.Entry.request) start =
        (state.history.map Monitor.Entry.answer, final) ∧
      (state.inside = none → state.shared = final)) ∧
    (∀ thread,
      Monitor.operationsOf thread state.history ++
        Monitor.operationIn thread state.inside ++ state.todo thread =
        todo thread) ∧
    ∀ thread, state.todo thread ≠ [] ∨ state.inside.isSome →
      ∃ event next, (statementSystem library start todo).step state event =
        some next ∧
        (event = .enter thread ∨ event = .proceed ∨ event = .leave) := by
  obtain ⟨final, session, outside, ordered⟩ :=
    (queryMonitor library).session_of_run undisturbed ran
  refine ⟨⟨final, ?_, outside⟩, ordered,
    (queryMonitor library).progress state⟩
  have agree : ∀ request client, client.queryMutex = false →
      performAlone library request client =
        (queryMonitor library).carryOut request client :=
    fun request client unlocked =>
      (carryOut_eq_performAlone library request client unlocked).symm
  rw [Specification.session_congr agree (performAlone_unlocked library) _
    unlocked]
  exact session

/-- A modification of a connected factory that sends nothing. -/
def emptyModification : StatementCall where
  factory := { connection := some 0 }
  connected := rfl
  kind := .executeModificationSql
  query := []

/-- One modification by one thread, and a transaction begun after it. -/
def oneStatement : List (Monitor.Event Unit TransactionCall) :=
  [.enter (), .proceed, .proceed, .proceed, .proceed, .leave,
    .intrude (.autocommit false)]

theorem statements_linearize_one :
    let system := statementSystem notingServer.toTransactionalClient
      { session := {} } fun _ : Unit => [emptyModification]
    ∃ state,
      system.run system.initial oneStatement = some state ∧
      (∃ final,
        Specification.session (performAlone notingServer.toTransactionalClient)
            (state.history.map Monitor.Entry.request) { session := {} } =
          (state.history.map Monitor.Entry.answer, final) ∧
        (state.inside = none → state.shared = final)) ∧
      (∀ thread,
        Monitor.operationsOf thread state.history ++
          Monitor.operationIn thread state.inside ++ state.todo thread =
          [emptyModification]) ∧
      ∀ thread, state.todo thread ≠ [] ∨ state.inside.isSome →
        ∃ event next, system.step state event = some next ∧
          (event = .enter thread ∨ event = .proceed ∨ event = .leave) := by
  have undisturbed : (statementSystem notingServer.toTransactionalClient
      { session := {} } fun _ : Unit => [emptyModification]).Allows
        Monitor.Undisturbed
        (statementSystem notingServer.toTransactionalClient
          { session := {} } fun _ : Unit => [emptyModification]).initial
        oneStatement := by
    decide
  exact ⟨_, rfl, statements_linearize notingServer.toTransactionalClient rfl
    undisturbed rfl⟩

/-- What is left of a guarded section when its mutex has been taken. -/
def releasing (body : SectionM σ α) : SectionM σ α := ExceptT.mk do
  let outcome ← body.run
  Routine.call fun client => ((), { client with queryMutex := false })
  return outcome

/-- What is left of a modification once the server has rejected it. -/
def rejectedSection
    (mysql : MySqlClient σ)
    (factory : DataFactory)
    (query : Bytes) : SectionM σ (Option MySqlRes) := do
  releasing do
    processErrorSection mysql factory
      (bytes "executeModificationSql: " ++ query) true
    return
  return none

/-- A modification that the server rejects has its error still to read, and
holds the mutex. -/
theorem run_rejected
    (library : TransactionalClient σ)
    {start : Client σ}
    {todo : ThreadId → List StatementCall}
    {state : Monitor.State (Client σ) StatementCall TransactionCall
      (Except Failure (Option MySqlRes)) ThreadId}
    {thread : ThreadId}
    {call : StatementCall}
    {later : List StatementCall}
    (outside : state.inside = none)
    (isNext : state.todo thread = call :: later)
    (isModification : call.kind = .executeModificationSql)
    {code : Int}
    {session : σ}
    (sent : library.realQuery call.query state.shared.session = (code, session))
    (rejected : code ≠ 0) :
    (statementSystem library start todo).run state
        [.enter thread, .proceed, .proceed] =
      some { state with
        shared := { state.shared with session, queryMutex := true }
        todo := Function.update state.todo thread later
        inside := some (thread, call,
          (rejectedSection library.toMySqlClient call.factory call.query).run) } := by
  obtain ⟨factory, connected, kind, query⟩ := call
  obtain rfl : kind = .executeModificationSql := isModification
  rw [statementSystem, Monitor.run_enter _ _ _ outside isNext]
  -- The mutex taken and the statement sent, its result is tested.
  change some (Monitor.State.mk
      { state.shared with
        session := (library.realQuery query state.shared.session).2
        queryMutex := true } _
      (some (thread, _, ExceptT.run do
        releasing (if (library.realQuery query state.shared.session).1 ≠ 0 then do
            processErrorSection library.toMySqlClient factory
              (bytes "executeModificationSql: " ++ query) true
            return
          else _)
        return none)) _) = _
  rw [sent, if_pos rejected]
  rfl

/-- A rejected modification that finds no error number gives the mutex back and
returns. -/
theorem run_rejected_cleared
    (library : TransactionalClient σ)
    {start : Client σ}
    {todo remaining : ThreadId → List StatementCall}
    {thread : ThreadId}
    {call : StatementCall}
    {client : Client σ}
    {history : List (Monitor.Entry ThreadId StatementCall TransactionCall
      (Except Failure (Option MySqlRes)))}
    (cleared : library.errno client.session = 0) :
    (statementSystem library start todo).run
        ⟨client, remaining, some (thread, call,
          (rejectedSection library.toMySqlClient call.factory call.query).run),
          history⟩
        [.proceed, .proceed, .leave] =
      some ⟨{ client with queryMutex := false }, remaining, none,
        history ++ [.answered thread call (.ok none)]⟩ := by
  obtain ⟨⟨connection, tableName⟩, connected, kind, query⟩ := call
  obtain ⟨connection, rfl⟩ := Option.isSome_iff_exists.mp connected
  -- The error number read, it is tested before anything else is.
  change (statementSystem library start todo).run
    ⟨client, remaining, some (thread, _, ExceptT.run do
      releasing do
        (if library.errno client.session = 0 then pure () else _ : SectionM σ Unit)
        return
      return none), history⟩ [.proceed, .leave] = _
  rw [if_pos cleared]
  rfl

/-- A modification that the server rejects throws when nothing comes between. But
the calls of transactions take no mutex: when another thread makes one after the
statement was sent and before its error number is read, and the call succeeds and
so clears the number, the modification returns normally. -/
theorem disturbed_modification_returns
    (library : TransactionalClient σ)
    (start : Client σ)
    (todo : ThreadId → List StatementCall)
    {state : Monitor.State (Client σ) StatementCall TransactionCall
      (Except Failure (Option MySqlRes)) ThreadId}
    {thread : ThreadId}
    {call : StatementCall}
    {later : List StatementCall}
    (outside : state.inside = none)
    (unlocked : state.shared.queryMutex = false)
    (isNext : state.todo thread = call :: later)
    (isModification : call.kind = .executeModificationSql)
    {code : Int}
    {session : σ}
    (sent : library.realQuery call.query state.shared.session = (code, session))
    (rejected : code ≠ 0)
    (reported : library.errno session ≠ 0)
    (transaction : TransactionCall)
    (clears : library.errno (transaction.effect library
      { state.shared with session }).session = 0) :
    performAlone library (.inl call) state.shared =
        (some (.error (.thrown (errorOf (library.errno session)
          (errorText call.factory.tableName
            (bytes "executeModificationSql: " ++ call.query)
            (library.error session) (library.errno session))))),
          { state.shared with session }) ∧
      (statementSystem library start todo).run state
          [.enter thread, .proceed, .proceed, .intrude transaction,
            .proceed, .proceed, .leave] =
        some
          { shared := transaction.effect library { state.shared with session }
            todo := Function.update state.todo thread later
            history := state.history ++ [.intruded transaction,
              .answered thread call (.ok none)] } := by
  constructor
  · obtain ⟨factory, connected, kind, query⟩ := call
    obtain rfl : kind = .executeModificationSql := isModification
    have alone := executeModificationSql_run library.toMySqlClient connected
      query unlocked sent fun _ => reported
    rw [if_pos rejected] at alone
    rw [performAlone, StatementCall.program, EStateM.run_bind, alone]
    rfl
  · have disturbed : (statementSystem library start todo).run state
        [.enter thread, .proceed, .proceed, .intrude transaction] = _ :=
      (System.run_append_singleton_eq_some _ _ _ _ _).mpr
        ⟨_, run_rejected library outside isNext isModification sent rejected, rfl⟩
    have cleared : library.errno (transaction.effect library
        { state.shared with session, queryMutex := true }).session = 0 := by
      cases transaction <;> exact clears
    have returned := (System.run_append_eq_some _ _ _ _ _).mpr
      ⟨_, disturbed, run_rejected_cleared library cleared⟩
    rw [List.append_assoc] at returned
    refine returned.trans ?_
    cases transaction <;> rw [← unlocked] <;> rfl

/-- A session that fails the next call. -/
def failingOnce : Client Scripted :=
  { session := { script := [1] } }

theorem disturbed_modification_returns_one :
    let library := notingServer.toTransactionalClient
    let system := statementSystem library failingOnce
      fun _ : Unit => [emptyModification]
    (∃ failure,
      (performAlone library (.inl emptyModification) failingOnce).1 =
        some (.error failure)) ∧
      ∃ state,
        system.run system.initial
          [.enter (), .proceed, .proceed, .intrude (.autocommit false),
            .proceed, .proceed, .leave] = some state ∧
        state.history = [.intruded (.autocommit false),
          .answered () emptyModification (.ok none)] := by
  obtain ⟨alone, disturbed⟩ := disturbed_modification_returns
    notingServer.toTransactionalClient failingOnce
    (fun _ : Unit => [emptyModification])
    (show Monitor.State.inside ⟨failingOnce, fun _ : Unit => [emptyModification],
      none, []⟩ = none from rfl)
    rfl rfl rfl rfl (by decide) (by decide) (.autocommit false) (by decide)
  exact ⟨⟨_, congrArg Prod.fst alone⟩, _, disturbed, rfl⟩

end DataFactory
end ModernCommon
