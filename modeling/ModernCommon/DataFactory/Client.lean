import ModernCommon.Data.Table
import ModernCommon.DataFactory.Columns
import ModernCommon.Library.Keeps

/-!
# Statements over the client library

`DataFactory` sends its statements through the client library on the connection
it shares, holding the connection's query mutex for each of them. The library is
a parameter: what a session answers is the server's business. A client records
its session, the mutex, and the result sets handed out and freed.
-/

namespace ModernCommon

open Library

/-- The exceptions of the data layer, with their texts. -/
inductive DataError
  | ServiceUnavailable (what : Bytes)
  | DuplicateEntry (what : Bytes)
  | EntryNotFound (what : Bytes)
  | DependencyViolation (what : Bytes)
  deriving DecidableEq

/-- What ends a call early: an exception of the data layer, any other one thrown
by a caller's callback, or a mutex its own thread holds already. -/
inductive Failure
  | thrown (error : DataError)
  | other (what : Bytes)
  | deadlock
  deriving DecidableEq

namespace DataFactory

open MySql Data

/-! ## The client library -/

/-- One fetched row: for each column a cell, or the null pointer of SQL NULL. -/
abbrev MySqlRow := List (Option Bytes)

/-- The calls of the client library this repository makes for a statement. -/
structure MySqlClient (σ : Type) where
  /-- Zero on success. -/
  realQuery : Bytes → σ → Int × σ
  affectedRows : σ → Nat
  /-- The rows of the last statement, copied; null when it has no result set. -/
  storeResult : σ → Option (List MySqlRow) × σ
  errno : σ → Nat
  error : σ → Bytes

/-- A buffered result set and its rows. -/
structure MySqlRes where
  id : Nat
  rows : List MySqlRow

/-- The lengths of the cells of a row. -/
def fetchLengths (row : MySqlRow) : List Nat :=
  row.map fun cell => (cell.map List.length).getD 0

/-- The session of a connection, its mutex, and the result sets made on it. -/
structure Client (σ : Type) where
  session : σ
  queryMutex : Bool := false
  /-- Result sets handed out so far. -/
  results : Nat := 0
  /-- Result sets freed so far. -/
  freed : List Nat := []

/-- A program of one thread on a client. -/
abbrev ClientM (σ α : Type) := EStateM Failure (Client σ) α

/-- The address of a connection object. -/
abbrev ConnectionId := Nat

end DataFactory

/-- A factory: its share of the connection, if any, and its table's name. -/
structure DataFactory where
  connection : Option DataFactory.ConnectionId
  tableName : Bytes := bytes "unknown"
  deriving DecidableEq

namespace DataFactory

open MySql Data

variable {σ : Type}

/-- `std::lock_guard` on the query mutex around the rest of a function. -/
def lockGuard (body : ClientM σ α) : ClientM σ α := fun client =>
  if client.queryMutex then .error .deadlock client
  else
    match body.run { client with queryMutex := true } with
    | .ok result after => .ok result { after with queryMutex := false }
    | .error failure after => .error failure { after with queryMutex := false }

/-- Throw an exception of the data layer. -/
def raise (error : DataError) : ClientM σ α :=
  throw (.thrown error)

/-- `mysql_real_query`: send a statement. -/
def mysqlRealQuery (mysql : MySqlClient σ) (query : Bytes) : ClientM σ Int :=
  modifyGet fun client =>
    let sent := mysql.realQuery query client.session
    (sent.1, { client with session := sent.2 })

/-- `mysql_affected_rows` of the last statement. -/
def mysqlAffectedRows (mysql : MySqlClient σ) : ClientM σ Nat :=
  return mysql.affectedRows (← get).session

/-- `mysql_errno` of the last call. -/
def mysqlErrno (mysql : MySqlClient σ) : ClientM σ Nat :=
  return mysql.errno (← get).session

/-- `mysql_error` of the last call. -/
def mysqlError (mysql : MySqlClient σ) : ClientM σ Bytes :=
  return mysql.error (← get).session

/-- `mysql_store_result`: each result set handed out has a number of its own. -/
def mysqlStoreResult (mysql : MySqlClient σ) : ClientM σ (Option MySqlRes) :=
  modifyGet fun client =>
    let stored := mysql.storeResult client.session
    match stored.1 with
    | none => (none, { client with session := stored.2 })
    | some rows =>
        (some ⟨client.results, rows⟩,
          { client with session := stored.2, results := client.results + 1 })

/-- `mysql_free_result`, which is noted. -/
def mysqlFreeResult (result : MySqlRes) : ClientM σ Unit :=
  modify fun client => { client with freed := client.freed ++ [result.id] }

/-! ## Errors -/

/-- A key is there already. -/
def ER_DUP_ENTRY : Nat := 1062

/-- A row refers to one that is missing. -/
def ER_NO_REFERENCED_ROW : Nat := 1216

/-- A row is still referred to. -/
def ER_ROW_IS_REFERENCED : Nat := 1217

/-- The same, as newer servers number it. -/
def ER_ROW_IS_REFERENCED_2 : Nat := 1451

/-- The number of newer servers for a missing row. -/
def ER_NO_REFERENCED_ROW_2 : Nat := 1452

/-- The exception an error number is reported as. -/
def errorOf (errNo : Nat) (what : Bytes) : DataError :=
  if errNo = ER_DUP_ENTRY then .DuplicateEntry what
  else if errNo = ER_ROW_IS_REFERENCED ∨ errNo = ER_ROW_IS_REFERENCED_2 ∨
      errNo = ER_NO_REFERENCED_ROW ∨ errNo = ER_NO_REFERENCED_ROW_2 then
    .DependencyViolation what
  else .ServiceUnavailable what

/-- The text an error is reported with. -/
def errorText (tableName errorLoc error : Bytes) (errNo : Nat) : Bytes :=
  (if tableName.isEmpty then [] else tableName ++ bytes ": ") ++ errorLoc ++
    bytes ": " ++ error ++ bytes " (errno " ++ decimal errNo ++ bytes ")"

/-- `MySqlConnection::processError`; its handle is never null once constructed. -/
def connectionProcessError
    (mysql : MySqlClient σ)
    (errorLoc : Bytes)
    (throwExceptions : Bool)
    (tableName : Bytes) : ClientM σ Unit := do
  let errNo ← mysqlErrno mysql
  if errNo = 0 then
    return
  let ost := errorText tableName errorLoc (← mysqlError mysql) errNo
  if !throwExceptions then
    return
  raise (errorOf errNo ost)

/-- `DataFactory::processError`; without a connection there is no error to read. -/
def processError
    (mysql : MySqlClient σ)
    (factory : DataFactory)
    (errorLoc : Bytes)
    (throwExceptions : Bool) : ClientM σ Unit := do
  if factory.connection.isNone then
    if throwExceptions then
      raise (.ServiceUnavailable (bytes "no connection"))
    return
  connectionProcessError mysql errorLoc throwExceptions factory.tableName

/-- The first check of a statement, made without the mutex. -/
def requireConnection (factory : DataFactory) : ClientM σ Unit := do
  if factory.connection.isNone then
    raise (.ServiceUnavailable (bytes "DataFactory not connected"))

/-! ## Statements -/

/-- Send a modification; a rejected one throws, and so does one that changed no
row. -/
def executeModificationSql
    (mysql : MySqlClient σ)
    (factory : DataFactory)
    (query : Bytes) : ClientM σ Unit := do
  factory.requireConnection
  lockGuard do
    if (← mysqlRealQuery mysql query) ≠ 0 then
      factory.processError mysql (bytes "executeModificationSql: " ++ query) true
      return
    if (← mysqlAffectedRows mysql) = 0 then
      raise (.EntryNotFound (bytes "entry not found"))

/-- Send a query and store its result set, all with the mutex held. -/
def executeQuery
    (mysql : MySqlClient σ)
    (factory : DataFactory)
    (query : Bytes) : ClientM σ (Option MySqlRes) := do
  factory.requireConnection
  lockGuard do
    if (← mysqlRealQuery mysql query) ≠ 0 then
      factory.processError mysql (bytes "executeQuery: " ++ query) true
    let result ← mysqlStoreResult mysql
    if result.isNone ∧ (← mysqlErrno mysql) ≠ 0 then
      factory.processError mysql (bytes "mysql_store_result: " ++ query) true
    return result

/-! ## Queries -/

/-- Map and deliver the rows of a result set until told to stop. -/
def fetchRows
    (mapRow : MySqlRow → List Nat → Program Failure (Client σ) τ EntryT)
    (cb : RowCallback Failure (Client σ) τ EntryT) :
    List MySqlRow → Program Failure (Client σ) τ Unit
  | [] => pure ()
  | row :: rows => do
      let entry ← mapRow row (fetchLengths row)
      if ← cb entry then
        fetchRows mapRow cb rows

/-- `runQuery`: the result set is freed whatever the mapper and the callback
do. -/
def runQuery
    (mysql : MySqlClient σ)
    (factory : DataFactory)
    (sql : Bytes)
    (mapRow : MySqlRow → List Nat → Program Failure (Client σ) τ EntryT)
    (cb : RowCallback Failure (Client σ) τ EntryT) :
    Program Failure (Client σ) τ Unit := do
  match ← onWorld (factory.executeQuery mysql sql) with
  | none => return
  | some result =>
      try
        fetchRows mapRow cb result.rows
      catch failure =>
        onWorld (mysqlFreeResult result)
        throw failure
      onWorld (mysqlFreeResult result)

/-! ## Running them -/

theorem lockGuard_run
    (body : ClientM σ α)
    {client : Client σ}
    (unlocked : client.queryMutex = false) :
    (lockGuard body).run client =
      match body.run { client with queryMutex := true } with
      | .ok result after => .ok result { after with queryMutex := false }
      | .error failure after =>
          .error failure { after with queryMutex := false } := by
  simp only [lockGuard, EStateM.run, unlocked]
  rfl

@[simp] theorem mysqlRealQuery_run
    (mysql : MySqlClient σ)
    (query : Bytes)
    (client : Client σ) :
    (mysqlRealQuery mysql query).run client =
      .ok (mysql.realQuery query client.session).1
        { client with
          session := (mysql.realQuery query client.session).2 } := rfl

@[simp] theorem mysqlAffectedRows_run
    (mysql : MySqlClient σ)
    (client : Client σ) :
    (mysqlAffectedRows mysql).run client =
      .ok (mysql.affectedRows client.session) client := rfl

@[simp] theorem mysqlErrno_run
    (mysql : MySqlClient σ)
    (client : Client σ) :
    (mysqlErrno mysql).run client = .ok (mysql.errno client.session) client :=
  rfl

@[simp] theorem mysqlError_run
    (mysql : MySqlClient σ)
    (client : Client σ) :
    (mysqlError mysql).run client = .ok (mysql.error client.session) client :=
  rfl

@[simp] theorem raise_run
    (error : DataError)
    (client : Client σ) :
    (raise error : ClientM σ α).run client = .error (.thrown error) client :=
  rfl

theorem requireConnection_run
    {factory : DataFactory}
    (connected : factory.connection.isSome)
    (client : Client σ) :
    factory.requireConnection.run client = .ok () client := by
  obtain ⟨connection, isConnection⟩ := Option.isSome_iff_exists.mp connected
  simp [requireConnection, isConnection]

/-- An error number is thrown as the exception it stands for. -/
theorem processError_run
    (mysql : MySqlClient σ)
    {factory : DataFactory}
    (connected : factory.connection.isSome)
    (errorLoc : Bytes)
    {client : Client σ}
    (failed : mysql.errno client.session ≠ 0) :
    (factory.processError mysql errorLoc true).run client =
      .error
        (.thrown (errorOf (mysql.errno client.session)
          (errorText factory.tableName errorLoc (mysql.error client.session)
            (mysql.errno client.session))))
        client := by
  obtain ⟨connection, isConnection⟩ := Option.isSome_iff_exists.mp connected
  simp [processError, isConnection, connectionProcessError, failed]

/-- On a connected factory whose mutex is free, an error the library reports
is thrown, and so is a modification that changed no row. -/
theorem executeModificationSql_run
    (mysql : MySqlClient σ)
    {factory : DataFactory}
    (connected : factory.connection.isSome)
    (query : Bytes)
    {client : Client σ}
    (unlocked : client.queryMutex = false)
    {code : Int}
    {session : σ}
    (sent : mysql.realQuery query client.session = (code, session))
    (reported : code ≠ 0 → mysql.errno session ≠ 0) :
    (factory.executeModificationSql mysql query).run client =
      if code ≠ 0 then
        .error
          (.thrown (errorOf (mysql.errno session)
            (errorText factory.tableName
              (bytes "executeModificationSql: " ++ query)
              (mysql.error session) (mysql.errno session))))
          { client with session }
      else if mysql.affectedRows session = 0 then
        .error (.thrown (.EntryNotFound (bytes "entry not found")))
          { client with session }
      else .ok () { client with session } := by
  have released : ({ client with session, queryMutex := false } : Client σ) =
      { client with session } := by
    rw [← unlocked]
  rw [executeModificationSql, EStateM.run_bind,
    requireConnection_run connected]
  simp only
  rw [lockGuard_run _ unlocked]
  by_cases rejected : code ≠ 0
  · have thrown : (factory.processError mysql
        (bytes "executeModificationSql: " ++ query) true).run
          { client with session, queryMutex := true } = _ :=
      processError_run mysql connected _ (reported rejected)
    simp [sent, rejected, thrown, released]
  · by_cases unchanged : mysql.affectedRows session = 0 <;>
      simp [sent, not_not.mp rejected, unchanged, released]

/-- A modification of a connected factory sends its statement once, whatever
the answer. -/
theorem executeModificationSql_ends
    (mysql : MySqlClient σ)
    {factory : DataFactory}
    (connected : factory.connection.isSome)
    (query : Bytes)
    {client : Client σ}
    (unlocked : client.queryMutex = false) :
    let reached := { client with
      session := (mysql.realQuery query client.session).2 }
    (factory.executeModificationSql mysql query).run client = .ok () reached ∨
      ∃ failure, (factory.executeModificationSql mysql query).run client =
        .error failure reached := by
  obtain ⟨session, queryMutex, results, freed⟩ := client
  cases unlocked
  obtain ⟨connection, isConnection⟩ := Option.isSome_iff_exists.mp connected
  rw [executeModificationSql, EStateM.run_bind,
    requireConnection_run connected]
  simp only
  rw [lockGuard_run _ rfl]
  by_cases accepted : (mysql.realQuery query session).1 = 0
  · by_cases unchanged :
        mysql.affectedRows (mysql.realQuery query session).2 = 0 <;>
      simp [accepted, unchanged]
  · by_cases silent : mysql.errno (mysql.realQuery query session).2 = 0 <;>
      simp [accepted, silent, processError, isConnection,
        connectionProcessError]

theorem mysqlStoreResult_run
    (mysql : MySqlClient σ)
    {client : Client σ}
    {rows : List MySqlRow}
    (stored : (mysql.storeResult client.session).1 = some rows) :
    (mysqlStoreResult mysql).run client =
      .ok (some ⟨client.results, rows⟩)
        { client with
          session := (mysql.storeResult client.session).2
          results := client.results + 1 } := by
  obtain ⟨session, queryMutex, results, freed⟩ := client
  simp only at stored
  simp [mysqlStoreResult, stored]

/-- A query with a result set hands the set out, the mutex free again. -/
theorem executeQuery_run
    (mysql : MySqlClient σ)
    {factory : DataFactory}
    (connected : factory.connection.isSome)
    (query : Bytes)
    {client : Client σ}
    (unlocked : client.queryMutex = false)
    {session : σ}
    (sent : mysql.realQuery query client.session = (0, session))
    {rows : List MySqlRow}
    (stored : (mysql.storeResult session).1 = some rows) :
    (factory.executeQuery mysql query).run client =
      .ok (some ⟨client.results, rows⟩)
        { client with
          session := (mysql.storeResult session).2
          results := client.results + 1 } := by
  have handedOut : (mysqlStoreResult mysql).run
      { client with session, queryMutex := true } = _ :=
    mysqlStoreResult_run mysql stored
  rw [executeQuery, EStateM.run_bind, requireConnection_run connected]
  simp only
  rw [lockGuard_run _ unlocked]
  simp only [EStateM.run_bind, mysqlRealQuery_run, sent, ne_eq,
    not_true_eq_false, if_false, EStateM.run_pure, handedOut, mysqlErrno_run,
    Option.isNone_some, Bool.false_eq_true, false_and]
  rw [unlocked]

/-- Mapping without effects, then delivering. -/
theorem fetchRows_eq_deliver
    (mapRow : MySqlRow → List Nat → EntryT)
    (cb : RowCallback Failure (Client σ) τ EntryT)
    (rows : List MySqlRow) :
    fetchRows (fun row lengths => pure (mapRow row lengths)) cb rows =
      deliver cb (rows.map fun row => mapRow row (fetchLengths row)) := by
  induction rows with
  | nil => rfl
  | cons row rows inductionHypothesis =>
      simp [fetchRows, deliver, inductionHypothesis]

/-- A query whose delivery returns normally leaves its result set freed. -/
theorem runQuery_run
    (mysql : MySqlClient σ)
    {factory : DataFactory}
    (connected : factory.connection.isSome)
    (sql : Bytes)
    (mapRow : MySqlRow → List Nat → EntryT)
    (cb : RowCallback Failure (Client σ) τ EntryT)
    {client : Client σ}
    (unlocked : client.queryMutex = false)
    {session : σ}
    (sent : mysql.realQuery sql client.session = (0, session))
    {rows : List MySqlRow}
    (stored : (mysql.storeResult session).1 = some rows)
    {outer left : τ}
    {reached : Client σ}
    (delivered : (deliver cb
        (rows.map fun row => mapRow row (fetchLengths row))).run
      ({ client with
          session := (mysql.storeResult session).2
          results := client.results + 1 }, outer) =
        .ok () (reached, left)) :
    (runQuery mysql factory sql
        (fun row lengths => pure (mapRow row lengths)) cb).run (client, outer) =
      .ok () ({ reached with freed := reached.freed ++ [client.results] },
        left) := by
  have opened : (onWorld (factory.executeQuery mysql sql) :
      Program Failure (Client σ) τ _).run (client, outer) =
        .ok (some ⟨client.results, rows⟩)
          ({ client with
              session := (mysql.storeResult session).2
              results := client.results + 1 }, outer) :=
    onWorld_run (executeQuery_run mysql connected sql unlocked sent stored) outer
  rw [runQuery, EStateM.run_bind, opened]
  simp only
  rw [fetchRows_eq_deliver, EStateM.run_bind, tryCatch_run_ok delivered]
  exact onWorld_run rfl left

end DataFactory
end ModernCommon
