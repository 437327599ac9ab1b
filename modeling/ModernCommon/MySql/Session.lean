import ModernCommon.DataFactory.Client

/-!
# Transactional sessions

A session of the server has committed and working content. With autocommit on
the two are one; with it off, modifications change the working content until
`mysql_commit` publishes or `mysql_rollback` discards it. Switching autocommit
on commits. The client library is a parameter that answers each call with a
result code and, on success, moves the session's content accordingly.
-/

namespace ModernCommon
namespace MySql

open Library
open DataFactory (MySqlClient)

/-- The content of a database as one session sees it. -/
structure Session (D : Type) where
  /-- What survives the session. -/
  committed : D
  /-- What the session's own statements see. -/
  working : D
  autocommit : Bool
  settled : autocommit = true → working = committed

namespace Session

variable {D : Type}

@[ext] theorem ext
    {left right : Session D}
    (sameCommitted : left.committed = right.committed)
    (sameWorking : left.working = right.working)
    (sameMode : left.autocommit = right.autocommit) :
    left = right := by
  cases left
  cases right
  cases sameCommitted
  cases sameWorking
  cases sameMode
  rfl

/-- Switching autocommit on commits the open transaction. -/
def setAutocommit : Bool → Session D → Session D
  | true, session =>
      { committed := session.working
        working := session.working
        autocommit := true
        settled := fun _ => rfl }
  | false, session => { session with autocommit := false, settled := nofun }

/-- Publish the working content. -/
def commit (session : Session D) : Session D :=
  { session with committed := session.working, settled := fun _ => rfl }

/-- Discard the working content. -/
def rollback (session : Session D) : Session D :=
  { session with working := session.committed, settled := fun _ => rfl }

/-- Change the working content, and commit it at once with autocommit on. -/
def modify (effect : D → D) (session : Session D) : Session D where
  committed :=
    if session.autocommit then effect session.working else session.committed
  working := effect session.working
  autocommit := session.autocommit
  settled := fun isOn => by rw [if_pos isOn]

end Session

/-! ## The client library -/

/-- The calls of the client library that concern transactions. Each returns
zero on success. -/
structure TransactionalClient (σ : Type) extends MySqlClient σ where
  autocommit : Bool → σ → Int × σ
  commit : σ → Int × σ
  rollback : σ → Int × σ

/-- A server with transactional tables of content `D`. -/
structure TransactionServer (σ D : Type) extends TransactionalClient σ where
  view : σ → Session D
  /-- The statement modifies rows of transactional tables. -/
  modifies : Bytes → Prop
  /-- What such a statement does to the content. -/
  effect : Bytes → D → D
  view_autocommit : ∀ mode session,
    view (autocommit mode session).2 =
      if (autocommit mode session).1 = 0 then (view session).setAutocommit mode
      else view session
  view_commit : ∀ session,
    view (commit session).2 =
      if (commit session).1 = 0 then (view session).commit else view session
  view_rollback : ∀ session,
    view (rollback session).2 =
      if (rollback session).1 = 0 then (view session).rollback else view session
  view_realQuery : ∀ query session,
    modifies query →
    (realQuery query session).1 = 0 →
    view (realQuery query session).2 = (view session).modify (effect query)

/-- A call of the client library that reaches the server. -/
inductive LibraryCall
  | autocommit (mode : Bool)
  | commit
  | rollback
  | realQuery (query : Bytes)
  deriving DecidableEq

/-- What a successful call does to the session. -/
def Session.apply
    (effect : Bytes → D → D)
    (session : Session D) : LibraryCall → Session D
  | .autocommit mode => session.setAutocommit mode
  | .commit => session.commit
  | .rollback => session.rollback
  | .realQuery query => session.modify (effect query)

/-- What a call with a result does to the session: nothing when it failed. -/
def Session.answer
    (effect : Bytes → D → D)
    (session : Session D)
    (answered : LibraryCall × Int) : Session D :=
  if answered.2 = 0 then session.apply effect answered.1 else session

/-- A session, and the calls made on it with their results. -/
structure Logged (σ : Type) where
  session : σ
  calls : List (LibraryCall × Int) := []

/-- Append a call to the log. -/
def Logged.log
    (logged : Logged σ)
    (call : LibraryCall)
    (sent : Int × σ) : Int × Logged σ :=
  (sent.1, ⟨sent.2, logged.calls ++ [(call, sent.1)]⟩)

/-- The same client library, keeping a log. -/
def TransactionalClient.logged (client : TransactionalClient σ) :
    TransactionalClient (Logged σ) where
  realQuery query logged :=
    logged.log (.realQuery query) (client.realQuery query logged.session)
  affectedRows logged := client.affectedRows logged.session
  storeResult logged :=
    let stored := client.storeResult logged.session
    (stored.1, { logged with session := stored.2 })
  errno logged := client.errno logged.session
  error logged := client.error logged.session
  autocommit mode logged :=
    logged.log (.autocommit mode) (client.autocommit mode logged.session)
  commit logged := logged.log .commit (client.commit logged.session)
  rollback logged := logged.log .rollback (client.rollback logged.session)

/-! ## A server to run -/

/-- A session whose calls answer from a script, and zero after its end. The
content is the list of the statements executed. -/
structure Scripted where
  script : List Int := []
  errno : Nat := 0
  session : Session (List Bytes) :=
    { committed := [], working := [], autocommit := true, settled := fun _ => rfl }

/-- Answer one call from the script. -/
def Scripted.answer (call : LibraryCall) (scripted : Scripted) : Int × Scripted :=
  let code := scripted.script.headD 0
  (code,
    { script := scripted.script.tail
      errno := if code = 0 then 0 else 2013
      session := scripted.session.answer
        (fun query content => content ++ [query]) (call, code) })

/-- A server that executes every statement by noting it. -/
def notingServer : TransactionServer Scripted (List Bytes) where
  realQuery query := Scripted.answer (.realQuery query)
  affectedRows _ := 1
  storeResult scripted := (none, scripted)
  errno := Scripted.errno
  error _ := []
  autocommit mode := Scripted.answer (.autocommit mode)
  commit := Scripted.answer .commit
  rollback := Scripted.answer .rollback
  view := Scripted.session
  modifies _ := True
  effect query content := content ++ [query]
  view_autocommit _ _ := rfl
  view_commit _ := rfl
  view_rollback _ := rfl
  view_realQuery _ _ _ accepted := if_pos accepted

end MySql
end ModernCommon
