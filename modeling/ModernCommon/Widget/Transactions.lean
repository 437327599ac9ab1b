import ModernCommon.DataFactory.Sessions
import ModernCommon.MySql.AllOrNothing
import ModernCommon.Widget.Store

/-!
# Transactions over the widget table

Requests to the widget table and the transaction functions of the connection
they share, in any order. Statements may be rejected on the way. What the table
answers is what a ledger of two stores answers: the permanent one, and the one
of the open transaction, which a commit publishes and a rollback forgets.
-/

namespace ModernCommon

namespace MySql.Ledger

variable {D : Type}

/-- The content that statements see. -/
def current (ledger : Ledger D) : D :=
  ledger.pending.getD ledger.permanent

/-- Statements leave a content: permanent at once unless a transaction is
open. -/
def put (ledger : Ledger D) (content : D) : Ledger D :=
  match ledger.pending with
  | none => { permanent := content, pending := none }
  | some _ => { ledger with pending := some content }

/-- Everything the ledger has is permanent. -/
def settledAt (content : D) : Ledger D where
  permanent := content
  pending := none

@[simp] theorem current_settledAt (content : D) :
    (settledAt content).current = content := rfl

theorem current_put (ledger : Ledger D) (content : D) :
    (ledger.put content).current = content := by
  unfold put current
  cases ledger.pending <;> rfl

theorem put_pending_isSome (ledger : Ledger D) (content : D) :
    (ledger.put content).pending.isSome = ledger.pending.isSome := by
  unfold put
  cases ledger.pending <;> rfl

end MySql.Ledger

namespace Widget

open Library MySql Data DataFactory

variable {σ : Type}

/-! ## The ledger of stores -/

/-- What the connection to the widget table can be asked, through any of the
factories that share it. -/
inductive ConnectionRequest
  | ask (factory : ConnectedFactory) (request : Request)
  | startTransaction
  | commitTransaction
  | rollbackTransaction

/-- A permanent store, and that of the open transaction. -/
abbrev StoreLedger := Ledger WidgetStore

/-- What a request may answer on a ledger, and the ledger it leaves. -/
inductive LedgerAnswers : Specification StoreLedger ConnectionRequest Answer
  | ask {ledger : StoreLedger} {factory request answer next}
      (answers : Answers request ledger.current answer next) :
      LedgerAnswers (.ask factory request) ledger answer (ledger.put next)
  | startTransaction (ledger : StoreLedger) :
      LedgerAnswers .startTransaction ledger .done
        { ledger with pending := some ledger.current }
  | commitTransaction (ledger : StoreLedger) :
      LedgerAnswers .commitTransaction ledger .done
        (.settledAt ledger.current)
  | rollbackTransaction (ledger : StoreLedger) :
      LedgerAnswers .rollbackTransaction ledger .done
        (.settledAt ledger.permanent)

/-- The effect of a request that was answered. -/
def StoreLedger.acknowledge
    (ledger : StoreLedger) : ConnectionRequest × Answer → StoreLedger
  | (.ask _ request, answer) =>
      ledger.put (Widget.acknowledge ledger.current (request, answer))
  | (.startTransaction, _) => { ledger with pending := some ledger.current }
  | (.commitTransaction, _) => .settledAt ledger.current
  | (.rollbackTransaction, _) => .settledAt ledger.permanent

theorem LedgerAnswers.eq_acknowledge
    (request : ConnectionRequest)
    (before : StoreLedger)
    (answer : Answer)
    (after : StoreLedger)
    (answers : LedgerAnswers request before answer after) :
    after = before.acknowledge (request, answer) := by
  cases answers with
  | ask answers => rw [StoreLedger.acknowledge, ← answers.eq_acknowledge]
  | startTransaction _ | commitTransaction _ | rollbackTransaction _ => rfl

/-- Replay a session of requests with their answers on a ledger. -/
def StoreLedger.replay
    (ledger : StoreLedger)
    (requests : List ConnectionRequest)
    (answers : List Answer) : StoreLedger :=
  (requests.zip answers).foldl StoreLedger.acknowledge ledger

/-! ## The connection -/

/-- A server of the widget table with transactions: its sessions see the working
content, and statements change that. -/
structure TransactionalWidgetServer (σ : Type)
    extends WidgetServer σ, TransactionalClient σ where
  view : σ → MySql.Session WidgetContent
  view_working : ∀ session, (view session).working = content session
  view_autocommit : ∀ mode session,
    view (autocommit mode session).2 =
      if (autocommit mode session).1 = 0 then (view session).setAutocommit mode
      else view session
  view_commit : ∀ session,
    view (commit session).2 =
      if (commit session).1 = 0 then (view session).commit else view session
  view_rollback : ∀ session,
    view (rollback session).2 =
      if (rollback session).1 = 0 then (view session).rollback else view session
  view_realQuery : ∀ text (statement : Statement) session,
    scan text = some statement.tokens → statement.Fits characters →
    view (realQuery text session).2 =
      (view session).modify fun _ => content (realQuery text session).2
  view_storeResult : ∀ session, view (storeResult session).2 = view session

/-- How a call of the connection ends for a caller who catches what it
throws. -/
def concludeCall :
    EStateM.Result Failure (Connected σ) Unit → Answer × Connected σ
  | .ok _ reached => (.done, reached)
  | .error failure reached => (.failed failure, reached)

/-- Ask the connection. -/
def ConnectionRequest.perform
    (library : TransactionalClient σ)
    (request : ConnectionRequest)
    (connected : Connected σ) : Answer × Connected σ :=
  match request with
  | .ask factory request =>
      let answered :=
        Widget.perform library.toMySqlClient factory request connected.client
      (answered.1, { connected with client := answered.2 })
  | .startTransaction =>
      concludeCall ((Connected.startTransaction library).run connected)
  | .commitTransaction =>
      concludeCall ((Connected.commitTransaction library).run connected)
  | .rollbackTransaction =>
      concludeCall ((Connected.rollbackTransaction library).run connected)

/-- The calls with which a transaction ends succeed, if one is active. -/
def EndSucceeds
    (library : TransactionalClient σ)
    (ending : σ → Int × σ)
    (connected : Connected σ) : Prop :=
  connected.transactionActive →
    (ending connected.client.session).1 = 0 ∧
      (library.autocommit true (ending connected.client.session).2).1 = 0

/-- Strings fit their columns, and the calls for transactions succeed.
Statements may be rejected. -/
def ConnectionRequest.Succeeds
    (server : TransactionalWidgetServer σ)
    (request : ConnectionRequest)
    (connected : Connected σ) : Prop :=
  match request with
  | .ask _ request => request.Fits server.characters
  | .startTransaction =>
      (server.autocommit false connected.client.session).1 = 0
  | .commitTransaction =>
      EndSucceeds server.toTransactionalClient server.commit connected
  | .rollbackTransaction =>
      EndSucceeds server.toTransactionalClient server.rollback connected

/-! ## What statements leave alone -/

/-- What a statement leaves alone: the mode, and with autocommit off the
committed content. -/
structure SameBooks
    (server : TransactionalWidgetServer σ)
    (before after : σ) : Prop where
  mode : (server.view after).autocommit = (server.view before).autocommit
  committed : (server.view before).autocommit = false →
    (server.view after).committed = (server.view before).committed

namespace SameBooks

variable {server : TransactionalWidgetServer σ}

instance : IsPreorder σ (SameBooks server) where
  refl _ := ⟨rfl, fun _ => rfl⟩
  trans _ _ _ first second :=
    { mode := second.mode.trans first.mode
      committed := fun isOff =>
        (second.committed (first.mode.trans isOff)).trans
          (first.committed isOff) }

theorem of_view_eq
    {before after : σ}
    (sameView : server.view after = server.view before) :
    SameBooks server before after where
  mode := by rw [sameView]
  committed _ := by rw [sameView]

theorem of_modify
    {before after : σ}
    {content : WidgetContent}
    (modified : server.view after = (server.view before).modify fun _ => content) :
    SameBooks server before after where
  mode := by rw [modified]; rfl
  committed isOff := by
    rw [modified]
    exact if_neg (by simp [isOff])

end SameBooks

/-- Every request sends the text of a statement that fits when the request
does. -/
theorem Request.scanned
    (request : Request)
    {characters : Bytes → Nat}
    (fits : request.Fits characters) :
    ∃ statement : Statement, scan request.sql = some statement.tokens ∧
      statement.Fits characters := by
  cases request with
  | insert entry =>
      exact ⟨_, scan_buildInsertSql entry,
        le_of_mem_nullable fits.1, le_of_mem_nullable fits.2⟩
  | update entry =>
      exact ⟨_, scan_buildUpdateSql entry,
        le_of_mem_nullable fits.1, le_of_mem_nullable fits.2⟩
  | remove key => exact ⟨_, scan_buildDeleteSql key, trivial⟩
  | findByKey key => exact ⟨_, scan_buildSelectByKeySql key, trivial⟩
  | queryAll | countAll => exact ⟨_, scan_buildSelectAllSql, trivial⟩
  | queryCategory category =>
      exact ⟨_, scan_buildSelectByCategorySql category, trivial⟩

/-- A statement keeps what the library's calls for it keep. -/
theorem keeps_program
    {mysql : MySqlClient σ}
    {relation : σ → σ → Prop}
    [IsPreorder σ relation]
    (call : StatementCall)
    (sends : ∀ session, relation session (mysql.realQuery call.query session).2)
    (stores : ∀ session, relation session (mysql.storeResult session).2) :
    Keeps (OfSession relation) (call.program mysql) := by
  unfold StatementCall.program
  cases call.kind with
  | executeModificationSql =>
      exact keeps_bind (keeps_executeModificationSql call.factory sends) fun _ =>
        keeps_pure _
  | executeQuery => exact keeps_executeQuery call.factory sends stores

/-- No request concerns the mode, or what is committed while autocommit is
off. -/
theorem perform_sameBooks
    (server : TransactionalWidgetServer σ)
    (factory : ConnectedFactory)
    {request : Request}
    (fits : request.Fits server.characters)
    (client : Client σ) :
    SameBooks server client.session
      (Widget.perform server.toMySqlClient factory request client).2.session := by
  obtain ⟨statement, scanned, statementFits⟩ := request.scanned fits
  have sends : ∀ session, SameBooks server session
      (server.realQuery request.sql session).2 := fun session =>
    .of_modify (server.view_realQuery _ statement session scanned statementFits)
  have stores : ∀ session, SameBooks server session
      (server.storeResult session).2 := fun session =>
    .of_view_eq (server.view_storeResult session)
  have ended : SameBooks server client.session
      (request.ended server.toMySqlClient factory client).2.session := by
    have kept := keeps_program (request.call factory) sends stores client
    rw [Request.ended]
    cases ran : ((request.call factory).program server.toMySqlClient).run client
    <;> rw [ran] at kept
    <;> exact kept
  rw [perform_eq, afterwards]
  split <;> exact ended

/-! ## The connection as a ledger -/

/-- The table and the flag of the connection say what a ledger says. -/
structure HoldsLedger
    (server : TransactionalWidgetServer σ)
    (connected : Connected σ)
    (ledger : StoreLedger) : Prop where
  current : Holds server.toWidgetServer connected.client ledger.current
  permanent : ledger.permanent.Lists
    (server.view connected.client.session).committed.rows
  flag : connected.transactionActive = ledger.pending.isSome
  mode : (server.view connected.client.session).autocommit =
    !ledger.pending.isSome

namespace HoldsLedger

variable {server : TransactionalWidgetServer σ}
variable {connected : Connected σ} {ledger : StoreLedger}

/-- A session that was moved, and the flag set, is described by the ledger that
lists its contents. -/
theorem moved
    (holds : HoldsLedger server connected ledger)
    {session : σ}
    {active : Bool}
    {next : StoreLedger}
    (flag : active = next.pending.isSome)
    (current : next.current.Lists (server.view session).working.rows)
    (permanent : next.permanent.Lists (server.view session).committed.rows)
    (mode : (server.view session).autocommit = !next.pending.isSome) :
    HoldsLedger server
      { connected.withSession session with transactionActive := active }
      next where
  current :=
    { unlocked := holds.current.unlocked
      lists := by
        rw [server.view_working] at current
        exact current
      freed := holds.current.freed }
  permanent := permanent
  flag := flag
  mode := mode

theorem working
    (holds : HoldsLedger server connected ledger) :
    ledger.current.Lists (server.view connected.client.session).working.rows := by
  rw [server.view_working]
  exact holds.current.lists

/-- What a statement leaves is permanent unless a transaction is open. -/
theorem permanent_put
    (holds : HoldsLedger server connected ledger)
    {session : σ}
    (same : SameBooks server connected.client.session session)
    {next : WidgetStore}
    (lists : next.Lists (server.content session).rows) :
    (ledger.put next).permanent.Lists (server.view session).committed.rows := by
  have mode := holds.mode
  have permanent := holds.permanent
  unfold Ledger.put
  cases pending : ledger.pending with
  | none =>
      rw [pending] at mode
      rw [← (server.view session).settled (same.mode.trans mode),
        server.view_working]
      exact lists
  | some _ =>
      rw [pending] at mode
      rw [same.committed mode]
      exact permanent

/-- Requests to the table leave the flag alone, and what they leave is permanent
unless a transaction is open. -/
theorem ask
    (holds : HoldsLedger server connected ledger)
    {factory : ConnectedFactory}
    {request : Request}
    (fits : request.Fits server.characters) :
    ∃ next,
      Answers request ledger.current
        (Widget.perform server.toMySqlClient factory request
          connected.client).1 next ∧
      HoldsLedger server
        { connected with
          client := (Widget.perform server.toMySqlClient factory request
            connected.client).2 } (ledger.put next) := by
  obtain ⟨next, answers, stillHolds⟩ := perform_answers server.toWidgetServer
    factory request connected.client ledger.current fits holds.current
  have same := perform_sameBooks server factory fits connected.client
  refine ⟨next, answers, ?_⟩
  exact
    { current := by
        rw [Ledger.current_put]
        exact stillHolds
      permanent := holds.permanent_put same stillHolds.lists
      flag := holds.flag.trans (ledger.put_pending_isSome next).symm
      mode := by
        rw [Ledger.put_pending_isSome, ← holds.mode]
        exact same.mode }

/-- Switching autocommit off opens a transaction, or leaves the one that is
open. -/
theorem startTransaction
    (holds : HoldsLedger server connected ledger)
    (succeeded : (server.autocommit false connected.client.session).1 = 0) :
    HoldsLedger server
      { connected.withSession
          (server.autocommit false connected.client.session).2 with
        transactionActive := true }
      { ledger with pending := some ledger.current } := by
  have switched := server.view_autocommit false connected.client.session
  rw [if_pos succeeded] at switched
  refine holds.moved rfl ?_ ?_ ?_ <;> rw [switched]
  · exact holds.working
  · exact holds.permanent
  · rfl

/-- Two calls that settle the session on a store end the transaction. -/
theorem ended
    (holds : HoldsLedger server connected ledger)
    {session : σ}
    {store : WidgetStore}
    (succeeded : (server.autocommit true session).1 = 0)
    (lists : store.Lists (server.view session).working.rows) :
    HoldsLedger server
      { connected.withSession (server.autocommit true session).2 with
        transactionActive := false } (.settledAt store) := by
  have switched := server.view_autocommit true session
  rw [if_pos succeeded] at switched
  refine holds.moved rfl ?_ ?_ ?_ <;> rw [switched]
  · exact lists
  · exact lists
  · rfl

/-- Between transactions everything the ledger has is permanent. -/
theorem settled
    (holds : HoldsLedger server connected ledger)
    (inactive : connected.transactionActive = false) :
    ledger = .settledAt ledger.permanent := by
  have flag := holds.flag
  obtain ⟨permanent, pending⟩ := ledger
  cases pending with
  | none => rfl
  | some store =>
      rw [inactive] at flag
      cases flag

end HoldsLedger

/-! ## Requests -/

variable (library : TransactionalClient σ) (connected : Connected σ)

/-- An end calls the library only when a transaction is active. -/
theorem perform_commitTransaction :
    ConnectionRequest.commitTransaction.perform library connected =
      (.done,
        if connected.transactionActive then
          { connected.withSession (library.autocommit true
              (library.commit connected.client.session).2).2 with
            transactionActive := false }
        else connected) := by
  obtain ⟨client, active⟩ := connected
  cases active <;> rfl

theorem perform_rollbackTransaction :
    ConnectionRequest.rollbackTransaction.perform library connected =
      (.done,
        if connected.transactionActive then
          { connected.withSession (library.autocommit true
              (library.rollback connected.client.session).2).2 with
            transactionActive := false }
        else connected) := by
  obtain ⟨client, active⟩ := connected
  cases active <;> rfl

/-- Every request that succeeds is answered as the ledger allows. -/
theorem ConnectionRequest.perform_answers
    (server : TransactionalWidgetServer σ)
    (request : ConnectionRequest)
    (connected : Connected σ)
    (ledger : StoreLedger)
    (succeeds : request.Succeeds server connected)
    (holds : HoldsLedger server connected ledger) :
    ∃ next,
      LedgerAnswers request ledger
        (request.perform server.toTransactionalClient connected).1 next ∧
      HoldsLedger server
        (request.perform server.toTransactionalClient connected).2 next := by
  cases request with
  | ask factory request =>
      obtain ⟨next, answers, stillHolds⟩ := holds.ask succeeds
      exact ⟨ledger.put next, .ask answers, stillHolds⟩
  | startTransaction =>
      exact ⟨_, .startTransaction ledger, holds.startTransaction succeeds⟩
  | commitTransaction =>
      rw [perform_commitTransaction]
      refine ⟨_, .commitTransaction ledger, ?_⟩
      split_ifs with active
      · obtain ⟨committed, switched⟩ := succeeds active
        refine holds.ended switched ?_
        rw [server.view_commit, if_pos committed]
        exact holds.working
      · have settled := holds.settled (Bool.eq_false_iff.mpr active)
        rw [settled, Ledger.current_settledAt]
        rwa [settled] at holds
  | rollbackTransaction =>
      rw [perform_rollbackTransaction]
      refine ⟨_, .rollbackTransaction ledger, ?_⟩
      split_ifs with active
      · obtain ⟨discarded, switched⟩ := succeeds active
        refine holds.ended switched ?_
        rw [server.view_rollback, if_pos discarded]
        exact holds.permanent
      · rwa [holds.settled (Bool.eq_false_iff.mpr active)] at holds

/-! ## Runs -/

/-- The connection after its construction and a list of requests, with their
answers. -/
def connectionAnswers
    (library : TransactionalClient σ)
    (session : σ)
    (requests : List ConnectionRequest) : List Answer × Connected σ :=
  Specification.session (ConnectionRequest.perform library) requests
    (Connected.construct library session)

/-- The connection is opened, and every request succeeds where it is made. -/
structure Succeeded
    (server : TransactionalWidgetServer σ)
    (session : σ)
    (requests : List ConnectionRequest) : Prop where
  opened : (server.autocommit true session).1 = 0
  requests : Specification.Admits
    (ConnectionRequest.perform server.toTransactionalClient)
    (ConnectionRequest.Succeeds server) requests
    (Connected.construct server.toTransactionalClient session)

/-- The rows a session finds, as a store. -/
def storeOf
    (server : TransactionalWidgetServer σ)
    (session : σ) : WidgetStore :=
  .ofRows (server.content session).rows (server.content session).uniqueIds

theorem holdsLedger_construct
    (server : TransactionalWidgetServer σ)
    {session : σ}
    (opened : (server.autocommit true session).1 = 0) :
    HoldsLedger server
      (Connected.construct server.toTransactionalClient session)
      (.settledAt (storeOf server session)) := by
  have switched := server.view_autocommit true session
  rw [if_pos opened] at switched
  have lists : (storeOf server session).Lists (server.view session).working.rows := by
    rw [server.view_working]
    exact KeyedStore.ofRows_lists _
  exact
    { current :=
        { unlocked := rfl
          lists := by
            rw [← server.view_working, Connected.construct, switched]
            exact lists
          freed := rfl }
      permanent := by
        rw [Connected.construct, switched]
        exact lists
      flag := rfl
      mode := by
        rw [Connected.construct, switched]
        rfl }

/-- From a connection that holds a ledger, every session of requests that
succeed is answered as the ledger allows, and holds its replay at the end. -/
theorem HoldsLedger.session
    {server : TransactionalWidgetServer σ}
    {connected : Connected σ}
    {ledger : StoreLedger}
    (holds : HoldsLedger server connected ledger)
    {requests : List ConnectionRequest}
    (succeed : Specification.Admits
      (ConnectionRequest.perform server.toTransactionalClient)
      (ConnectionRequest.Succeeds server) requests connected) :
    let run := Specification.session
      (ConnectionRequest.perform server.toTransactionalClient) requests connected
    Specification.Explains LedgerAnswers ledger requests run.1
        (ledger.replay requests run.1) ∧
      HoldsLedger server run.2 (ledger.replay requests run.1) := by
  intro run
  obtain ⟨final, explained, finallyHolds⟩ :=
    Specification.explains_session_of_admits
      (ConnectionRequest.perform_answers server) succeed holds
  obtain rfl := explained.replay LedgerAnswers.eq_acknowledge
  exact ⟨explained, finallyHolds⟩

/-- Whatever is asked through however many factories, in and out of
transactions, and whichever statements are rejected: as long as the calls for
transactions succeed, every answer is one the ledger of stores allows, and the
connection holds the ledger's replay. -/
theorem transactions_refine
    (server : TransactionalWidgetServer σ)
    {session : σ}
    {requests : List ConnectionRequest}
    (succeeded : Succeeded server session requests) :
    let run := connectionAnswers server.toTransactionalClient session requests
    let ledger := StoreLedger.replay (.settledAt (storeOf server session)) requests
      run.1
    Specification.Explains LedgerAnswers (.settledAt (storeOf server session))
        requests run.1 ledger ∧
      HoldsLedger server run.2 ledger :=
  (holdsLedger_construct server succeeded.opened).session succeeded.requests

/-! ### A server to run -/

/-- A session of the reference server, and what is committed of it. -/
structure TransactionalSession where
  session : Session
  view : MySql.Session WidgetContent
  working : view.working = session.content

namespace TransactionalSession

/-- Move the content. -/
def moved
    (held : TransactionalSession)
    (view : MySql.Session WidgetContent) : Int × TransactionalSession :=
  (0,
    { session := { held.session with content := view.working }
      view
      working := rfl })

/-- Execute a statement on the working rows, and commit at once with autocommit
on. -/
def realQuery
    (text : Bytes)
    (held : TransactionalSession) : Int × TransactionalSession :=
  let sent := held.session.realQuery text
  (sent.1,
    { session := sent.2
      view := held.view.modify fun _ => sent.2.content
      working := rfl })

/-- Hand out the result set of the last statement. -/
def storeResult
    (held : TransactionalSession) :
    Option (List MySqlRow) × TransactionalSession :=
  (held.session.result,
    { held with session := { held.session with result := none } })

end TransactionalSession

/-- The reference server with transactions, whose calls always succeed. -/
def transactionalServer : TransactionalWidgetServer TransactionalSession where
  realQuery := TransactionalSession.realQuery
  affectedRows held := held.session.affectedRows
  storeResult := TransactionalSession.storeResult
  errno held := held.session.errno
  error _ := []
  autocommit mode held := held.moved (held.view.setAutocommit mode)
  commit held := held.moved held.view.commit
  rollback held := held.moved held.view.rollback
  content held := held.session.content
  characters := List.length
  executes text statement held scanned fits := by
    obtain ⟨reply, executed, reported⟩ :=
      referenceServer.executes text statement held.session scanned fits
    refine ⟨reply, executed, ?_⟩
    cases reply <;> exact reported
  content_storeResult _ := rfl
  view := TransactionalSession.view
  view_working := TransactionalSession.working
  view_autocommit _ _ := rfl
  view_commit _ := rfl
  view_rollback _ := rfl
  view_realQuery _ _ _ _ _ := rfl
  view_storeResult _ := rfl

/-- An empty table, on a session that is being opened. -/
def emptyBooks : TransactionalSession where
  session := { content := ⟨[], List.nodup_nil⟩ }
  view :=
    { committed := ⟨[], List.nodup_nil⟩
      working := ⟨[], List.nodup_nil⟩
      autocommit := false
      settled := nofun }
  working := rfl

/-- A bolt that is inserted twice, the second time rejected, and removed, in a
transaction that is started twice. -/
def boltDuring : List ConnectionRequest :=
  [.ask widgetConnection (.insert bolt), .startTransaction,
    .ask widgetConnection (.remove bolt.key)]

/-- A bolt is there before the transaction. -/
def boltBefore : List ConnectionRequest :=
  [.ask widgetConnection (.insert bolt)]

theorem bolt_fits : bolt.Fits transactionalServer.characters :=
  ⟨by decide, by decide⟩

theorem boltTransaction_succeeded :
    Succeeded transactionalServer emptyBooks
      (boltBefore ++
        (.startTransaction :: boltDuring ++ [.rollbackTransaction])) where
  opened := rfl
  requests :=
    ⟨bolt_fits, rfl, bolt_fits, rfl, trivial, fun _ => ⟨rfl, rfl⟩, trivial⟩

theorem transactions_refine_bolt :
    let requests := boltBefore ++
      (.startTransaction :: boltDuring ++ [.rollbackTransaction])
    let run := connectionAnswers transactionalServer.toTransactionalClient
      emptyBooks requests
    let ledger := StoreLedger.replay
      (.settledAt (storeOf transactionalServer emptyBooks)) requests run.1
    Specification.Explains LedgerAnswers
        (.settledAt (storeOf transactionalServer emptyBooks)) requests run.1
        ledger ∧
      HoldsLedger transactionalServer run.2 ledger :=
  transactions_refine transactionalServer boltTransaction_succeeded

/-! ## What is read after a transaction -/

/-- The two ways to end a transaction. -/
inductive Ending
  | commit
  | rollback

/-- The call that ends a transaction so. -/
def Ending.request : Ending → ConnectionRequest
  | .commit => .commitTransaction
  | .rollback => .rollbackTransaction

/-- The store that becomes permanent. -/
def Ending.left (permanent pending : WidgetStore) : Ending → WidgetStore
  | .commit => pending
  | .rollback => permanent

/-- What is left of what was written. -/
def Ending.kept : Ending → Option α → Option α
  | .commit, written => written
  | .rollback, _ => none

/-- The request ends a transaction. -/
def ConnectionRequest.ends : ConnectionRequest → Bool
  | .commitTransaction | .rollbackTransaction => true
  | .ask _ _ | .startTransaction => false

/-- What an answered request leaves under a key, if it writes there. -/
def ConnectionRequest.written
    (key : WidgetKey) : ConnectionRequest × Answer → Option (Option WidgetEntry)
  | (.ask _ request, answer) => Widget.written key (request, answer)
  | _ => none

/-- What the last acknowledged modification of a key among these left there. -/
def lastWrittenOf
    (key : WidgetKey)
    (requests : List ConnectionRequest)
    (answers : List Answer) : Option (Option WidgetEntry) :=
  ((requests.zip answers).filterMap (ConnectionRequest.written key)).getLast?

/-- In an open transaction only the pending store changes, as it is written. -/
theorem foldl_acknowledge_during
    (answered : List (ConnectionRequest × Answer))
    (noEnd : ∀ request ∈ answered, request.1.ends = false)
    (permanent store : WidgetStore) :
    ∃ pending : WidgetStore,
      answered.foldl StoreLedger.acknowledge
          { permanent, pending := some store } =
        { permanent, pending := some pending } ∧
      ∀ key, pending.find key =
        (answered.filterMap (ConnectionRequest.written key)).getLast?.getD
          (store.find key) := by
  induction answered generalizing store with
  | nil => exact ⟨store, rfl, fun _ => rfl⟩
  | cons first rest inductionHypothesis =>
      have later := inductionHypothesis fun request present =>
        noEnd request (List.mem_cons_of_mem _ present)
      obtain ⟨request, answer⟩ := first
      cases request with
      | ask factory request =>
          obtain ⟨pending, folded, finds⟩ :=
            later (Widget.acknowledge store (request, answer))
          refine ⟨pending, folded, fun key => ?_⟩
          rw [finds, acknowledge_find, List.filterMap_cons,
            ConnectionRequest.written]
          cases Widget.written key (request, answer) with
          | none => rfl
          | some left =>
              rw [List.getLast?_cons, Option.getD_some, Option.getD_some]
      | startTransaction => exact later store
      | commitTransaction | rollbackTransaction =>
          exact absurd (noEnd _ List.mem_cons_self) Bool.noConfusion

/-- An open transaction leaves the permanent store as it found it, and writes
what its requests write to the pending one. -/
theorem HoldsLedger.transaction
    {server : TransactionalWidgetServer σ}
    {started : Connected σ}
    {store : WidgetStore}
    (holds : HoldsLedger server started (.settledAt store))
    {during : List ConnectionRequest}
    (noEnd : ∀ request ∈ during, request.ends = false)
    (succeed : Specification.Admits
      (ConnectionRequest.perform server.toTransactionalClient)
      (ConnectionRequest.Succeeds server) (.startTransaction :: during) started) :
    let run := Specification.session
      (ConnectionRequest.perform server.toTransactionalClient)
      (.startTransaction :: during) started
    ∃ pending : WidgetStore,
      HoldsLedger server run.2 { permanent := store, pending := some pending } ∧
      ∀ key, pending.find key =
        (lastWrittenOf key during run.1.tail).getD (store.find key) := by
  intro run
  have finallyHolds := (holds.session succeed).2
  obtain ⟨pending, folded, finds⟩ := foldl_acknowledge_during
    (during.zip run.1.tail)
    (fun request present => noEnd _ (List.of_mem_zip present).1) store store
  refine ⟨pending, ?_, finds⟩
  rw [← folded]
  exact finallyHolds

/-- What a settled store finds is what the table answers. -/
theorem HoldsLedger.findByKey
    {server : TransactionalWidgetServer σ}
    {connected : Connected σ}
    {store : WidgetStore}
    (holds : HoldsLedger server connected (.settledAt store))
    (factory : ConnectedFactory)
    (key : WidgetKey) :
    ((ConnectionRequest.ask factory (.findByKey key)).perform
        server.toTransactionalClient connected).1 =
      .found ((store.find key).map readBack) :=
  findByKey_answers server.toWidgetServer factory key holds.current

/-- An end of an open transaction keeps or forgets what is pending. -/
theorem Ending.perform_holds
    {server : TransactionalWidgetServer σ}
    {connected : Connected σ}
    (ending : Ending)
    {permanent pending : WidgetStore}
    (holds : HoldsLedger server connected { permanent, pending := some pending })
    (succeeds : ending.request.Succeeds server connected) :
    HoldsLedger server
      (ending.request.perform server.toTransactionalClient connected).2
      (.settledAt (ending.left permanent pending)) := by
  obtain ⟨next, answers, stillHolds⟩ :=
    ending.request.perform_answers server connected _ succeeds holds
  rw [answers.eq_acknowledge] at stillHolds
  cases ending <;> exact stillHolds

/-- Whatever requests a transaction makes, nothing of them is committed before
its end. After a commit, the table finds under each key what the last
acknowledged modification in the transaction left there, and what it found
before when there was none; after a rollback it finds what it found before. -/
theorem findByKey_afterTransaction
    (server : TransactionalWidgetServer σ)
    {session : σ}
    {before during : List ConnectionRequest}
    {ending : Ending}
    (succeeded : Succeeded server session
      (before ++ (.startTransaction :: during ++ [ending.request])))
    (between : (connectionAnswers server.toTransactionalClient session
      before).2.transactionActive = false)
    (noEnd : ∀ request ∈ during, request.ends = false)
    (factory : ConnectedFactory)
    (key : WidgetKey) :
    let started :=
      (connectionAnswers server.toTransactionalClient session before).2
    let rows := (server.content started.client.session).rows
    let run := Specification.session
      (ConnectionRequest.perform server.toTransactionalClient)
      (.startTransaction :: during) started
    let ended := ending.request.perform server.toTransactionalClient run.2
    (server.view run.2.client.session).committed.rows.Perm rows ∧
      ended.2.transactionActive = false ∧
      ((ConnectionRequest.ask factory (.findByKey key)).perform
          server.toTransactionalClient ended.2).1 =
        .found (((ending.kept (lastWrittenOf key during run.1.tail)).getD
          (rows.find? fun row => row.key = key)).map readBack) := by
  intro started rows run ended
  obtain ⟨opened, admits⟩ := succeeded
  obtain ⟨admitsBefore, admitsTransaction⟩ :=
    Specification.admits_append.mp admits
  obtain ⟨admitsDuring, succeeds, _⟩ :=
    Specification.admits_append.mp admitsTransaction
  obtain ⟨_, holdsStarted⟩ :=
    (holdsLedger_construct server opened).session admitsBefore
  rw [holdsStarted.settled between] at holdsStarted
  obtain ⟨pending, holdsRun, finds⟩ :=
    holdsStarted.transaction noEnd admitsDuring
  have lists := holdsStarted.current.lists
  have holdsEnded := ending.perform_holds holdsRun succeeds
  refine ⟨holdsRun.permanent.perm lists, holdsEnded.flag, ?_⟩
  refine (holdsEnded.findByKey factory key).trans ?_
  have found : (rows.find? fun row => row.key = key) = _ := lists.find_eq key
  rw [found]
  cases ending with
  | commit =>
      exact congrArg (fun entry => Answer.found (entry.map readBack)) (finds key)
  | rollback => rfl

theorem findByKey_afterTransaction_bolt :
    let started := (connectionAnswers transactionalServer.toTransactionalClient
      emptyBooks boltBefore).2
    let rows := (transactionalServer.content started.client.session).rows
    let run := Specification.session
      (ConnectionRequest.perform transactionalServer.toTransactionalClient)
      (.startTransaction :: boltDuring) started
    let ended := Ending.rollback.request.perform
      transactionalServer.toTransactionalClient run.2
    (transactionalServer.view run.2.client.session).committed.rows.Perm rows ∧
      ended.2.transactionActive = false ∧
      ((ConnectionRequest.ask widgetConnection (.findByKey bolt.key)).perform
          transactionalServer.toTransactionalClient ended.2).1 =
        .found (((Ending.rollback.kept
            (lastWrittenOf bolt.key boltDuring run.1.tail)).getD
          (rows.find? fun row => row.key = bolt.key)).map readBack) :=
  findByKey_afterTransaction transactionalServer boltTransaction_succeeded
    (by decide +kernel) (by decide) widgetConnection bolt.key

end Widget
end ModernCommon
