import ModernCommon.MySql.Transaction

/-!
# All or nothing

What a transaction is for: a ledger of permanent content, and of the content of
the open transaction. While the library's calls succeed, the connection behaves
as this ledger, whichever factories send the modifications.
-/

namespace ModernCommon
namespace MySql

open Library
open Connected

/-! ## What a transaction is for -/

/-- Permanent content, and the content of the open transaction. -/
@[ext] structure Ledger (D : Type) where
  permanent : D
  pending : Option D

/-- What an operation means. -/
def Ledger.step
    (effect : Bytes → D → D)
    (ledger : Ledger D) : Operation modifies → Ledger D
  | .startTransaction =>
      { ledger with pending := some (ledger.pending.getD ledger.permanent) }
  | .commitTransaction =>
      { permanent := ledger.pending.getD ledger.permanent, pending := none }
  | .rollbackTransaction => { ledger with pending := none }
  | .modification factory query =>
      if factory.connection.isSome then
        match ledger.pending with
        | none => { ledger with permanent := effect query ledger.permanent }
        | some content => { ledger with pending := some (effect query content) }
      else ledger

/-- The connection as a ledger. -/
def Connected.ledger
    (server : TransactionServer σ D)
    (connected : Connected (Logged σ)) : Ledger D where
  permanent := (connected.view server).committed
  pending :=
    if connected.transactionActive then some (connected.view server).working
    else none

/-- Flag and mode say the same. -/
def Connected.InStep
    (server : TransactionServer σ D)
    (connected : Connected (Logged σ)) : Prop :=
  connected.transactionActive = !(connected.view server).autocommit

/-- Every call of the library has succeeded. -/
def Connected.AllSucceeded (connected : Connected (Logged σ)) : Prop :=
  ∀ call ∈ connected.calls, call.2 = 0

namespace Operation

variable {σ D : Type}

theorem foldl_answer_of_succeeded
    (effect : Bytes → D → D)
    (session : Session D)
    {answered : List (LibraryCall × Int)}
    (succeeded : ∀ call ∈ answered, call.2 = 0) :
    answered.foldl (Session.answer effect) session =
      (answered.map Prod.fst).foldl (Session.apply effect) session := by
  induction answered generalizing session with
  | nil => rfl
  | cons call answered inductionHypothesis =>
      have first := succeeded call (by simp)
      rw [List.map_cons, List.foldl_cons, List.foldl_cons, Session.answer,
        if_pos first]
      exact inductionHypothesis _ fun other present =>
        succeeded other (by simp [present])

/-- While the library's calls succeed, flag and mode are changed together, and
the operation does to the content what it means. -/
theorem Performed.refines
    {server : TransactionServer σ D}
    {before after : Connected (Logged σ)}
    {operation : Operation server.modifies}
    {answered : List (LibraryCall × Int)}
    (performed : operation.Performed server before answered after)
    (inStep : before.InStep server)
    (succeeded : after.AllSucceeded) :
    before.AllSucceeded ∧ after.InStep server ∧
      after.ledger server =
        (before.ledger server).step server.effect operation := by
  have succeededBoth : ∀ call ∈ before.calls ++ answered, call.2 = 0 := by
    rw [← performed.log]
    exact succeeded
  have earlier : before.AllSucceeded := fun call present =>
    succeededBoth call (List.mem_append_left _ present)
  have now : ∀ call ∈ answered, call.2 = 0 := fun call present =>
    succeededBoth call (List.mem_append_right _ present)
  have reached := performed.view fun query code present => now _ present
  rw [foldl_answer_of_succeeded server.effect _ now, performed.calls] at reached
  have flag := performed.flag
  have settled : before.transactionActive = false →
      (before.view server).working = (before.view server).committed := by
    intro inactive
    apply (before.view server).settled
    simpa [InStep, inactive] using inStep
  refine ⟨earlier, ?_⟩
  unfold InStep at inStep ⊢
  unfold ledger
  cases active : before.transactionActive <;> rw [active] at inStep flag reached
  case true =>
    have isOff : (before.view server).autocommit = false := by simpa using inStep
    cases operation with
    | modification factory query =>
        by_cases shared : factory.connection.isSome <;>
          simp [flag, reached, leavesActive, Operation.calls, shared, isOff,
            Session.apply, Session.modify, Ledger.step]
    | _ =>
        simp [flag, reached, leavesActive, Operation.calls, Session.apply,
          Session.setAutocommit, Session.commit, Session.rollback, Ledger.step]
  case false =>
    have isOn : (before.view server).autocommit = true := by simpa using inStep
    cases operation with
    | modification factory query =>
        by_cases shared : factory.connection.isSome <;>
          simp [flag, reached, leavesActive, Operation.calls, shared, isOn,
            settled active, Session.apply, Session.modify, Ledger.step]
    | _ =>
        simp [flag, reached, leavesActive, Operation.calls, isOn, settled active,
          Session.apply, Session.setAutocommit, Ledger.step]

/-! ## Whole runs -/

/-- A run whose calls succeed keeps flag and mode in step. -/
theorem reached_inStep
    (server : TransactionServer σ D)
    (session : σ)
    {operations : List (Operation server.modifies)}
    (succeeded : (reached server session operations).AllSucceeded) :
    (reached server session operations).InStep server := by
  induction operations using List.reverseRecOn with
  | nil =>
      have switched := succeeded (.autocommit true, _) (List.mem_singleton.mpr rfl)
      have answered := server.view_autocommit true session
      rw [if_pos switched] at answered
      change false = !(server.view (server.autocommit true session).2).autocommit
      rw [answered]
      rfl
  | append_singleton before operation inductionHypothesis =>
      obtain ⟨answered, performed⟩ :=
        reached_append_singleton server session before operation
      have earlier : (reached server session before).AllSucceeded := by
        intro call present
        apply succeeded call
        rw [performed.log]
        exact List.mem_append_left _ present
      exact (performed.refines (inductionHypothesis earlier) succeeded).2.1

/-- A run whose calls succeed does to the content what its operations mean. -/
theorem ledger_reached_append
    (server : TransactionServer σ D)
    (session : σ)
    (before : List (Operation server.modifies))
    {after : List (Operation server.modifies)}
    (succeeded : (reached server session (before ++ after)).AllSucceeded) :
    (reached server session before).AllSucceeded ∧
      (reached server session (before ++ after)).ledger server =
        after.foldl (Ledger.step server.effect)
          ((reached server session before).ledger server) := by
  induction after using List.reverseRecOn with
  | nil => simpa using succeeded
  | append_singleton after operation inductionHypothesis =>
      rw [← List.append_assoc] at succeeded ⊢
      obtain ⟨answered, performed⟩ :=
        reached_append_singleton server session (before ++ after) operation
      have earlier : (reached server session (before ++ after)).AllSucceeded := by
        intro call present
        apply succeeded call
        rw [performed.log]
        exact List.mem_append_left _ present
      have refined := performed.refines (reached_inStep server session earlier)
        succeeded
      obtain ⟨first, ledger⟩ := inductionHypothesis earlier
      refine ⟨first, ?_⟩
      rw [refined.2.2, ledger, List.foldl_append]
      rfl

end Operation

namespace Ledger

variable {modifies : Bytes → Prop} {D : Type}

/-- Between its start and its end, a transaction collects the statements sent. -/
theorem foldl_step_during
    (effect : Bytes → D → D)
    {during : List (Operation modifies)}
    (noEnd : ∀ operation ∈ during, operation.ends = false)
    (permanent content : D) :
    during.foldl (step effect) { permanent, pending := some content } =
      { permanent
        pending := some ((during.filterMap Operation.sends).foldl
          (fun content query => effect query content) content) } := by
  induction during generalizing content with
  | nil => rfl
  | cons operation during inductionHypothesis =>
      have later := inductionHypothesis fun other present =>
        noEnd other (List.mem_cons_of_mem _ present)
      cases operation with
      | startTransaction => exact later content
      | commitTransaction => cases noEnd .commitTransaction (by simp)
      | rollbackTransaction => cases noEnd .rollbackTransaction (by simp)
      | modification factory query =>
          by_cases shared : factory.connection.isSome
          · simpa [step, Operation.sends, shared] using later (effect query content)
          · simpa [step, Operation.sends, shared] using later content

end Ledger

/-! ## All or nothing -/

/-- What the last operations of a run did. -/
structure AllOrNothing
    (server : TransactionServer σ D)
    (session : σ)
    (operations : List (Operation server.modifies)) : Prop where
  /-- A transaction is active exactly while autocommit is off. -/
  flag : (Operation.reached server session operations).transactionActive =
    !((Operation.reached server session operations).view server).autocommit
  /-- A modification outside a transaction is committed at once. -/
  outside : ∀ before factory (query : {query // server.modifies query}),
    operations = before ++ [.modification factory query] →
    factory.connection.isSome →
    (Operation.reached server session before).transactionActive = false →
    ((Operation.reached server session operations).view server).committed =
      server.effect query
        ((Operation.reached server session before).view server).committed
  /-- Nothing of an open transaction is committed. -/
  pending : ∀ before during,
    operations = before ++ .startTransaction :: during →
    (Operation.reached server session before).transactionActive = false →
    (∀ operation ∈ during, operation.ends = false) →
    ((Operation.reached server session operations).view server).committed =
      ((Operation.reached server session before).view server).committed
  /-- A rollback restores the session found by the first start. -/
  rollback : ∀ before during,
    operations = before ++ .startTransaction :: during ++ [.rollbackTransaction] →
    (Operation.reached server session before).transactionActive = false →
    (∀ operation ∈ during, operation.ends = false) →
    (Operation.reached server session operations).view server =
      (Operation.reached server session before).view server
  /-- A commit makes the modifications since the first start permanent, in
  order, whichever factories sent them. -/
  commit : ∀ before during,
    operations = before ++ .startTransaction :: during ++ [.commitTransaction] →
    (Operation.reached server session before).transactionActive = false →
    (∀ operation ∈ during, operation.ends = false) →
    ((Operation.reached server session operations).view server).committed =
      (during.filterMap Operation.sends).foldl
        (fun content query => server.effect query content)
        ((Operation.reached server session before).view server).committed
  /-- An end without an active transaction changes nothing. -/
  stray : ∀ before operation,
    operations = before ++ [operation] →
    operation.ends →
    (Operation.reached server session before).transactionActive = false →
    Operation.reached server session operations =
      Operation.reached server session before

namespace Operation

/-- The ledger without an open transaction. -/
theorem ledger_of_inactive
    (server : TransactionServer σ D)
    {connected : Connected (Logged σ)}
    (inactive : connected.transactionActive = false) :
    connected.ledger server =
      { permanent := (connected.view server).committed, pending := none } := by
  simp [ledger, inactive]

theorem inactive_of_ledger
    (server : TransactionServer σ D)
    {connected : Connected (Logged σ)}
    (nothingPending : (connected.ledger server).pending = none) :
    connected.transactionActive = false := by
  by_contra active
  rw [Bool.not_eq_false] at active
  simp [ledger, active] at nothingPending

/-- Between transactions the session is what its committed content says. -/
theorem view_eq_of_inactive
    (server : TransactionServer σ D)
    {left right : Connected (Logged σ)}
    (leftInStep : left.InStep server)
    (rightInStep : right.InStep server)
    (leftInactive : left.transactionActive = false)
    (rightInactive : right.transactionActive = false)
    (sameCommitted :
      (left.view server).committed = (right.view server).committed) :
    left.view server = right.view server := by
  have leftOn : (left.view server).autocommit = true := by
    simpa [InStep, leftInactive] using leftInStep
  have rightOn : (right.view server).autocommit = true := by
    simpa [InStep, rightInactive] using rightInStep
  apply Session.ext sameCommitted
  · rw [(left.view server).settled leftOn, (right.view server).settled rightOn,
      sameCommitted]
  · rw [leftOn, rightOn]

/-- Whatever is called in whatever order, through however many factories, a
transaction whose library calls succeed is all or nothing. -/
theorem allOrNothing_of_run
    (server : TransactionServer σ D)
    (session : σ)
    (operations : List (Operation server.modifies))
    (succeeded : (reached server session operations).AllSucceeded) :
    AllOrNothing server session operations := by
  refine
    { flag := reached_inStep server session succeeded
      outside := ?_
      pending := ?_
      rollback := ?_
      commit := ?_
      stray := ?_ }
  · rintro before factory query rfl shared inactive
    obtain ⟨_, ledger⟩ := ledger_reached_append server session before succeeded
    rw [ledger_of_inactive server inactive] at ledger
    refine (congrArg Ledger.permanent ledger).trans ?_
    simp [Ledger.step, shared]
  · rintro before during rfl inactive noEnd
    obtain ⟨_, ledger⟩ := ledger_reached_append server session before succeeded
    rw [ledger_of_inactive server inactive, List.foldl_cons, Ledger.step,
      Ledger.foldl_step_during server.effect noEnd] at ledger
    exact congrArg Ledger.permanent ledger
  · rintro before during rfl inactive noEnd
    have inStep := reached_inStep server session succeeded
    rw [List.append_assoc] at succeeded inStep ⊢
    obtain ⟨first, ledger⟩ :=
      ledger_reached_append server session before succeeded
    rw [ledger_of_inactive server inactive, List.cons_append, List.foldl_cons,
      Ledger.step, List.foldl_append,
      Ledger.foldl_step_during server.effect noEnd] at ledger
    exact view_eq_of_inactive server inStep
      (reached_inStep server session first)
      (inactive_of_ledger server (congrArg Ledger.pending ledger)) inactive
      (congrArg Ledger.permanent ledger)
  · rintro before during rfl inactive noEnd
    rw [List.append_assoc] at succeeded ⊢
    obtain ⟨_, ledger⟩ := ledger_reached_append server session before succeeded
    rw [ledger_of_inactive server inactive, List.cons_append, List.foldl_cons,
      Ledger.step, List.foldl_append,
      Ledger.foldl_step_during server.effect noEnd] at ledger
    exact congrArg Ledger.permanent ledger
  · rintro before operation rfl isEnd inactive
    rw [reached, run_append_singleton]
    exact perform_ends_inactive server.library isEnd inactive

end Operation

/-- Two factories, a transaction started twice and rolled back, and one
committed. -/
def sharedTransactions : List (Operation notingServer.modifies) :=
  let one : DataFactory := { connection := some 0, tableName := bytes "widget" }
  let other : DataFactory := { connection := some 0 }
  [.modification one ⟨bytes "a", trivial⟩, .startTransaction,
    .modification other ⟨bytes "b", trivial⟩, .startTransaction,
    .modification one ⟨bytes "c", trivial⟩, .rollbackTransaction,
    .rollbackTransaction, .startTransaction,
    .modification other ⟨bytes "d", trivial⟩, .commitTransaction]

namespace Operation

theorem allOrNothing_sharedTransactions :
    AllOrNothing notingServer {} sharedTransactions ∧
      ((reached notingServer {} sharedTransactions).view notingServer).committed =
        [bytes "a", bytes "d"] := by
  refine ⟨allOrNothing_of_run notingServer {} sharedTransactions ?_, ?_⟩
  · unfold AllSucceeded
    decide +kernel
  · decide +kernel

end Operation

end MySql
end ModernCommon
