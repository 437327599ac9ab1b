import Mathlib.Data.List.Perm.Subperm
import ModernCommon.Library.Keeps
import ModernCommon.Sip.Figure5
import ModernCommon.Sip.Outcome

/-!
# Transactions under any owner

The owner of a transaction delivers messages to it, and its callbacks may look at
the transaction, deliver further messages, throw and catch, in any order and to
any depth. Whatever they do, the transaction is moved by the messages alone; an
exception only costs calls, so nothing is told twice, late or out of order.
-/

namespace ModernCommon
namespace Sip

open Library InviteClientTransaction

/-- Programs that use a transaction as its owner can. The callbacks of a
`receive()` are recorded and then run a program of that kind, which may differ
from call to call. -/
inductive Owned {ε : Type} : {α : Type} → TransactionM Event ε α → Prop
  | pure {α : Type} (answer : α) :
      Owned (Pure.pure answer : TransactionM Event ε α)
  | throw {α : Type} (exception : ε) :
      Owned (throw exception : TransactionM Event ε α)
  | get : Owned (get : TransactionM Event ε (StateMachine InviteClientState Event))
  | bind {α β : Type}
      {first : TransactionM Event ε α}
      {next : α → TransactionM Event ε β} :
      Owned first → (∀ answer, Owned (next answer)) → Owned (first >>= next)
  | tryCatch {α : Type}
      {program : TransactionM Event ε α}
      {handler : ε → TransactionM Event ε α} :
      Owned program → (∀ exception, Owned (handler exception)) →
        Owned (tryCatch program handler)
  | receive
      {callbacks : Callbacks Event ε}
      {during : Call → TransactionM Event ε Unit}
      (message : Message)
      (invokes : ∀ call, callbacks.invoke call = do
        record (.called call)
        during call) :
      (∀ call, Owned (during call)) →
        Owned (do
          record (.received message)
          InviteClientTransaction.receive callbacks message)

/-- The events call some of what their messages do when delivered one after
another from `state`: nothing else, nothing more often, and acknowledgements as
well as what the transaction user is told in the same order. -/
structure Lossy (state : InviteClientState) (events : List Event) : Prop where
  subperm : (called events).Subperm (machine.run state (received events)).2
  acked : ((called events).filterMap Call.acked).Sublist
    ((machine.run state (received events)).2.filterMap Call.acked)
  informed : ((called events).filter Call.informsTU).Sublist
    ((machine.run state (received events)).2.filter Call.informsTU)

/-- The later machine has been moved by the messages it received since. -/
def Followed (before after : StateMachine InviteClientState Event) : Prop :=
  ∀ state, before.currentState = some state →
    ∃ events, Lossy state events ∧
      after =
        { before with
          currentState := some (machine.run state (received events)).1
          trace := before.trace ++ events }

/-! ## Traces with losses -/

namespace Lossy

theorem nil (state : InviteClientState) : Lossy state [] where
  subperm := by simp
  acked := by simp
  informed := by simp

theorem append
    {state : InviteClientState}
    {before after : List Event}
    (first : Lossy state before)
    (second : Lossy (machine.run state (received before)).1 after) :
    Lossy state (before ++ after) where
  subperm := by
    rw [called_append, received_append, Mealy.run_append]
    exact List.Subperm.append first.subperm second.subperm
  acked := by
    rw [called_append, received_append, Mealy.run_append,
      List.filterMap_append, List.filterMap_append]
    exact first.acked.append second.acked
  informed := by
    rw [called_append, received_append, Mealy.run_append,
      List.filter_append, List.filter_append]
    exact first.informed.append second.informed

/-- A message without calls. -/
theorem silent
    {state : InviteClientState}
    {message : Message}
    (calls : (transactionStep state message).2 = []) :
    Lossy state [.received message] where
  subperm := by simp [calls]
  acked := by simp [calls]
  informed := by simp [calls]

/-- A message whose first call is begun, and what was delivered until that
returned or threw; the calls after it are lost. -/
theorem begun
    {state : InviteClientState}
    {message : Message}
    {call : Call}
    {lost : List Call}
    {nested : List Event}
    (calls : (transactionStep state message).2 = call :: lost)
    (during : Lossy (transactionStep state message).1 nested) :
    Lossy state (.received message :: .called call :: nested) where
  subperm := by
    have kept := during.subperm.trans
      (List.sublist_append_right lost _).subperm
    simpa [calls] using (List.subperm_cons call).mpr kept
  acked := by
    have kept := during.acked.trans
      (List.sublist_append_right (lost.filterMap Call.acked) _)
    cases isAck : call.acked <;> simpa [calls, isAck] using kept
  informed := by
    have kept := during.informed.trans
      (List.sublist_append_right (lost.filter Call.informsTU) _)
    cases informs : call.informsTU <;> simpa [calls, informs] using kept

/-- A message acknowledged and then passed on. What is delivered while the
acknowledgement is sent finds the transaction in Completed, where the
transaction user is told nothing. -/
theorem acknowledge
    {state : InviteClientState}
    {message : Message}
    {response : SipResponse}
    {inSendAck inNotifyTU : List Event}
    (step : transactionStep state message =
      (.Completed, [.sendAck response, .notifyTU response]))
    (duringAck : Lossy .Completed inSendAck)
    (duringNotify :
      Lossy (machine.run .Completed (received inSendAck)).1 inNotifyTU) :
    Lossy state (.received message :: .called (.sendAck response) ::
      inSendAck ++ .called (.notifyTU response) :: inNotifyTU) where
  subperm := by
    have nested := (List.subperm_cons (.notifyTU response)).mpr
      (duringAck.append duringNotify).subperm
    rw [called_append] at nested
    have calls := (List.subperm_cons (.sendAck response)).mpr
      (List.perm_middle.subperm.trans nested)
    simpa [step] using calls
  acked := by
    have kept := (duringAck.append duringNotify).acked
    simpa [step, List.filterMap_cons, Call.acked] using kept
  informed := by
    have silentAck : (called inSendAck).filter Call.informsTU = [] := by
      have told := duringAck.informed
      rw [run_completed_informed] at told
      exact List.sublist_nil.mp told
    have kept := (duringAck.append duringNotify).informed
    simpa [step, List.filter_cons, Call.informsTU, silentAck] using kept

end Lossy

/-! ## What any owner does -/

theorem Followed.refl
    (before : StateMachine InviteClientState Event) :
    Followed before before := by
  intro state current
  refine ⟨[], Lossy.nil state, ?_⟩
  simp [← current]

theorem Followed.trans
    {before between after : StateMachine InviteClientState Event}
    (first : Followed before between)
    (second : Followed between after) :
    Followed before after := by
  intro state current
  obtain ⟨earlier, earlierLossy, rfl⟩ := first state current
  obtain ⟨later, laterLossy, rfl⟩ := second _ rfl
  refine ⟨earlier ++ later, earlierLossy.append laterLossy, ?_⟩
  simp [Mealy.run_append]

instance : IsPreorder (StateMachine InviteClientState Event) Followed where
  refl := Followed.refl
  trans _ _ _ := Followed.trans

section Receive

variable {callbacks : Callbacks Event ε} {during : Call → TransactionM Event ε Unit}
variable
  (invokes : ∀ call, callbacks.invoke call = do
    record (.called call)
    during call)
  (duringFollowed : ∀ call, Keeps Followed (during call))

include invokes duringFollowed

/-- However a callback ends, it has been recorded and followed. -/
theorem invoke_followed
    (call : Call)
    {before : StateMachine InviteClientState Event}
    {state : InviteClientState}
    (current : before.currentState = some state) :
    ∃ nested, Lossy state nested ∧
      finalState ((callbacks.invoke call).run before) =
        { before with
          currentState := some (machine.run state (received nested)).1
          trace := before.trace ++ .called call :: nested } := by
  obtain ⟨nested, lossy, ended⟩ := duringFollowed call
    { before with trace := before.trace ++ [.called call] } state current
  refine ⟨nested, lossy, ?_⟩
  rw [invokes, EStateM.run_bind, record_run]
  simp only
  rw [ended]
  simp

/-- A `receive()` follows its message if what its callbacks do follows theirs. -/
theorem receive_followed (message : Message) :
    Keeps Followed (do
      record (.received message)
      InviteClientTransaction.receive callbacks message) := by
  intro before state current
  let noted : StateMachine InviteClientState Event :=
    { before with trace := before.trace ++ [.received message] }
  let entered : StateMachine InviteClientState Event :=
    { noted with currentState := some (transactionStep state message).1 }
  have isCurrent : entered.currentState =
      some (transactionStep state message).1 := rfl
  have handled : finalState (EStateM.run (do
      record (.received message)
      InviteClientTransaction.receive callbacks message) before) =
        finalState ((forM (transactionStep state message).2
          callbacks.invoke).run entered) := by
    rw [EStateM.run_bind, record_run]
    change finalState
      ((InviteClientTransaction.receive callbacks message).run noted) = _
    rw [receive_run callbacks message (show noted.currentState = _ from current)]
  rw [handled]
  rcases transactionStep_calls state message with calls | ⟨call, calls⟩ |
    ⟨response, step⟩
  · refine ⟨[.received message], Lossy.silent calls, ?_⟩
    simp [calls, entered, noted]
  · obtain ⟨nested, lossy, ended⟩ :=
      invoke_followed invokes duringFollowed call isCurrent
    refine ⟨_, Lossy.begun calls lossy, ?_⟩
    rw [calls, List.forM_cons]
    simp only [List.forM_nil, bind_pure_unit, ended]
    simp [entered, noted]
  · have next : (transactionStep state message).1 = .Completed := by rw [step]
    obtain ⟨inSendAck, lossyAck, endedAck⟩ :=
      invoke_followed invokes duringFollowed (.sendAck response) isCurrent
    rw [next] at lossyAck endedAck
    rw [step]
    simp only [List.forM_cons, List.forM_nil, bind_pure_unit]
    rw [EStateM.run_bind]
    cases ranAck : (callbacks.invoke (.sendAck response)).run entered with
    | error exception between =>
        rw [ranAck] at endedAck
        have calls : (transactionStep state message).2 =
            [.sendAck response, .notifyTU response] := by rw [step]
        refine ⟨_, Lossy.begun calls (next ▸ lossyAck), ?_⟩
        simp only [finalState_error] at endedAck ⊢
        rw [endedAck]
        simp [entered, noted, step]
    | ok answer between =>
        rw [ranAck] at endedAck
        simp only [finalState_ok] at endedAck
        obtain ⟨inNotifyTU, lossyNotify, endedNotify⟩ :=
          invoke_followed invokes duringFollowed (.notifyTU response)
            (congrArg StateMachine.currentState endedAck)
        refine ⟨_, Lossy.acknowledge step lossyAck lossyNotify, ?_⟩
        simp only
        rw [endedNotify, endedAck]
        simp [entered, noted, step, Mealy.run_append]

end Receive

/-- Whatever its owner does, and however that ends, the transaction has followed
the messages it received. -/
theorem Owned.followed
    {program : TransactionM Event ε α}
    (owned : Owned program) :
    Keeps Followed program := by
  induction owned with
  | pure answer => exact keeps_pure answer
  | throw exception => exact keeps_throw exception
  | get => exact Followed.refl
  | bind _ _ first next => exact keeps_bind first next
  | tryCatch _ _ program handler => exact keeps_tryCatch program handler
  | receive message invokes _ during =>
      exact receive_followed invokes during message

mutual

/-- A tree of deliveries is one way to use a transaction. -/
theorem Delivery.run_owned :
    ∀ delivery : Delivery, Owned (delivery.run : TransactionM Event ε Unit)
  | .receive message inSendAck inNotifyTU inNotifyTUError => by
      let during : Call → TransactionM Event ε Unit
        | .sendRequest _ => pure ()
        | .sendAck _ => runAll inSendAck
        | .notifyTU _ => runAll inNotifyTU
        | .notifyTUError _ => runAll inNotifyTUError
      have duringOwned : ∀ call, Owned (during call)
        | .sendRequest _ => .pure ()
        | .sendAck _ => runAll_owned inSendAck
        | .notifyTU _ => runAll_owned inNotifyTU
        | .notifyTUError _ => runAll_owned inNotifyTUError
      rw [Delivery.run]
      apply Owned.receive message _ duringOwned
      rintro (_ | _ | _ | _) <;> rfl

theorem runAll_owned :
    ∀ deliveries : List Delivery,
      Owned (runAll deliveries : TransactionM Event ε Unit)
  | [] => by
      rw [runAll]
      exact .pure ()
  | delivery :: deliveries => by
      rw [runAll]
      exact .bind delivery.run_owned fun _ => runAll_owned deliveries

end

/-! ## What the transaction user is told -/

/-- Where nothing is called, the trace is what is received. -/
theorem eq_received_of_called_eq_nil
    {events : List Event}
    (silent : called events = []) :
    events = (received events).map Event.received := by
  induction events with
  | nil => rfl
  | cons event events inductionHypothesis =>
      cases event with
      | called call => cases silent
      | received message =>
          rw [received_cons_received, List.map_cons,
            ← inductionHypothesis silent]

/-- What is lost is neither a second outcome nor a late response. -/
theorem Lossy.notifications
    {events : List Event}
    (lossy : Lossy .Calling events) :
    (called events).countP Call.notifiesFinal ≤ 1 ∧
      ((called events).filter Call.informsTU).Pairwise fun earlier later =>
        earlier.reportsOutcome → later.notifiesProvisional = false := by
  have informed := informed_of_filter (run_informed (received events))
  refine ⟨le_trans (lossy.subperm.countP_le _) informed.atMostOneFinal, ?_⟩
  exact (informed.noLateProvisional.filter _).sublist lossy.informed

/-- Whatever the owner of a transaction and its callbacks do, the state is the
one its messages lead to, and of the calls these make some may be lost to
exceptions: at most one final response is passed on, no provisional one after
an outcome. Once terminated, a transaction only receives. -/
theorem owned_follows
    (name : String)
    (invite : InviteRequest)
    {program : TransactionM Event ε α}
    (owned : Owned program) :
    (∃ events,
      finalState (EStateM.run (do
          let _ ← construct invite Callbacks.returning
          program) { name }) = afterEvents name invite events ∧
      Lossy .Calling events ∧
      (called events).countP Call.notifiesFinal ≤ 1 ∧
      ((called events).filter Call.informsTU).Pairwise fun earlier later =>
        earlier.reportsOutcome → later.notifiesProvisional = false) ∧
    ∀ reached : StateMachine InviteClientState Event,
      reached.currentState = some .Terminated →
        ∃ messages : List Message,
          finalState (program.run reached) =
            { reached with
              trace := reached.trace ++ messages.map Event.received } := by
  refine ⟨?_, ?_⟩
  · obtain ⟨events, lossy, ended⟩ := owned.followed
      (afterEvents name invite []) .Calling rfl
    refine ⟨events, ?_, lossy, lossy.notifications⟩
    rw [EStateM.run_bind, construct_run invite Callbacks.returning rfl]
    exact ended
  · intro reached terminated
    obtain ⟨events, lossy, ended⟩ := owned.followed reached _ terminated
    have subperm := lossy.subperm
    rw [run_terminated] at subperm ended
    have silent : called events = [] := List.subperm_nil.mp subperm
    refine ⟨received events, ?_⟩
    rw [ended, ← eq_received_of_called_eq_nil silent, terminated]

/-- An acknowledgement during which Timer D fires, and which then throws. -/
def closing : Call → TransactionM Event String Unit
  | .sendAck _ => do
      (Delivery.receive .transactionWaitTimeout [] [] []).run
      throw "transport closed"
  | _ => pure ()

/-- A delivery with such an acknowledgement; what it throws is caught. -/
def deliverThrowing (message : Message) : TransactionM Event String Unit :=
  tryCatch
    (do
      record (.received message)
      InviteClientTransaction.receive
        (.delivering
          (do
            (Delivery.receive .transactionWaitTimeout [] [] []).run
            throw "transport closed")
          (pure ()) (pure ())) message)
    fun _ => pure ()

theorem owned_deliverThrowing (message : Message) :
    Owned (deliverThrowing message) := by
  have closingOwned : ∀ call, Owned (closing call) := by
    intro call
    cases call with
    | sendAck response => exact .bind (Delivery.run_owned _) fun _ => .throw _
    | sendRequest request => exact .pure ()
    | notifyTU response => exact .pure ()
    | notifyTUError reason => exact .pure ()
  refine .tryCatch ?_ fun _ => .pure ()
  apply Owned.receive message _ closingOwned
  rintro (_ | _ | _ | _) <;> rfl

/-- A 486 answer during whose acknowledgement Timer D fires. -/
theorem owned_follows_busyHere :
    (∃ events,
      finalState (EStateM.run (do
          let _ ← construct exampleInvite Callbacks.returning
          deliverThrowing (.response .ClientError busyHere)) { name := "txn" }) =
        afterEvents "txn" exampleInvite events ∧
      Lossy .Calling events ∧
      (called events).countP Call.notifiesFinal ≤ 1 ∧
      ((called events).filter Call.informsTU).Pairwise fun earlier later =>
        earlier.reportsOutcome → later.notifiesProvisional = false) ∧
    ∀ reached : StateMachine InviteClientState Event,
      reached.currentState = some .Terminated →
        ∃ messages : List Message,
          finalState ((deliverThrowing
              (.response .ClientError busyHere)).run reached) =
            { reached with
              trace := reached.trace ++ messages.map Event.received } :=
  owned_follows "txn" exampleInvite
    (owned_deliverThrowing (.response .ClientError busyHere))

end Sip
end ModernCommon
