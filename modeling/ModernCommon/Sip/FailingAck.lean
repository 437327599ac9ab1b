import ModernCommon.Sip.Acknowledgement
import ModernCommon.Sip.Figure5
import ModernCommon.Sip.Outcome

/-!
# Acknowledgements that fail

`sendAck` may throw, and the exception leaves `receive()`. The state is already
changed by then, but the handler is cut short: a response from 300 to 699 that
is acknowledged before it is passed on is never passed on. The caller catches
and continues, so the exception costs the transaction user that one response.
-/

namespace ModernCommon
namespace Sip

/-- How often `sendAck` has been called. -/
def acksSent (calls : List Call) : Nat :=
  (calls.filterMap Call.acked).length

theorem acksSent_append (before after : List Call) :
    acksSent (before ++ after) = acksSent before + acksSent after := by
  rw [acksSent, List.filterMap_append, List.length_append]
  rfl

/-- Callbacks that return normally after being recorded, save that the call of
`sendAck` with number `n` throws `throws n`. -/
def Callbacks.failing (throws : Nat → Option ε) : Callbacks Call ε where
  sendRequest request := record (.sendRequest request)
  sendAck response := do
    let sent := acksSent (← get).trace
    record (.sendAck response)
    match throws sent with
    | some exception => throw exception
    | none => pure ()
  notifyTU response := record (.notifyTU response)
  notifyTUError reason := record (.notifyTUError reason)

/-- The calls a handler begins when `sent` acknowledgements precede them: those
after the first failing one are skipped. -/
def begun (throws : Nat → Option ε) : Nat → List Call → List Call
  | _, [] => []
  | sent, .sendAck response :: calls =>
      if (throws sent).isSome then [.sendAck response]
      else .sendAck response :: begun throws (sent + 1) calls
  | sent, call :: calls => call :: begun throws sent calls

@[simp] theorem acksSent_nil : acksSent [] = 0 := rfl

@[simp] theorem acksSent_notifyTU (response : SipResponse) :
    acksSent [.notifyTU response] = 0 := rfl

@[simp] theorem begun_nil (throws : Nat → Option ε) (sent : Nat) :
    begun throws sent [] = [] := rfl

/-- A call that is alone in its handler is begun, whatever it throws. -/
@[simp] theorem begun_singleton
    (throws : Nat → Option ε)
    (sent : Nat)
    (call : Call) :
    begun throws sent [call] = [call] := by
  cases call <;> simp [begun]

/-- The first acknowledgement fails, on a transaction not settled before, and
Timer D fires later. -/
def LostOutcome (throws : Nat → Option ε) (messages : List Message) : Prop :=
  (throws 0).isSome ∧
    ∃ before final after, messages = before ++ final :: after ∧
      (∀ message ∈ before, message.statusIn 300 700 = false) ∧
      final.statusIn 300 700 ∧
      ¬SettledBy before ∧
      ∃ message ∈ after, message.isTransactionWaitTimeout

namespace InviteClientTransaction

/-- Construct a transaction and deliver the messages one after another,
catching what a `receive()` throws. -/
def transactCatching
    (invite : InviteRequest)
    (callbacks : Callbacks E ε)
    (messages : List Message) : TransactionM E ε Unit := do
  let protocol ← construct invite callbacks
  forM messages fun message => caught (protocol.receive message)

/-- The transaction with failing acknowledgements as a machine; it counts the
calls of `sendAck`. -/
def failingMachine (throws : Nat → Option ε) :
    Library.Mealy (InviteClientState × Nat) Message Call where
  initial := (.Calling, 0)
  step := fun (state, sent) message =>
    let calls := begun throws sent (transactionStep state message).2
    (((transactionStep state message).1,
      sent + acksSent calls), calls)

@[simp] theorem failingMachine_step
    (throws : Nat → Option ε)
    (state : InviteClientState)
    (sent : Nat)
    (message : Message) :
    (failingMachine throws).step (state, sent) message =
      (((transactionStep state message).1,
        sent + acksSent (begun throws sent (transactionStep state message).2)),
        begun throws sent (transactionStep state message).2) := rfl

/-! ## Running the handlers -/

theorem failing_invoke_run
    (throws : Nat → Option ε)
    {call : Call}
    (notAck : call.acked = none)
    (before : StateMachine InviteClientState Call) :
    ((Callbacks.failing throws).invoke call).run before =
      .ok () { before with trace := before.trace ++ [call] } := by
  cases call with
  | sendAck response => cases notAck
  | sendRequest request => rfl
  | notifyTU response => rfl
  | notifyTUError reason => rfl

theorem failing_sendAck_run
    (throws : Nat → Option ε)
    (response : SipResponse)
    (before : StateMachine InviteClientState Call) :
    ((Callbacks.failing throws).sendAck response).run before =
      match throws (acksSent before.trace) with
      | some exception => .error exception
          { before with trace := before.trace ++ [.sendAck response] }
      | none => .ok ()
          { before with trace := before.trace ++ [.sendAck response] } := by
  cases outcome : throws (acksSent before.trace) with
  | none => simp [Callbacks.failing, outcome]
  | some exception =>
      simp [Callbacks.failing, outcome]

/-- A handler begins its calls up to the first that throws. -/
theorem failing_forM_ends
    (throws : Nat → Option ε)
    (calls : List Call)
    (before : StateMachine InviteClientState Call) :
    let reached := { before with
      trace := before.trace ++ begun throws (acksSent before.trace) calls }
    (forM calls (Callbacks.failing throws).invoke).run before =
        .ok () reached ∨
      ∃ thrown, (forM calls (Callbacks.failing throws).invoke).run before =
        .error thrown reached := by
  induction calls generalizing before with
  | nil => simp [begun]
  | cons call calls inductionHypothesis =>
      have later := inductionHypothesis
        { before with trace := before.trace ++ [call] }
      rw [List.forM_cons, EStateM.run_bind]
      obtain ⟨response, rfl⟩ | notAck :
          (∃ response, call = .sendAck response) ∨ call.acked = none := by
        cases call <;> simp [Call.acked]
      · have sent : acksSent (before.trace ++ [.sendAck response]) =
            acksSent before.trace + 1 := by
          rw [acksSent_append]
          rfl
        rw [Callbacks.invoke, failing_sendAck_run]
        cases outcome : throws (acksSent before.trace) with
        | some exception =>
            refine .inr ⟨exception, ?_⟩
            simp [begun, outcome]
        | none =>
            simpa [begun, outcome, sent, List.append_assoc] using later
      · have same : begun throws (acksSent before.trace) (call :: calls) =
            call :: begun throws (acksSent before.trace) calls := by
          cases call <;> first | rfl | cases notAck
        have sent : acksSent (before.trace ++ [call]) =
            acksSent before.trace := by
          simp [acksSent, notAck]
        rw [failing_invoke_run throws notAck, same]
        simpa only [sent, List.append_assoc, List.singleton_append] using later

theorem receive_caught_forM_run
    (throws : Nat → Option ε)
    (messages : List Message)
    (name : String)
    (state : InviteClientState)
    (trace : List Call) :
    (forM messages fun message =>
        caught (receive (Callbacks.failing throws) message)).run
          { name, currentState := some state, trace } =
      .ok ()
        { name
          currentState := some ((failingMachine throws).run
            (state, acksSent trace) messages).1.1
          trace := trace ++ ((failingMachine throws).run
            (state, acksSent trace) messages).2 } := by
  induction messages generalizing state trace with
  | nil => simp
  | cons message messages inductionHypothesis =>
      let calls := begun throws (acksSent trace) (transactionStep state message).2
      have received : (caught (receive (Callbacks.failing throws) message)).run
          { name, currentState := some state, trace } =
            .ok ()
              { name
                currentState := some (transactionStep state message).1
                trace := trace ++ calls } := by
        apply caught_run
        rw [receive_run _ _ rfl]
        exact failing_forM_ends throws _ _
      rw [List.forM_cons, EStateM.run_bind, received]
      simpa [List.append_assoc, acksSent_append] using inductionHypothesis
        (transactionStep state message).1 (trace ++ calls)

/-- Failing acknowledgements cost calls, never a change of state. -/
theorem transactCatching_run
    (name : String)
    (invite : InviteRequest)
    (throws : Nat → Option ε)
    (messages : List Message) :
    (transactCatching invite (Callbacks.failing throws) messages).run { name } =
      .ok ()
        { name
          currentState := some ((failingMachine throws).run
            (.Calling, 0) messages).1.1
          trace := .sendRequest invite.toSipRequest ::
            ((failingMachine throws).run (.Calling, 0) messages).2 } := by
  rw [transactCatching, EStateM.run_bind,
    construct_run invite (Callbacks.failing throws) rfl]
  exact receive_caught_forM_run throws messages name .Calling
    [.sendRequest invite.toSipRequest]

/-! ## When the outcome is lost -/

/-- The transaction has terminated without any of the calls having reported an
outcome. -/
def Unreported (result : (InviteClientState × Nat) × List Call) : Prop :=
  result.1.1 = .Terminated ∧ ∀ call ∈ result.2, call.reportsOutcome = false

@[simp] theorem reportsOutcome_sendAck (response : SipResponse) :
    (Call.sendAck response).reportsOutcome = false := rfl

@[simp] theorem reportsOutcome_notifyTUError (reason : String) :
    (Call.notifyTUError reason).reportsOutcome = true := rfl

theorem reportsOutcome_notifyTU (response : SipResponseT C) :
    (Call.notifyTU response.toSipResponse).reportsOutcome =
      !(C = .Provisional : Bool) := by
  have bounds := response.statusCode_bounds
  rw [response.belongs] at bounds
  cases C <;> simp only [SipResponseClass.lowest] at bounds <;>
    simp [Call.reportsOutcome, Call.notifiesFinal] <;> omega

/-- One message leaves the outcome unreported when its calls do and what
follows does. -/
theorem unreported_cons
    (throws : Nat → Option ε)
    (state : InviteClientState)
    (sent : Nat)
    (message : Message)
    (messages : List Message) :
    Unreported ((failingMachine throws).run (state, sent)
        (message :: messages)) ↔
      (∀ call ∈ begun throws sent (transactionStep state message).2,
        call.reportsOutcome = false) ∧
        Unreported ((failingMachine throws).run
          ((transactionStep state message).1, sent + acksSent
            (begun throws sent (transactionStep state message).2))
          messages) := by
  simp only [Unreported, Library.Mealy.run_cons, failingMachine_step,
    List.forall_mem_append]
  exact and_left_comm

theorem unreported_terminated
    (throws : Nat → Option ε)
    (sent : Nat)
    (messages : List Message) :
    Unreported ((failingMachine throws).run (.Terminated, sent) messages) := by
  rw [Library.Mealy.run_eq_self_of_step (fun message _ => by
    cases message <;> rfl)]
  exact ⟨rfl, by simp⟩

/-- From Completed on nothing is reported, and Timer D terminates. -/
theorem unreported_completed_iff
    (throws : Nat → Option ε)
    (sent : Nat)
    (messages : List Message) :
    Unreported ((failingMachine throws).run (.Completed, sent) messages) ↔
      messages.any Message.isTransactionWaitTimeout := by
  induction messages generalizing sent with
  | nil => simp [Unreported]
  | cons message messages inductionHypothesis =>
      rw [unreported_cons]
      rcases message with _ | ⟨_ | _ | _ | _ | _ | _, r⟩ | _ | _ | _ | _ <;>
        simp [transactionStep, inductionHypothesis,
          unreported_terminated, Message.isTransactionWaitTimeout]

/-- The calls for the first response from 300 to 699 leave it unreported
exactly when its acknowledgement fails. -/
theorem begun_acknowledged_unreported
    (throws : Nat → Option ε)
    (sent : Nat)
    (response : SipResponseT C)
    (final : C ≠ .Provisional) :
    (∀ call ∈ begun throws sent [.sendAck response.toSipResponse,
        .notifyTU response.toSipResponse], call.reportsOutcome = false) ↔
      (throws sent).isSome := by
  have reported := reportsOutcome_notifyTU response
  cases outcome : throws sent <;>
    simp [begun, outcome, reported, final]

theorem unreported_proceeding_iff
    (throws : Nat → Option ε)
    (messages : List Message) :
    Unreported ((failingMachine throws).run (.Proceeding, 0) messages) ↔
      (throws 0).isSome ∧
        (beforeFinal messages).any Message.isSuccess = false ∧
        (fromFinal messages).any Message.isTransactionWaitTimeout := by
  unfold beforeFinal fromFinal
  induction messages with
  | nil => simp [Unreported]
  | cons message messages inductionHypothesis =>
      rw [unreported_cons]
      rcases message with _ | ⟨_ | _ | _ | _ | _ | _, r⟩ | _ | _ | _ | _ <;>
        simp [transactionStep, inductionHypothesis, unreported_terminated,
          unreported_completed_iff, begun_acknowledged_unreported,
          reportsOutcome_notifyTU, Message.isTransactionWaitTimeout,
          Message.isNonSuccessFinal, Message.isSuccess]

theorem unreported_calling_iff
    (throws : Nat → Option ε)
    (messages : List Message) :
    Unreported ((failingMachine throws).run (.Calling, 0) messages) ↔
      (throws 0).isSome ∧
        settled (beforeFinal messages) = false ∧
        (fromFinal messages).any Message.isTransactionWaitTimeout := by
  unfold settled beforeFinal fromFinal
  induction messages with
  | nil => simp [Unreported]
  | cons message messages inductionHypothesis =>
      rw [unreported_cons]
      rcases message with _ | ⟨_ | _ | _ | _ | _ | _, r⟩ | _ | _ | _ | _ <;>
        simp [transactionStep, inductionHypothesis, unreported_terminated,
          unreported_completed_iff, unreported_proceeding_iff,
          begun_acknowledged_unreported, reportsOutcome_notifyTU, beforeFinal,
          fromFinal, Message.isTransactionWaitTimeout,
          Message.isNonSuccessFinal, Message.isSuccess, Message.isProvisional,
          Message.isFailure, Message.isTransportError,
          Message.isTransactionTimeout]

theorem lostOutcome_iff
    (throws : Nat → Option ε)
    (messages : List Message) :
    LostOutcome throws messages ↔
      (throws 0).isSome ∧
        settled (beforeFinal messages) = false ∧
        (fromFinal messages).any Message.isTransactionWaitTimeout := by
  refine and_congr_right fun _ => ⟨?_, ?_⟩
  · rintro ⟨before, final, after, rfl, none, first, unsettled, fires⟩
    rw [beforeFinal_append none first, fromFinal_append none first]
    rw [← settled_iff_settledBy, Bool.not_eq_true] at unsettled
    refine ⟨unsettled, ?_⟩
    simp only [List.any_cons, Bool.or_eq_true, List.any_eq_true]
    exact .inr fires
  · rintro ⟨unsettled, fires⟩
    have split : beforeFinal messages ++ fromFinal messages = messages :=
      List.takeWhile_append_dropWhile
    cases rest : fromFinal messages with
    | nil =>
        rw [rest] at fires
        cases fires
    | cons final after =>
        rw [rest] at split fires
        have first : final.isNonSuccessFinal := by
          have head := List.head?_dropWhile_not
            (fun message : Message => !message.isNonSuccessFinal) messages
          rw [← fromFinal, rest] at head
          simpa using head
        refine ⟨beforeFinal messages, final, after, split.symm, ?_, ?_, ?_, ?_⟩
        · intro message present
          rw [← Message.isNonSuccessFinal_eq_statusIn]
          simpa using List.mem_takeWhile_imp present
        · rwa [← Message.isNonSuccessFinal_eq_statusIn]
        · rwa [← settled_iff_settledBy, Bool.not_eq_true]
        · have notTimerD : final.isTransactionWaitTimeout = false := by
            rcases final with _ | ⟨C, r⟩ | _ | _ | _ | _
            case response => rfl
            all_goals simp [Message.isNonSuccessFinal] at first
          rw [List.any_cons, notTimerD, Bool.false_or, List.any_eq_true] at fires
          exact fires

/-- An outcome once lost stays lost. -/
theorem LostOutcome.of_prefix
    {throws : Nat → Option ε}
    {sofar messages : List Message}
    (lost : LostOutcome throws sofar)
    (begins : sofar <+: messages) :
    LostOutcome throws messages := by
  obtain ⟨fails, before, final, after, rfl, none, first, unsettled, fires⟩ := lost
  obtain ⟨later, rfl⟩ := begins
  obtain ⟨message, present, timerD⟩ := fires
  refine ⟨fails, before, final, after ++ later, by simp, none, first, unsettled,
    message, ?_, timerD⟩
  exact List.mem_append_left later present

/-- After every single message an outcome has been told when the state is
Terminated, save when it was lost. -/
theorem transactCatching_told_iff
    (name : String)
    (invite : InviteRequest)
    (throws : Nat → Option ε)
    (messages : List Message) :
    (∃ reached,
      (transactCatching invite (Callbacks.failing throws) messages).run
          { name } = .ok () reached ∧
      (reached.currentState = some .Terminated →
        ∃ call ∈ reached.trace, call.reportsOutcome)) ↔
      ¬LostOutcome throws messages := by
  rw [lostOutcome_iff, ← unreported_calling_iff, transactCatching_run, Unreported,
    not_and]
  constructor
  · rintro ⟨reached, ran, told⟩ terminated silent
    cases ran
    obtain ⟨call, present, outcome⟩ := told (congrArg some terminated)
    rcases List.mem_cons.mp present with rfl | later
    · cases outcome
    · rw [silent call later] at outcome
      cases outcome
  · intro told
    refine ⟨_, rfl, fun terminated => ?_⟩
    have spoken := told (Option.some.inj terminated)
    push Not at spoken
    obtain ⟨call, later, outcome⟩ := spoken
    refine ⟨call, List.mem_cons_of_mem _ later, ?_⟩
    simpa using outcome

/-- However messages are delivered and failures caught, at every point of the
run a terminated transaction has told its user an outcome, save when the first
acknowledgement fails and Timer D fires later. -/
theorem transactCatching_outcome_iff
    (name : String)
    (invite : InviteRequest)
    (throws : Nat → Option ε)
    (messages : List Message) :
    (∀ sofar, sofar <+: messages → ∃ reached,
      (transactCatching invite (Callbacks.failing throws) sofar).run { name } =
        .ok () reached ∧
      (reached.currentState = some .Terminated →
        ∃ call ∈ reached.trace, call.reportsOutcome)) ↔
      ¬LostOutcome throws messages := by
  simp only [transactCatching_told_iff]
  constructor
  · intro told
    exact told messages List.prefix_rfl
  · intro kept sofar begins lost
    exact kept (LostOutcome.of_prefix lost begins)

/-- A 486 answer whose acknowledgement throws, then Timer D: the transaction has
terminated and its user knows nothing. -/
theorem not_transactCatching_outcome_busyHere :
    ¬∃ reached,
      (transactCatching exampleInvite
        (Callbacks.failing fun _ => some "transport closed")
        [.response .ClientError busyHere, .transactionWaitTimeout]).run
          { name := "txn" } = .ok () reached ∧
      (reached.currentState = some .Terminated →
        ∃ call ∈ reached.trace, call.reportsOutcome) := by
  rw [transactCatching_run]
  rintro ⟨reached, ran, told⟩
  cases ran
  revert told
  decide

end InviteClientTransaction
end Sip
end ModernCommon
