import ModernCommon.Sip.Course

/-!
# RFC 3261 Figure 5

The INVITE client transaction of RFC 3261 without Timer A, as a reference
machine of its own: what it does is read off the numeric status code of a
response. The transaction takes the same steps except for one arrow: in
Completed it has no entry for a transport error.
-/

namespace ModernCommon
namespace Sip

/-- What the transaction user is told when Timer B fires. -/
def timerBReason : String := "Timer B: no response received"

/-- One arrow of Figure 5: next state, and the actions on the way. -/
def figure5Step :
    InviteClientState → Message → InviteClientState × List Call
  | .Calling, .response _ r =>
      if r.statusCode < 200 then
        (.Proceeding, [.notifyTU r.toSipResponse])
      else if r.statusCode < 300 then
        (.Terminated, [.notifyTU r.toSipResponse])
      else (.Completed, [.sendAck r.toSipResponse, .notifyTU r.toSipResponse])
  | .Calling, .transactionTimeout =>
      (.Terminated, [.notifyTUError timerBReason])
  | .Calling, .transportError reason => (.Terminated, [.notifyTUError reason])
  | .Proceeding, .response _ r =>
      if r.statusCode < 200 then
        (.Proceeding, [.notifyTU r.toSipResponse])
      else if r.statusCode < 300 then
        (.Terminated, [.notifyTU r.toSipResponse])
      else (.Completed, [.sendAck r.toSipResponse, .notifyTU r.toSipResponse])
  | .Completed, .response _ r =>
      if 300 ≤ r.statusCode then (.Completed, [.sendAck r.toSipResponse])
      else (.Completed, [])
  | .Completed, .transportError reason => (.Terminated, [.notifyTUError reason])
  | .Completed, .transactionWaitTimeout => (.Terminated, [])
  | state, _ => (state, [])

/-- The machine of the figure. -/
def figure5 : Library.Mealy InviteClientState Message Call where
  initial := .Calling
  step := figure5Step

@[simp] theorem figure5_step
    (state : InviteClientState)
    (message : Message) :
    figure5.step state message = figure5Step state message := rfl

/-- The table has every arrow of Figure 5 but the transport error in Completed. -/
theorem transactionStep_eq_figure5Step
    {state : InviteClientState}
    {message : Message}
    (present : ¬(state = .Completed ∧ message.isTransportError)) :
    transactionStep state message = figure5Step state message := by
  rcases message with _ | ⟨C, r⟩ | reason | _ | _ | _
  case response =>
    have bounds := r.statusCode_bounds
    rw [r.belongs] at bounds
    cases state <;> cases C <;>
      simp only [SipResponseClass.lowest] at bounds <;>
      simp only [transactionStep, figure5Step] <;>
      (try split_ifs) <;> first | rfl | omega
  case transportError =>
    cases state
    case Completed =>
      exact absurd ⟨rfl, by simp [Message.isTransportError]⟩ present
    all_goals rfl
  all_goals cases state <;> rfl

theorem figure5_run_terminated (messages : List Message) :
    figure5.run .Terminated messages = (.Terminated, []) :=
  Library.Mealy.run_eq_self_of_step fun message _ => by
    cases message <;> rfl

namespace InviteClientTransaction

/-- At the missing arrow Figure 5 reports the error, the transaction does not,
and nothing either of them does later can make up for it. -/
theorem run_ne_figure5_of_transportError
    (reason : String)
    (messages : List Message) :
    machine.run .Completed (.transportError reason :: messages) ≠
      figure5.run .Completed (.transportError reason :: messages) := by
  intro same
  have sameCalls := congrArg Prod.snd same
  simp only [Library.Mealy.run_cons, machine_step, figure5_step,
    transactionStep, figure5Step, run_completed_calls, figure5_run_terminated,
    List.nil_append, List.append_nil] at sameCalls
  cases acked : finalsUntilTimerD messages <;> simp [acked] at sameCalls

/-- Two runs from a common state differ as soon as a transport error meets the
transaction in Completed. -/
theorem run_ne_figure5_of_reached
    (state : InviteClientState)
    (before after : List Message)
    (reason : String)
    (reached : (machine.run state before).1 = .Completed) :
    machine.run state (before ++ .transportError reason :: after) ≠
      figure5.run state (before ++ .transportError reason :: after) := by
  induction before generalizing state with
  | nil =>
      have completed : state = .Completed := by simpa using reached
      subst completed
      exact run_ne_figure5_of_transportError reason after
  | cons message before inductionHypothesis =>
      by_cases missing : state = .Completed ∧ message.isTransportError
      · obtain ⟨rfl, isError⟩ := missing
        rcases message with _ | _ | other | _ | _ | _ <;>
          simp [Message.isTransportError] at isError
        exact run_ne_figure5_of_transportError other _
      · have sameStep := transactionStep_eq_figure5Step missing
        have later := inductionHypothesis (transactionStep state message).1
          (by simpa using reached)
        intro same
        apply later
        simp only [List.cons_append, Library.Mealy.run_cons, machine_step,
          figure5_step, ← sameStep, Prod.mk.injEq,
          List.append_cancel_left_eq] at same
        exact Prod.ext same.1 same.2

/-- The state reached and the calls made are those of Figure 5 exactly when no
transport error arrives while the transaction absorbs retransmissions. -/
theorem transact_eq_figure5_iff
    (name : String)
    (invite : InviteRequest)
    (messages : List Message) :
    (transact invite Callbacks.recording messages :
        TransactionM Call ε Unit).run { name } =
      .ok ()
        { name
          currentState := some (figure5.run .Calling messages).1
          trace := .sendRequest invite.toSipRequest ::
            (figure5.run .Calling messages).2 } ↔
      ∀ before reason after,
        messages = before ++ .transportError reason :: after →
          absorbing before = false := by
  rw [transact_run]
  constructor
  · rintro same before reason after rfl
    by_contra absorbs
    have reached : (machine.run .Calling before).1 = .Completed := by
      rw [run_calling_eq_completed_iff]
      simpa using absorbs
    apply run_ne_figure5_of_reached .Calling before after reason reached
    simp only [EStateM.Result.ok.injEq, StateMachine.mk.injEq,
      Option.some.injEq, List.cons.injEq, true_and] at same
    exact Prod.ext same.1 same.2
  · intro neverMissing
    have sameRun : machine.run .Calling messages =
        figure5.run .Calling messages := by
      apply Library.Mealy.run_eq_of_agree
      rintro before message after rfl
      apply transactionStep_eq_figure5Step
      rintro ⟨reached, isError⟩
      rcases message with _ | _ | reason | _ | _ | _ <;>
        simp [Message.isTransportError] at isError
      have absorbs := (run_calling_eq_completed_iff before).mp reached
      rw [neverMissing before reason after rfl] at absorbs
      cases absorbs
    rw [sameRun]

/-- An INVITE to run examples with. -/
def exampleInvite : InviteRequest :=
  .construct .Invite "sip:bob@example.com" "call-1" "z9hG4bK-1" 1

/-- The answer `486 Busy Here` to it. -/
def busyHere : SipResponseT .ClientError where
  callId := "call-1"
  viaBranch := "z9hG4bK-1"
  cseqNumber := 1
  cseqMethod := .Invite
  statusCode := 486
  reasonPhrase := "Busy Here"
  responseClass := .ClientError
  classified := (classifySipStatusCode_eq_ok_iff _ _).mpr (by decide)
  belongs := rfl

/-- A 486 answer, then a transport error: Figure 5 reports the error and ends,
the transaction stays in Completed and reports nothing. -/
theorem transact_ne_figure5_busyHere :
    (transact exampleInvite Callbacks.recording
        [.response .ClientError busyHere, .transportError "reset by peer"] :
        TransactionM Call Empty Unit).run { name := "txn" } ≠
      .ok ()
        { name := "txn"
          currentState := some (figure5.run .Calling
            [.response .ClientError busyHere,
              .transportError "reset by peer"]).1
          trace := .sendRequest exampleInvite.toSipRequest ::
            (figure5.run .Calling
              [.response .ClientError busyHere,
                .transportError "reset by peer"]).2 } := by
  rw [transact_run]
  intro same
  simp only [EStateM.Result.ok.injEq, StateMachine.mk.injEq,
    Option.some.injEq, true_and] at same
  have finalState : InviteClientState.Completed = .Terminated := same.1
  cases finalState

end InviteClientTransaction
end Sip
end ModernCommon
