import ModernCommon.Sip.Transaction

/-!
# The course of a transaction, read off its messages

Which state a transaction reaches, and which responses it acknowledges, is a
property of the list of messages alone. The first response with a status code
from 300 to 699 splits the list: what precedes it may already have settled the
transaction; what follows is absorbed until Timer D fires.
-/

namespace ModernCommon
namespace Sip

/-- An event that ends a transaction still without any response. -/
def Message.isFailure (message : Message) : Bool :=
  message.isTransactionTimeout || message.isTransportError

/-- The messages before the first response with a status code from 300 to 699. -/
def beforeFinal (messages : List Message) : List Message :=
  messages.takeWhile fun message => !message.isNonSuccessFinal

/-- The messages from the first response with a status code from 300 to 699 on. -/
def fromFinal (messages : List Message) : List Message :=
  messages.dropWhile fun message => !message.isNonSuccessFinal

/-- A success, or a failure before any provisional response, has settled the
transaction. -/
def settled (messages : List Message) : Bool :=
  messages.any Message.isSuccess ||
    (messages.takeWhile fun message => !message.isProvisional).any
      Message.isFailure

/-- A response with a status code from 300 to 699 arrived unsettled, and Timer D
has not fired since. -/
def absorbing (messages : List Message) : Bool :=
  !settled (beforeFinal messages) && !(fromFinal messages).isEmpty &&
    (fromFinal messages).all fun message => !message.isTransactionWaitTimeout

/-- The responses of a list with a status code from 300 to 699, up to the first
Timer D. -/
def finalsUntilTimerD (messages : List Message) : List SipResponse :=
  (messages.takeWhile fun message =>
    !message.isTransactionWaitTimeout).filterMap Message.nonSuccessFinal

/-- The responses to acknowledge in the whole list. -/
def acknowledgeable (messages : List Message) : List SipResponse :=
  if settled (beforeFinal messages) then []
  else finalsUntilTimerD (fromFinal messages)

/-- The response a call acknowledges, if it is one to `sendAck`. -/
def Call.acked : Call → Option SipResponse
  | .sendAck response => some response
  | _ => none

@[simp] theorem finalsUntilTimerD_nil : finalsUntilTimerD [] = [] := rfl

@[simp] theorem finalsUntilTimerD_waitTimeout (messages : List Message) :
    finalsUntilTimerD (.transactionWaitTimeout :: messages) = [] := by
  simp [finalsUntilTimerD, Message.isTransactionWaitTimeout]

theorem finalsUntilTimerD_cons
    {message : Message}
    (notTimerD : message.isTransactionWaitTimeout = false)
    (messages : List Message) :
    finalsUntilTimerD (message :: messages) =
      message.nonSuccessFinal.toList ++ finalsUntilTimerD messages := by
  cases final : message.nonSuccessFinal <;>
    simp [finalsUntilTimerD, notTimerD, final]

@[simp] theorem finalsUntilTimerD_response
    (response : SipResponseT C)
    (messages : List Message) :
    finalsUntilTimerD (.response C response :: messages) =
      if C = .Provisional ∨ C = .Success then finalsUntilTimerD messages
      else response.toSipResponse :: finalsUntilTimerD messages := by
  rw [finalsUntilTimerD_cons (by simp [Message.isTransactionWaitTimeout])]
  by_cases early : C = .Provisional ∨ C = .Success
  · rcases early with rfl | rfl <;>
      simp [Message.nonSuccessFinal, Option.filter_some]
  · obtain ⟨notProvisional, notSuccess⟩ := not_or.mp early
    simp [Message.nonSuccessFinal, Option.filter_some, notProvisional,
      notSuccess]

@[simp] theorem acked_comp_sendAck : Call.acked ∘ Call.sendAck = some := rfl

namespace InviteClientTransaction

/-! ## From each state -/

theorem run_terminated (messages : List Message) :
    machine.run .Terminated messages = (.Terminated, []) :=
  Library.Mealy.run_eq_self_of_step fun message _ => by
    cases message <;> rfl

/-- Completed is left by Timer D only. -/
theorem run_completed_state (messages : List Message) :
    (machine.run .Completed messages).1 =
      if messages.all fun message => !message.isTransactionWaitTimeout then
        .Completed
      else .Terminated := by
  induction messages with
  | nil => rfl
  | cons message messages inductionHypothesis =>
      rcases message with _ | ⟨_ | _ | _ | _ | _ | _, r⟩ | _ | _ | _ | _ <;>
        simp [transactionStep, inductionHypothesis, run_terminated,
          Message.isTransactionWaitTimeout]

/-- In Completed every response from 300 to 699 is acknowledged, and nothing
else is called. -/
theorem run_completed_calls (messages : List Message) :
    (machine.run .Completed messages).2 =
      (finalsUntilTimerD messages).map Call.sendAck := by
  induction messages with
  | nil => rfl
  | cons message messages inductionHypothesis =>
      rcases message with _ | ⟨_ | _ | _ | _ | _ | _, r⟩ | _ | _ | _ | _ <;>
        simp [transactionStep, inductionHypothesis, run_terminated,
          finalsUntilTimerD_cons, Message.isTransactionWaitTimeout,
          Message.nonSuccessFinal, Option.filter_some]

/-- From Proceeding only a success keeps the transaction out of Completed. -/
theorem run_proceeding_eq_completed_iff (messages : List Message) :
    (machine.run .Proceeding messages).1 = .Completed ↔
      ((beforeFinal messages).any Message.isSuccess = false ∧
        fromFinal messages ≠ [] ∧
        (fromFinal messages).all fun message =>
          !message.isTransactionWaitTimeout) := by
  unfold beforeFinal fromFinal
  induction messages with
  | nil => simp
  | cons message messages inductionHypothesis =>
      rcases message with _ | ⟨_ | _ | _ | _ | _ | _, r⟩ | _ | _ | _ | _ <;>
        simp [transactionStep, inductionHypothesis, run_terminated,
          run_completed_state, Message.isTransactionWaitTimeout,
          Message.isNonSuccessFinal, Message.isSuccess]

theorem run_proceeding_acked (messages : List Message) :
    (machine.run .Proceeding messages).2.filterMap Call.acked =
      if (beforeFinal messages).any Message.isSuccess then []
      else finalsUntilTimerD (fromFinal messages) := by
  unfold beforeFinal fromFinal
  induction messages with
  | nil => simp [finalsUntilTimerD]
  | cons message messages inductionHypothesis =>
      rcases message with _ | ⟨_ | _ | _ | _ | _ | _, r⟩ | _ | _ | _ | _ <;>
        simp [transactionStep, inductionHypothesis, run_terminated,
          run_completed_calls, List.filterMap_cons, Message.isNonSuccessFinal,
          Message.isSuccess, Call.acked]

/-! ## From Calling -/

/-- A transaction is in Completed exactly while it absorbs retransmissions. -/
theorem run_calling_eq_completed_iff (messages : List Message) :
    (machine.run .Calling messages).1 = .Completed ↔ absorbing messages := by
  unfold absorbing settled beforeFinal fromFinal
  induction messages with
  | nil => simp
  | cons message messages inductionHypothesis =>
      rcases message with _ | ⟨_ | _ | _ | _ | _ | _, r⟩ | _ | _ | _ | _ <;>
        simp [transactionStep, inductionHypothesis, run_terminated,
          run_completed_state, run_proceeding_eq_completed_iff, beforeFinal,
          fromFinal, Message.isTransactionWaitTimeout,
          Message.isNonSuccessFinal, Message.isSuccess, Message.isProvisional,
          Message.isFailure, Message.isTransportError,
          Message.isTransactionTimeout, and_assoc]

/-- The responses a transaction acknowledges, in order and with multiplicity. -/
theorem run_calling_acked (messages : List Message) :
    (machine.run .Calling messages).2.filterMap Call.acked =
      acknowledgeable messages := by
  unfold acknowledgeable settled beforeFinal fromFinal
  induction messages with
  | nil => simp
  | cons message messages inductionHypothesis =>
      rcases message with _ | ⟨_ | _ | _ | _ | _ | _, r⟩ | _ | _ | _ | _ <;>
        simp [transactionStep, inductionHypothesis, run_terminated,
          run_completed_calls, run_proceeding_acked, beforeFinal,
          fromFinal, List.filterMap_cons, Call.acked,
          Message.isNonSuccessFinal, Message.isSuccess, Message.isProvisional,
          Message.isFailure, Message.isTransportError,
          Message.isTransactionTimeout]

end InviteClientTransaction
end Sip
end ModernCommon
