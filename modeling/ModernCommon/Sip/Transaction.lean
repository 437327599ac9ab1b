import ModernCommon.Library.Mealy
import ModernCommon.Sip.Message

/-!
# The INVITE client transaction

`InviteClientTransaction` registers one table entry for each pair of a state
and a message type it reacts to, sends its INVITE once and enters Calling.
What its callbacks do is left open: they are programs over the machine, so
they may record, throw, or deliver further messages.

`transactionStep` is the net effect of the table, and `receive_run` the one
place where the table is searched.
-/

namespace ModernCommon
namespace Sip

/-- The states of the transaction. -/
inductive InviteClientState
  | Calling
  | Proceeding
  | Completed
  | Terminated
  deriving DecidableEq

/-- The name of a state. -/
def InviteClientState.getName : InviteClientState → String
  | .Calling => "Calling"
  | .Proceeding => "Proceeding"
  | .Completed => "Completed"
  | .Terminated => "Terminated"

/-- One call of a callback, with its argument. -/
inductive Call
  | sendRequest (request : SipRequest)
  | sendAck (response : SipResponse)
  | notifyTU (response : SipResponse)
  | notifyTUError (reason : String)
  deriving DecidableEq

/-- Programs over a transaction whose trace holds events `E`. -/
abbrev TransactionM (E ε α : Type) := MachineM InviteClientState E ε α

/-- The four functions handed to the constructor. -/
structure Callbacks (E ε : Type) where
  sendRequest : SipRequest → TransactionM E ε Unit
  sendAck : SipResponse → TransactionM E ε Unit
  notifyTU : SipResponse → TransactionM E ε Unit
  notifyTUError : String → TransactionM E ε Unit

/-- Run the callback a call names. -/
def Callbacks.invoke (callbacks : Callbacks E ε) : Call → TransactionM E ε Unit
  | .sendRequest request => callbacks.sendRequest request
  | .sendAck response => callbacks.sendAck response
  | .notifyTU response => callbacks.notifyTU response
  | .notifyTUError reason => callbacks.notifyTUError reason

/-- Callbacks that return normally after being recorded. -/
def Callbacks.recording : Callbacks Call ε where
  sendRequest request := record (.sendRequest request)
  sendAck response := record (.sendAck response)
  notifyTU response := record (.notifyTU response)
  notifyTUError reason := record (.notifyTUError reason)

/-- A protocol over the states of the transaction and the messages of SIP. -/
abbrev TransactionProtocol (E ε : Type) :=
  ProtocolStateMachine InviteClientState Message MessageType E ε

namespace InviteClientTransaction

/-- The states override no hook and the constructor sets no observer. -/
def hooks : Hooks InviteClientState E ε :=
  Hooks.plain InviteClientState.getName

/-- `p.setCurrentState(&...State::instance())`. -/
def enter (state : InviteClientState) : TransactionM E ε Unit :=
  setCurrentState hooks (some state)

/-- The transition table the constructor registers. -/
def transitions (callbacks : Callbacks E ε) : TransactionProtocol E ε :=
  let handleCallingNonSuccessFinal := fun (r : SipResponse) => do
    enter .Completed
    callbacks.sendAck r
    callbacks.notifyTU r
  let handleProceedingNonSuccessFinal := fun (r : SipResponse) => do
    enter .Completed
    callbacks.sendAck r
    callbacks.notifyTU r
  let handleCompletedRetransmit := fun (r : SipResponse) => callbacks.sendAck r
  (ProtocolStateMachine.construct hooks : TransactionProtocol E ε)
    -- Calling
    |>.onMessage ProvisionalResponse (some .Calling) (fun r => do
      enter .Proceeding
      callbacks.notifyTU r.toSipResponse)
    |>.onMessage SuccessResponse (some .Calling) (fun r => do
      enter .Terminated
      callbacks.notifyTU r.toSipResponse)
    |>.onMessage RedirectionResponse (some .Calling)
      (fun r => handleCallingNonSuccessFinal r.toSipResponse)
    |>.onMessage ClientErrorResponse (some .Calling)
      (fun r => handleCallingNonSuccessFinal r.toSipResponse)
    |>.onMessage ServerErrorResponse (some .Calling)
      (fun r => handleCallingNonSuccessFinal r.toSipResponse)
    |>.onMessage GlobalFailureResponse (some .Calling)
      (fun r => handleCallingNonSuccessFinal r.toSipResponse)
    |>.onMessage TransactionTimeoutEvent (some .Calling) (fun _ => do
      enter .Terminated
      callbacks.notifyTUError "Timer B: no response received")
    |>.onMessage TransportErrorEvent (some .Calling) (fun reason => do
      enter .Terminated
      callbacks.notifyTUError reason)
    -- Proceeding
    |>.onMessage ProvisionalResponse (some .Proceeding)
      (fun r => callbacks.notifyTU r.toSipResponse)
    |>.onMessage SuccessResponse (some .Proceeding) (fun r => do
      enter .Terminated
      callbacks.notifyTU r.toSipResponse)
    |>.onMessage RedirectionResponse (some .Proceeding)
      (fun r => handleProceedingNonSuccessFinal r.toSipResponse)
    |>.onMessage ClientErrorResponse (some .Proceeding)
      (fun r => handleProceedingNonSuccessFinal r.toSipResponse)
    |>.onMessage ServerErrorResponse (some .Proceeding)
      (fun r => handleProceedingNonSuccessFinal r.toSipResponse)
    |>.onMessage GlobalFailureResponse (some .Proceeding)
      (fun r => handleProceedingNonSuccessFinal r.toSipResponse)
    -- Completed
    |>.onMessage RedirectionResponse (some .Completed)
      (fun r => handleCompletedRetransmit r.toSipResponse)
    |>.onMessage ClientErrorResponse (some .Completed)
      (fun r => handleCompletedRetransmit r.toSipResponse)
    |>.onMessage ServerErrorResponse (some .Completed)
      (fun r => handleCompletedRetransmit r.toSipResponse)
    |>.onMessage GlobalFailureResponse (some .Completed)
      (fun r => handleCompletedRetransmit r.toSipResponse)
    |>.onMessage TransactionWaitTimeoutEvent (some .Completed) (fun _ =>
      enter .Terminated)

/-- The constructor: build the table, send the INVITE, enter Calling. -/
def construct
    (invite : InviteRequest)
    (callbacks : Callbacks E ε) : TransactionM E ε (TransactionProtocol E ε) := do
  let protocol := transitions callbacks
  callbacks.sendRequest invite.toSipRequest
  enter .Calling
  return protocol

/-- `receive()` on a transaction built with the given callbacks. -/
def receive (callbacks : Callbacks E ε) (message : Message) :
    TransactionM E ε Unit :=
  (transitions callbacks).receive message

end InviteClientTransaction

/-! ## Net effect of the table -/

/-- Next state, and the callbacks invoked once that state is current. -/
def transactionStep :
    InviteClientState → Message → InviteClientState × List Call
  | .Calling, .response .Provisional r =>
      (.Proceeding, [.notifyTU r.toSipResponse])
  | .Calling, .response .Success r =>
      (.Terminated, [.notifyTU r.toSipResponse])
  | .Calling, .response _ r =>
      (.Completed, [.sendAck r.toSipResponse, .notifyTU r.toSipResponse])
  | .Calling, .transactionTimeout =>
      (.Terminated, [.notifyTUError "Timer B: no response received"])
  | .Calling, .transportError reason => (.Terminated, [.notifyTUError reason])
  | .Proceeding, .response .Provisional r =>
      (.Proceeding, [.notifyTU r.toSipResponse])
  | .Proceeding, .response .Success r =>
      (.Terminated, [.notifyTU r.toSipResponse])
  | .Proceeding, .response _ r =>
      (.Completed, [.sendAck r.toSipResponse, .notifyTU r.toSipResponse])
  | .Completed, .response .Provisional _ => (.Completed, [])
  | .Completed, .response .Success _ => (.Completed, [])
  | .Completed, .response _ r => (.Completed, [.sendAck r.toSipResponse])
  | .Completed, .transactionWaitTimeout => (.Terminated, [])
  | state, _ => (state, [])

namespace InviteClientTransaction

/-- Every handler first makes its target state current and then invokes its
callbacks, so `receive()` is one step followed by the calls of that step. -/
theorem receive_run
    (callbacks : Callbacks E ε)
    (message : Message)
    {machine : StateMachine InviteClientState E}
    {state : InviteClientState}
    (current : machine.currentState = some state) :
    (receive callbacks message).run machine =
      (forM (transactionStep state message).2 callbacks.invoke).run
        { machine with
          currentState := some (transactionStep state message).1 } := by
  obtain ⟨name, currentState, trace⟩ := machine
  subst current
  cases state <;>
    rcases message with _ | ⟨_ | _ | _ | _ | _ | _, r⟩ | _ | _ | _ | _ <;>
    simp only [receive, transitions, ProtocolStateMachine.receive,
      ProtocolStateMachine.find_onMessage, ProtocolStateMachine.find_construct,
      ProtocolStateMachine.unhandled_onMessage,
      ProtocolStateMachine.unhandled_construct, ProtocolStateMachine.entry,
      responseMessage, TransportErrorEvent, TransactionTimeoutEvent,
      TransactionWaitTimeoutEvent, transactionStep, enter, hooks,
      Callbacks.invoke, EStateM.run_bind, EStateM.run_get, EStateM.run_pure,
      Message.typeid_request, Message.typeid_response,
      Message.typeid_transportError, Message.typeid_transactionTimeout,
      Message.typeid_transactionWaitTimeout, Message.typeid_other,
      MessageType.response.injEq, Prod.mk.injEq, Option.some.injEq,
      reduceCtorEq, and_false, and_true, ↓reduceIte, ↓reduceDIte,
      setCurrentState_plain, List.forM_cons, List.forM_nil, bind_pure_unit]

/-- The constructor leaves a transaction in Calling, its INVITE sent. -/
theorem construct_run
    (invite : InviteRequest)
    (callbacks : Callbacks E ε)
    {machine sent : StateMachine InviteClientState E}
    (sends : (callbacks.sendRequest invite.toSipRequest).run machine =
      .ok () sent) :
    (construct invite callbacks).run machine =
      .ok (transitions callbacks)
        { sent with currentState := some .Calling } := by
  simp only [construct, EStateM.run_bind, sends, enter, hooks,
    setCurrentState_plain, EStateM.run_pure]

/-! ## Flat runs -/

/-- Construct a transaction and deliver the messages one after another. -/
def transact
    (invite : InviteRequest)
    (callbacks : Callbacks E ε)
    (messages : List Message) : TransactionM E ε Unit := do
  let protocol ← construct invite callbacks
  forM messages protocol.receive

/-- The transaction as a machine from messages to calls. -/
def machine : Library.Mealy InviteClientState Message Call where
  initial := .Calling
  step := transactionStep

@[simp] theorem machine_step
    (state : InviteClientState)
    (message : Message) :
    machine.step state message = transactionStep state message := rfl

theorem recording_forM_run
    (calls : List Call)
    (before : StateMachine InviteClientState Call) :
    (forM calls Callbacks.recording.invoke :
        TransactionM Call ε Unit).run before =
      .ok () { before with trace := before.trace ++ calls } := by
  induction calls generalizing before with
  | nil => simp
  | cons call calls inductionHypothesis =>
      have recorded : (Callbacks.recording.invoke call :
          TransactionM Call ε Unit).run before =
            .ok () { before with trace := before.trace ++ [call] } := by
        cases call <;> rfl
      simp [recorded, inductionHypothesis]

theorem receive_forM_run
    (messages : List Message)
    (name : String)
    (state : InviteClientState)
    (trace : List Call) :
    (forM messages (receive Callbacks.recording) :
        TransactionM Call ε Unit).run { name, currentState := some state, trace } =
      .ok ()
        { name
          currentState := some (machine.run state messages).1
          trace := trace ++ (machine.run state messages).2 } := by
  induction messages generalizing state trace with
  | nil => simp
  | cons message messages inductionHypothesis =>
      rw [List.forM_cons, EStateM.run_bind, receive_run _ _ rfl,
        recording_forM_run]
      simpa [List.append_assoc] using inductionHypothesis
        (transactionStep state message).1
        (trace ++ (transactionStep state message).2)

/-- A transaction whose callbacks only record runs as its machine does. -/
theorem transact_run
    (name : String)
    (invite : InviteRequest)
    (messages : List Message) :
    (transact invite Callbacks.recording messages :
        TransactionM Call ε Unit).run { name } =
      .ok ()
        { name
          currentState := some (machine.run .Calling messages).1
          trace := .sendRequest invite.toSipRequest ::
            (machine.run .Calling messages).2 } := by
  rw [transact, EStateM.run_bind, construct_run invite Callbacks.recording rfl]
  exact receive_forM_run messages name .Calling [.sendRequest invite.toSipRequest]

end InviteClientTransaction
end Sip
end ModernCommon
