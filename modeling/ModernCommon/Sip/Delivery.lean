import ModernCommon.Sip.Course

/-!
# Deliveries from inside callbacks

While one of its callbacks runs inside `receive()`, a transaction may be given
further messages, and from their callbacks further ones. A delivery is the
finite tree of the `receive()` calls that begin before a given one returns. The
callbacks are told apart by what they deliver, which differs from call to call.
-/

namespace ModernCommon
namespace Sip

/-- The beginning of a `receive()` call, or of a callback. -/
inductive Event
  | received (message : Message)
  | called (call : Call)
  deriving DecidableEq

/-- The messages of a trace, ordered by the beginning of their `receive()`. -/
def received (events : List Event) : List Message :=
  events.filterMap fun
    | .received message => some message
    | .called _ => none

/-- The callbacks of a trace, ordered by the beginning of their call. -/
def called (events : List Event) : List Call :=
  events.filterMap fun
    | .received _ => none
    | .called call => some call

@[simp] theorem received_nil : received [] = [] := rfl

@[simp] theorem called_nil : called [] = [] := rfl

@[simp] theorem received_cons_received (message : Message) (events : List Event) :
    received (.received message :: events) = message :: received events := rfl

@[simp] theorem received_cons_called (call : Call) (events : List Event) :
    received (.called call :: events) = received events := rfl

@[simp] theorem called_cons_received (message : Message) (events : List Event) :
    called (.received message :: events) = called events := rfl

@[simp] theorem called_cons_called (call : Call) (events : List Event) :
    called (.called call :: events) = call :: called events := rfl

@[simp] theorem received_append (before after : List Event) :
    received (before ++ after) = received before ++ received after :=
  List.filterMap_append

@[simp] theorem called_append (before after : List Event) :
    called (before ++ after) = called before ++ called after :=
  List.filterMap_append

/-- Callbacks that return normally after being recorded and then running a
program each. -/
def Callbacks.delivering
    (inSendAck inNotifyTU inNotifyTUError : TransactionM Event ε Unit) :
    Callbacks Event ε where
  sendRequest request := record (.called (.sendRequest request))
  sendAck response := do
    record (.called (.sendAck response))
    inSendAck
  notifyTU response := do
    record (.called (.notifyTU response))
    inNotifyTU
  notifyTUError reason := do
    record (.called (.notifyTUError reason))
    inNotifyTUError

/-- Callbacks that return normally after being recorded. -/
def Callbacks.returning : Callbacks Event ε :=
  .delivering (pure ()) (pure ()) (pure ())

/-- One `receive()` call, with what each callback it may run delivers in turn. -/
inductive Delivery
  | receive
      (message : Message)
      (inSendAck inNotifyTU inNotifyTUError : List Delivery)

mutual

/-- Begin a `receive()` call whose callbacks return normally after making their
own deliveries. -/
def Delivery.run : Delivery → TransactionM Event ε Unit
  | .receive message inSendAck inNotifyTU inNotifyTUError => do
      record (.received message)
      InviteClientTransaction.receive
        (.delivering (runAll inSendAck) (runAll inNotifyTU)
          (runAll inNotifyTUError))
        message

/-- Make deliveries one after another. -/
def runAll : List Delivery → TransactionM Event ε Unit
  | [] => pure ()
  | delivery :: deliveries => do
      delivery.run
      runAll deliveries

end

/-- A call to one of the two callbacks of the transaction user. -/
def Call.informsTU : Call → Bool
  | .notifyTU _ => true
  | .notifyTUError _ => true
  | _ => false

/-- The events call what their messages do when delivered one after another
from `state`, and both acknowledge and tell the transaction user in the same
order. -/
structure Flat (state : InviteClientState) (events : List Event) : Prop where
  perm : (called events).Perm
    (InviteClientTransaction.machine.run state (received events)).2
  acked : (called events).filterMap Call.acked =
    (InviteClientTransaction.machine.run state
      (received events)).2.filterMap Call.acked
  informed : (called events).filter Call.informsTU =
    (InviteClientTransaction.machine.run state
      (received events)).2.filter Call.informsTU

/-- Begun in any state, the program returns normally, having moved the
transaction as its messages do one after another. -/
def DeliversFlat (program : TransactionM Event ε Unit) : Prop :=
  ∀ name state trace, ∃ events, Flat state events ∧
    program.run { name, currentState := some state, trace } =
      .ok ()
        { name
          currentState := some (InviteClientTransaction.machine.run state
            (received events)).1
          trace := trace ++ events }

namespace InviteClientTransaction

/-- From Completed on the transaction user is told nothing more. -/
theorem run_completed_informed (messages : List Message) :
    (machine.run .Completed messages).2.filter Call.informsTU = [] := by
  rw [run_completed_calls]
  simp [List.filter_eq_nil_iff, Call.informsTU]

/-- A message makes no call, one call, or two calls on the way to Completed. -/
theorem transactionStep_calls
    (state : InviteClientState)
    (message : Message) :
    (transactionStep state message).2 = [] ∨
      (∃ call, (transactionStep state message).2 = [call]) ∨
      ∃ response, transactionStep state message =
        (.Completed, [.sendAck response, .notifyTU response]) := by
  cases state <;>
    rcases message with _ | ⟨_ | _ | _ | _ | _ | _, r⟩ | _ | _ | _ | _ <;>
    simp [transactionStep]

end InviteClientTransaction

open InviteClientTransaction

/-! ## Flat traces -/

namespace Flat

theorem nil (state : InviteClientState) : Flat state [] where
  perm := by simp
  acked := by simp
  informed := by simp

theorem append
    {state : InviteClientState}
    {before after : List Event}
    (first : Flat state before)
    (second : Flat (machine.run state (received before)).1 after) :
    Flat state (before ++ after) where
  perm := by
    rw [called_append, received_append, Library.Mealy.run_append]
    exact first.perm.append second.perm
  acked := by
    rw [called_append, received_append, Library.Mealy.run_append,
      List.filterMap_append, List.filterMap_append, first.acked, second.acked]
  informed := by
    rw [called_append, received_append, Library.Mealy.run_append,
      List.filter_append, List.filter_append, first.informed, second.informed]

/-- A message without calls. -/
theorem silent
    {state : InviteClientState}
    {message : Message}
    (calls : (transactionStep state message).2 = []) :
    Flat state [.received message] where
  perm := by simp [calls]
  acked := by simp [calls]
  informed := by simp [calls]

/-- A message with one call, and what was delivered while that ran. -/
theorem single
    {state : InviteClientState}
    {message : Message}
    {call : Call}
    {nested : List Event}
    (calls : (transactionStep state message).2 = [call])
    (during : Flat (transactionStep state message).1 nested) :
    Flat state (.received message :: .called call :: nested) where
  perm := by simpa [calls] using during.perm.cons call
  acked := by
    simp only [called_cons_received, called_cons_called,
      received_cons_received, received_cons_called, Library.Mealy.run_cons,
      machine_step, calls, List.singleton_append, List.filterMap_cons,
      during.acked]
  informed := by
    simp only [called_cons_received, called_cons_called,
      received_cons_received, received_cons_called, Library.Mealy.run_cons,
      machine_step, calls, List.singleton_append, List.filter_cons,
      during.informed]

/-- A message acknowledged and then passed on. What is delivered while the
acknowledgement is sent finds the transaction in Completed, where it can only
be acknowledged in turn, so the transaction user is told in the same order. -/
theorem acknowledge
    {state : InviteClientState}
    {message : Message}
    {response : SipResponse}
    {inSendAck inNotifyTU : List Event}
    (step : transactionStep state message =
      (.Completed, [.sendAck response, .notifyTU response]))
    (duringAck : Flat .Completed inSendAck)
    (duringNotify :
      Flat (machine.run .Completed (received inSendAck)).1 inNotifyTU) :
    Flat state (.received message :: .called (.sendAck response) ::
      inSendAck ++ .called (.notifyTU response) :: inNotifyTU) where
  perm := by
    have nested := (duringAck.perm.append duringNotify.perm).cons
      (.notifyTU response)
    simpa [step, Library.Mealy.run_append] using
      List.perm_middle.trans nested
  acked := by
    simp [step, Library.Mealy.run_append, List.filterMap_cons, Call.acked,
      duringAck.acked, duringNotify.acked]
  informed := by
    have silentAck : (called inSendAck).filter Call.informsTU = [] := by
      rw [duringAck.informed, run_completed_informed]
    simp [step, Library.Mealy.run_append, List.filter_cons, Call.informsTU,
      silentAck, run_completed_informed, duringNotify.informed]

end Flat

/-! ## Nested delivery is flat delivery -/

namespace DeliversFlat

theorem pure : DeliversFlat (Pure.pure () : TransactionM Event ε Unit) :=
  fun _ state _ => ⟨[], Flat.nil state, by simp⟩

theorem andThen
    {first second : TransactionM Event ε Unit}
    (firstFlat : DeliversFlat first)
    (secondFlat : DeliversFlat second) :
    DeliversFlat (do first; second) := by
  intro name state trace
  obtain ⟨before, beforeFlat, firstRun⟩ := firstFlat name state trace
  obtain ⟨after, afterFlat, secondRun⟩ := secondFlat name
    (machine.run state (received before)).1 (trace ++ before)
  refine ⟨before ++ after, beforeFlat.append afterFlat, ?_⟩
  rw [EStateM.run_bind, firstRun]
  simp [secondRun, Library.Mealy.run_append]

/-- A `receive()` whose callbacks are recorded and then deliver flat. -/
theorem receive
    {callbacks : Callbacks Event ε}
    {during : Call → TransactionM Event ε Unit}
    (message : Message)
    (invokes : ∀ call, callbacks.invoke call = do
      record (.called call)
      during call)
    (duringFlat : ∀ call, DeliversFlat (during call)) :
    DeliversFlat (do
      record (.received message)
      InviteClientTransaction.receive callbacks message) := by
  intro name state trace
  rw [EStateM.run_bind, record_run]
  simp only
  rw [receive_run callbacks message rfl]
  rcases transactionStep_calls state message with calls | ⟨call, calls⟩ |
    ⟨response, step⟩
  · refine ⟨[.received message], Flat.silent calls, ?_⟩
    simp [calls]
  · obtain ⟨nested, nestedFlat, nestedRun⟩ := duringFlat call name
      (transactionStep state message).1
      (trace ++ [.received message] ++ [.called call])
    refine ⟨.received message :: .called call :: nested,
      Flat.single calls nestedFlat, ?_⟩
    rw [calls, List.forM_cons, EStateM.run_bind, invokes, EStateM.run_bind,
      record_run]
    simp only
    rw [nestedRun]
    simp
  · obtain ⟨inSendAck, ackFlat, ackRun⟩ := duringFlat (.sendAck response) name
      .Completed (trace ++ [.received message] ++ [.called (.sendAck response)])
    obtain ⟨inNotifyTU, notifyFlat, notifyRun⟩ :=
      duringFlat (.notifyTU response) name
        (machine.run .Completed (received inSendAck)).1
        (trace ++ [.received message] ++ [.called (.sendAck response)] ++
          inSendAck ++ [.called (.notifyTU response)])
    refine ⟨_, Flat.acknowledge step ackFlat notifyFlat, ?_⟩
    rw [step, List.forM_cons, EStateM.run_bind, invokes, EStateM.run_bind,
      record_run]
    simp only
    rw [ackRun]
    simp only
    rw [List.forM_cons, EStateM.run_bind, invokes, EStateM.run_bind,
      record_run]
    simp only
    rw [notifyRun]
    simp [step, Library.Mealy.run_append]

end DeliversFlat

theorem runAll_append (before after : List Delivery) :
    (runAll (before ++ after) : TransactionM Event ε Unit) =
      (do runAll before; runAll after) := by
  induction before with
  | nil => simp [runAll]
  | cons delivery before inductionHypothesis =>
      simp [runAll, inductionHypothesis]

mutual

theorem Delivery.run_deliversFlat :
    ∀ delivery : Delivery,
      DeliversFlat (delivery.run : TransactionM Event ε Unit)
  | .receive message inSendAck inNotifyTU inNotifyTUError => by
      let during : Call → TransactionM Event ε Unit
        | .sendRequest _ => Pure.pure ()
        | .sendAck _ => runAll inSendAck
        | .notifyTU _ => runAll inNotifyTU
        | .notifyTUError _ => runAll inNotifyTUError
      have duringFlat : ∀ call, DeliversFlat (during call)
        | .sendRequest _ => DeliversFlat.pure
        | .sendAck _ => runAll_deliversFlat inSendAck
        | .notifyTU _ => runAll_deliversFlat inNotifyTU
        | .notifyTUError _ => runAll_deliversFlat inNotifyTUError
      rw [Delivery.run]
      apply DeliversFlat.receive message _ duringFlat
      rintro (_ | _ | _ | _) <;> rfl

theorem runAll_deliversFlat :
    ∀ deliveries : List Delivery,
      DeliversFlat (runAll deliveries : TransactionM Event ε Unit)
  | [] => DeliversFlat.pure
  | delivery :: deliveries => by
      rw [runAll]
      exact delivery.run_deliversFlat.andThen (runAll_deliversFlat deliveries)

end

namespace InviteClientTransaction

/-- Construct a transaction and make deliveries to it. -/
def deliver (invite : InviteRequest) (deliveries : List Delivery) :
    TransactionM Event ε Unit := do
  let _ ← construct invite Callbacks.returning
  runAll deliveries

/-- The transaction after its deliveries. -/
def delivered
    (name : String)
    (invite : InviteRequest)
    (deliveries : List Delivery) : StateMachine InviteClientState Event :=
  match (deliver invite deliveries : TransactionM Event Empty Unit).run
      { name } with
  | .ok () reached => reached
  | .error thrown _ => nomatch thrown

/-- A transaction constructed before its events took place. -/
def afterEvents
    (name : String)
    (invite : InviteRequest)
    (events : List Event) : StateMachine InviteClientState Event where
  name := name
  currentState := some (machine.run .Calling (received events)).1
  trace := .called (.sendRequest invite.toSipRequest) :: events

theorem delivered_of_runAll
    {name : String}
    {invite : InviteRequest}
    {deliveries : List Delivery}
    {reached : StateMachine InviteClientState Event}
    (ran : (runAll deliveries : TransactionM Event Empty Unit).run
      (afterEvents name invite []) = .ok () reached) :
    delivered name invite deliveries = reached := by
  have sends : (Callbacks.returning.sendRequest invite.toSipRequest :
      TransactionM Event Empty Unit).run { name } =
        .ok ()
          { name, trace := [.called (.sendRequest invite.toSipRequest)] } := rfl
  have started : (construct invite Callbacks.returning :
      TransactionM Event Empty _).run { name } =
        .ok (transitions Callbacks.returning) (afterEvents name invite []) :=
    construct_run invite Callbacks.returning sends
  simp only [delivered, deliver, EStateM.run_bind, started, ran]

/-- What a transaction has done after its deliveries, and after some more. -/
theorem delivered_append
    (name : String)
    (invite : InviteRequest)
    (deliveries more : List Delivery) :
    ∃ events later,
      Flat .Calling events ∧
      Flat (machine.run .Calling (received events)).1 later ∧
      delivered name invite deliveries = afterEvents name invite events ∧
      delivered name invite (deliveries ++ more) =
        afterEvents name invite (events ++ later) := by
  obtain ⟨events, flat, ran⟩ := runAll_deliversFlat deliveries name .Calling
    [.called (.sendRequest invite.toSipRequest)]
  obtain ⟨later, laterFlat, ranMore⟩ := runAll_deliversFlat more name
    (machine.run .Calling (received events)).1
    (.called (.sendRequest invite.toSipRequest) :: events)
  refine ⟨events, later, flat, laterFlat, delivered_of_runAll ran,
    delivered_of_runAll ?_⟩
  rw [runAll_append, EStateM.run_bind]
  simp only [afterEvents, received_nil, Library.Mealy.run_nil]
  rw [ran]
  simp only [List.singleton_append]
  rw [ranMore]
  simp [Library.Mealy.run_append]

theorem delivered_eq
    (name : String)
    (invite : InviteRequest)
    (deliveries : List Delivery) :
    ∃ events, Flat .Calling events ∧
      delivered name invite deliveries = afterEvents name invite events := by
  obtain ⟨events, _, flat, _, reached, _⟩ :=
    delivered_append name invite deliveries []
  exact ⟨events, flat, reached⟩

end InviteClientTransaction
end Sip
end ModernCommon
