import ModernCommon.Sip.Delivery

/-!
# Nested and flat delivery

A tree of deliveries, against its messages delivered one after another in the
order in which their `receive()` calls began. State and each callback's
arguments agree; only the order of an acknowledgement and a notification may
differ, which the transaction user and the transport cannot tell.
-/

namespace ModernCommon
namespace Sip

/-- The response a call passes to the transaction user, if it does. -/
def Call.notified : Call → Option SipResponse
  | .notifyTU response => some response
  | _ => none

/-- The error a call passes to the transaction user, if it does. -/
def Call.reportedError : Call → Option String
  | .notifyTUError reason => some reason
  | _ => none

/-- The messages one after another, no callback delivering any. -/
def flatly (messages : List Message) : List Delivery :=
  messages.map fun message => .receive message [] [] []

/-- What a call to the transaction user selects is selected after the others
are dropped. -/
theorem filterMap_informing
    {select : Call → Option α}
    (informs : ∀ call, (select call).isSome → call.informsTU)
    (calls : List Call) :
    (calls.filter Call.informsTU).filterMap select = calls.filterMap select := by
  rw [List.filterMap_filter]
  apply List.filterMap_congr
  intro call _
  by_cases informing : call.informsTU
  · rw [if_pos informing]
  · rw [if_neg informing]
    by_contra selected
    exact informing (informs call (Option.isSome_iff_ne_none.mpr (Ne.symm selected)))

/-- Calls that inform the transaction user alike agree on all it selects. -/
theorem filterMap_eq_of_informed
    {select : Call → Option α}
    (informs : ∀ call, (select call).isSome → call.informsTU)
    {left right : List Call}
    (informed : left.filter Call.informsTU = right.filter Call.informsTU) :
    left.filterMap select = right.filterMap select := by
  rw [← filterMap_informing informs, informed, filterMap_informing informs]

theorem informsTU_of_notified
    (call : Call)
    (notifies : call.notified.isSome) :
    call.informsTU := by
  cases call with
  | notifyTU response => rfl
  | sendRequest request | sendAck response | notifyTUError reason =>
      cases notifies

theorem informsTU_of_reportedError
    (call : Call)
    (reports : call.reportedError.isSome) :
    call.informsTU := by
  cases call with
  | notifyTUError reason => rfl
  | sendRequest request | sendAck response | notifyTU response => cases reports

namespace InviteClientTransaction

theorem returning_forM_run
    (calls : List Call)
    (before : StateMachine InviteClientState Event) :
    (forM calls Callbacks.returning.invoke :
        TransactionM Event ε Unit).run before =
      .ok () { before with trace := before.trace ++ calls.map Event.called } := by
  induction calls generalizing before with
  | nil => simp
  | cons call calls inductionHypothesis =>
      have returned : (Callbacks.returning.invoke call :
          TransactionM Event ε Unit).run before =
            .ok () { before with trace := before.trace ++ [.called call] } := by
        cases call <;> rfl
      simp [returned, inductionHypothesis]

/-- A flat delivery receives its messages, in order. -/
theorem runAll_flatly_run
    (messages : List Message)
    (name : String)
    (state : InviteClientState)
    (trace : List Event) :
    ∃ events, received events = messages ∧
      (runAll (flatly messages) : TransactionM Event ε Unit).run
          { name, currentState := some state, trace } =
        .ok ()
          { name
            currentState := some (machine.run state messages).1
            trace := trace ++ events } := by
  induction messages generalizing state trace with
  | nil => exact ⟨[], rfl, by simp [flatly, runAll]⟩
  | cons message messages inductionHypothesis =>
      let first := .received message ::
        (transactionStep state message).2.map Event.called
      obtain ⟨events, receives, ran⟩ := inductionHypothesis
        (transactionStep state message).1 (trace ++ first)
      have silent : received ((transactionStep state message).2.map
          Event.called) = [] := by
        simp [received]
      have begins : ((Delivery.receive message [] [] []).run :
          TransactionM Event ε Unit).run
            { name, currentState := some state, trace } =
              .ok ()
                { name
                  currentState := some (transactionStep state message).1
                  trace := trace ++ first } := by
        have empty : (runAll [] : TransactionM Event ε Unit) = pure () := by
          rw [runAll]
        rw [Delivery.run, EStateM.run_bind, record_run]
        simp only [empty]
        rw [receive_run _ message rfl, ← Callbacks.returning]
        simpa [first] using returning_forM_run (transactionStep state message).2
          { name
            currentState := some (transactionStep state message).1
            trace := trace ++ [.received message] }
      refine ⟨first ++ events, ?_, ?_⟩
      · simp [first, silent, receives]
      · rw [flatly, List.map_cons, runAll, EStateM.run_bind, begins]
        simpa [flatly, List.append_assoc] using ran

/-- A tree of deliveries leaves the transaction in the state, and gives each
callback the arguments in the order, that its messages do when they are
delivered one after another as their `receive()` calls began. -/
theorem delivered_flatly
    (name : String)
    (invite : InviteRequest)
    (deliveries : List Delivery) :
    ∃ nested flat,
      nested = delivered name invite deliveries ∧
      flat = delivered name invite (flatly (received nested.trace)) ∧
      received flat.trace = received nested.trace ∧
      flat.currentState = nested.currentState ∧
      (called flat.trace).filterMap Call.acked =
        (called nested.trace).filterMap Call.acked ∧
      (called flat.trace).filterMap Call.notified =
        (called nested.trace).filterMap Call.notified ∧
      (called flat.trace).filterMap Call.reportedError =
        (called nested.trace).filterMap Call.reportedError := by
  obtain ⟨events, nested, reached⟩ := delivered_eq name invite deliveries
  obtain ⟨flatEvents, receives, ran⟩ := runAll_flatly_run (received events) name
    .Calling [.called (.sendRequest invite.toSipRequest)]
  obtain ⟨_, flat, reachedFlat⟩ :=
    delivered_eq name invite (flatly (received events))
  have flatReached : delivered name invite (flatly (received events)) =
      afterEvents name invite flatEvents := by
    apply delivered_of_runAll
    rw [afterEvents, received_nil, Library.Mealy.run_nil, ran]
    simp [afterEvents, receives]
  obtain rfl : flatEvents = _ := by
    have sameTrace := congrArg StateMachine.trace
      (flatReached.symm.trans reachedFlat)
    exact List.tail_eq_of_cons_eq sameTrace
  have informed : (called flatEvents).filter Call.informsTU =
      (called events).filter Call.informsTU := by
    rw [flat.informed, nested.informed, receives]
  refine ⟨_, _, rfl, rfl, ?_⟩
  rw [reached]
  simp only [afterEvents, received_cons_called, called_cons_called]
  rw [flatReached]
  simp only [afterEvents, received_cons_called, called_cons_called, receives,
    List.filterMap_cons, Call.acked, Call.notified, Call.reportedError]
  refine ⟨trivial, trivial, ?_, ?_, ?_⟩
  · rw [flat.acked, nested.acked, receives]
  · exact filterMap_eq_of_informed informsTU_of_notified informed
  · exact filterMap_eq_of_informed informsTU_of_reportedError informed

end InviteClientTransaction
end Sip
end ModernCommon
