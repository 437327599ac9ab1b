import Mathlib.Data.List.TakeWhile
import ModernCommon.Sip.Delivery

/-!
# Acknowledgements, by status code

The responses given to `sendAck`, as a closed form of the messages received.
Everything here is told apart by the numeric status code of a response, which
the constructors tie to its class.
-/

namespace ModernCommon
namespace Sip

/-- The status code lies in a half-open range. -/
def SipResponse.statusIn (low high : Int) (response : SipResponse) : Bool :=
  low ≤ response.statusCode ∧ response.statusCode < high

/-- The message is a response with a status code in a half-open range. -/
def Message.statusIn (low high : Int) (message : Message) : Bool :=
  message.toResponse.any (SipResponse.statusIn low high)

/-- The responses of a list with a status code in a half-open range. -/
def responsesIn (low high : Int) (messages : List Message) : List SipResponse :=
  (messages.filterMap Message.toResponse).filter (SipResponse.statusIn low high)

/-- A response 200-299 is among the messages, or Timer B or a transport error
before any response 100-199. -/
def SettledBy (messages : List Message) : Prop :=
  (∃ message ∈ messages, message.statusIn 200 300) ∨
    ∃ earlier event later, messages = earlier ++ event :: later ∧
      (event.isTransactionTimeout ∨ event.isTransportError) ∧
      ∀ message ∈ earlier, message.statusIn 100 200 = false

/-! ## Classes and status codes -/

theorem Message.isProvisional_eq_statusIn (message : Message) :
    message.isProvisional = message.statusIn 100 200 := by
  have sameTest : SipResponse.isProvisional = SipResponse.statusIn 100 200 := by
    funext response
    rw [Bool.eq_iff_iff, response.isProvisional_iff]
    simp [SipResponse.statusIn]
  rw [Message.isProvisional, Message.statusIn, sameTest]

theorem Message.isSuccess_eq_statusIn (message : Message) :
    message.isSuccess = message.statusIn 200 300 := by
  have sameTest : SipResponse.isSuccess = SipResponse.statusIn 200 300 := by
    funext response
    rw [Bool.eq_iff_iff, response.isSuccess_iff]
    simp [SipResponse.statusIn]
  rw [Message.isSuccess, Message.statusIn, sameTest]

theorem SipResponse.isNonSuccessFinal_eq_statusIn :
    SipResponse.isNonSuccessFinal = SipResponse.statusIn 300 700 := by
  funext response
  rw [Bool.eq_iff_iff, response.isNonSuccessFinal_iff]
  simp [SipResponse.statusIn]

theorem Message.isNonSuccessFinal_eq_statusIn (message : Message) :
    message.isNonSuccessFinal = message.statusIn 300 700 := by
  rw [Message.isNonSuccessFinal, Message.statusIn,
    SipResponse.isNonSuccessFinal_eq_statusIn]

theorem finalsUntilTimerD_eq_responsesIn (messages : List Message) :
    finalsUntilTimerD messages =
      responsesIn 300 700 (messages.takeWhile fun message =>
        !message.isTransactionWaitTimeout) := by
  rw [finalsUntilTimerD, responsesIn, List.filter_filterMap]
  congr 1
  funext message
  rw [Message.nonSuccessFinal, SipResponse.isNonSuccessFinal_eq_statusIn]

/-- A failure is no response. -/
theorem Message.not_isProvisional_of_isFailure
    {message : Message}
    (failure : message.isFailure) :
    message.isProvisional = false := by
  rcases message with _ | ⟨C, r⟩ | _ | _ | _ | _
  case response =>
    simp [Message.isFailure, Message.isTransactionTimeout,
      Message.isTransportError] at failure
  all_goals simp [Message.isProvisional]

theorem failure_before_provisional_iff (messages : List Message) :
    (messages.takeWhile fun message => !message.isProvisional).any
        Message.isFailure ↔
      ∃ earlier event later, messages = earlier ++ event :: later ∧
        (event.isTransactionTimeout ∨ event.isTransportError) ∧
        ∀ message ∈ earlier, message.statusIn 100 200 = false := by
  simp only [← Message.isProvisional_eq_statusIn]
  constructor
  · intro failed
    obtain ⟨event, present, failure⟩ := List.any_eq_true.mp failed
    obtain ⟨earlier, later, split⟩ := List.append_of_mem present
    refine ⟨earlier, event, later ++ messages.dropWhile fun message =>
      !message.isProvisional, ?_, by simpa [Message.isFailure] using failure, ?_⟩
    · rw [← List.cons_append, ← List.append_assoc, ← split,
        List.takeWhile_append_dropWhile]
    · intro message before
      have taken : message ∈ messages.takeWhile fun message =>
          !message.isProvisional := by
        rw [split]
        exact List.mem_append_left _ before
      simpa using List.mem_takeWhile_imp taken
  · rintro ⟨earlier, event, later, rfl, failure, early⟩
    have isFailure : event.isFailure := by simpa [Message.isFailure] using failure
    rw [List.takeWhile_append_of_pos (by simpa using early),
      List.takeWhile_cons_of_pos
        (by simp [Message.not_isProvisional_of_isFailure isFailure])]
    simp [isFailure]

theorem settled_iff_settledBy (messages : List Message) :
    settled messages ↔ SettledBy messages := by
  rw [settled, Bool.or_eq_true, failure_before_provisional_iff, SettledBy,
    List.any_eq_true]
  simp only [Message.isSuccess_eq_statusIn]

/-! ## The first response 300-699 -/

theorem beforeFinal_append
    {before after : List Message}
    {final : Message}
    (none : ∀ message ∈ before, message.statusIn 300 700 = false)
    (first : final.statusIn 300 700) :
    beforeFinal (before ++ final :: after) = before := by
  simp only [← Message.isNonSuccessFinal_eq_statusIn] at none first
  rw [beforeFinal, List.takeWhile_append_of_pos (by simpa using none),
    List.takeWhile_cons_of_neg (by simpa using first), List.append_nil]

theorem fromFinal_append
    {before after : List Message}
    {final : Message}
    (none : ∀ message ∈ before, message.statusIn 300 700 = false)
    (first : final.statusIn 300 700) :
    fromFinal (before ++ final :: after) = final :: after := by
  simp only [← Message.isNonSuccessFinal_eq_statusIn] at none first
  rw [fromFinal, List.dropWhile_append_of_pos (by simpa using none),
    List.dropWhile_cons_of_neg (by simpa using first)]

theorem acknowledgeable_eq_nil
    {messages : List Message}
    (none : ∀ message ∈ messages, message.statusIn 300 700 = false) :
    acknowledgeable messages = [] := by
  simp only [← Message.isNonSuccessFinal_eq_statusIn] at none
  have nothing : fromFinal messages = [] := by
    rw [fromFinal, List.dropWhile_eq_nil_iff]
    simpa using none
  rw [acknowledgeable, nothing]
  simp

theorem statusIn_of_mem_acknowledgeable
    {messages : List Message}
    {response : SipResponse}
    (present : response ∈ acknowledgeable messages) :
    response.statusIn 300 700 := by
  rw [acknowledgeable, finalsUntilTimerD_eq_responsesIn, responsesIn] at present
  split at present
  · cases present
  · exact List.of_mem_filter present

namespace InviteClientTransaction

theorem delivered_acked_eq
    (name : String)
    (invite : InviteRequest)
    (deliveries : List Delivery) :
    (called (delivered name invite deliveries).trace).filterMap Call.acked =
      acknowledgeable (received (delivered name invite deliveries).trace) := by
  obtain ⟨events, flat, reached⟩ := delivered_eq name invite deliveries
  rw [reached, ← run_calling_acked]
  exact flat.acked

/-- The constructors accept the status codes of their class; and however
messages are delivered, those acknowledged are the responses 300-699 from the
first one to the first Timer D after it, unless the transaction was settled
before. -/
theorem delivered_acked
    (name : String)
    (invite : InviteRequest)
    (deliveries : List Delivery) :
    (∀ C statusCode reasonPhrase callId viaBranch cseqNumber cseqMethod,
      (SipResponseT.construct C statusCode reasonPhrase callId viaBranch
          cseqNumber cseqMethod).isOk ↔
        C.lowest ≤ statusCode ∧ statusCode < C.lowest + 100) ∧
    ∃ messages acked,
      messages = received (delivered name invite deliveries).trace ∧
      acked = (called (delivered name invite deliveries).trace).filterMap
        Call.acked ∧
      ((∀ message ∈ messages, message.statusIn 300 700 = false) →
        acked = []) ∧
      (∀ before final after, messages = before ++ final :: after →
        (∀ message ∈ before, message.statusIn 300 700 = false) →
        final.statusIn 300 700 →
        (SettledBy before → acked = []) ∧
        (¬SettledBy before →
          (∀ message ∈ after, message.isTransportError = false) →
          acked = responsesIn 300 700 ((final :: after).takeWhile fun message =>
            !message.isTransactionWaitTimeout))) ∧
      ∀ response ∈ acked, response.statusIn 300 700 := by
  refine ⟨SipResponseT.construct_isOk_iff, _, _, rfl, rfl, ?_, ?_, ?_⟩ <;>
    rw [delivered_acked_eq]
  · exact acknowledgeable_eq_nil
  · intro before final after split none first
    rw [split, acknowledgeable, beforeFinal_append none first,
      fromFinal_append none first, ← settled_iff_settledBy]
    constructor
    · intro settledBefore
      rw [if_pos settledBefore]
    · intro unsettled _
      rw [if_neg unsettled, finalsUntilTimerD_eq_responsesIn]
  · intro response present
    exact statusIn_of_mem_acknowledgeable present

end InviteClientTransaction
end Sip
end ModernCommon
