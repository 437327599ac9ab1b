import ModernCommon.Protocol

/-!
# SIP requests, responses and transaction events

Each SIP method and each response class is its own message type, so that a
protocol dispatches on it by type index. A response keeps its exact status code
as a run-time value; its constructor throws when the code does not belong to
the class it is constructed as, so a response of the wrong class is not a value
of these types.
-/

namespace ModernCommon
namespace Sip

/-- `std::invalid_argument`, with its text. -/
structure InvalidArgument where
  what : String
  deriving DecidableEq

/-- The methods of requests. -/
inductive SipMethod
  | Invite
  | Ack
  | Bye
  | Cancel
  | Register
  | Options
  deriving DecidableEq

/-- The name of a method on the wire, which is a request's name too. -/
def SipMethod.toString : SipMethod → String
  | .Invite => "INVITE"
  | .Ack => "ACK"
  | .Bye => "BYE"
  | .Cancel => "CANCEL"
  | .Register => "REGISTER"
  | .Options => "OPTIONS"

/-- Fields common to every request and response. -/
structure SipMessage where
  callId : String
  viaBranch : String
  cseqNumber : Int
  cseqMethod : SipMethod
  deriving DecidableEq

/-! ## Requests -/

/-- A request, whatever its method. -/
structure SipRequest extends SipMessage where
  method : SipMethod
  requestUri : String
  deriving DecidableEq

/-- A request of one method, which is also its CSeq method. -/
structure SipRequestT (M : SipMethod) extends SipRequest where
  method_eq : method = M
  cseqMethod_eq : cseqMethod = M
  deriving DecidableEq

/-- The constructor of `SipRequestT<M>`, which sets both methods to `M`. -/
def SipRequestT.construct
    (M : SipMethod)
    (requestUri callId viaBranch : String)
    (cseqNumber : Int) : SipRequestT M where
  callId := callId
  viaBranch := viaBranch
  cseqNumber := cseqNumber
  cseqMethod := M
  method := M
  requestUri := requestUri
  method_eq := rfl
  cseqMethod_eq := rfl

/-- A request to begin a session. -/
abbrev InviteRequest := SipRequestT .Invite

/-! ## Responses -/

/-- The six classes of responses, one for each hundred of status codes. -/
inductive SipResponseClass
  | Provisional
  | Success
  | Redirection
  | ClientError
  | ServerError
  | GlobalFailure
  deriving DecidableEq

/-- The class a status code belongs to; throws outside 100-699. -/
def classifySipStatusCode (code : Int) : Except InvalidArgument SipResponseClass :=
  if code ≥ 100 ∧ code < 200 then .ok .Provisional
  else if code ≥ 200 ∧ code < 300 then .ok .Success
  else if code ≥ 300 ∧ code < 400 then .ok .Redirection
  else if code ≥ 400 ∧ code < 500 then .ok .ClientError
  else if code ≥ 500 ∧ code < 600 then .ok .ServerError
  else if code ≥ 600 ∧ code < 700 then .ok .GlobalFailure
  else .error ⟨"SIP status code out of range: " ++ toString code⟩

/-- Lowest status code of a class; a class spans a hundred codes. -/
def SipResponseClass.lowest : SipResponseClass → Int
  | .Provisional => 100
  | .Success => 200
  | .Redirection => 300
  | .ClientError => 400
  | .ServerError => 500
  | .GlobalFailure => 600

/-- A code is classified as the class whose hundred it lies in. -/
theorem classifySipStatusCode_eq_ok_iff
    (code : Int)
    (responseClass : SipResponseClass) :
    classifySipStatusCode code = .ok responseClass ↔
      responseClass.lowest ≤ code ∧ code < responseClass.lowest + 100 := by
  unfold classifySipStatusCode
  constructor
  · intro classified
    split_ifs at classified <;> cases classified <;>
      simp only [SipResponseClass.lowest] <;> omega
  · intro bounds
    cases responseClass <;> simp only [SipResponseClass.lowest] at bounds <;>
      split_ifs <;> first | rfl | omega

/-- A response; its class is the one its status code belongs to. -/
structure SipResponse extends SipMessage where
  statusCode : Int
  reasonPhrase : String
  responseClass : SipResponseClass
  classified : classifySipStatusCode statusCode = .ok responseClass
  deriving DecidableEq

namespace SipResponse

/-- The constructor of `SipResponse`, which throws for an unclassified code. -/
def construct
    (statusCode : Int)
    (reasonPhrase callId viaBranch : String)
    (cseqNumber : Int)
    (cseqMethod : SipMethod) : Except InvalidArgument SipResponse :=
  match classification : classifySipStatusCode statusCode with
  | .error thrown => .error thrown
  | .ok responseClass =>
      .ok
        { callId, viaBranch, cseqNumber, cseqMethod, statusCode, reasonPhrase,
          responseClass, classified := classification }

/-- A response with a status code from 100 to 199. -/
def isProvisional (response : SipResponse) : Bool :=
  response.responseClass = .Provisional

/-- A response with a status code from 200 to 299. -/
def isSuccess (response : SipResponse) : Bool :=
  response.responseClass = .Success

/-- Any response but a provisional one. -/
def isFinal (response : SipResponse) : Bool :=
  !response.isProvisional

/-- A final response this transaction acknowledges itself: 300-699. -/
def isNonSuccessFinal (response : SipResponse) : Bool :=
  response.isFinal && !response.isSuccess

/-- The name of a response: its status code and its reason. -/
def getName (response : SipResponse) : String :=
  toString response.statusCode ++ " " ++ response.reasonPhrase

/-- The status code of a response lies in the hundred of its class. -/
theorem statusCode_bounds (response : SipResponse) :
    response.responseClass.lowest ≤ response.statusCode ∧
      response.statusCode < response.responseClass.lowest + 100 :=
  (classifySipStatusCode_eq_ok_iff _ _).mp response.classified

theorem isProvisional_iff (response : SipResponse) :
    response.isProvisional ↔
      100 ≤ response.statusCode ∧ response.statusCode < 200 := by
  have bounds := response.statusCode_bounds
  unfold isProvisional
  cases responseClass : response.responseClass <;>
    simp only [responseClass, SipResponseClass.lowest] at bounds <;>
    simp <;> omega

theorem isSuccess_iff (response : SipResponse) :
    response.isSuccess ↔
      200 ≤ response.statusCode ∧ response.statusCode < 300 := by
  have bounds := response.statusCode_bounds
  unfold isSuccess
  cases responseClass : response.responseClass <;>
    simp only [responseClass, SipResponseClass.lowest] at bounds <;>
    simp <;> omega

/-- Non-success finals are the responses with a status code from 300 to 699. -/
theorem isNonSuccessFinal_iff (response : SipResponse) :
    response.isNonSuccessFinal ↔
      300 ≤ response.statusCode ∧ response.statusCode < 700 := by
  have bounds := response.statusCode_bounds
  unfold isNonSuccessFinal isFinal isProvisional isSuccess
  cases responseClass : response.responseClass <;>
    simp only [responseClass, SipResponseClass.lowest] at bounds <;>
    simp <;> omega

end SipResponse

/-- A response constructed as class `C`. -/
structure SipResponseT (C : SipResponseClass) extends SipResponse where
  belongs : responseClass = C
  deriving DecidableEq

@[simp] theorem SipResponseT.isProvisional_eq (response : SipResponseT C) :
    response.isProvisional = decide (C = .Provisional) := by
  simp [SipResponse.isProvisional, response.belongs]

@[simp] theorem SipResponseT.isSuccess_eq (response : SipResponseT C) :
    response.isSuccess = decide (C = .Success) := by
  simp [SipResponse.isSuccess, response.belongs]

@[simp] theorem SipResponseT.isNonSuccessFinal_eq (response : SipResponseT C) :
    response.isNonSuccessFinal =
      decide (C ≠ .Provisional ∧ C ≠ .Success) := by
  simp [SipResponse.isNonSuccessFinal, SipResponse.isFinal]

/-- The constructor of `SipResponseT<C>`, which also throws for a code of
another class. -/
def SipResponseT.construct
    (C : SipResponseClass)
    (statusCode : Int)
    (reasonPhrase callId viaBranch : String)
    (cseqNumber : Int)
    (cseqMethod : SipMethod) : Except InvalidArgument (SipResponseT C) := do
  let response ← SipResponse.construct statusCode reasonPhrase callId viaBranch
    cseqNumber cseqMethod
  if belongs : response.responseClass = C then
    .ok { response with belongs := belongs }
  else
    .error ⟨"status code " ++ toString statusCode ++
      " does not belong to the requested SipResponseT<> class"⟩

/-- The constructor of a class accepts exactly the status codes of that class. -/
theorem SipResponseT.construct_isOk_iff
    (C : SipResponseClass)
    (statusCode : Int)
    (reasonPhrase callId viaBranch : String)
    (cseqNumber : Int)
    (cseqMethod : SipMethod) :
    (SipResponseT.construct C statusCode reasonPhrase callId viaBranch
        cseqNumber cseqMethod).isOk ↔
      C.lowest ≤ statusCode ∧ statusCode < C.lowest + 100 := by
  rw [← classifySipStatusCode_eq_ok_iff]
  unfold SipResponseT.construct SipResponse.construct
  split
  · next thrown classification =>
      simp [classification, bind, Except.bind, Except.isOk, Except.toBool]
  · next responseClass classification =>
      by_cases belongs : responseClass = C <;>
        simp [classification, belongs, bind, Except.bind, Except.isOk,
          Except.toBool]

/-! ## The message hierarchy -/

/-- The messages a protocol may receive: every concrete class of this library
that concerns it, and `other` for any further class derived from `Message`. -/
inductive Message
  | request (M : SipMethod) (request : SipRequestT M)
  | response (C : SipResponseClass) (response : SipResponseT C)
  | transportError (reason : String)
  | transactionTimeout
  | transactionWaitTimeout
  | other (typeName : Nat) (name : String)
  deriving DecidableEq

/-- `std::type_index` of the concrete message classes. -/
inductive MessageType
  | request (M : SipMethod)
  | response (C : SipResponseClass)
  | transportError
  | transactionTimeout
  | transactionWaitTimeout
  | other (typeName : Nat)
  deriving DecidableEq

namespace Message

instance : MessageBase Message MessageType where
  typeid
    | .request M _ => .request M
    | .response C _ => .response C
    | .transportError _ => .transportError
    | .transactionTimeout => .transactionTimeout
    | .transactionWaitTimeout => .transactionWaitTimeout
    | .other typeName _ => .other typeName
  getName
    | .request _ message => message.method.toString
    | .response _ message => message.getName
    | .transportError _ => "TransportError"
    | .transactionTimeout => "TransactionTimeout"
    | .transactionWaitTimeout => "TransactionWaitTimeout"
    | .other _ name => name

@[simp] theorem typeid_request (message : SipRequestT M) :
    typeid (Message.request M message) = .request M := rfl

@[simp] theorem typeid_response (message : SipResponseT C) :
    typeid (Message.response C message) = .response C := rfl

@[simp] theorem typeid_transportError (reason : String) :
    typeid (Message.transportError reason) = .transportError := rfl

@[simp] theorem typeid_transactionTimeout :
    typeid Message.transactionTimeout = .transactionTimeout := rfl

@[simp] theorem typeid_transactionWaitTimeout :
    typeid Message.transactionWaitTimeout = .transactionWaitTimeout := rfl

@[simp] theorem typeid_other (typeName : Nat) (name : String) :
    typeid (Message.other typeName name) = .other typeName := rfl

/-- The response a message is, if it is one. -/
def toResponse : Message → Option SipResponse
  | .response _ message => some message.toSipResponse
  | _ => none

@[simp] theorem toResponse_request (message : SipRequestT M) :
    (Message.request M message).toResponse = none := rfl

@[simp] theorem toResponse_response (message : SipResponseT C) :
    (Message.response C message).toResponse = some message.toSipResponse := rfl

@[simp] theorem toResponse_transportError (reason : String) :
    (Message.transportError reason).toResponse = none := rfl

@[simp] theorem toResponse_transactionTimeout :
    Message.transactionTimeout.toResponse = none := rfl

@[simp] theorem toResponse_transactionWaitTimeout :
    Message.transactionWaitTimeout.toResponse = none := rfl

@[simp] theorem toResponse_other (typeName : Nat) (name : String) :
    (Message.other typeName name).toResponse = none := rfl

/-- A response with a status code from 100 to 199. -/
def isProvisional (message : Message) : Bool :=
  message.toResponse.any SipResponse.isProvisional

/-- A response with a status code from 200 to 299. -/
def isSuccess (message : Message) : Bool :=
  message.toResponse.any SipResponse.isSuccess

/-- A response with a status code from 300 to 699. -/
def isNonSuccessFinal (message : Message) : Bool :=
  message.toResponse.any SipResponse.isNonSuccessFinal

/-- The response of a message with a status code from 300 to 699. -/
def nonSuccessFinal (message : Message) : Option SipResponse :=
  message.toResponse.filter SipResponse.isNonSuccessFinal

/-- A report that the transport failed. -/
def isTransportError (message : Message) : Bool :=
  typeid message = .transportError

/-- Timer B fired. -/
def isTransactionTimeout (message : Message) : Bool :=
  typeid message = .transactionTimeout

/-- Timer D fired. -/
def isTransactionWaitTimeout (message : Message) : Bool :=
  typeid message = .transactionWaitTimeout

end Message

/-! ## Concrete classes, as table keys -/

/-- `SipResponseT<C>` as a table key: 1xx, 2xx, 3xx, 4xx, 5xx or 6xx. -/
def responseMessage (C : SipResponseClass) :
    MessageClass Message MessageType (SipResponseT C) where
  index := .response C
  staticCast
    | .response D response =>
        if same : D = C then some (same ▸ response) else none
    | _ => none
  staticCast_isSome := by
    rintro (_ | ⟨D, response⟩ | _ | _ | _ | _) same <;> cases same
    simp

/-- The responses 1xx. -/
abbrev ProvisionalResponse := responseMessage .Provisional

/-- The responses 2xx. -/
abbrev SuccessResponse := responseMessage .Success

/-- The responses 3xx. -/
abbrev RedirectionResponse := responseMessage .Redirection

/-- The responses 4xx. -/
abbrev ClientErrorResponse := responseMessage .ClientError

/-- The responses 5xx. -/
abbrev ServerErrorResponse := responseMessage .ServerError

/-- The responses 6xx. -/
abbrev GlobalFailureResponse := responseMessage .GlobalFailure

/-- A transport error, cast to the reason it carries. -/
def TransportErrorEvent : MessageClass Message MessageType String where
  index := .transportError
  staticCast
    | .transportError reason => some reason
    | _ => none
  staticCast_isSome := by
    rintro (_ | _ | _ | _ | _ | _) same <;> cases same
    rfl

/-- Timer B firing. -/
def TransactionTimeoutEvent : MessageClass Message MessageType Unit where
  index := .transactionTimeout
  staticCast
    | .transactionTimeout => some ()
    | _ => none
  staticCast_isSome := by
    rintro (_ | _ | _ | _ | _ | _) same <;> cases same
    rfl

/-- Timer D firing. -/
def TransactionWaitTimeoutEvent : MessageClass Message MessageType Unit where
  index := .transactionWaitTimeout
  staticCast
    | .transactionWaitTimeout => some ()
    | _ => none
  staticCast_isSome := by
    rintro (_ | _ | _ | _ | _ | _) same <;> cases same
    rfl

end Sip
end ModernCommon
