import ModernCommon.Protocol

/-!
# The call protocol

`CallProtocol` is a protocol of three states and four transitions, whose
constructor is the whole table. Any other message is a protocol violation: its
unhandled hook throws, naming the message and the state.

`callStep` is the net effect of the table, and `receive_run` the one place
where the table is searched.
-/

namespace ModernCommon
namespace CallProtocol

/-- `std::logic_error`, with its text. -/
structure LogicError where
  what : String
  deriving DecidableEq

/-- The states of a call. -/
inductive CallState
  | Idle
  | Ringing
  | Connected
  deriving DecidableEq

/-- The name of a state. -/
def CallState.getName : CallState → String
  | .Idle => "Idle"
  | .Ringing => "Ringing"
  | .Connected => "Connected"

/-! ## Messages -/

/-- The messages of the protocol, and `other` for any further class derived
from `Message`. -/
inductive Message
  | setup (caller callee : String)
  | answer
  | release (reason : String := "normal")
  | other (typeName : Nat) (name : String)
  deriving DecidableEq

/-- `std::type_index` of the concrete message classes. -/
inductive MessageType
  | setup
  | answer
  | release
  | other (typeName : Nat)
  deriving DecidableEq

namespace Message

instance : MessageBase Message MessageType where
  typeid
    | .setup _ _ => .setup
    | .answer => .answer
    | .release _ => .release
    | .other typeName _ => .other typeName
  getName
    | .setup _ _ => "Setup"
    | .answer => "Answer"
    | .release _ => "Release"
    | .other _ name => name

@[simp] theorem typeid_setup (caller callee : String) :
    typeid (Message.setup caller callee) = .setup := rfl

@[simp] theorem typeid_answer : typeid Message.answer = .answer := rfl

@[simp] theorem typeid_release (reason : String) :
    typeid (Message.release reason) = .release := rfl

@[simp] theorem typeid_other (typeName : Nat) (name : String) :
    typeid (Message.other typeName name) = .other typeName := rfl

end Message

/-- `SetupMessage`, cast to its caller and callee. -/
def SetupMessage : MessageClass Message MessageType (String × String) where
  index := .setup
  staticCast
    | .setup caller callee => some (caller, callee)
    | _ => none
  staticCast_isSome := by
    rintro (_ | _ | _ | _) same <;> cases same
    rfl

/-- The far end answered. -/
def AnswerMessage : MessageClass Message MessageType Unit where
  index := .answer
  staticCast
    | .answer => some ()
    | _ => none
  staticCast_isSome := by
    rintro (_ | _ | _ | _) same <;> cases same
    rfl

/-- `ReleaseMessage`, cast to its reason. -/
def ReleaseMessage : MessageClass Message MessageType String where
  index := .release
  staticCast
    | .release reason => some reason
    | _ => none
  staticCast_isSome := by
    rintro (_ | _ | _ | _) same <;> cases same
    rfl

/-! ## The protocol -/

/-- Programs over a call. -/
abbrev CallM (E α : Type) := MachineM CallState E LogicError α

/-- A protocol over the states and the messages of a call. -/
abbrev Protocol (E : Type) :=
  ProtocolStateMachine CallState Message MessageType E LogicError

/-- The states override no hook and the constructor sets no observer. -/
def hooks : Hooks CallState E LogicError :=
  Hooks.plain CallState.getName

/-- `p.setCurrentState(&...State::instance())`. -/
def enter (state : CallState) : CallM E Unit :=
  setCurrentState hooks (some state)

/-- The text of a protocol violation. -/
def unexpected (message : Message) (current : Option CallState) : String :=
  "CallProtocol: unexpected \"" ++ MessageBase.getName message ++
    "\" message in state \"" ++
    (match current with
      | some state => state.getName
      | none => "UNDEFINED_STATE") ++ "\""

/-- The hook the constructor sets for messages without an entry. -/
def throwUnexpected (message : Message) : CallM E Unit := do
  let current := (← get).currentState
  throw { what := unexpected message current }

/-- The transition table the constructor registers. -/
def transitions : Protocol E :=
  (ProtocolStateMachine.construct hooks : Protocol E)
    |>.onMessage SetupMessage (some .Idle) (fun _ => enter .Ringing)
    |>.onMessage AnswerMessage (some .Ringing) (fun _ => enter .Connected)
    |>.onMessage ReleaseMessage (some .Ringing) (fun _ => enter .Idle)
    |>.onMessage ReleaseMessage (some .Connected) (fun _ => enter .Idle)
    |>.onUnhandled throwUnexpected

/-- The constructor: build the table, enter Idle. -/
def construct : CallM E (Protocol E) := do
  let protocol := transitions
  enter .Idle
  return protocol

/-! ## Net effect of the table -/

/-- The next state, if the message has an entry. -/
def callStep : CallState → Message → Option CallState
  | .Idle, .setup _ _ => some .Ringing
  | .Ringing, .answer => some .Connected
  | .Ringing, .release _ => some .Idle
  | .Connected, .release _ => some .Idle
  | _, _ => none

/-- A message without an entry throws and leaves the call as it is. -/
theorem receive_run
    (message : Message)
    {machine : StateMachine CallState E}
    {state : CallState}
    (current : machine.currentState = some state) :
    (transitions.receive message : CallM E Unit).run machine =
      match callStep state message with
      | some next => .ok () { machine with currentState := some next }
      | none => .error { what := unexpected message (some state) } machine := by
  obtain ⟨name, currentState, trace⟩ := machine
  subst current
  cases state <;> cases message <;>
    simp [transitions, ProtocolStateMachine.receive,
      ProtocolStateMachine.find_onMessage, ProtocolStateMachine.entry,
      SetupMessage, AnswerMessage, ReleaseMessage, callStep, enter, hooks,
      throwUnexpected]

end CallProtocol
end ModernCommon
