import ModernCommon.StateMachine
import Mathlib.Data.List.AList

/-!
# Message-driven state machines

`ProtocolStateMachine<S, MessageBase>` holds an explicit map from a state and a
run-time message type to a handler. `receive()` looks its key up and runs the
handler found there, or the unhandled hook when there is none.
-/

namespace ModernCommon

/-- Run-time type information of a message hierarchy: `typeid` and `getName()`. -/
class MessageBase (Msg : Type) (TypeIndex : outParam Type) where
  typeid : Msg → TypeIndex
  getName : Msg → String

export MessageBase (typeid)

/-- A concrete class `C` of the hierarchy `Msg`: its type index and the
downcast from the base, defined on every message of that run-time type. -/
structure MessageClass (Msg TypeIndex C : Type) [MessageBase Msg TypeIndex] where
  index : TypeIndex
  staticCast : Msg → Option C
  staticCast_isSome : ∀ msg : Msg, typeid msg = index → (staticCast msg).isSome

/-- The transition table, the unhandled hook and the state hooks of a protocol.
The map from keys to handlers holds one entry a key. -/
structure ProtocolStateMachine (S Msg TypeIndex E ε : Type) where
  hooks : Hooks S E ε
  table : AList fun _ : Option S × TypeIndex => Msg → MachineM S E ε Unit := ∅
  unhandled : Option (Msg → MachineM S E ε Unit) := none

namespace ProtocolStateMachine

variable {S Msg TypeIndex C E ε : Type}
variable [DecidableEq S] [DecidableEq TypeIndex] [MessageBase Msg TypeIndex]

/-- The constructor: an empty table and no unhandled hook. -/
def construct (hooks : Hooks S E ε) :
    ProtocolStateMachine S Msg TypeIndex E ε where
  hooks := hooks

/-- The table entry `onMessage<ConcreteMsg>` stores: downcast, then handle. -/
def entry
    (messageClass : MessageClass Msg TypeIndex C)
    (handler : C → MachineM S E ε Unit) :
    Msg → MachineM S E ε Unit := fun msg =>
  match messageClass.staticCast msg with
  | some concrete => handler concrete
  | none => pure () -- unreachable: `receive` finds the entry by `typeid(msg)`

/-- `onMessage<ConcreteMsg>`: assign the handler to its key. -/
def onMessage
    (protocol : ProtocolStateMachine S Msg TypeIndex E ε)
    (messageClass : MessageClass Msg TypeIndex C)
    (state : Option S)
    (handler : C → MachineM S E ε Unit) :
    ProtocolStateMachine S Msg TypeIndex E ε :=
  { protocol with
    table := protocol.table.insert (state, messageClass.index)
      (entry messageClass handler) }

/-- `onUnhandled`: the fallback for keys without an entry. -/
def onUnhandled
    (protocol : ProtocolStateMachine S Msg TypeIndex E ε)
    (handler : Msg → MachineM S E ε Unit) :
    ProtocolStateMachine S Msg TypeIndex E ε :=
  { protocol with unhandled := some handler }

/-- `getTransitionTableSize`: number of registered keys. -/
def getTransitionTableSize
    (protocol : ProtocolStateMachine S Msg TypeIndex E ε) : Nat :=
  protocol.table.keys.length

/-- `_table.find`: the handler registered for a key, if any. -/
def find
    (protocol : ProtocolStateMachine S Msg TypeIndex E ε)
    (key : Option S × TypeIndex) : Option (Msg → MachineM S E ε Unit) :=
  protocol.table.lookup key

/-- `receive`: dispatch on the current state and the run-time message type. -/
def receive
    (protocol : ProtocolStateMachine S Msg TypeIndex E ε)
    (msg : Msg) : MachineM S E ε Unit := do
  match protocol.find ((← get).currentState, typeid msg) with
  | some handler => handler msg
  | none =>
      if let some handler := protocol.unhandled then
        handler msg

omit [MessageBase Msg TypeIndex] in
@[simp] theorem find_construct
    (hooks : Hooks S E ε)
    (key : Option S × TypeIndex) :
    (construct hooks : ProtocolStateMachine S Msg TypeIndex E ε).find key =
      none := rfl

omit [DecidableEq S] [DecidableEq TypeIndex] [MessageBase Msg TypeIndex] in
@[simp] theorem unhandled_construct (hooks : Hooks S E ε) :
    (construct hooks : ProtocolStateMachine S Msg TypeIndex E ε).unhandled =
      none := rfl

/-- Registering a handler changes the entry of its own key only. -/
theorem find_onMessage
    (protocol : ProtocolStateMachine S Msg TypeIndex E ε)
    (messageClass : MessageClass Msg TypeIndex C)
    (state : Option S)
    (handler : C → MachineM S E ε Unit)
    (key : Option S × TypeIndex) :
    (protocol.onMessage messageClass state handler).find key =
      if key = (state, messageClass.index) then
        some (entry messageClass handler)
      else protocol.find key := by
  split_ifs with same
  · subst same
    exact AList.lookup_insert _
  · exact AList.lookup_insert_ne same

@[simp] theorem unhandled_onMessage
    (protocol : ProtocolStateMachine S Msg TypeIndex E ε)
    (messageClass : MessageClass Msg TypeIndex C)
    (state : Option S)
    (handler : C → MachineM S E ε Unit) :
    (protocol.onMessage messageClass state handler).unhandled =
      protocol.unhandled := rfl

omit [MessageBase Msg TypeIndex] in
/-- The unhandled hook is no entry of the table. -/
@[simp] theorem find_onUnhandled
    (protocol : ProtocolStateMachine S Msg TypeIndex E ε)
    (handler : Msg → MachineM S E ε Unit)
    (key : Option S × TypeIndex) :
    (protocol.onUnhandled handler).find key = protocol.find key := rfl

omit [DecidableEq S] [DecidableEq TypeIndex] [MessageBase Msg TypeIndex] in
@[simp] theorem unhandled_onUnhandled
    (protocol : ProtocolStateMachine S Msg TypeIndex E ε)
    (handler : Msg → MachineM S E ε Unit) :
    (protocol.onUnhandled handler).unhandled = some handler := rfl

end ProtocolStateMachine
end ModernCommon
