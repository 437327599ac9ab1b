import ModernCommon.DataFactory.Client
import ModernCommon.Library.Slots

/-!
# The shared connection

All factories share one connection object, counted by the shares they take.
The static members of `MySqlConnection` and the objects it has built are one
state. Reading or writing a destroyed object, and decrementing a count of zero,
are recorded as faults.
-/

namespace ModernCommon

open Library

/-- Where and as whom to connect. -/
structure MySqlConnectionParams where
  host : Bytes := []
  user : Bytes := []
  password : Bytes := []
  database : Bytes := []
  port : UInt32 := 3306
  deriving DecidableEq

/-- How the client library answers the opening of a connection. -/
inductive Opening
  | opened
  /-- `mysql_init()` returns null. -/
  | initFailed
  /-- `mysql_real_connect()` returns null, with its `mysql_error()`. -/
  | connectFailed (error : Bytes)
  deriving DecidableEq

/-- One connection object, and the parameters its session was opened with. -/
structure MySqlConnection where
  opened : MySqlConnectionParams
  count : UInt32 := 0
  destroyWhenIdle : Bool := false
  deriving DecidableEq

/-- The constructor: either the session is opened or it throws. -/
def MySqlConnection.construct
    (params : MySqlConnectionParams) :
    Opening → Except DataError MySqlConnection
  | .opened => .ok { opened := params }
  | .initFailed => .error (.ServiceUnavailable (bytes "mysql_init() failed"))
  | .connectFailed error =>
      .error (.ServiceUnavailable
        (bytes "mysql_real_connect() to " ++ params.host ++ bytes ":" ++
          decimal params.port.toNat ++ bytes " failed: " ++ error))

/-- What the source must never do to a connection object. -/
inductive Fault
  | useAfterDestroy (connection : DataFactory.ConnectionId)
  | decrementZero (connection : DataFactory.ConnectionId)
  deriving DecidableEq

/-- `_instance`, and every connection object ever built. -/
structure Connections where
  currentInstance : Option DataFactory.ConnectionId := none
  objects : Slots MySqlConnection := []
  /-- Ghost: how often `getCurrentInstance` has returned. -/
  acquisitions : Nat := 0
  /-- Ghost: the objects deleted, in order. -/
  deletions : List DataFactory.ConnectionId := []
  /-- Ghost: what should not have happened. -/
  faults : List Fault := []
  /-- Ghost: `disconnect` has been called since the last object was built. -/
  disconnected : Bool := false
  deriving DecidableEq

namespace Connections

open DataFactory (ConnectionId)

/-- Note a fault, after which the code may do anything. -/
def fail (fault : Fault) (connections : Connections) : Connections :=
  { connections with faults := connections.faults ++ [fault] }

/-- Assign the members of an object. -/
def write
    (this : ConnectionId)
    (object : MySqlConnection)
    (connections : Connections) : Connections :=
  { connections with objects := connections.objects.set this (some object) }

/-- `new MySqlConnection`, assigned to `_instance`. -/
def create
    (object : MySqlConnection)
    (connections : Connections) : Connections :=
  { connections with
    currentInstance := some connections.objects.length
    objects := connections.objects ++ [some object]
    disconnected := false }

/-- `delete` the instance and set `_instance` to null. -/
def destroyInstance
    (this : ConnectionId)
    (connections : Connections) : Connections :=
  { connections with
    currentInstance := none
    objects := connections.objects.set this none
    deletions := connections.deletions ++ [this] }

/-- `++_instance->_count`. -/
def retain
    (this : ConnectionId)
    (connections : Connections) : Connections :=
  let connections :=
    { connections with acquisitions := connections.acquisitions + 1 }
  match connections.objects.live this with
  | none => connections.fail (.useAfterDestroy this)
  | some object =>
      connections.write this { object with count := object.count + 1 }

/-- `MySqlConnection::getCurrentInstance`. -/
def getCurrentInstance
    (params : MySqlConnectionParams)
    (opening : Opening)
    (connections : Connections) :
    Except DataError (ConnectionId × Connections) :=
  match connections.currentInstance with
  | some current => .ok (current, connections.retain current)
  | none =>
      match MySqlConnection.construct params opening with
      | .error error => .error error
      | .ok object =>
          let current := connections.objects.length
          .ok (current, (connections.create object).retain current)

/-- `MySqlConnection::disconnect`. -/
def disconnect (connections : Connections) : Connections :=
  let connections := { connections with disconnected := true }
  match connections.currentInstance with
  | none => connections
  | some current =>
      match connections.objects.live current with
      | none => connections.fail (.useAfterDestroy current)
      | some object =>
          let connections :=
            connections.write current { object with destroyWhenIdle := true }
          if object.count = 0 then connections.destroyInstance current
          else connections

/-- `MySqlConnection::releaseInstance`. -/
def releaseInstance
    (this : ConnectionId)
    (connections : Connections) : Connections :=
  match connections.objects.live this with
  | none => connections.fail (.useAfterDestroy this)
  | some object =>
      let released := { object with count := object.count - 1 }
      let connections :=
        if object.count = 0 then connections.fail (.decrementZero this)
        else connections
      let connections := connections.write this released
      if released.count = 0 ∧ released.destroyWhenIdle = true ∧
          connections.currentInstance = some this then
        connections.destroyInstance this
      else connections

/-! ## What each call does to an instance that is live -/

/-- A share is one more on the count of the instance, or the first one on the
count of a new instance. -/
theorem getCurrentInstance_cases
    {connections after : Connections}
    {current : ConnectionId}
    {params : MySqlConnectionParams}
    {opening : Opening}
    (returned : connections.getCurrentInstance params opening =
      .ok (current, after)) :
    (connections.currentInstance = some current ∧
        after = connections.retain current) ∨
      (connections.currentInstance = none ∧
        current = connections.objects.length ∧
        after = (connections.create { opened := params }).retain current) := by
  rw [getCurrentInstance] at returned
  cases instanceIs : connections.currentInstance with
  | some existing =>
      rw [instanceIs] at returned
      cases returned
      exact .inl ⟨rfl, rfl⟩
  | none =>
      rw [instanceIs] at returned
      cases opening with
      | opened =>
          cases returned
          exact .inr ⟨rfl, rfl, rfl⟩
      | initFailed => cases returned
      | connectFailed error => cases returned

/-- Taking a share of a live object. -/
theorem retain_of_live
    {connections : Connections}
    {this : ConnectionId}
    {object : MySqlConnection}
    (isLive : connections.objects.live this = some object) :
    connections.retain this =
      write this { object with count := object.count + 1 }
        { connections with acquisitions := connections.acquisitions + 1 } := by
  simp only [retain, isLive]

/-- Every share handed out is tallied. -/
theorem acquisitions_getCurrentInstance
    {connections after : Connections}
    {current : ConnectionId}
    {params : MySqlConnectionParams}
    {opening : Opening}
    (returned : connections.getCurrentInstance params opening =
      .ok (current, after)) :
    after.acquisitions = connections.acquisitions + 1 := by
  rcases getCurrentInstance_cases returned with ⟨_, rfl⟩ | ⟨_, rfl, rfl⟩ <;>
    · simp only [retain]
      split <;> rfl

/-- Releasing a share takes none. -/
theorem acquisitions_releaseInstance
    (this : ConnectionId)
    (connections : Connections) :
    (connections.releaseInstance this).acquisitions =
      connections.acquisitions := by
  simp only [releaseInstance]
  split
  · rfl
  · split <;> split <;> rfl

/-- Disconnecting takes no share. -/
theorem acquisitions_disconnect (connections : Connections) :
    connections.disconnect.acquisitions = connections.acquisitions := by
  simp only [disconnect]
  split
  · rfl
  · split
    · rfl
    · split <;> rfl

/-- A flagged instance is destroyed with its last share. -/
theorem releaseInstance_of_last
    {connections : Connections}
    {this : ConnectionId}
    {object : MySqlConnection}
    (isLive : connections.objects.live this = some object)
    (instanceIs : connections.currentInstance = some this)
    (last : object.count = 1)
    (flagged : object.destroyWhenIdle = true) :
    connections.releaseInstance this = connections.destroyInstance this := by
  simp only [releaseInstance, isLive, last, flagged, write]
  simp [destroyInstance, instanceIs]

/-- Any other share is one less on the count. -/
theorem releaseInstance_of_more
    {connections : Connections}
    {this : ConnectionId}
    {object : MySqlConnection}
    (isLive : connections.objects.live this = some object)
    (held : object.count ≠ 0)
    (kept : object.count ≠ 1 ∨ object.destroyWhenIdle = false) :
    connections.releaseInstance this =
      connections.write this { object with count := object.count - 1 } := by
  have stays : ¬ (object.count - 1 = 0 ∧ object.destroyWhenIdle = true ∧
      connections.currentInstance = some this) := by
    rintro ⟨reachesZero, flagged, _⟩
    rcases kept with notLast | unflagged
    · apply notLast
      simpa using UInt32.sub_eq_iff_eq_add.mp reachesZero
    · simp [flagged] at unflagged
  simp only [releaseInstance, isLive, held, if_false]
  exact if_neg stays

/-- An idle instance is destroyed at once. -/
theorem disconnect_of_idle
    {connections : Connections}
    {current : ConnectionId}
    {object : MySqlConnection}
    (isLive : connections.objects.live current = some object)
    (instanceIs : connections.currentInstance = some current)
    (idle : object.count = 0) :
    connections.disconnect =
      destroyInstance current { connections with disconnected := true } := by
  simp [disconnect, isLive, instanceIs, idle, write, destroyInstance]

/-- An instance in use is flagged. -/
theorem disconnect_of_held
    {connections : Connections}
    {current : ConnectionId}
    {object : MySqlConnection}
    (isLive : connections.objects.live current = some object)
    (instanceIs : connections.currentInstance = some current)
    (held : object.count ≠ 0) :
    connections.disconnect =
      write current { object with destroyWhenIdle := true }
        { connections with disconnected := true } := by
  simp [disconnect, isLive, instanceIs, held]

/-- Without an instance there is nothing to do. -/
theorem disconnect_of_none
    {connections : Connections}
    (noInstance : connections.currentInstance = none) :
    connections.disconnect = { connections with disconnected := true } := by
  simp [disconnect, noInstance]

end Connections
end ModernCommon
