import ModernCommon.Library.System
import ModernCommon.MySql.Sharing

/-!
# The life of factories

A factory takes a share of the connection when it is constructed with default
parameters set or told to connect, hands it on when it is moved from, and gives
it back when it is destroyed or assigned to. The process runs these operations,
and `MySqlConnection::disconnect`, in any order on any number of factories.
-/

namespace ModernCommon

open Library

/-- The connection class, every factory ever constructed, and the statics of
`DataFactory`. -/
structure Process where
  mysql : Connections := {}
  factories : Slots DataFactory := []
  haveDefaultParams : Bool := false
  defaultParams : MySqlConnectionParams := {}
  deriving DecidableEq

namespace DataFactory

/-- Does the factory have a share of a connection? -/
def holds (factory : DataFactory) : Bool :=
  factory.connection.isSome

/-- `if (_connection != nullptr) _connection->releaseInstance()`. -/
def release
    (factory : DataFactory)
    (mysql : Connections) : Connections :=
  match factory.connection with
  | none => mysql
  | some connection => mysql.releaseInstance connection

/-- What a move leaves behind; the name is whatever `std::string` leaves. -/
def movedFrom (left : Bytes) : DataFactory :=
  { connection := none, tableName := left }

end DataFactory

/-- The operations of a run; factories are named by their addresses. -/
inductive Operation
  | setDefaultConnectionParams (params : MySqlConnectionParams)
  | clearDefaultConnectionParams
  | construct (tableName : Bytes) (opening : Opening)
  | connect (this : Nat) (params : MySqlConnectionParams) (opening : Opening)
  | moveConstruct (other : Nat) (left : Bytes)
  | moveAssign (this other : Nat) (left : Bytes)
  | destruct (this : Nat)
  /-- A statement sent through a factory. -/
  | statement (this : Nat)
  | disconnect
  deriving DecidableEq

namespace Process

open DataFactory (ConnectionId)

/-! ## The operations -/

/-- Factories constructed from here on connect, and open the connection with these
parameters if there is none. -/
def setDefaultConnectionParams
    (params : MySqlConnectionParams)
    (process : Process) : Process :=
  { process with defaultParams := params, haveDefaultParams := true }

/-- Factories constructed from here on stay unconnected. -/
def clearDefaultConnectionParams (process : Process) : Process :=
  { process with haveDefaultParams := false }

/-- `DataFactory::DataFactory(std::string)`. -/
def construct
    (tableName : Bytes)
    (opening : Opening)
    (process : Process) : Except DataError Process :=
  if process.haveDefaultParams then
    match process.mysql.getCurrentInstance process.defaultParams opening with
    | .error error => .error error
    | .ok (connection, mysql) =>
        let factory := { connection := some connection, tableName }
        .ok { process with
          mysql
          factories := process.factories ++ [some factory] }
  else
    let factory := { connection := none, tableName }
    .ok { process with factories := process.factories ++ [some factory] }

/-- `DataFactory::connect`. -/
def connect
    (this : Nat)
    (factory : DataFactory)
    (params : MySqlConnectionParams)
    (opening : Opening)
    (process : Process) : Except DataError Process :=
  match process.mysql.getCurrentInstance params opening with
  | .error error => .error error
  | .ok (connection, mysql) =>
      let factory := { factory with connection := some connection }
      .ok { process with
        mysql
        factories := process.factories.set this (some factory) }

/-- `DataFactory::DataFactory(DataFactory&&)`. -/
def moveConstruct
    (other : Nat)
    (moved : DataFactory)
    (left : Bytes)
    (process : Process) : Process :=
  { process with
    factories :=
      process.factories.set other (some (DataFactory.movedFrom left)) ++
        [some { connection := moved.connection, tableName := moved.tableName }] }

/-- `DataFactory::operator=(DataFactory&&)`. -/
def moveAssign
    (this : Nat)
    (factory : DataFactory)
    (other : Nat)
    (moved : DataFactory)
    (left : Bytes)
    (process : Process) : Process :=
  if this ≠ other then
    let assigned :=
      { factory with connection := moved.connection, tableName := moved.tableName }
    { process with
      mysql := factory.release process.mysql
      factories :=
        (process.factories.set this (some assigned)).set other
          (some (DataFactory.movedFrom left)) }
  else process

/-- `DataFactory::~DataFactory`. -/
def destruct
    (this : Nat)
    (factory : DataFactory)
    (process : Process) : Process :=
  { process with
    mysql := factory.release process.mysql
    factories := process.factories.set this none }

/-- A statement requires a connection and locks its query mutex. -/
def statement
    (factory : DataFactory)
    (process : Process) : Except DataError Process :=
  match factory.connection with
  | none =>
      .error (.ServiceUnavailable (bytes "DataFactory not connected"))
  | some connection =>
      match process.mysql.objects.live connection with
      | none =>
          .ok { process with
            mysql := process.mysql.fail (.useAfterDestroy connection) }
      | some _ => .ok process

/-- A call that throws has changed nothing. -/
def orUnchanged
    (process : Process) :
    Except DataError Process → Process
  | .ok after => after
  | .error _ => process

/-- One operation; only live factories can be named. -/
def step (process : Process) : Operation → Option Process
  | .setDefaultConnectionParams params =>
      some (process.setDefaultConnectionParams params)
  | .clearDefaultConnectionParams =>
      some process.clearDefaultConnectionParams
  | .construct tableName opening =>
      some (process.orUnchanged (process.construct tableName opening))
  | .connect this params opening => do
      let factory ← process.factories.live this
      return process.orUnchanged (process.connect this factory params opening)
  | .moveConstruct other left => do
      let moved ← process.factories.live other
      return process.moveConstruct other moved left
  | .moveAssign this other left => do
      let factory ← process.factories.live this
      let moved ← process.factories.live other
      return process.moveAssign this factory other moved left
  | .destruct this => do
      let factory ← process.factories.live this
      return process.destruct this factory
  | .statement this => do
      let factory ← process.factories.live this
      return process.orUnchanged (process.statement factory)
  | .disconnect =>
      some { process with mysql := process.mysql.disconnect }

/-- A process from its start. -/
def lifecycle : System Process Operation where
  initial := {}
  step := step

/-! ## What one operation can do -/

/-- The number of factories that have a share. -/
def holders (process : Process) : Nat :=
  process.factories.count DataFactory.holds

/-- Some live factory has a share of this connection. -/
def Holds (process : Process) (connection : ConnectionId) : Prop :=
  ∃ address factory, process.factories.live address = some factory ∧
    factory.connection = some connection

/-- The number of holders only depends on the factories. -/
theorem holders_eq_of_factories_eq
    {process after : Process}
    (same : after.factories = process.factories) :
    after.holders = process.holders :=
  congrArg (Slots.count · DataFactory.holds) same

/-- Who holds a share only depends on the factories. -/
theorem holds_iff_of_factories_eq
    {process after : Process}
    (same : after.factories = process.factories)
    (connection : ConnectionId) :
    after.Holds connection ↔ process.Holds connection := by
  rw [Holds, same, Holds]

/-- Does the operation ask for a share? -/
def takesShare (process : Process) : Operation → Bool
  | .construct _ _ => process.haveDefaultParams
  | .connect _ _ _ => true
  | _ => false

/-- Does the operation overwrite a share that has not been given back? -/
def overwritesShare (process : Process) : Operation → Bool
  | .connect this _ _ => (process.factories.live this).any DataFactory.holds
  | _ => false

/-- The effect of an operation on the shares. -/
inductive Effect (process : Process) (operation : Operation) (after : Process) : Prop
  /-- A share is taken, by a new holder or over another share. -/
  | took
      (params : MySqlConnectionParams)
      (opening : Opening)
      (current : ConnectionId)
      (takes : process.takesShare operation = true)
      (returned : process.mysql.getCurrentInstance params opening =
        .ok (current, after.mysql))
      (held : ∀ connection, after.Holds connection →
        process.Holds connection ∨ connection = current)
      (shares : after.holders +
        (if process.overwritesShare operation then 1 else 0) =
          process.holders + 1)
  /-- A holder gives its share back. -/
  | gave
      (connection : ConnectionId)
      (was : process.Holds connection)
      (released : after.mysql = process.mysql.releaseInstance connection)
      (held : ∀ connection, after.Holds connection → process.Holds connection)
      (shares : after.holders + 1 = process.holders)
  /-- Shares at most change hands. -/
  | kept
      (same : after.mysql = process.mysql)
      (held : ∀ connection, after.Holds connection → process.Holds connection)
      (shares : after.holders = process.holders)
  | disconnected
      (told : after.mysql = process.mysql.disconnect)
      (same : after.factories = process.factories)
  /-- A connection some factory holds is used after its destruction. -/
  | misused
      (connection : ConnectionId)
      (was : process.Holds connection)
      (gone : process.mysql.objects.live connection = none)
      (acquired : after.mysql.acquisitions = process.mysql.acquisitions)

/-- A call that returns and has an effect, or throws and has none. -/
theorem effect_orUnchanged
    {process : Process}
    {operation : Operation}
    {result : Except DataError Process}
    (returns : ∀ after, result = .ok after → Effect process operation after) :
    Effect process operation (process.orUnchanged result) := by
  cases result with
  | ok after => exact returns after rfl
  | error error => exact .kept rfl (fun _ held => held) rfl

/-- Constructing takes a share exactly when default parameters are set. -/
theorem construct_effect
    {process after : Process}
    {tableName : Bytes}
    {opening : Opening}
    (returned : process.construct tableName opening = .ok after) :
    Effect process (.construct tableName opening) after := by
  unfold construct at returned
  split at returned
  · rename_i haveDefaults
    split at returned
    · cases returned
    · rename_i current mysql taken
      cases returned
      refine .took process.defaultParams opening current haveDefaults taken ?_ ?_
      · rintro connection ⟨address, factory, isLive, hasIt⟩
        rcases Slots.stored_or_live_of_live_append isLive with new | old
        · cases new
          exact .inr (Option.some.inj hasIt).symm
        · exact .inl ⟨address, factory, old, hasIt⟩
      · simp [holders, Slots.count_append, DataFactory.holds, overwritesShare]
  · cases returned
    refine .kept rfl ?_ ?_
    · rintro connection ⟨address, factory, isLive, hasIt⟩
      rcases Slots.stored_or_live_of_live_append isLive with new | old
      · cases new
        cases hasIt
      · exact ⟨address, factory, old, hasIt⟩
    · simp [holders, Slots.count_append, DataFactory.holds]

/-- Connecting takes a share, also over one the factory has already. -/
theorem connect_took
    {process after : Process}
    {this : Nat}
    {factory : DataFactory}
    {params : MySqlConnectionParams}
    {opening : Opening}
    (isLive : process.factories.live this = some factory)
    (returned : process.connect this factory params opening = .ok after) :
    ∃ current, process.mysql.getCurrentInstance params opening =
        .ok (current, after.mysql) ∧
      (∀ connection, after.Holds connection →
        process.Holds connection ∨ connection = current) ∧
      after.holders + (if factory.holds then 1 else 0) = process.holders + 1 := by
  unfold connect at returned
  split at returned
  · cases returned
  · rename_i current mysql taken
    cases returned
    refine ⟨current, taken, ?_, ?_⟩
    · rintro connection ⟨address, holder, found, hasIt⟩
      rcases Slots.stored_or_live_of_live_set found with new | old
      · cases new
        exact .inr (Option.some.inj hasIt).symm
      · exact .inl ⟨address, holder, old, hasIt⟩
    · exact Slots.count_set isLive
        (some { factory with connection := some current }) DataFactory.holds

/-- Whether `connect` overwrites a share is up to the factory. -/
theorem overwritesShare_connect
    {process : Process}
    {this : Nat}
    {factory : DataFactory}
    (isLive : process.factories.live this = some factory)
    (params : MySqlConnectionParams)
    (opening : Opening) :
    process.overwritesShare (.connect this params opening) = factory.holds := by
  simp [overwritesShare, isLive]

theorem connect_effect
    {process after : Process}
    {this : Nat}
    {factory : DataFactory}
    {params : MySqlConnectionParams}
    {opening : Opening}
    (isLive : process.factories.live this = some factory)
    (returned : process.connect this factory params opening = .ok after) :
    Effect process (.connect this params opening) after := by
  obtain ⟨current, taken, held, shares⟩ := connect_took isLive returned
  refine .took params opening current rfl taken held ?_
  rw [overwritesShare_connect isLive]
  exact shares

/-- Move construction hands the share on. -/
theorem moveConstruct_effect
    {process : Process}
    {other : Nat}
    {moved : DataFactory}
    (isLive : process.factories.live other = some moved)
    (left : Bytes) :
    Effect process (.moveConstruct other left)
      (process.moveConstruct other moved left) := by
  refine .kept rfl ?_ ?_
  · rintro connection ⟨address, holder, found, hasIt⟩
    rcases Slots.stored_or_live_of_live_append found with new | old
    · cases new
      exact ⟨other, moved, isLive, hasIt⟩
    · rcases Slots.stored_or_live_of_live_set old with emptied | before
      · cases emptied
        cases hasIt
      · exact ⟨address, holder, before, hasIt⟩
  · have emptied := Slots.count_set isLive
      (some (DataFactory.movedFrom left)) DataFactory.holds
    simp only [holders, moveConstruct, Slots.count_append, Option.any_some] at emptied ⊢
    simpa [DataFactory.holds, DataFactory.movedFrom] using emptied

/-- A share given up by the factory at one address. -/
theorem release_effect
    {process after : Process}
    {operation : Operation}
    {this : Nat}
    {factory : DataFactory}
    (isLive : process.factories.live this = some factory)
    (released : after.mysql = factory.release process.mysql)
    (held : ∀ connection, after.Holds connection → process.Holds connection)
    (shares : after.holders + (if factory.holds then 1 else 0) =
      process.holders) :
    Effect process operation after := by
  cases hasIt : factory.connection with
  | none =>
      rw [DataFactory.release, hasIt] at released
      refine .kept released held ?_
      simpa [DataFactory.holds, hasIt] using shares
  | some connection =>
      rw [DataFactory.release, hasIt] at released
      refine .gave connection ⟨this, factory, isLive, hasIt⟩ released held ?_
      simpa [DataFactory.holds, hasIt] using shares

/-- Move assignment gives up the old share and hands the other one on. -/
theorem moveAssign_effect
    {process : Process}
    {this other : Nat}
    {factory moved : DataFactory}
    (isLive : process.factories.live this = some factory)
    (otherLive : process.factories.live other = some moved)
    (left : Bytes) :
    Effect process (.moveAssign this other left)
      (process.moveAssign this factory other moved left) := by
  by_cases same : this = other
  · rw [moveAssign, if_neg (not_not.mpr same)]
    exact .kept rfl (fun _ held => held) rfl
  · rw [moveAssign, if_pos same]
    refine release_effect isLive rfl ?_ ?_
    · rintro connection ⟨address, holder, found, hasIt⟩
      rcases Slots.stored_or_live_of_live_set found with emptied | rest
      · cases emptied
        cases hasIt
      · rcases Slots.stored_or_live_of_live_set rest with assigned | before
        · cases assigned
          exact ⟨other, moved, otherLive, hasIt⟩
        · exact ⟨address, holder, before, hasIt⟩
    · have assigned := Slots.count_set isLive
        (some { factory with
          connection := moved.connection, tableName := moved.tableName })
        DataFactory.holds
      have stillLive := (Slots.live_set_ne same
        (some { factory with
          connection := moved.connection, tableName := moved.tableName })).trans
        otherLive
      have emptied := Slots.count_set stillLive
        (some (DataFactory.movedFrom left)) DataFactory.holds
      simp only [holders, Option.any_some, DataFactory.holds,
        DataFactory.movedFrom, Option.isSome_none] at assigned emptied ⊢
      simp only [Bool.false_eq_true, if_false] at emptied
      omega

/-- Destruction gives up the share. -/
theorem destruct_effect
    {process : Process}
    {this : Nat}
    {factory : DataFactory}
    (isLive : process.factories.live this = some factory) :
    Effect process (.destruct this) (process.destruct this factory) := by
  refine release_effect isLive rfl ?_ ?_
  · rintro connection ⟨address, holder, found, hasIt⟩
    rcases Slots.stored_or_live_of_live_set found with emptied | before
    · cases emptied
    · exact ⟨address, holder, before, hasIt⟩
  · have emptied := Slots.count_set isLive none DataFactory.holds
    simpa [holders, destruct] using emptied

/-- A statement needs the connection it is sent on. -/
theorem statement_effect
    {process after : Process}
    {this : Nat}
    {factory : DataFactory}
    (isLive : process.factories.live this = some factory)
    (returned : process.statement factory = .ok after) :
    Effect process (.statement this) after := by
  unfold statement at returned
  split at returned
  · cases returned
  · rename_i connection hasIt
    split at returned
    · rename_i gone
      cases returned
      exact .misused connection ⟨this, factory, isLive, hasIt⟩ gone rfl
    · cases returned
      exact .kept rfl (fun _ held => held) rfl

/-- Every operation has one of the effects. -/
theorem step_effect
    {process after : Process}
    {operation : Operation}
    (stepped : process.step operation = some after) :
    Effect process operation after := by
  cases operation with
  | setDefaultConnectionParams params =>
      cases stepped
      exact .kept rfl (fun _ held => held) rfl
  | clearDefaultConnectionParams =>
      cases stepped
      exact .kept rfl (fun _ held => held) rfl
  | construct tableName opening =>
      cases stepped
      exact effect_orUnchanged fun after => construct_effect
  | connect this params opening =>
      obtain ⟨factory, isLive, returned⟩ := Option.bind_eq_some_iff.mp stepped
      cases returned
      exact effect_orUnchanged fun after => connect_effect isLive
  | moveConstruct other left =>
      obtain ⟨moved, isLive, returned⟩ := Option.bind_eq_some_iff.mp stepped
      cases returned
      exact moveConstruct_effect isLive left
  | moveAssign this other left =>
      obtain ⟨factory, isLive, rest⟩ := Option.bind_eq_some_iff.mp stepped
      obtain ⟨moved, otherLive, returned⟩ := Option.bind_eq_some_iff.mp rest
      cases returned
      exact moveAssign_effect isLive otherLive left
  | destruct this =>
      obtain ⟨factory, isLive, returned⟩ := Option.bind_eq_some_iff.mp stepped
      cases returned
      exact destruct_effect isLive
  | statement this =>
      obtain ⟨factory, isLive, returned⟩ := Option.bind_eq_some_iff.mp stepped
      cases returned
      exact effect_orUnchanged fun after => statement_effect isLive
  | disconnect =>
      cases stepped
      exact .disconnected rfl rfl

end Process
end ModernCommon
